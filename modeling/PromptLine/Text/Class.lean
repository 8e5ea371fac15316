/-
Classes of characters, told by tables of code points.

* `CodeRanges`, `CodeRanges.contains`: a table as a list of closed ranges in
  ascending order, and whether a character lies in one of them.
* `isBlank`: the twenty-five characters with the Unicode property
  `White_Space`.
* `isIgnorable`: the characters with the Unicode property
  `Default_Ignorable_Code_Point`, which a display may leave out altogether.
  Most are formats, marks or unassigned; four are letters, the fillers that
  stand for a missing part of a Hangul syllable.
-/

namespace PromptLine

/-- The closed ranges `(first, last)` of code points that make up a class. -/
abbrev CodeRanges := List (Nat × Nat)

/-- The code point of `c` lies in one of the ranges. -/
def CodeRanges.contains (ranges : CodeRanges) (c : Char) : Bool :=
  ranges.any fun range => range.1 ≤ c.toNat && c.toNat ≤ range.2

/-- The code points with the property `White_Space`. -/
def blankRanges : CodeRanges :=
  [(0x09, 0x0d), (0x20, 0x20), (0x85, 0x85), (0xa0, 0xa0), (0x1680, 0x1680),
   (0x2000, 0x200a), (0x2028, 0x2029), (0x202f, 0x202f), (0x205f, 0x205f),
   (0x3000, 0x3000)]

/-- A blank character: a space, a tab, a line break or one of their kin. -/
def isBlank (c : Char) : Bool := blankRanges.contains c

/-- The code points of Unicode 17.0 with the property
`Default_Ignorable_Code_Point`. -/
def ignorableRanges : CodeRanges :=
  [(0xad, 0xad), (0x34f, 0x34f), (0x61c, 0x61c), (0x115f, 0x1160),
   (0x17b4, 0x17b5), (0x180b, 0x180f), (0x200b, 0x200f), (0x202a, 0x202e),
   (0x2060, 0x206f), (0x3164, 0x3164), (0xfe00, 0xfe0f), (0xfeff, 0xfeff),
   (0xffa0, 0xffa0), (0xfff0, 0xfff8), (0x1bca0, 0x1bca3), (0x1d173, 0x1d17a),
   (0xe0000, 0xe0fff)]

/-- An ignorable character: a filler, a joiner, a selector or another character
that a display may leave out. -/
def isIgnorable (c : Char) : Bool := ignorableRanges.contains c

end PromptLine
