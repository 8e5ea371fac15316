import PromptLine.Config.Change
import PromptLine.Lookback
import PromptLine.ParsedLine
import PromptLine.Proofs.Accounting
import PromptLine.Proofs.Alternation
import PromptLine.Proofs.Building
import PromptLine.Proofs.CaretChoice
import PromptLine.Proofs.CaretWalk
import PromptLine.Proofs.Completion
import PromptLine.Proofs.Configuring
import PromptLine.Proofs.Cutting
import PromptLine.Proofs.EmptyWords
import PromptLine.Proofs.Enclosing
import PromptLine.Proofs.Exposure
import PromptLine.Proofs.Joining
import PromptLine.Proofs.LookbackSplit
import PromptLine.Proofs.Quoting
import PromptLine.Proofs.Refinement
import PromptLine.Proofs.Renaming
import PromptLine.Proofs.Reporting
import PromptLine.Proofs.Resumption
import PromptLine.Proofs.Segmentation
import PromptLine.Proofs.Spacing
import PromptLine.Proofs.Stripping
import PromptLine.Proofs.Typing
