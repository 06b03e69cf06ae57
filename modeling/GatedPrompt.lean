import GatedPrompt.Main
import GatedPrompt.Prompt.Run
import GatedPrompt.Proofs.Choice.WrittenRules
import GatedPrompt.Proofs.Lint.Agreement
import GatedPrompt.Proofs.Prompt.Commit
import GatedPrompt.Proofs.Prompt.Policies
import GatedPrompt.Proofs.Prompt.ViewAnswers
import GatedPrompt.Proofs.Prompt.Rows
import GatedPrompt.Proofs.Prompt.Closing
import GatedPrompt.Proofs.Prompt.Concatenation
import GatedPrompt.Proofs.Prompt.Endurance
import GatedPrompt.Proofs.Prompt.Dependence
import GatedPrompt.Proofs.Prompt.Highlight
import GatedPrompt.Proofs.Prompt.Labels
import GatedPrompt.Proofs.Rule.Conjunction
import GatedPrompt.Proofs.Console.Loading
import GatedPrompt.Proofs.Definitions.Snapshots
import GatedPrompt.Proofs.Definitions.Substitutions
import GatedPrompt.Proofs.Rule.Negation
import GatedPrompt.Proofs.Definitions.Tolerance
import GatedPrompt.Proofs.Console.Remarks
import GatedPrompt.Proofs.Console.Dialogue
import GatedPrompt.Proofs.Prompt.Reordering
import GatedPrompt.Proofs.Rule.Diagnosis
import GatedPrompt.Proofs.Rule.Lossless
import GatedPrompt.Proofs.Lint.Strays
