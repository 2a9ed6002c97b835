import Reckon.Text.Quoted
import Reckon.Formula.Reading
import Reckon.Formula.Validity
import Reckon.Formula.Value
import Reckon.Formula.Binding
import Reckon.Formula.Rendered
import Reckon.Workspace
import Reckon.Token.Label
import Reckon.Plain.Toolkit
import Reckon.Settings.Sources
import Reckon.Bindings.Sources
import Reckon.CommandLine.Dialogue
import Reckon.Main
import Reckon.Proofs.Splicing
import Reckon.Proofs.Row
import Reckon.Proofs.Grammar
import Reckon.Proofs.Meaning
import Reckon.Proofs.Agreement
import Reckon.Proofs.Session
import Reckon.Proofs.Soundness
import Reckon.Proofs.Solving
import Reckon.Proofs.Likeness
import Reckon.Proofs.Constants
import Reckon.Proofs.Balance
import Reckon.Proofs.Continuation
import Reckon.Proofs.Limit
import Reckon.Proofs.Substitution
import Reckon.Proofs.Segments
import Reckon.Proofs.Pasting
import Reckon.Proofs.Decimals
import Reckon.Proofs.Doubles
import Reckon.Proofs.Layout
import Reckon.Proofs.Rendering
import Reckon.Proofs.Worth
import Reckon.Proofs.Events
import Reckon.Proofs.Joints
import Reckon.Proofs.Requests
import Reckon.Proofs.Violations
import Reckon.Proofs.Calls
import Reckon.Proofs.Occurrences
import Reckon.Proofs.Pieces
import Reckon.Proofs.Shifting
import Reckon.Proofs.Concatenation
import Reckon.Proofs.Stepping
import Reckon.Proofs.Kinds
import Reckon.Proofs.Exceptions
import Reckon.Proofs.Loading
import Reckon.Proofs.Sections
import Reckon.Proofs.Letters
import Reckon.Proofs.Names
import Reckon.Proofs.Scripts
import Reckon.Proofs.Exact
import Reckon.Proofs.Outline
