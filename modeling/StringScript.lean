import StringScript.Main
import StringScript.Expr.Printer
import StringScript.Proofs.ArrayText
import StringScript.Proofs.Frame
import StringScript.Proofs.Limit
import StringScript.Proofs.LoopVariable
import StringScript.Proofs.Grammar.Expression
import StringScript.Proofs.Scope
import StringScript.Proofs.Grammar.Line
import StringScript.Proofs.Grammar.Outline
import StringScript.Proofs.Grammar.Program
import StringScript.Proofs.Grammar.Concatenation
import StringScript.Proofs.Grammar.Fault
import StringScript.Proofs.Influence
import StringScript.Proofs.Commutation
import StringScript.Proofs.ArrayHeader
import StringScript.Proofs.CaseMapping
import StringScript.Proofs.Intact
import StringScript.Proofs.Grammar.Literals
import StringScript.Proofs.Operations
import StringScript.Proofs.Submissions
import StringScript.Proofs.Requests
import StringScript.Proofs.StoredNames
import StringScript.Proofs.Delivery
import StringScript.Proofs.TypedPrograms
import StringScript.Proofs.Unrolling
import StringScript.Proofs.Rounds
import StringScript.Proofs.EvaluationOrder
import StringScript.Proofs.Grammar.Rendering
import StringScript.Proofs.Grammar.TokenFault
import StringScript.Proofs.Rotations
import StringScript.Proofs.CallFailures
import StringScript.Proofs.Comparisons
import StringScript.Proofs.Bundles
import StringScript.Proofs.Operands
import StringScript.Proofs.SettingLines
