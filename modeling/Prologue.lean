import Prologue.Text.Blank
import Prologue.Text.Uppercase
import Prologue.Text.Rows
import Prologue.Text.Quoted
import Prologue.Code.Expr
import Prologue.Code.Stmt
import Prologue.Code.Written
import Prologue.Decl.Basic
import Prologue.Decl.Selection
import Prologue.Decl.Cursor
import Prologue.Decl.Backing
import Prologue.Decl.Edit
import Prologue.Decl.Pool
import Prologue.Event
import Prologue.Settings
import Prologue.Decl.Defects
import Prologue.Decl.Initialization
import Prologue.Completion
import Prologue.Proofs.Composition
import Prologue.Proofs.Planning
import Prologue.Proofs.Agreement
import Prologue.Proofs.WellFormed
import Prologue.Proofs.Atomicity
import Prologue.Proofs.Coverage
import Prologue.Proofs.TypeNames
import Prologue.Proofs.ScalarInits
import Prologue.Proofs.Verdict
import Prologue.Proofs.ExactMerge
import Prologue.Proofs.ExactPlan
import Prologue.Proofs.Outline
import Prologue.Proofs.MergeFailure
import Prologue.Proofs.Idempotence
import Prologue.Proofs.AddedLines
import Prologue.Proofs.Batch
import Prologue.Proofs.Deques
import Prologue.Proofs.SmallerPlans
import Prologue.Proofs.FirstDefect
import Prologue.Proofs.Quoting
import Prologue.Proofs.Tokens
import Prologue.Proofs.Unambiguity
import Prologue.Proofs.Parts
import Prologue.Proofs.SingleLines
import Prologue.Proofs.Indentation
import Prologue.Proofs.VerbatimText
import Prologue.Proofs.IndentUnits
import Prologue.Proofs.MemberBlocks
import Prologue.Proofs.Signatures
import Prologue.Proofs.Braces
import Prologue.Proofs.Nesting
import Prologue.Proofs.ConstructionPaths
import Prologue.Proofs.Namespaces
import Prologue.Proofs.References
import Prologue.Proofs.ToldEvents
