import Prologue.Decl.Basic

/-!
# Failures

A `Defect` is what is wrong with a declaration, a `LookupError` what is wrong with a question about
one, and a `Failure` is why a declaration was not completed. Each has one wording, `message`.
-/

namespace Prologue

/-- What is wrong with a declaration. -/
inductive Defect where
  /-- Something of this label has the empty name. -/
  | emptyName (label typeName : String)
  /-- Two members of this label have the same name. -/
  | duplicate (label name typeName : String)
  /-- A type declared with the keyword cannot have a member of this label. -/
  | unsupported (label keyword typeName : String)
deriving DecidableEq, Repr

/-- What is wrong with a question about a declaration. -/
inductive LookupError where
  /-- The question is about a field without a name. -/
  | emptyFieldName
deriving DecidableEq, Repr

/-- Why a plan is refused. -/
inductive Refusal where
  /-- The plan was made for a type of another name. -/
  | foreignPlan (planned actual : String)
  /-- The type has no constructor body to take the assignments of the plan. -/
  | noConstructorBody (kind : TypeKind) (typeName : String)
  /-- A reason in the caller's own words. -/
  | other (reason : String)
deriving DecidableEq, Repr

/-- Why a declaration was not completed. -/
inductive Failure where
  | malformed (defect : Defect)
  | lookup (error : LookupError)
  /-- The property returns a field that the type does not declare. -/
  | undeclaredField (typeName property field : String)
  | refused (refusal : Refusal)
deriving DecidableEq, Repr

/-- The wording of a defect. -/
def Defect.message : Defect → String
  | emptyName label typeName => s!"{label} declared in '{typeName}' has an empty name"
  | duplicate label name typeName => s!"duplicate {label} '{name}' in type '{typeName}'"
  | unsupported label keyword typeName => s!"{keyword} '{typeName}' cannot declare a {label}"

/-- The wording of a lookup error. -/
def LookupError.message : LookupError → String
  | emptyFieldName => "field name must not be empty"

/-- The wording of a refusal. -/
def Refusal.message : Refusal → String
  | foreignPlan planned actual => s!"plan for '{planned}' applied to '{actual}'"
  | noConstructorBody kind typeName =>
    s!"{kind.keyword} '{typeName}' cannot take constructor initializers"
  | other reason => reason

/-- The wording of a failure. -/
def Failure.message : Failure → String
  | malformed defect => s!"model error: {defect.message}"
  | lookup error => s!"query error: {error.message}"
  | undeclaredField typeName property field =>
    s!"property '{property}' returns undeclared field '{field}' in type '{typeName}'"
  | refused refusal => s!"generation error: {refusal.message}"

/-- The wording of the error that the failure passes on, if it passes one on. -/
def Failure.causeMessage? : Failure → Option String
  | malformed defect => some defect.message
  | lookup error => some error.message
  | undeclaredField .. | refused _ => none

end Prologue
