import Prologue.Code.Expr

/-!
# Statements

As with expressions, only the shapes that can be asked about are modelled, and any other statement
is carried as its source text.
-/

namespace Prologue

/-- A statement of a constructor, method or accessor body. -/
inductive Stmt where
  /-- Leaves the body, with a value if there is one. -/
  | ret (value : Option Expr)
  | assign (target value : Expr)
  /-- Evaluates the expression for its effect. -/
  | eval (value : Expr)
  /-- Any other statement, as source text. -/
  | verbatim (text : String)
deriving DecidableEq, Repr, Inhabited

namespace Stmt

/-- Returns a field. -/
def retField (name : String) : Stmt := .ret (some (.field name))

/-- Assigns a value to a field. -/
def assignField (name : String) (value : Expr) : Stmt := .assign (.field name) value

/-- The name of the field the statement returns, if it returns one. -/
def returnedField? : Stmt → Option String
  | ret (some e) => e.fieldName?
  | _ => none

/-- The name of the field the statement assigns, if it assigns one. -/
def assignedField? : Stmt → Option String
  | assign target _ => target.fieldName?
  | _ => none

theorem returnedField?_eq_some_iff {s : Stmt} {name : String} :
    s.returnedField? = some name ↔ s = retField name := by
  unfold returnedField? retField
  split <;> simp_all

@[simp] theorem assignedField?_assignField (name : String) (value : Expr) :
    (assignField name value).assignedField? = some name := rfl

theorem assignedField?_eq_some_iff {s : Stmt} {name : String} :
    s.assignedField? = some name ↔ ∃ value, s = assignField name value := by
  cases s <;> simp [assignedField?, assignField]

end Stmt

end Prologue
