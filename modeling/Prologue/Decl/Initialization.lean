import Prologue.Decl.Backing
import Prologue.Failure

/-!
# Initialized fields

A field is initialized if it has a value on every construction path: its declaration has an inline
initializer, or there is a constructor and every constructor assigns it. Only assignments at the top
level of a body count. A question about the empty name is an error and not a plain no.
-/

namespace Prologue

namespace Constructor

/-- Whether a statement of the body assigns the field. -/
def assigns (c : Constructor) (field : String) : Bool :=
  c.body.any (·.assignedField? == some field)

/-- Whether a statement of the body assigns the field, if it is a field with a name. -/
def assignsField (c : Constructor) (field : String) : Except LookupError Bool :=
  if field = "" then .error .emptyFieldName else .ok (c.assigns field)

theorem assigns_iff {c : Constructor} {field : String} :
    c.assigns field = true ↔ ∃ value, Stmt.assignField field value ∈ c.body := by
  simp only [assigns, List.any_eq_true, beq_iff_eq, Stmt.assignedField?_eq_some_iff]
  constructor
  · rintro ⟨s, mem, value, rfl⟩
    exact ⟨value, mem⟩
  · rintro ⟨value, mem⟩
    exact ⟨_, mem, value, rfl⟩

end Constructor

/-- Whether all constructors of the list assign the field, if it is a field with a name. The first
one that does not assign it ends the walk. -/
def allAssignField (field : String) : List Constructor → Except LookupError Bool
  | [] => return true
  | c :: cs => do
    if ← c.assignsField field then allAssignField field cs else return false

theorem allAssignField_eq {field : String} (named : field ≠ "") (cs : List Constructor) :
    allAssignField field cs = .ok (cs.all (·.assigns field)) := by
  induction cs with
  | nil => rfl
  | cons c cs ih =>
      have first : c.assignsField field = .ok (c.assigns field) := if_neg named
      rw [allAssignField, first, List.all_cons, ih]
      cases c.assigns field <;> rfl

namespace TypeDecl

/-- Whether the field has an inline initializer where it is first declared. -/
def hasInitializer (d : TypeDecl) (field : String) : Bool :=
  (d.getField? field).any (·.initializer.isSome)

/-- Whether the field has a value on every construction path, if it is a field with a name. The
constructors are asked only if there is no inline initializer. -/
def isFieldInitialized (d : TypeDecl) (field : String) : Except LookupError Bool :=
  if field = "" then .error .emptyFieldName
  else if d.hasInitializer field then .ok true
  else if d.constructors.isEmpty then .ok false
  else allAssignField field d.constructors

/-- Whether there is a constructor and every constructor assigns the field. -/
def constructorsAssign (d : TypeDecl) (field : String) : Bool :=
  !d.constructors.isEmpty && d.constructors.all (·.assigns field)

variable {d e : TypeDecl} {field : String}

@[simp] theorem isFieldInitialized_empty (d : TypeDecl) :
    d.isFieldInitialized "" = .error .emptyFieldName := rfl

theorem isFieldInitialized_of_ne (named : field ≠ "") :
    d.isFieldInitialized field = .ok (d.hasInitializer field || d.constructorsAssign field) := by
  rw [isFieldInitialized, if_neg named, allAssignField_eq named, constructorsAssign]
  cases d.hasInitializer field with
  | true => rfl
  | false => cases d.constructors <;> rfl

/-- Declarations that agree on both ways of giving a field a value answer alike. -/
theorem isFieldInitialized_congr (inline : e.hasInitializer field = d.hasInitializer field)
    (assigned : e.constructorsAssign field = d.constructorsAssign field) :
    e.isFieldInitialized field = d.isFieldInitialized field := by
  by_cases named : field = ""
  · rw [named, isFieldInitialized_empty, isFieldInitialized_empty]
  · rw [isFieldInitialized_of_ne named, isFieldInitialized_of_ne named, inline, assigned]

end TypeDecl

end Prologue
