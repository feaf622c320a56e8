import Prologue.Decl.Selection

/-!
# Backing fields

The backing field of a property is the field that its getter returns with its first statement. A
getter of any other shape has none, whatever its later statements do.
-/

namespace Prologue

/-- The name of the field that the getter returns with its first statement. -/
def Property.backingFieldName? (p : Property) : Option String :=
  p.getter.head?.bind Stmt.returnedField?

/-- The backing field of the property among the fields of the declaration. -/
def Property.backingField? (d : TypeDecl) (p : Property) : Option Field :=
  p.backingFieldName?.bind d.getField?

theorem Property.backingFieldName?_eq_some_iff {p : Property} {name : String} :
    p.backingFieldName? = some name ↔ ∃ rest, p.getter = .retField name :: rest := by
  cases h : p.getter with
  | nil => simp [Property.backingFieldName?, h]
  | cons s rest => simp [Property.backingFieldName?, h, Stmt.returnedField?_eq_some_iff]

@[simp] theorem Property.backingFieldName?_auto (name field : String) (typeName : TypeName) :
    (Property.auto name typeName field).backingFieldName? = some field := rfl

end Prologue
