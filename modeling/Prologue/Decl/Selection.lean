import Prologue.Decl.Basic

/-!
# Members of one kind

`MemberKind α` says how a value of type `α` is a member, and `TypeDecl.membersOf α` lists the
members of that kind in the order of their declaration. `TypeDecl.getField?` finds a field by name:
where a name is declared twice, the first field has it.
-/

namespace Prologue

/-- The types whose values are members of one kind. -/
class MemberKind (α : Type) where
  /-- The value as a member. -/
  toMember : α → Member
  /-- The value that the member is, if it is of this kind. -/
  ofMember? : Member → Option α
  /-- A member is of this kind exactly if it is some value as a member. -/
  ofMember?_eq_some_iff {m : Member} {a : α} : ofMember? m = some a ↔ m = toMember a

namespace MemberKind

instance : MemberKind Field where
  toMember := .field
  ofMember?
    | .field f => some f
    | _ => none
  ofMember?_eq_some_iff {m _} := by cases m <;> simp

instance : MemberKind Property where
  toMember := .property
  ofMember?
    | .property p => some p
    | _ => none
  ofMember?_eq_some_iff {m _} := by cases m <;> simp

instance : MemberKind Constructor where
  toMember := .constructor
  ofMember?
    | .constructor c => some c
    | _ => none
  ofMember?_eq_some_iff {m _} := by cases m <;> simp

instance : MemberKind Method where
  toMember := .method
  ofMember?
    | .method m => some m
    | _ => none
  ofMember?_eq_some_iff {m _} := by cases m <;> simp

end MemberKind

namespace TypeDecl

/-- The members of one kind, in declaration order. -/
def membersOf (α : Type) [MemberKind α] (d : TypeDecl) : List α :=
  d.members.filterMap MemberKind.ofMember?

/-- The fields, in declaration order. -/
def fields (d : TypeDecl) : List Field := d.membersOf Field

/-- The properties, in declaration order. -/
def properties (d : TypeDecl) : List Property := d.membersOf Property

/-- The constructors, in declaration order. -/
def constructors (d : TypeDecl) : List Constructor := d.membersOf Constructor

/-- The methods, in declaration order. -/
def methods (d : TypeDecl) : List Method := d.membersOf Method

/-- The first field of the name. -/
def getField? (d : TypeDecl) (name : String) : Option Field :=
  d.fields.find? (·.name == name)

theorem mem_membersOf {α : Type} [MemberKind α] {d : TypeDecl} {a : α} :
    a ∈ d.membersOf α ↔ MemberKind.toMember a ∈ d.members := by
  simp [membersOf, MemberKind.ofMember?_eq_some_iff]

theorem name_of_getField? {d : TypeDecl} {name : String} {f : Field}
    (h : d.getField? name = some f) : f.name = name := by
  simpa using List.find?_some h

theorem mem_fields_of_getField? {d : TypeDecl} {name : String} {f : Field}
    (h : d.getField? name = some f) : f ∈ d.fields :=
  List.mem_of_find?_eq_some h

theorem getField?_eq_none_iff {d : TypeDecl} {name : String} :
    d.getField? name = none ↔ ∀ f ∈ d.fields, f.name ≠ name := by
  simp [getField?]

end TypeDecl

end Prologue
