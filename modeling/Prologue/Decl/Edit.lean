import Prologue.Decl.Selection

/-!
# Edits of a declaration

An edit that names a member names it by kind and number: `modifyNth` counts the members of the kind
only, from zero, and leaves every other member as it is. Statements, parameters and members are
added at the end.
-/

namespace Prologue

namespace Property

/-- Adds a statement at the end of the getter. -/
def addGetter (s : Stmt) (p : Property) : Property := { p with getter := p.getter ++ [s] }

/-- Adds a statement at the end of the setter. -/
def addSetter (s : Stmt) (p : Property) : Property := { p with setter := p.setter ++ [s] }

end Property

namespace Constructor

/-- Adds a parameter after the others. -/
def addParameter (p : Parameter) (c : Constructor) : Constructor :=
  { c with parameters := c.parameters ++ [p] }

/-- Adds a statement at the end of the body. -/
def addStmt (s : Stmt) (c : Constructor) : Constructor := { c with body := c.body ++ [s] }

end Constructor

/-- Adds a statement at the end of the body. -/
def Method.addStmt (s : Stmt) (m : Method) : Method := { m with body := m.body ++ [s] }

namespace TypeDecl

/-- Adds a member after the others. -/
def addMember (m : Member) (d : TypeDecl) : TypeDecl := { d with members := d.members ++ [m] }

/-- Changes the member of number `n` of its kind, if there is one. -/
def modifyNth {α : Type} [MemberKind α] (n : Nat) (f : α → α) (d : TypeDecl) : TypeDecl :=
  { d with members := go n d.members }
where
  /-- Changes the member of number `n` among the members of the list. -/
  go : Nat → List Member → List Member
    | _, [] => []
    | n, m :: ms =>
      match MemberKind.ofMember? m, n with
      | some a, 0 => MemberKind.toMember (f a) :: ms
      | some _, n + 1 => m :: go n ms
      | none, n => m :: go n ms

theorem filterMap_modifyNth_go {α : Type} [MemberKind α] (n : Nat) (f : α → α)
    (ms : List Member) :
    (modifyNth.go f n ms).filterMap MemberKind.ofMember? =
      (ms.filterMap (MemberKind.ofMember? (α := α))).modify n f := by
  induction ms generalizing n with
  | nil => simp [modifyNth.go]
  | cons m ms ih =>
    have back (a : α) : MemberKind.ofMember? (MemberKind.toMember a) = some a :=
      MemberKind.ofMember?_eq_some_iff.2 rfl
    cases h : MemberKind.ofMember? (α := α) m with
    | none => simp [modifyNth.go, h, ih]
    | some a =>
      cases n with
      | zero => simp [modifyNth.go, h, back]
      | succ n => simp [modifyNth.go, h, ih]

/-- The edit changes one item of the list of members of the kind. -/
theorem membersOf_modifyNth {α : Type} [MemberKind α] (n : Nat) (f : α → α) (d : TypeDecl) :
    (d.modifyNth n f).membersOf α = (d.membersOf α).modify n f :=
  filterMap_modifyNth_go n f d.members

end TypeDecl

end Prologue
