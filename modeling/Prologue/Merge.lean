import Prologue.Plan

/-!
# Merging a plan

The assignments of a plan go in front of the body of every constructor, in the order of the plan. A
constructor that assigns a field already is not given another assignment of it. A class without a
constructor is first given one, without parameters, directly after its last field.
-/

namespace Prologue

/-- The assignments that the body lacks, in order. -/
def Constructor.prologue (c : Constructor) : List FieldInit → Except LookupError (List Stmt)
  | [] => return []
  | i :: inits => do
    let assigned ← c.assignsField i.field
    let rest ← c.prologue inits
    return if assigned then rest else i.toStmt :: rest

/-- The constructor with statements in front of its body. -/
def Constructor.precededBy (statements : List Stmt) (c : Constructor) : Constructor :=
  { c with body := statements ++ c.body }

/-- Puts the assignments that a constructor lacks in front of its body, and counts them. Any other
member stays as it is. -/
def Member.merge (inits : List FieldInit) : Member → Except LookupError (Member × Nat)
  | .constructor c => do
    let prologue ← c.prologue inits
    return (.constructor (c.precededBy prologue), prologue.length)
  | m => return (m, 0)

/-- Merges the members one after the other, and counts the assignments put in. At a failure the
members from there on are left as they are, and those before are merged already. -/
def mergeMembers (inits : List FieldInit) : List Member → Outcome (List Member) Nat
  | [] => ⟨.ok 0, [], []⟩
  | m :: ms =>
    match m.merge inits with
    | .error e => ⟨.error (.lookup e), m :: ms, []⟩
    | .ok (m, here) =>
      let others := mergeMembers inits ms
      ⟨others.answer.map (here + ·), m :: others.after, []⟩

/-- Puts a member directly after the last field, or in front of all members if no field is there. -/
def insertAfterLastField (m : Member) (ms : List Member) : List Member :=
  (ms.reverse.dropWhile (!·.isField)).reverse ++ m :: (ms.reverse.takeWhile (!·.isField)).reverse

namespace TypeDecl

/-- Whether the type is a class that declares no constructor. -/
def lacksConstructor (d : TypeDecl) : Bool := d.kind == .classType && d.constructors.isEmpty

/-- The declaration with a constructor, if it is that of a class. -/
def ensureConstructor (d : TypeDecl) : TypeDecl :=
  if d.lacksConstructor then { d with members := insertAfterLastField (.constructor {}) d.members }
  else d

end TypeDecl

/-- Carries the plan out on the declaration and answers the number of assignments put in. A plan for
a type of another name is refused even if it asks for nothing. -/
def Plan.mergeInto (p : Plan) (d : TypeDecl) : Outcome TypeDecl Nat :=
  if p.typeName ≠ d.name then
    ⟨.error (.refused (.foreignPlan p.typeName d.name)), d, []⟩
  else if p.isEmpty then
    ⟨.ok 0, d, []⟩
  else if !d.takesInitializers then
    ⟨.error (.refused (.noConstructorBody d.kind d.name)), d, []⟩
  else
    let ready := d.ensureConstructor
    let log := if d.lacksConstructor then [.synthesizedConstructor d.name] else []
    let merged := mergeMembers p.inits ready.members
    let after := { ready with members := merged.after }
    match merged.answer with
    | .error e => ⟨.error e, after, log⟩
    | .ok count => ⟨.ok count, after, log ++ [.inserted d.name count]⟩

end Prologue
