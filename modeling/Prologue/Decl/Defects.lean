import Prologue.Decl.Selection
import Prologue.Failure

/-!
# Defects of a declaration

`TypeDecl.defect?` finds the first defect of a declaration, if it has one. The rules are gone
through in a fixed order, each over the whole declaration: the type has a name, its kind can have
its members, the members have names, no two fields have the same name, and no two properties do.
-/

namespace Prologue

/-- Whether a type of the kind can have the member. An interface has no state to hold or construct,
and the values of an enumeration are verbatim members. -/
def TypeKind.allows : TypeKind → Member → Bool
  | .classType, _ => true
  | .structType, _ => true
  | .interfaceType, m => !m.isField && !m.isConstructor
  | .enumType, .verbatim _ => true
  | .enumType, _ => false

/-- The first name that occurs earlier in the list as well. -/
def firstRepeat? (names : List String) : Option String :=
  go [] names
where
  /-- The first name that occurs among the names seen or earlier in the list. -/
  go (seen : List String) : List String → Option String
    | [] => none
    | n :: ns => if n ∈ seen then some n else go (n :: seen) ns

namespace TypeDecl

/-- The defect of a type without a name. -/
def anonymous? (d : TypeDecl) : Option Defect :=
  if d.name = "" then some (.emptyName "type" "<anonymous>") else none

/-- The first member that a type of the kind cannot have. -/
def unsupported? (d : TypeDecl) : Option Defect :=
  (d.members.find? (!d.kind.allows ·)).map (.unsupported ·.label d.kind.keyword d.name)

/-- The first member with the empty name. -/
def unnamed? (d : TypeDecl) : Option Defect :=
  (d.members.find? (·.name? == some "")).map (.emptyName ·.label d.name)

/-- The first field whose name an earlier field has. -/
def repeatedField? (d : TypeDecl) : Option Defect :=
  (firstRepeat? (d.fields.map (·.name))).map (.duplicate "field" · d.name)

/-- The first property whose name an earlier property has. -/
def repeatedProperty? (d : TypeDecl) : Option Defect :=
  (firstRepeat? (d.properties.map (·.name))).map (.duplicate "property" · d.name)

/-- The first defect of the declaration. -/
def defect? (d : TypeDecl) : Option Defect :=
  d.anonymous? <|> d.unsupported? <|> d.unnamed? <|> d.repeatedField? <|> d.repeatedProperty?

end TypeDecl

/-- A name is found exactly if the names are not all different. -/
theorem firstRepeat?_eq_none_iff {names : List String} :
    firstRepeat? names = none ↔ names.Nodup := by
  suffices h : ∀ seen, firstRepeat?.go seen names = none ↔
      names.Nodup ∧ ∀ n ∈ names, n ∉ seen by
    simp [firstRepeat?, h []]
  intro seen
  induction names generalizing seen with
  | nil => simp [firstRepeat?.go]
  | cons n ns ih =>
    by_cases mem : n ∈ seen
    · simp [firstRepeat?.go, mem]
    · simp only [firstRepeat?.go, mem, if_false, ih, List.nodup_cons, List.forall_mem_cons,
        not_false_eq_true, true_and]
      simp only [List.mem_cons, not_or]
      constructor
      · rintro ⟨nodup, fresh⟩
        exact ⟨⟨fun repeated => (fresh n repeated).1 rfl, nodup⟩, fun m hm => (fresh m hm).2⟩
      · rintro ⟨⟨first, nodup⟩, fresh⟩
        exact ⟨nodup, fun m hm => ⟨fun same => first (same ▸ hm), fresh m hm⟩⟩

end Prologue
