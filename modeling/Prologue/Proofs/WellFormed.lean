import Mathlib.Data.List.Nodup
import Prologue.Decl.Defects

/-!
# Well-formed declarations

`TypeDecl.WellFormed` lists what a declaration without a defect has, rule by rule, and
`TypeDecl.defect?_eq_none_iff` says that nothing else is asked of one. In a well-formed declaration
the name of a field decides the field.
-/

namespace Prologue

/-- What a declaration without a defect has. -/
structure TypeDecl.WellFormed (d : TypeDecl) : Prop where
  named : d.name ≠ ""
  allowed : ∀ m ∈ d.members, d.kind.allows m = true
  membersNamed : ∀ m ∈ d.members, m.name? ≠ some ""
  fieldsDistinct : (d.fields.map (·.name)).Nodup
  propertiesDistinct : (d.properties.map (·.name)).Nodup

namespace TypeDecl

variable {d : TypeDecl}

theorem anonymous?_eq_none_iff : d.anonymous? = none ↔ d.name ≠ "" := by
  simp [anonymous?]

theorem unsupported?_eq_none_iff :
    d.unsupported? = none ↔ ∀ m ∈ d.members, d.kind.allows m = true := by
  simp [unsupported?]

theorem unnamed?_eq_none_iff : d.unnamed? = none ↔ ∀ m ∈ d.members, m.name? ≠ some "" := by
  simp [unnamed?]

theorem repeatedField?_eq_none_iff :
    d.repeatedField? = none ↔ (d.fields.map (·.name)).Nodup := by
  rw [repeatedField?, Option.map_eq_none_iff, firstRepeat?_eq_none_iff]

theorem repeatedProperty?_eq_none_iff :
    d.repeatedProperty? = none ↔ (d.properties.map (·.name)).Nodup := by
  rw [repeatedProperty?, Option.map_eq_none_iff, firstRepeat?_eq_none_iff]

theorem defect?_eq_none_iff : d.defect? = none ↔ d.WellFormed := by
  simp only [defect?, Option.orElse_eq_orElse, Option.orElse_eq_or, Option.or_eq_none_iff,
    anonymous?_eq_none_iff, unsupported?_eq_none_iff, unnamed?_eq_none_iff,
    repeatedField?_eq_none_iff, repeatedProperty?_eq_none_iff]
  exact ⟨fun ⟨named, allowed, members, fields, properties⟩ =>
      ⟨named, allowed, members, fields, properties⟩,
    fun fine => ⟨fine.named, fine.allowed, fine.membersNamed, fine.fieldsDistinct,
      fine.propertiesDistinct⟩⟩

theorem WellFormed.field_ne_empty (fine : d.WellFormed) {f : Field} (declared : f ∈ d.fields) :
    f.name ≠ "" := by
  intro unnamed
  exact fine.membersNamed (.field f) (mem_membersOf.1 declared) (congrArg some unnamed)

theorem WellFormed.eq_of_name_eq (fine : d.WellFormed) {f g : Field} (first : f ∈ d.fields)
    (second : g ∈ d.fields) (same : f.name = g.name) : f = g :=
  List.inj_on_of_nodup_map fine.fieldsDistinct first second same

/-- Where no two fields have one name, every field is found by its name. -/
theorem getField?_of_nodup (distinct : (d.fields.map (·.name)).Nodup) {f : Field}
    (declared : f ∈ d.fields) : d.getField? f.name = some f := by
  cases found : d.getField? f.name with
  | none => exact absurd rfl (getField?_eq_none_iff.1 found f declared)
  | some g =>
      rw [List.inj_on_of_nodup_map distinct (mem_fields_of_getField? found) declared
        (name_of_getField? found)]

theorem WellFormed.getField?_eq (fine : d.WellFormed) {f : Field} (declared : f ∈ d.fields) :
    d.getField? f.name = some f :=
  getField?_of_nodup fine.fieldsDistinct declared

end TypeDecl

end Prologue
