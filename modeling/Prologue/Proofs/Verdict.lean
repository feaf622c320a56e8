import Prologue.Proofs.Atomicity

/-!
# Merging and defects

A merge changes the bodies of constructors and may add a constructor to a class, the latter also
when it fails. No rule for declarations looks at a body, and every rule allows a class one more
constructor. So a merge leaves the defect of a declaration as it was.

* `TypeDecl.defect?_after_merge` is this for one merge, with any plan and any end.
* `TypeDecl.verdict_stable` says that no sequence of merges and completions changes the defect.
-/

namespace Prologue

variable {f : Constructor → Constructor}

/-! ## One member -/

@[simp] theorem Member.label_mapConstructor (m : Member) :
    (m.mapConstructor f).label = m.label := by
  cases m <;> rfl

@[simp] theorem Member.name?_mapConstructor (m : Member) :
    (m.mapConstructor f).name? = m.name? := by
  cases m <;> rfl

@[simp] theorem TypeKind.allows_mapConstructor (kind : TypeKind) (m : Member) :
    kind.allows (m.mapConstructor f) = kind.allows m := by
  cases kind <;> cases m <;> rfl

namespace TypeDecl

variable {d : TypeDecl}

/-- The rules look at the name, the fields and the properties, and through two searches at the
members. -/
theorem defect?_congr {e : TypeDecl} (name : e.name = d.name)
    (unsupported : e.unsupported? = d.unsupported?) (unnamed : e.unnamed? = d.unnamed?)
    (fields : e.fields = d.fields) (properties : e.properties = d.properties) :
    e.defect? = d.defect? := by
  have anonymous : e.anonymous? = d.anonymous? := by rw [anonymous?, name, anonymous?]
  have repeatedField : e.repeatedField? = d.repeatedField? := by
    rw [repeatedField?, name, fields, repeatedField?]
  have repeatedProperty : e.repeatedProperty? = d.repeatedProperty? := by
    rw [repeatedProperty?, name, properties, repeatedProperty?]
  rw [defect?, anonymous, unsupported, unnamed, repeatedField, repeatedProperty, defect?]

/-! ## Other bodies -/

theorem unsupported?_mapConstructors : (d.mapConstructors f).unsupported? = d.unsupported? := by
  simp only [unsupported?, mapConstructors, List.find?_map, Option.map_map, Function.comp_def,
    TypeKind.allows_mapConstructor, Member.label_mapConstructor]

theorem unnamed?_mapConstructors : (d.mapConstructors f).unnamed? = d.unnamed? := by
  simp only [unnamed?, mapConstructors, List.find?_map, Option.map_map, Function.comp_def,
    Member.name?_mapConstructor, Member.label_mapConstructor]

@[simp] theorem defect?_mapConstructors : (d.mapConstructors f).defect? = d.defect? :=
  defect?_congr name_mapConstructors unsupported?_mapConstructors unnamed?_mapConstructors
    fields_mapConstructors properties_mapConstructors

/-! ## One more constructor -/

theorem unsupported?_of_classType (kind : d.kind = .classType) : d.unsupported? = none := by
  rw [unsupported?_eq_none_iff, kind]
  exact fun _ _ => rfl

theorem unsupported?_ensureConstructor : d.ensureConstructor.unsupported? = d.unsupported? := by
  cases lacks : d.lacksConstructor with
  | true =>
      have kind := (lacksConstructor_iff.1 lacks).1
      rw [unsupported?_of_classType kind,
        unsupported?_of_classType (kind_ensureConstructor.trans kind)]
  | false => rw [ensureConstructor_of_not_lacks lacks]

theorem unnamed?_ensureConstructor : d.ensureConstructor.unnamed? = d.unnamed? := by
  unfold ensureConstructor
  split
  · obtain ⟨before, after, whole, -, -, inserted⟩ := exists_afterLastField d.members
    have skipped : ((Member.constructor {}).name? == some "") = false := rfl
    simp only [unnamed?, inserted]
    rw [whole, List.find?_append, List.find?_append, List.find?_cons, skipped]
  · rfl

@[simp] theorem defect?_ensureConstructor : d.ensureConstructor.defect? = d.defect? :=
  defect?_congr name_ensureConstructor unsupported?_ensureConstructor unnamed?_ensureConstructor
    fields_ensureConstructor properties_ensureConstructor

/-- A merge leaves the defect of a declaration as it was. -/
@[simp] theorem defect?_merged {inits : List FieldInit} :
    (d.merged inits).defect? = d.defect? :=
  defect?_mapConstructors.trans defect?_ensureConstructor

/-! ## Any operation -/

/-- **One merge.** Whether or not the plan can be carried out, what is left has the defect that was
there before. -/
theorem defect?_after_merge (p : Plan) (d : TypeDecl) :
    (p.mergeInto d).after.defect? = d.defect? := by
  rcases p.mergeInto_cases d with
    ⟨-, -, after⟩ | ⟨-, -, -, after⟩ | ⟨-, -, -, -, after⟩ | ⟨-, -, -, -, -, after⟩
  · rw [after]
  · rw [after]
  · rw [after, defect?_ensureConstructor]
  · rw [after, defect?_merged]

theorem defect?_after_complete (s : Settings) (d : TypeDecl) :
    (d.complete s).after.defect? = d.defect? := by
  rcases complete_cases s d with
    ⟨-, -, -, after⟩ | ⟨-, -, -, -, after⟩ | ⟨p, -, -, -, after⟩
  · rw [after]
  · rw [after]
  · rw [after, defect?_after_merge]

end TypeDecl

/-- An operation that may change a declaration. -/
inductive Operation where
  /-- Carries out a plan, which need not be made for the declaration. -/
  | merge (p : Plan)
  /-- Completes the declaration. -/
  | complete (s : Settings)

namespace Operation

/-- What the operation makes of a declaration, also when it fails. -/
def after (d : TypeDecl) : Operation → TypeDecl
  | merge p => (p.mergeInto d).after
  | complete s => (d.complete s).after

/-- What the operations, one after the other, make of a declaration. None of them stops the others
by failing. -/
def afterAll (d : TypeDecl) (operations : List Operation) : TypeDecl :=
  operations.foldl after d

theorem defect?_after (o : Operation) (d : TypeDecl) : (o.after d).defect? = d.defect? := by
  cases o with
  | merge p => exact d.defect?_after_merge p
  | complete s => exact d.defect?_after_complete s

theorem defect?_afterAll (operations : List Operation) (d : TypeDecl) :
    (afterAll d operations).defect? = d.defect? := by
  induction operations generalizing d with
  | nil => rfl
  | cons o operations ih => exact (ih (o.after d)).trans (o.defect?_after d)

end Operation

/-- **The verdict is stable.** A merge with any plan leaves the defect of a declaration as it was,
whether it fails or not, and so does any sequence of merges and completions. -/
theorem TypeDecl.verdict_stable (d : TypeDecl) :
    (∀ p : Plan, (p.mergeInto d).after.defect? = d.defect?) ∧
      ∀ operations, (Operation.afterAll d operations).defect? = d.defect? :=
  ⟨fun p => defect?_after_merge p d, fun operations => Operation.defect?_afterAll operations d⟩

end Prologue
