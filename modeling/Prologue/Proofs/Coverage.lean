import Prologue.Proofs.Atomicity

/-!
# What completion puts in

A completed declaration gives a value to every field that a property returns and the settings call
for, on every construction path. `TypeDecl.Awaits` says which fields are assigned on the way, and
`TypeDecl.complete_covers` says that these are all: nothing is put in for any other field, and a
type that takes no assignments stays as it is.
-/

namespace Prologue

namespace TypeDecl

variable {s : Settings} {d : TypeDecl}

/-- The field is to be assigned: it is the only field of its name, it has no inline initializer, no
constructor is declared or one does not assign it, a property returns it, and the settings call for
a created value. -/
structure Awaits (s : Settings) (d : TypeDecl) (f : Field) : Prop where
  declared : f ∈ d.fields
  unique : ∀ g ∈ d.fields, g.name = f.name → g = f
  bare : f.initializer = none
  unassigned : d.constructors = [] ∨ ∃ c ∈ d.constructors, c.assigns f.name = false
  returned : ∃ p ∈ d.properties, p.Returns f.name
  called : s.needsInitialization f.typeName = true

/-- A field that is planned for awaits its assignment. -/
theorem WellFormed.awaits_of_planned (fine : d.WellFormed) {p : Plan}
    (planned : (d.plan s).answer = .ok p) {i : FieldInit} (asked : i ∈ p.inits) :
    ∃ f, d.Awaits s f ∧ i = ⟨f.name, f.typeName⟩ := by
  obtain ⟨q, listed, f, returns, found, rfl, calls, unset⟩ := (mem_inits_iff planned).1 asked
  have declared := mem_fields_of_getField? found
  rw [isFieldInitialized_of_ne (fine.field_ne_empty declared), Except.ok.injEq,
    Bool.or_eq_false_iff] at unset
  refine ⟨f, ⟨declared, ?_, ?_, ?_, ⟨q, listed, returns⟩, (Bool.and_eq_true_iff.1 calls).2⟩, rfl⟩
  · exact fun g other same => fine.eq_of_name_eq other declared same
  · simpa [hasInitializer, found] using unset.1
  · have missed := unset.2
    by_cases none : d.constructors = []
    · exact Or.inl none
    · refine Or.inr ?_
      simpa [constructorsAssign, none] using missed

/-- A field that a property returns and that is called for has a value once the plan is carried
out. -/
theorem WellFormed.isFieldInitialized_of_planned (fine : d.WellFormed) {p : Plan}
    (planned : (d.plan s).answer = .ok p) {q : Property} (listed : q ∈ d.properties) {f : Field}
    (declared : f ∈ d.fields) (returns : q.Returns f.name) (calls : d.callsFor s f = true) :
    (p.mergeInto d).after.isFieldInitialized f.name = .ok true := by
  have named := fine.field_ne_empty declared
  have takes := (Bool.and_eq_true_iff.1 calls).1
  rw [after_mergeInto_of_planned planned]
  cases before : d.hasInitializer f.name || d.constructorsAssign f.name with
  | true =>
      split
      · rw [isFieldInitialized_of_ne named, before]
      · rw [isFieldInitialized_merged takes named, before, Bool.true_or]
  | false =>
      have unset : d.isFieldInitialized f.name = .ok false := by
        rw [isFieldInitialized_of_ne named, before]
      have asked : (⟨f.name, f.typeName⟩ : FieldInit) ∈ p.inits :=
        (mem_inits_iff planned).2
          ⟨q, listed, f, returns, fine.getField?_eq declared, rfl, calls, unset⟩
      rw [if_neg (List.ne_nil_of_mem asked), isFieldInitialized_merged takes named, before,
        Bool.false_or]
      exact congrArg Except.ok (List.any_eq_true.2 ⟨_, asked, beq_self_eq_true _⟩)

/-- **What completion puts in.** Where assignments can be made, every field that a property returns
and the settings call for has a value afterwards. Every statement that is put in is the assignment
of a new value to a field that awaits it. Where no assignments can be made nothing changes. -/
theorem complete_covers {s : Settings} {d : TypeDecl} {text : String}
    (done : (d.complete s).answer = .ok text) :
    (d.kind = .classType ∨ d.kind = .structType ∧ d.constructors ≠ [] →
      ∀ p ∈ d.properties, ∀ f ∈ d.fields, p.Returns f.name →
        s.needsInitialization f.typeName = true →
        (d.complete s).after.isFieldInitialized f.name = .ok true) ∧
    (∃ prologue, d.Receives prologue (d.complete s).after ∧
      ∀ c ∈ d.ensureConstructor.constructors, ∀ statement ∈ prologue c,
        ∃ f, d.Awaits s f ∧ statement = .assignField f.name (.createEmpty f.typeName)) ∧
    (d.kind = .interfaceType ∨ d.kind = .enumType ∨ d.kind = .structType ∧ d.constructors = [] →
      (d.complete s).after = d) := by
  rcases complete_cases s d with
    ⟨defect, -, answer, -⟩ | ⟨e, -, -, answer, -⟩ | ⟨p, fine, planned, -, after⟩
  · cases answer.symm.trans done
  · cases answer.symm.trans done
  rw [after]
  refine ⟨fun takes q listed f declared returns called => ?_, ?_, fun takesNone => ?_⟩
  · have calls : d.callsFor s f = true :=
      Bool.and_eq_true_iff.2 ⟨takesInitializers_iff.2 takes, called⟩
    exact fine.isFieldInitialized_of_planned planned listed declared returns calls
  · obtain ⟨prologue, received, -, put⟩ := receives_of_planned planned
    refine ⟨prologue, received, fun c listed statement inserted => ?_⟩
    obtain ⟨i, asked, rfl⟩ := (put statement).1 ⟨c, listed, inserted⟩
    obtain ⟨f, awaits, rfl⟩ := fine.awaits_of_planned planned asked
    exact ⟨f, awaits, rfl⟩
  · rw [after_mergeInto_of_planned planned, if_pos]
    by_contra asks
    have takes := takesInitializers_of_planned planned asks
    rw [takesInitializers_eq_false_iff.2 takesNone] at takes
    cases takes

/-- A structure whose items are assigned by one of its two constructors. -/
def basket : TypeDecl where
  name := "Basket"
  kind := .structType
  members :=
    [.field ⟨"_items", "Shop.List<Item>", none⟩,
     .constructor { body := [.assignField "_items" (.create "List<Item>" [.argument "size"])] },
     .property (.auto "Items" "List<Item>" "_items"), .constructor {}]

theorem basket_items_covered :
    (∃ text, (basket.complete {}).answer = .ok text) ∧
      basket.isFieldInitialized "_items" = .ok false ∧
      (basket.complete {}).after.isFieldInitialized "_items" = .ok true := by
  have done : ∃ text, (basket.complete {}).answer = .ok text := ⟨_, rfl⟩
  obtain ⟨text, answer⟩ := done
  refine ⟨⟨text, answer⟩, by decide, ?_⟩
  exact (complete_covers answer).1 (Or.inr ⟨rfl, by decide⟩)
    (.auto "Items" "List<Item>" "_items") (by decide) ⟨"_items", "Shop.List<Item>", none⟩
    (by decide) ⟨_, rfl⟩ (by decide)

end TypeDecl

end Prologue
