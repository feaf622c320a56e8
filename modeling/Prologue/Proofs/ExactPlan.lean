import Mathlib.Data.List.Sort
import Prologue.Proofs.Atomicity

/-!
# Exactly what planning answers

Planning goes through the properties once, and what it answers can be told without the passage: the
failure of the first property that cannot be planned for or, if there is no such property, three
lists.

* `TypeDecl.Offends s d p e` says in which two ways a property cannot be planned for, and
  `TypeDecl.plan_fails_iff` that planning fails exactly as the first of these properties does.
* `TypeDecl.PlansExactly s d p` says what stands in each list of a plan and in which order, and
  `TypeDecl.plan_exact` that this is true of the plan that is answered and of no other.

The declaration is any declaration here. It may declare several fields of one name, and a field
without a name.
-/

namespace Prologue

/-- The properties are sorted into two lists: one that starts by returning a field is bound to it,
and of any other the name is noted. Both lists keep the order of the properties. -/
inductive SortsInto : List Property → List Binding → List String → Prop
  | nil : SortsInto [] [] []
  | bound {ps : List Property} {bindings : List Binding} {skipped : List String} (p : Property)
    (field : String) : p.Returns field → SortsInto ps bindings skipped →
    SortsInto (p :: ps) (⟨p.name, field⟩ :: bindings) skipped
  | skipped {ps : List Property} {bindings : List Binding} {skipped : List String} (p : Property) :
    (∀ field, ¬p.Returns field) → SortsInto ps bindings skipped →
    SortsInto (p :: ps) bindings (p.name :: skipped)

namespace TypeDecl

/-- The field is the first one of the name. -/
def FirstField (d : TypeDecl) (name : String) (f : Field) : Prop :=
  f.name = name ∧ ∃ before after, d.fields = before ++ f :: after ∧ ∀ g ∈ before, g.name ≠ name

/-- The getter of the property starts by returning a field for which no plan can be made. Either
the field is not declared, or it has no name although it is declared, could be assigned and has a
type that calls for a created value. -/
inductive Offends (s : Settings) (d : TypeDecl) (p : Property) : Failure → Prop
  | undeclared (field : String) : p.Returns field → (∀ f ∈ d.fields, f.name ≠ field) →
    Offends s d p (.undeclaredField d.name p.name field)
  | unnamed (f : Field) : p.Returns "" → d.FirstField "" f →
    d.kind = .classType ∨ d.kind = .structType ∧ d.constructors ≠ [] →
    s.needsInitialization f.typeName = true → Offends s d p (.lookup .emptyFieldName)

/-- The number of the first property whose getter starts by returning the field. -/
def firstReturn (d : TypeDecl) (field : String) : Nat :=
  d.properties.findIdx (·.backingFieldName? == some field)

/-- The first field is returned before the second one is. -/
def ReturnsBefore (d : TypeDecl) (i j : FieldInit) : Prop :=
  d.firstReturn i.field < d.firstReturn j.field

/-- What stands in the plan `p` for the declaration. -/
structure PlansExactly (s : Settings) (d : TypeDecl) (p : Plan) : Prop where
  own : p.typeName = d.name
  bindings : p.bindings = d.properties.filterMap fun q => q.backingFieldName?.map (⟨q.name, ·⟩)
  skipped : p.skipped = (d.properties.filter (·.backingFieldName?.isNone)).map (·.name)
  sorted : SortsInto d.properties p.bindings p.skipped
  /-- A field is asked for exactly if a property is bound to it, assignments can be made, its type
  calls for a created value, and it lacks a value on some construction path. -/
  asked : ∀ field, (∃ i ∈ p.inits, i.field = field) ↔
    (∃ b ∈ p.bindings, b.field = field) ∧
      (d.kind = .classType ∨ d.kind = .structType ∧ d.constructors ≠ []) ∧
      (∃ f, d.FirstField field f ∧ s.needsInitialization f.typeName = true) ∧
      d.isFieldInitialized field = .ok false
  /-- A field is asked for under the type that it is first declared with. -/
  typed : ∀ i ∈ p.inits, ∃ f, d.FirstField i.field f ∧ f.typeName = i.typeName
  distinct : (p.inits.map (·.field)).Nodup
  ordered : p.inits.Pairwise d.ReturnsBefore

variable {s : Settings} {d : TypeDecl}

theorem firstField_iff {name : String} {f : Field} :
    d.FirstField name f ↔ d.getField? name = some f := by
  simp [FirstField, getField?, List.find?_eq_some_iff_append]

theorem FirstField.unique {name : String} {f g : Field} (first : d.FirstField name f)
    (second : d.FirstField name g) : g = f :=
  Option.some.inj ((firstField_iff.1 second).symm.trans (firstField_iff.1 first))

/-! ## The properties that cannot be planned for -/

theorem offends_iff {p : Property} {e : Failure} :
    d.Offends s p e ↔ d.objection? s p = some e := by
  rw [objection?_eq_some_iff]
  refine ⟨?_, ?_⟩
  · intro offends
    cases offends with
    | undeclared field returns undeclared => exact Or.inl ⟨field, ⟨returns, undeclared⟩, rfl⟩
    | unnamed f returns first takes needs =>
        have calls : d.callsFor s f = true :=
          Bool.and_eq_true_iff.2 ⟨takesInitializers_iff.2 takes, needs⟩
        exact Or.inr ⟨f, returns, firstField_iff.1 first, calls, rfl⟩
  · intro objects
    rcases objects with ⟨field, ⟨returns, undeclared⟩, rfl⟩ | ⟨f, returns, found, calls, rfl⟩
    · exact .undeclared field returns undeclared
    · obtain ⟨takes, needs⟩ := Bool.and_eq_true_iff.1 calls
      exact .unnamed f returns (firstField_iff.2 found) (takesInitializers_iff.1 takes) needs

theorem objection?_eq_none_iff {p : Property} :
    d.objection? s p = none ↔ ∀ e, ¬d.Offends s p e := by
  simp only [Option.eq_none_iff_forall_ne_some, offends_iff, ne_eq]

/-- **When planning fails.** Planning fails exactly if some property offends, and then as the first
such property does. Where the declaration has no defect, a failure is never about a question, and
the settings do not matter. -/
theorem plan_fails_iff (s : Settings) (d : TypeDecl) :
    ((∃ e, (d.plan s).answer = .error e) ↔ ∃ p ∈ d.properties, ∃ e, d.Offends s p e) ∧
    (∀ e, (d.plan s).answer = .error e ↔
      ∃ before p after, d.properties = before ++ p :: after ∧ d.Offends s p e ∧
        ∀ q ∈ before, ∀ other, ¬d.Offends s q other) ∧
    (d.defect? = none → (∀ question, (d.plan s).answer ≠ .error (.lookup question)) ∧
      ∀ t e, (d.plan t).answer = .error e ↔ (d.plan s).answer = .error e) := by
  refine ⟨?_, fun e => ?_, fun sound => ?_⟩
  · simp only [answer_plan_eq_error_iff, offends_iff, ← Option.isSome_iff_exists,
      List.findSome?_isSome_iff]
  · simp only [answer_plan_eq_error_iff, List.findSome?_eq_some_iff, objection?_eq_none_iff,
      offends_iff]
  · have fine := defect?_eq_none_iff.1 sound
    refine ⟨fun question failed => ?_, fun t e => ?_⟩
    · obtain ⟨p, field, -, undeclared⟩ := fine.answer_plan_eq_error_iff.1 failed
      cases undeclared
    · rw [fine.answer_plan_eq_error_iff, fine.answer_plan_eq_error_iff]

/-- A class without a defect, two of whose properties return undeclared fields. -/
def showcase : TypeDecl where
  name := "Showcase"
  members :=
    [.property (.auto "Tags" "List<string>" "_tags"), .property (.auto "Items" "Item[]" "_items"),
     .field ⟨"_tags", "List<string>", none⟩, .property (.auto "Owner" "Owner" "_owner")]

/-- A structure that returns a field without a name. -/
def blankSheet : TypeDecl where
  name := "BlankSheet"
  kind := .structType
  members :=
    [.constructor {}, .property (.auto "Items" "List<Item>" ""), .field ⟨"", "List<Item>", none⟩]

theorem showcase_plan_fails :
    showcase.defect? = none ∧
      (showcase.plan {}).answer = .error (.undeclaredField "Showcase" "Items" "_items") ∧
      (∀ t e, (showcase.plan t).answer = .error e ↔ (showcase.plan {}).answer = .error e) ∧
      (blankSheet.plan {}).answer = .error (.lookup .emptyFieldName) := by
  have sound : showcase.defect? = none := by decide
  have first : blankSheet.FirstField "" ⟨"", "List<Item>", none⟩ :=
    ⟨rfl, [], [], rfl, fun _ listed => nomatch listed⟩
  have offends : blankSheet.Offends {} (.auto "Items" "List<Item>" "") (.lookup .emptyFieldName) :=
    .unnamed _ ⟨[], rfl⟩ first (Or.inr ⟨rfl, by decide⟩) (by decide)
  refine ⟨sound, rfl, ((plan_fails_iff {} showcase).2.2 sound).2, ?_⟩
  exact ((plan_fails_iff {} blankSheet).2.1 _).2
    ⟨[], _, [], rfl, offends, fun _ listed => nomatch listed⟩

/-! ## The lists of a plan -/

theorem sortsInto_planFor (s : Settings) (d : TypeDecl) (ps : List Property) :
    SortsInto ps (d.planFor s ps).bindings (d.planFor s ps).skipped := by
  induction ps with
  | nil => exact .nil
  | cons p ps ih =>
      cases backing : p.backingFieldName? with
      | none =>
          have none (field : String) : ¬p.Returns field := by
            simp [Property.returns_iff, backing]
          simpa [planFor, Property.binding?, backing] using SortsInto.skipped p none ih
      | some field =>
          have returns := Property.returns_iff.2 backing
          simpa [planFor, Property.binding?, backing] using SortsInto.bound p field returns ih

theorem exists_binding_iff {field : String} :
    (∃ b ∈ (d.planFor s d.properties).bindings, b.field = field) ↔
      ∃ q ∈ d.properties, q.Returns field := by
  simp [planFor, Property.binding?, Property.returns_iff]

/-- First occurrences stand in the order of the places where they occur. -/
theorem pairwise_findIdx_eraseDups {α β : Type} [DecidableEq β] (f : α → Option β) (xs : List α) :
    (xs.filterMap f).eraseDups.Pairwise fun a b =>
      xs.findIdx (f · == some a) < xs.findIdx (f · == some b) := by
  induction xs using List.reverseRecOn with
  | nil => exact .nil
  | append_singleton xs x ih =>
      -- What occurs in `xs` keeps its place when `x` comes behind, and that place is in `xs`.
      have place {a : β} (occurs : a ∈ xs.filterMap f) :
          xs.findIdx (f · == some a) < xs.length := by
        simpa [List.findIdx_lt_length] using occurs
      have kept {a : β} (occurs : a ∈ xs.filterMap f) :
          (xs ++ [x]).findIdx (f · == some a) = xs.findIdx (f · == some a) := by
        rw [List.findIdx_append, if_pos (place occurs)]
      have earlier : (xs.filterMap f).eraseDups.Pairwise fun a b =>
          (xs ++ [x]).findIdx (f · == some a) < (xs ++ [x]).findIdx (f · == some b) := by
        refine ih.imp_of_mem fun {a b} first second before => ?_
        rwa [kept (List.mem_eraseDups.1 first), kept (List.mem_eraseDups.1 second)]
      cases found : f x with
      | none => simpa [found] using earlier
      | some b =>
          rw [List.filterMap_append, List.filterMap_cons_some found, List.filterMap_nil,
            eraseDups_concat]
          split
          · exact earlier
          · next fresh =>
              refine List.pairwise_append.2 ⟨earlier, List.pairwise_singleton _ _, ?_⟩
              intro a first c last
              obtain rfl := List.mem_singleton.1 last
              have occurs := List.mem_eraseDups.1 first
              have new : xs.findIdx (f · == some c) = xs.length := by
                simpa [List.findIdx_eq_length] using fresh
              rw [kept occurs, List.findIdx_append, new, if_neg (Nat.lt_irrefl _)]
              exact Nat.lt_of_lt_of_le (place occurs) (Nat.le_add_left _ _)

/-- An assignment that is asked for is missing for exactly the properties that return its field. -/
theorem lacking?_eq_some_iff_of_mem {ps : List Property} {i : FieldInit}
    (asked : i ∈ (d.planFor s ps).inits) (q : Property) :
    d.lacking? s q = some i ↔ q.backingFieldName? = some i.field := by
  obtain ⟨p, -, lacking⟩ := mem_inits_planFor.1 asked
  obtain ⟨f, -, found, rfl, missing⟩ := lacking?_eq_some_iff.1 lacking
  rw [lacking?_eq_some_iff, ← Property.returns_iff]
  refine ⟨?_, fun returns => ⟨f, returns, found, rfl, missing⟩⟩
  intro again
  obtain ⟨g, returns, -, same, -⟩ := again
  rw [congrArg FieldInit.field same]
  exact returns

theorem pairwise_returnsBefore_planFor (s : Settings) (d : TypeDecl) :
    (d.planFor s d.properties).inits.Pairwise d.ReturnsBefore := by
  have place {i : FieldInit} (asked : i ∈ (d.planFor s d.properties).inits) :
      d.firstReturn i.field = d.properties.findIdx (d.lacking? s · == some i) := by
    unfold firstReturn
    congr 1
    funext q
    rw [Bool.eq_iff_iff, beq_iff_eq, beq_iff_eq, lacking?_eq_some_iff_of_mem asked]
  refine (pairwise_findIdx_eraseDups (d.lacking? s) d.properties).imp_of_mem ?_
  intro i j first second before
  rwa [ReturnsBefore, place first, place second]

/-- A field is asked for exactly if it is to be assigned, whatever the type is that it is asked for
under. -/
theorem exists_mem_inits_iff {p : Plan} (planned : (d.plan s).answer = .ok p) (field : String) :
    (∃ i ∈ p.inits, i.field = field) ↔
      (∃ q ∈ d.properties, q.Returns field) ∧
        (d.kind = .classType ∨ d.kind = .structType ∧ d.constructors ≠ []) ∧
        (∃ f, d.FirstField field f ∧ s.needsInitialization f.typeName = true) ∧
        d.isFieldInitialized field = .ok false := by
  refine ⟨?_, ?_⟩
  · intro asked
    obtain ⟨i, listed, rfl⟩ := asked
    obtain ⟨q, declared, f, returns, found, rfl, calls, unset⟩ := (mem_inits_iff planned).1 listed
    obtain ⟨takes, needs⟩ := Bool.and_eq_true_iff.1 calls
    exact ⟨⟨q, declared, returns⟩, takesInitializers_iff.1 takes,
      ⟨f, firstField_iff.2 found, needs⟩, unset⟩
  · intro awaits
    obtain ⟨⟨q, declared, returns⟩, takes, ⟨f, first, needs⟩, unset⟩ := awaits
    have found := firstField_iff.1 first
    obtain rfl := first.1
    have calls : d.callsFor s f = true :=
      Bool.and_eq_true_iff.2 ⟨takesInitializers_iff.2 takes, needs⟩
    exact ⟨_, (mem_inits_iff planned).2 ⟨q, declared, f, returns, found, rfl, calls, unset⟩, rfl⟩

theorem plansExactly_of_planned {p : Plan} (planned : (d.plan s).answer = .ok p) :
    d.PlansExactly s p := by
  have awaits (field : String) := exists_mem_inits_iff planned field
  obtain ⟨-, rfl⟩ := answer_plan_eq_ok_iff.1 planned
  have ordered := pairwise_returnsBefore_planFor s d
  refine ⟨rfl, rfl, rfl, sortsInto_planFor s d _, fun field => ?_, fun i listed => ?_, ?_, ordered⟩
  · rw [exists_binding_iff]
    exact awaits field
  · obtain ⟨f, found, -, type⟩ := getField?_of_mem_inits listed
    exact ⟨f, firstField_iff.2 found, type⟩
  · -- No field is returned before itself.
    refine List.pairwise_map.2 (ordered.imp fun before same => ?_)
    rw [ReturnsBefore, same] at before
    exact Nat.lt_irrefl _ before

/-! ## No other plan -/

instance (d : TypeDecl) : Std.Irrefl d.ReturnsBefore := ⟨fun _ => Nat.lt_irrefl _⟩

instance (d : TypeDecl) : Std.Antisymm d.ReturnsBefore :=
  ⟨fun _ _ before after => absurd before (Nat.lt_asymm after)⟩

theorem PlansExactly.subset {p q : Plan} (first : d.PlansExactly s p)
    (second : d.PlansExactly s q) : p.inits ⊆ q.inits := by
  intro i listed
  have awaits := (first.asked i.field).1 ⟨i, listed, rfl⟩
  rw [first.bindings, ← second.bindings] at awaits
  obtain ⟨j, asked, same⟩ := (second.asked i.field).2 awaits
  obtain ⟨f, found, type⟩ := first.typed i listed
  obtain ⟨g, found', type'⟩ := second.typed j asked
  obtain rfl := found.unique (same ▸ found')
  have whole : i = j := by
    cases i
    cases j
    simp_all
  exact whole ▸ asked

/-- The plans ask for the same fields under the same types, and the order leaves no choice. -/
theorem PlansExactly.unique {p q : Plan} (first : d.PlansExactly s p)
    (second : d.PlansExactly s q) : q = p := by
  have own := second.own.trans first.own.symm
  have bindings := second.bindings.trans first.bindings.symm
  have skipped := second.skipped.trans first.skipped.symm
  have inits : q.inits = p.inits :=
    List.Subset.antisymm_of_pairwise second.ordered first.ordered (second.subset first)
      (first.subset second)
  cases p
  cases q
  simp_all

/-- **The exact plan.** The plan that is answered is the one plan that sorts the properties by what
they return and asks, in the order of the properties that return them, for the fields that are to be
assigned. -/
theorem plan_exact {s : Settings} {d : TypeDecl} {p : Plan}
    (planned : (d.plan s).answer = .ok p) :
    d.PlansExactly s p ∧ ∀ q, d.PlansExactly s q → q = p := by
  have exact := plansExactly_of_planned planned
  exact ⟨exact, fun q other => exact.unique other⟩

/-- A class that returns one field from two properties and declares another one twice. -/
def catalogue : TypeDecl where
  name := "Catalogue"
  members :=
    [.property (.auto "Tags" "List<string>" "_tags"), .field ⟨"_items", "List<Item>", none⟩,
     .field ⟨"_tags", "List<string>", none⟩, .field ⟨"_tags", "int", some (.literal (.int 0))⟩,
     .property ⟨"Count", "int", [.verbatim "return 0;"], []⟩, .field ⟨"_limit", "int", none⟩,
     .property (.auto "Items" "List<Item>" "_items"), .property (.auto "Limit" "int" "_limit"),
     .property (.auto "All" "List<Item>" "_items")]

/-- The plan for `catalogue`. -/
def cataloguePlan : Plan where
  typeName := "Catalogue"
  bindings := [⟨"Tags", "_tags"⟩, ⟨"Items", "_items"⟩, ⟨"Limit", "_limit"⟩, ⟨"All", "_items"⟩]
  inits := [⟨"_tags", "List<string>"⟩, ⟨"_items", "List<Item>"⟩]
  skipped := ["Count"]

theorem catalogue_plan_exact :
    (catalogue.plan {}).answer = .ok cataloguePlan ∧ catalogue.PlansExactly {} cataloguePlan ∧
      ∀ q, catalogue.PlansExactly {} q → q = cataloguePlan := by
  have planned : (catalogue.plan {}).answer = .ok cataloguePlan := rfl
  exact ⟨planned, plan_exact planned⟩

end TypeDecl

end Prologue
