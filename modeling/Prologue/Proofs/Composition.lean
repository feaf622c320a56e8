import Mathlib.Algebra.BigOperators.Group.List.Basic
import Prologue.Proofs.Merging

/-!
# Merges one after the other

A second merge finds the constructors as the first one has left them, so it puts in only what the
first one was not asked for, and puts it in front. One plan does both at once.

* `followedBy inits later` are the assignments of this plan.
* `Plan.mergeInto_composes` says that two merges leave the same as one merge with it, and put in as
  much together.
* `Plan.mergesAll_of_allInits` says this of any number of merges.
-/

namespace Prologue

/-- The assignments of the second list, without the fields that the first list asks for, and then
those of the first list. -/
def followedBy (inits later : List FieldInit) : List FieldInit :=
  (later.filter fun i => !inits.any (·.field == i.field)) ++ inits

variable {inits later : List FieldInit}

@[simp] theorem followedBy_nil (inits : List FieldInit) : followedBy inits [] = inits := rfl

@[simp] theorem nil_followedBy (later : List FieldInit) : followedBy [] later = later := by
  simp [followedBy]

/-- What is asked for again is not put in again. -/
@[simp] theorem followedBy_self (inits : List FieldInit) : followedBy inits inits = inits := by
  have none : (inits.filter fun i => !inits.any (·.field == i.field)) = [] := by
    refine List.filter_eq_nil_iff.2 fun i listed => ?_
    simpa using ⟨i, listed, rfl⟩
  rw [followedBy, none, List.nil_append]

theorem followedBy_ne_nil (asks : inits ≠ []) : followedBy inits later ≠ [] :=
  List.append_ne_nil_of_right_ne_nil _ asks

theorem named_followedBy (named : ∀ i ∈ inits, i.field ≠ "")
    (named' : ∀ i ∈ later, i.field ≠ "") : ∀ i ∈ followedBy inits later, i.field ≠ "" := by
  intro i listed
  rcases List.mem_append.1 listed with new | old
  · exact named' i (List.mem_of_mem_filter new)
  · exact named i old

/-! ## One constructor -/

namespace Constructor

theorem missing_completed (c : Constructor) (inits later : List FieldInit) :
    (c.completed inits).missing later =
      c.missing (later.filter fun i => !inits.any (·.field == i.field)) := by
  simp only [missing, List.filter_filter, assigns_completed, Bool.not_or]

theorem missing_followedBy (c : Constructor) (inits later : List FieldInit) :
    c.missing (followedBy inits later) =
      (c.completed inits).missing later ++ c.missing inits := by
  rw [missing_completed, followedBy, missing, List.filter_append, missing, missing]

theorem precededBy_precededBy (c : Constructor) (first second : List Stmt) :
    (c.precededBy first).precededBy second = c.precededBy (second ++ first) := by
  simp only [precededBy, List.append_assoc]

/-- The assignments that are put in later come to stand in front of the earlier ones. -/
theorem completed_completed (c : Constructor) (inits later : List FieldInit) :
    (c.completed inits).completed later = c.completed (followedBy inits later) := by
  refine (c.precededBy_precededBy _ _).trans ?_
  rw [← List.map_append, ← missing_followedBy]
  rfl

end Constructor

/-! ## The whole declaration -/

namespace TypeDecl

variable {d : TypeDecl}

/-- What a merge leaves that can be carried out. -/
def afterMerge (inits : List FieldInit) (d : TypeDecl) : TypeDecl :=
  if inits = [] then d else d.merged inits

theorem ensureConstructor_merged (takes : d.takesInitializers = true) :
    (d.merged inits).ensureConstructor = d.merged inits :=
  ensureConstructor_eq_self (constructors_merged_ne_nil takes)

theorem merged_merged (takes : d.takesInitializers = true) (inits later : List FieldInit) :
    (d.merged inits).merged later = d.merged (followedBy inits later) := by
  have both : Constructor.completed later ∘ Constructor.completed inits =
      Constructor.completed (followedBy inits later) :=
    funext fun c => c.completed_completed inits later
  rw [merged, ensureConstructor_merged takes, merged, mapConstructors_mapConstructors, both, merged]

theorem missingCount_merged (takes : d.takesInitializers = true) (inits later : List FieldInit) :
    d.missingCount inits + (d.merged inits).missingCount later =
      d.missingCount (followedBy inits later) := by
  simp only [missingCount, ensureConstructor_merged takes, constructors_merged,
    List.flatMap_map, List.length_flatMap, ← List.sum_map_add]
  congr 2
  funext c
  rw [c.missing_followedBy, List.length_append, Nat.add_comm]

/-- A second merge of the same assignments finds none of them missing. -/
theorem missingCount_merged_self (takes : d.takesInitializers = true) :
    (d.merged inits).missingCount inits = 0 := by
  have twice := missingCount_merged takes inits inits
  rw [followedBy_self] at twice
  omega

theorem afterMerge_afterMerge (takes : d.takesInitializers = true) :
    (d.afterMerge inits).afterMerge later = d.afterMerge (followedBy inits later) := by
  by_cases asks : inits = []
  · simp [asks, afterMerge]
  · by_cases asksMore : later = []
    · simp [asksMore, afterMerge]
    · simp [afterMerge, asks, asksMore, followedBy_ne_nil asks, merged_merged takes]

theorem missingCount_afterMerge (takes : d.takesInitializers = true) :
    d.missingCount inits + (d.afterMerge inits).missingCount later =
      d.missingCount (followedBy inits later) := by
  by_cases asks : inits = []
  · simp [asks, afterMerge, missingCount_nil]
  · rw [afterMerge, if_neg asks, missingCount_merged takes]

@[simp] theorem name_afterMerge : (d.afterMerge inits).name = d.name := by
  unfold afterMerge
  split
  · rfl
  · exact name_merged

@[simp] theorem takesInitializers_afterMerge :
    (d.afterMerge inits).takesInitializers = d.takesInitializers := by
  unfold afterMerge
  split
  · rfl
  · exact takesInitializers_merged

end TypeDecl

/-! ## Plans -/

namespace Plan

variable {d : TypeDecl} {p q r : Plan}

/-- A plan with named fields is carried out wherever assignments can be made. -/
theorem mergeInto_of_takes (takes : d.takesInitializers = true) (own : p.typeName = d.name)
    (named : ∀ i ∈ p.inits, i.field ≠ "") :
    (p.mergeInto d).answer = .ok (d.missingCount p.inits) ∧
      (p.mergeInto d).after = d.afterMerge p.inits :=
  mergeInto_of_named own (fun _ => takes) named

/-- **Two merges.** A plan that asks for what two plans ask for one after the other is answered by
the sum of their answers, and leaves what they leave. -/
theorem mergeInto_followedBy (takes : d.takesInitializers = true) (own : p.typeName = d.name)
    (named : ∀ i ∈ p.inits, i.field ≠ "") (own' : q.typeName = d.name)
    (named' : ∀ i ∈ q.inits, i.field ≠ "") (whole : r.typeName = d.name)
    (inits : r.inits = followedBy p.inits q.inits) :
    ∃ count count', (p.mergeInto d).answer = .ok count ∧
      (q.mergeInto (p.mergeInto d).after).answer = .ok count' ∧
      (r.mergeInto d).answer = .ok (count + count') ∧
      (r.mergeInto d).after = (q.mergeInto (p.mergeInto d).after).after := by
  obtain ⟨first, between⟩ := mergeInto_of_takes takes own named
  have takes' : (d.afterMerge p.inits).takesInitializers = true :=
    TypeDecl.takesInitializers_afterMerge.trans takes
  obtain ⟨second, after⟩ :=
    mergeInto_of_takes takes' (own'.trans TypeDecl.name_afterMerge.symm) named'
  obtain ⟨both, afterBoth⟩ :=
    mergeInto_of_takes (p := r) takes whole (inits ▸ named_followedBy named named')
  rw [between]
  refine ⟨_, _, first, second, ?_, ?_⟩
  · rw [both, inits, TypeDecl.missingCount_afterMerge takes]
  · rw [afterBoth, inits, after, TypeDecl.afterMerge_afterMerge takes]

/-- Merging the plans one after the other is possible, puts so many assignments into the first
declaration and makes the last one of it. -/
inductive MergesAll : List Plan → TypeDecl → Nat → TypeDecl → Prop
  | nil (d : TypeDecl) : MergesAll [] d 0 d
  | cons {p : Plan} {ps : List Plan} {d e : TypeDecl} {count counts : Nat} :
    (p.mergeInto d).answer = .ok count → MergesAll ps (p.mergeInto d).after counts e →
    MergesAll (p :: ps) d (count + counts) e

/-- What the plans ask for, one after the other. -/
def allInits (ps : List Plan) : List FieldInit :=
  ps.foldr (fun p later => followedBy p.inits later) []

theorem named_allInits {ps : List Plan} (named : ∀ p ∈ ps, ∀ i ∈ p.inits, i.field ≠ "") :
    ∀ i ∈ allInits ps, i.field ≠ "" := by
  induction ps with
  | nil => exact fun _ listed => nomatch listed
  | cons p ps ih =>
      rw [List.forall_mem_cons] at named
      exact named_followedBy named.1 (ih named.2)

/-- **Any number of merges.** Merges one after the other are one merge. -/
theorem mergesAll_of_allInits (takes : d.takesInitializers = true) {ps : List Plan}
    (own : ∀ p ∈ ps, p.typeName = d.name) (named : ∀ p ∈ ps, ∀ i ∈ p.inits, i.field ≠ "")
    (whole : r.typeName = d.name) (inits : r.inits = allInits ps) :
    ∃ count, MergesAll ps d count (r.mergeInto d).after ∧ (r.mergeInto d).answer = .ok count := by
  induction ps generalizing d r with
  | nil =>
      rw [mergeInto_of_inits_eq_nil whole inits]
      exact ⟨0, .nil d, rfl⟩
  | cons p ps ih =>
      -- The other plans are one plan for what the first merge leaves, so two merges are left.
      rw [List.forall_mem_cons] at own named
      obtain ⟨rest, restOwn, restInits⟩ :
          ∃ rest : Plan, rest.typeName = d.name ∧ rest.inits = allInits ps :=
        ⟨{ typeName := d.name, inits := allInits ps }, rfl, rfl⟩
      have restNamed : ∀ i ∈ rest.inits, i.field ≠ "" := restInits ▸ named_allInits named.2
      obtain ⟨count, count', first, second, both, after⟩ :=
        mergeInto_followedBy takes own.1 named.1 restOwn restNamed whole (restInits ▸ inits)
      obtain ⟨-, between⟩ := mergeInto_of_takes takes own.1 named.1
      have name : (p.mergeInto d).after.name = d.name := by rw [between, TypeDecl.name_afterMerge]
      have takes' : (p.mergeInto d).after.takesInitializers = true := by
        rw [between, TypeDecl.takesInitializers_afterMerge, takes]
      have own' (q : Plan) (listed : q ∈ ps) : q.typeName = (p.mergeInto d).after.name :=
        (own.2 q listed).trans name.symm
      obtain ⟨counts, others, answered⟩ :=
        ih takes' own' named.2 (restOwn.trans name.symm) restInits
      obtain rfl := Except.ok.inj (second.symm.trans answered)
      exact ⟨_, after ▸ .cons first others, both⟩

/-- **Composition.** Where assignments can be made, two merges are one merge with the assignments of
both plans: those of the second plan without the fields that the first one asks for, and then those
of the first plan. So a second merge with the same plan puts nothing in and changes nothing. -/
theorem mergeInto_composes
    (takes : d.kind = .classType ∨ d.kind = .structType ∧ d.constructors ≠ [])
    (own : p.typeName = d.name) (named : ∀ i ∈ p.inits, i.field ≠ "") :
    (∀ q r : Plan, q.typeName = d.name → (∀ i ∈ q.inits, i.field ≠ "") → r.typeName = d.name →
      r.inits = (q.inits.filter fun i => !p.inits.any (·.field == i.field)) ++ p.inits →
      ∃ count count', (p.mergeInto d).answer = .ok count ∧
        (q.mergeInto (p.mergeInto d).after).answer = .ok count' ∧
        (r.mergeInto d).answer = .ok (count + count') ∧
        (r.mergeInto d).after = (q.mergeInto (p.mergeInto d).after).after) ∧
    (p.mergeInto (p.mergeInto d).after).answer = .ok 0 ∧
      (p.mergeInto (p.mergeInto d).after).after = (p.mergeInto d).after := by
  have able := TypeDecl.takesInitializers_iff.2 takes
  refine ⟨fun q r own' named' whole inits =>
    mergeInto_followedBy able own named own' named' whole inits, ?_⟩
  obtain ⟨count, count', first, second, both, after⟩ :=
    mergeInto_followedBy able own named own named own (followedBy_self p.inits).symm
  have none : count' = 0 := by
    have same := Except.ok.inj (first.symm.trans both)
    omega
  exact ⟨none ▸ second, after.symm⟩

end Plan

/-- A class without a constructor. -/
def cellar : TypeDecl where
  name := "Cellar"
  members := [.field ⟨"_wines", "List<Wine>", none⟩, .method { name := "Close" }]

/-- A plan made by hand, which asks for a field twice. -/
def winePlan : Plan where
  typeName := "Cellar"
  inits := [⟨"_wines", "List<Wine>"⟩, ⟨"_wines", "Rack"⟩]

/-- A plan made by hand, one of whose fields `winePlan` asks for as well. -/
def beerPlan : Plan where
  typeName := "Cellar"
  inits := [⟨"_beers", "Crate"⟩, ⟨"_wines", "Shelf"⟩]

/-- What `winePlan` and then `beerPlan` ask for. -/
def drinksPlan : Plan where
  typeName := "Cellar"
  inits := [⟨"_beers", "Crate"⟩, ⟨"_wines", "List<Wine>"⟩, ⟨"_wines", "Rack"⟩]

theorem cellar_composes :
    (winePlan.mergeInto cellar).answer = .ok 2 ∧
      (beerPlan.mergeInto (winePlan.mergeInto cellar).after).answer = .ok 1 ∧
      (drinksPlan.mergeInto cellar).answer = .ok (2 + 1) ∧
      (drinksPlan.mergeInto cellar).after =
        (beerPlan.mergeInto (winePlan.mergeInto cellar).after).after ∧
      (winePlan.mergeInto (winePlan.mergeInto cellar).after).answer = .ok 0 ∧
      (winePlan.mergeInto (winePlan.mergeInto cellar).after).after =
        (winePlan.mergeInto cellar).after := by
  have composes :=
    Plan.mergeInto_composes (d := cellar) (p := winePlan) (Or.inl rfl) rfl (by decide)
  obtain ⟨count, count', first, second, both, after⟩ :=
    composes.1 beerPlan drinksPlan rfl (by decide) rfl (by decide)
  have two : (winePlan.mergeInto cellar).answer = .ok 2 := rfl
  have one : (beerPlan.mergeInto (winePlan.mergeInto cellar).after).answer = .ok 1 := rfl
  obtain rfl := Except.ok.inj (first.symm.trans two)
  obtain rfl := Except.ok.inj (second.symm.trans one)
  exact ⟨first, second, both, after, composes.2⟩

end Prologue
