import Mathlib.Algebra.GroupWithZero.Nat
import Prologue.Proofs.Merging

/-!
# Exactly what a merge changes

A merge that has an answer changes the bodies of constructors and, in a class without a constructor,
adds one member. Everything else stays where it is.

* `TypeDecl.Prepares` says which members the assignments of a plan are put into.
* `TypeDecl.MergesExactly` says of every position what stands there afterwards.
* `Plan.mergeInto_exact` says that a merge with an answer does exactly this, with any plan. A plan
  may be made by hand, ask for a field twice or for one that is not declared.
-/

namespace Prologue

namespace TypeDecl

variable {d : TypeDecl} {inits : List FieldInit}

/-- The members that assignments are put into: those of the declaration, or for a class without a
constructor those with a constructor that does nothing, directly after the last field, or in front
if no field is declared. -/
structure Prepares (d : TypeDecl) (ready : List Member) : Prop where
  given : d.kind = .classType → d.constructors = [] →
    ∃ before after, d.members = before ++ after ∧ ready = before ++ .constructor {} :: after ∧
      (∀ m ∈ before.getLast?, m.isField = true) ∧ ∀ m ∈ after, m.isField = false
  declared : d.kind ≠ .classType ∨ d.constructors ≠ [] → ready = d.members

/-- What is left, `e`, when `count` assignments of the list have been put into the members `ready`
of the declaration: at each position the same member, but in front of the body of a constructor the
assignments of the list whose field no statement of that body assigns, in the order of the list and
as often as it has them. -/
structure MergesExactly (inits : List FieldInit) (d : TypeDecl) (ready : List Member) (count : Nat)
    (e : TypeDecl) : Prop where
  name : e.name = d.name
  kind : e.kind = d.kind
  size : e.members.length = ready.length
  others : ∀ (n : Nat) m, ready[n]? = some m → m.isConstructor = false → e.members[n]? = some m
  constructors : ∀ (n : Nat) c, ready[n]? = some (.constructor c) →
    e.members[n]? = some (.constructor
      { parameters := c.parameters
        body := ((inits.filter fun i => !c.assigns i.field).map fun i =>
          .assign (.field i.field) (.create i.typeName [])) ++ c.body })
  counted : count = ((ready.filterMap MemberKind.ofMember?).map fun c : Constructor =>
    (inits.filter fun i => !c.assigns i.field).length).sum

theorem prepares_ensureConstructor (d : TypeDecl) : d.Prepares d.ensureConstructor.members := by
  refine ⟨fun kind none => ?_, fun declared => ?_⟩
  · obtain ⟨before, after, whole, last, others, place⟩ := exists_afterLastField d.members
    refine ⟨before, after, whole, ?_, last, others⟩
    rw [ensureConstructor, if_pos (lacksConstructor_iff.2 ⟨kind, none⟩), place]
  · have has : ¬d.lacksConstructor = true := by
      rw [lacksConstructor_iff, not_and_or]
      exact declared
    rw [ensureConstructor, if_neg has]

theorem getElem?_merged {n : Nat} {m : Member} (listed : d.ensureConstructor.members[n]? = some m) :
    (d.merged inits).members[n]? = some (m.mapConstructor (Constructor.completed inits)) := by
  rw [merged, mapConstructors, List.getElem?_map, listed]
  rfl

theorem mergesExactly_merged (inits : List FieldInit) (d : TypeDecl) :
    d.MergesExactly inits d.ensureConstructor.members (d.missingCount inits) (d.merged inits) := by
  refine ⟨name_ensureConstructor, kind_ensureConstructor, List.length_map _, ?_, ?_, ?_⟩
  · intro n m listed other
    rw [getElem?_merged listed]
    cases m with
    | constructor c => cases other
    | _ => rfl
  · intro n c listed
    exact getElem?_merged listed
  · exact List.length_flatMap

end TypeDecl

/-- **The exact merge.** A merge has an answer if the plan is made for a type of this name and asks
for nothing, or for named fields of a type that takes assignments. If it asks for nothing, then the
declaration stays as it was. Otherwise each constructor is given the assignments that it lacks, and
the answer is how many these are. -/
theorem Plan.mergeInto_exact (p : Plan) (d : TypeDecl) :
    ((∃ count, (p.mergeInto d).answer = .ok count) ↔
      p.typeName = d.name ∧
        (p.inits = [] ∨ d.takesInitializers = true ∧ ∀ i ∈ p.inits, i.field ≠ "")) ∧
    ∀ count, (p.mergeInto d).answer = .ok count →
      (p.inits = [] → (p.mergeInto d).after = d ∧ count = 0) ∧
        (p.inits ≠ [] → ∃ ready, d.Prepares ready ∧
          d.MergesExactly p.inits ready count (p.mergeInto d).after) := by
  refine ⟨exists_answer_mergeInto_iff, fun count done => ?_⟩
  rcases p.mergeInto_cases d with
    ⟨-, ⟨refusal, answer⟩, -⟩ | ⟨-, asksNothing, answer, after⟩ | ⟨-, -, -, answer, -⟩ |
      ⟨-, asks, -, -, answer, after⟩
  · cases answer.symm.trans done
  · cases answer.symm.trans done
    exact ⟨fun _ => ⟨after, rfl⟩, fun asks => absurd asksNothing asks⟩
  · cases answer.symm.trans done
  · cases answer.symm.trans done
    refine ⟨fun asksNothing => absurd asksNothing asks, fun _ => ?_⟩
    rw [after]
    exact ⟨_, d.prepares_ensureConstructor, d.mergesExactly_merged p.inits⟩

/-- A class whose constructors differ in what they assign. -/
def stockroom : TypeDecl where
  name := "Stockroom"
  members :=
    [.field ⟨"_items", "List<Item>", none⟩, .constructor {}, .method { name := "Clear" },
     .constructor
       { parameters := [⟨"items", "List<Item>"⟩]
         body := [.verbatim "Check();", .assignField "_items" (.argument "items")] }]

/-- A plan made by hand, which asks for an undeclared field twice. -/
def stockroomPlan : Plan where
  typeName := "Stockroom"
  inits := [⟨"_tags", "Bag"⟩, ⟨"_items", "List<Item>"⟩, ⟨"_tags", "Set<string>"⟩]

theorem stockroom_mergesExactly :
    (stockroomPlan.mergeInto stockroom).answer = .ok 5 ∧ stockroomPlan.inits ≠ [] ∧
      ∃ ready, stockroom.Prepares ready ∧ stockroom.MergesExactly stockroomPlan.inits ready 5
        (stockroomPlan.mergeInto stockroom).after := by
  have done : (stockroomPlan.mergeInto stockroom).answer = .ok 5 := rfl
  have asks : stockroomPlan.inits ≠ [] := by decide
  exact ⟨done, asks, ((stockroomPlan.mergeInto_exact stockroom).2 5 done).2 asks⟩

end Prologue
