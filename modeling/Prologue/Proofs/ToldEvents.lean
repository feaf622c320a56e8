import Mathlib.Data.List.Forall2
import Prologue.Proofs.ExactPlan
import Prologue.Proofs.MergeFailure

/-!
# What the events tell

Planning and merging tell events on their way, and the events agree with what comes of it.

* `TypeDecl.Steps` lists all that planning can do with one property: what it answers and the event
  that it tells, if it tells one.
* `TypeDecl.Recounts` is the agreement of the events about some properties with the answer. One step
  has it, it is kept where one walk goes on from another, and so the whole walk has it:
  `TypeDecl.recounts_foldlM_planProperty`.
* `TypeDecl.PlanLog` and `TypeDecl.CompletionLog` say what is told by planning and by a completion,
  and `TypeDecl.log_tells` that this is so for every declaration.
-/

namespace Prologue

/-! ## Kinds of events -/

namespace Event

/-- The event is about a property whose getter does not return a field. -/
def isNotBacked : Event → Bool
  | notBacked .. => true
  | _ => false

/-- The event is about a field that is to be assigned. -/
def isNeedsInitializer : Event → Bool
  | needsInitializer .. => true
  | _ => false

end Event

/-- The event that tells of the assignment, in a type of the name. -/
def FieldInit.event (typeName : TypeName) (i : FieldInit) : Event :=
  .needsInitializer typeName i.field i.typeName

/-- The warning that belongs to the answer, if there is one. -/
def warnings : Except Failure Plan → List Event
  | .error (.undeclaredField typeName property field) =>
    [.undeclaredField typeName property field]
  | _ => []

namespace TypeDecl

/-- The event tells something of the property. -/
inductive Tells (s : Settings) (d : TypeDecl) (p : Property) : Event → Prop
  | notBacked : (∀ field, ¬p.Returns field) → Tells s d p (.notBacked d.name p.name)
  | undeclaredField (field : String) : d.Dangles p field →
    Tells s d p (.undeclaredField d.name p.name field)
  | alreadyInitialized (f : Field) : p.Returns f.name → d.FirstField f.name f →
    d.callsFor s f = true → d.isFieldInitialized f.name = .ok true →
    Tells s d p (.alreadyInitialized d.name f.name)
  | needsInitializer (f : Field) : p.Returns f.name → d.FirstField f.name f →
    d.callsFor s f = true → d.isFieldInitialized f.name = .ok false →
    Tells s d p (.needsInitializer d.name f.name f.typeName)

/-! ## One property -/

/-- What planning can do with one more property. -/
inductive Steps (s : Settings) (d : TypeDecl) (plan : Plan) (p : Property) : Logged Plan → Prop
  | notBacked : (∀ field, ¬p.Returns field) →
    Steps s d plan p ⟨.ok (plan.addSkipped p.name), [.notBacked d.name p.name]⟩
  | undeclared (field : String) : d.Dangles p field →
    Steps s d plan p ⟨.error (.undeclaredField d.name p.name field),
      [.undeclaredField d.name p.name field]⟩
  /-- The field is not called for, or it is asked for already. -/
  | silent (f : Field) : p.Returns f.name →
    Steps s d plan p ⟨.ok (plan.addBinding p.name f.name), []⟩
  | unanswered (f : Field) (question : LookupError) : p.Returns f.name →
    d.isFieldInitialized f.name = .error question →
    Steps s d plan p ⟨.error (.lookup question), []⟩
  | initialized (f : Field) : p.Returns f.name → d.FirstField f.name f →
    d.callsFor s f = true → d.isFieldInitialized f.name = .ok true →
    Steps s d plan p ⟨.ok (plan.addBinding p.name f.name), [.alreadyInitialized d.name f.name]⟩
  | needed (f : Field) : p.Returns f.name → d.FirstField f.name f →
    d.callsFor s f = true → d.isFieldInitialized f.name = .ok false →
    Steps s d plan p ⟨.ok ((plan.addBinding p.name f.name).addInit f),
      [.needsInitializer d.name f.name f.typeName]⟩

variable {s : Settings} {d : TypeDecl}

theorem steps_planField (plan : Plan) {p : Property} {f : Field} (returns : p.Returns f.name)
    (first : d.FirstField f.name f) :
    d.Steps s plan p (d.planField s f (plan.addBinding p.name f.name)) := by
  rw [planField]
  split
  · exact .silent f returns
  · next asked =>
      have calls : d.callsFor s f = true := by
        rw [Bool.or_eq_true, not_or, ← Bool.not_and] at asked
        simpa [callsFor] using asked.1
      cases answered : d.isFieldInitialized f.name with
      | error question => exact .unanswered f question returns answered
      | ok initialized =>
          cases initialized with
          | true => exact .initialized f returns first calls answered
          | false => exact .needed f returns first calls answered

theorem steps_planProperty (plan : Plan) (p : Property) :
    d.Steps s plan p (d.planProperty s plan p) := by
  rw [planProperty]
  cases backing : p.backingFieldName? with
  | none =>
      refine .notBacked fun field returns => ?_
      cases backing.symm.trans (Property.returns_iff.1 returns)
  | some name =>
      have returns := Property.returns_iff.2 backing
      cases declared : d.getField? name with
      | none => simpa [declared] using .undeclared name ⟨returns, getField?_eq_none_iff.1 declared⟩
      | some f =>
          obtain rfl := name_of_getField? declared
          simpa [declared] using steps_planField plan returns (firstField_iff.2 declared)

/-! ## All properties -/

/-- What is told on the way from one plan over the properties agrees with what is answered. -/
structure Recounts (s : Settings) (d : TypeDecl) (ps : List Property) (plan : Plan)
    (walk : Logged Plan) : Prop where
  /-- There is at most one event about each property, in the order of the properties. -/
  told : List.SublistForall₂ (fun e p => d.Tells s p e) walk.log ps
  skipped : ∀ q, walk.answer = .ok q →
    q.skipped.map (.notBacked d.name) =
      plan.skipped.map (.notBacked d.name) ++ walk.log.filter (·.isNotBacked)
  inits : ∀ q, walk.answer = .ok q →
    q.inits.map (·.event d.name) =
      plan.inits.map (·.event d.name) ++ walk.log.filter (·.isNeedsInitializer)
  warned : ∃ quiet, (∀ e ∈ quiet, e.level = .debug) ∧ walk.log = quiet ++ warnings walk.answer

theorem Recounts.pure (plan : Plan) : d.Recounts s [] plan (pure plan) := by
  refine ⟨.nil, ?_, ?_, [], nofun, rfl⟩
  · rintro q ⟨⟩
    exact (List.append_nil _).symm
  · rintro q ⟨⟩
    exact (List.append_nil _).symm

/-- Events that are no warnings report what is answered if they tell of what is new in the plan. -/
theorem Recounts.of_ok {ps : List Property} {plan q : Plan} {log : List Event}
    (told : List.SublistForall₂ (fun e p => d.Tells s p e) log ps)
    (skipped : q.skipped.map (.notBacked d.name) =
      plan.skipped.map (.notBacked d.name) ++ log.filter (·.isNotBacked))
    (inits : q.inits.map (·.event d.name) =
      plan.inits.map (·.event d.name) ++ log.filter (·.isNeedsInitializer))
    (quiet : ∀ e ∈ log, e.level = .debug) : d.Recounts s ps plan ⟨.ok q, log⟩ := by
  refine ⟨told, ?_, ?_, log, quiet, (List.append_nil log).symm⟩
  · rintro _ ⟨⟩
    exact skipped
  · rintro _ ⟨⟩
    exact inits

theorem recounts_planProperty (plan : Plan) (p : Property) :
    d.Recounts s [p] plan (d.planProperty s plan p) := by
  have step := steps_planProperty (s := s) (d := d) plan p
  generalize d.planProperty s plan p = walk at step
  cases step with
  | notBacked none =>
      refine .of_ok (.cons (.notBacked none) .nil) ?_ ?_ ?_
      · exact List.map_append
      · exact (List.append_nil _).symm
      · exact List.forall_mem_singleton.2 rfl
  | undeclared field dangles =>
      exact ⟨.cons (.undeclaredField field dangles) .nil, nofun, nofun, [], nofun, rfl⟩
  | silent f returns =>
      refine .of_ok .nil ?_ ?_ nofun
      · exact (List.append_nil _).symm
      · exact (List.append_nil _).symm
  | unanswered f question returns failed =>
      exact ⟨.nil, nofun, nofun, [], nofun, rfl⟩
  | initialized f returns first calls set =>
      refine .of_ok (.cons (.alreadyInitialized f returns first calls set) .nil) ?_ ?_ ?_
      · exact (List.append_nil _).symm
      · exact (List.append_nil _).symm
      · exact List.forall_mem_singleton.2 rfl
  | needed f returns first calls unset =>
      refine .of_ok (.cons (.needsInitializer f returns first calls unset) .nil) ?_ ?_ ?_
      · exact (List.append_nil _).symm
      · exact List.map_append
      · exact List.forall_mem_singleton.2 rfl

theorem sublistForall₂_append {α β : Type} {R : α → β → Prop} {as bs : List α} {ps qs : List β}
    (first : List.SublistForall₂ R as ps) (second : List.SublistForall₂ R bs qs) :
    List.SublistForall₂ R (as ++ bs) (ps ++ qs) := by
  rw [List.sublistForall₂_iff] at first second ⊢
  obtain ⟨ps', related, part⟩ := first
  obtain ⟨qs', related', part'⟩ := second
  exact ⟨ps' ++ qs', List.rel_append related related', part.append part'⟩

/-- Where a walk goes on from another one, its events come behind. -/
theorem Recounts.bind {ps qs : List Property} {plan : Plan} {walk : Logged Plan}
    {next : Plan → Logged Plan} (first : d.Recounts s ps plan walk)
    (second : ∀ q, d.Recounts s qs q (next q)) : d.Recounts s (ps ++ qs) plan (walk >>= next) := by
  obtain ⟨answer, log⟩ := walk
  cases answer with
  | error e =>
      -- Nothing is told after a failure.
      have told := sublistForall₂_append first.told (List.SublistForall₂.nil (l := qs))
      rw [List.append_nil] at told
      exact ⟨told, nofun, nofun, first.warned⟩
  | ok q =>
      obtain ⟨quiet, calm, whole⟩ := first.warned
      obtain ⟨quiet', calm', whole'⟩ := (second q).warned
      refine ⟨sublistForall₂_append first.told (second q).told, ?_, ?_, quiet ++ quiet', ?_, ?_⟩
      · intro r answered
        rw [(second q).skipped r answered, first.skipped q rfl, List.append_assoc,
          ← List.filter_append]
        rfl
      · intro r answered
        rw [(second q).inits r answered, first.inits q rfl, List.append_assoc,
          ← List.filter_append]
        rfl
      · exact List.forall_mem_append.2 ⟨calm, calm'⟩
      · have plain : log = quiet := whole.trans (List.append_nil quiet)
        rw [Logged.ok_bind, plain, whole', List.append_assoc]

theorem recounts_foldlM_planProperty (ps : List Property) (plan : Plan) :
    d.Recounts s ps plan (ps.foldlM (d.planProperty s) plan) := by
  induction ps generalizing plan with
  | nil => exact .pure plan
  | cons p ps ih =>
      rw [List.foldlM_cons, ← List.singleton_append]
      exact (recounts_planProperty plan p).bind ih

/-! ## Planning -/

/-- What planning tells. -/
structure PlanLog (s : Settings) (d : TypeDecl) : Prop where
  /-- One event in front if no assignment can be made, and then at most one about each property, in
  the order of the properties. -/
  each : ∃ told, (d.plan s).log =
      (if d.takesInitializers then [] else [.noConstructorBody d.name d.kind]) ++ told ∧
    List.SublistForall₂ (fun e p => d.Tells s p e) told d.properties
  skipped : ∀ p, (d.plan s).answer = .ok p →
    (d.plan s).log.filter (·.isNotBacked) = p.skipped.map (.notBacked d.name)
  inits : ∀ p, (d.plan s).answer = .ok p →
    (d.plan s).log.filter (·.isNeedsInitializer) = p.inits.map (·.event d.name)
  warns : (∃ e ∈ (d.plan s).log, e.level = .warn) ↔
    ∃ typeName property field,
      (d.plan s).answer = .error (.undeclaredField typeName property field)
  /-- The warning comes last and tells of the failure. -/
  warned : ∀ typeName property field,
    (d.plan s).answer = .error (.undeclaredField typeName property field) →
      ∃ before, (d.plan s).log = before ++ [.undeclaredField typeName property field] ∧
        ∀ e ∈ before, e.level = .debug

theorem exists_warn_iff {quiet : List Event} (calm : ∀ e ∈ quiet, e.level = .debug)
    (answer : Except Failure Plan) :
    (∃ e ∈ quiet ++ warnings answer, e.level = .warn) ↔
      ∃ typeName property field, answer = .error (.undeclaredField typeName property field) := by
  refine ⟨?_, ?_⟩
  · rintro ⟨e, listed, warn⟩
    rcases List.mem_append.1 listed with listed | listed
    · cases warn.symm.trans (calm e listed)
    · unfold warnings at listed
      split at listed
      · exact ⟨_, _, _, rfl⟩
      · cases listed
  · rintro ⟨typeName, property, field, rfl⟩
    exact ⟨.undeclaredField typeName property field,
      List.mem_append_right quiet List.mem_cons_self, rfl⟩

theorem planLog (s : Settings) (d : TypeDecl) : d.PlanLog s := by
  have walk := recounts_foldlM_planProperty (s := s) (d := d) d.properties { typeName := d.name }
  have unfolded := plan_eq_foldlM s d
  generalize d.properties.foldlM (d.planProperty s) { typeName := d.name } = w at walk unfolded
  generalize shape : (if d.takesInitializers then [] else
    [Event.noConstructorBody d.name d.kind]) = lead at unfolded
  -- The event in front is no warning and belongs to no list of the plan.
  obtain ⟨calm, unlisted⟩ : (∀ e ∈ lead, e.level = .debug) ∧
      lead.filter (·.isNotBacked) = [] ∧ lead.filter (·.isNeedsInitializer) = [] := by
    rw [← shape]
    split
    · exact ⟨nofun, rfl, rfl⟩
    · exact ⟨List.forall_mem_singleton.2 rfl, rfl, rfl⟩
  have answer : (d.plan s).answer = w.answer := by rw [unfolded]
  have log : (d.plan s).log = lead ++ w.log := by rw [unfolded]
  obtain ⟨quiet, calm', whole⟩ := walk.warned
  have calmAll : ∀ e ∈ lead ++ quiet, e.level = .debug := List.forall_mem_append.2 ⟨calm, calm'⟩
  refine ⟨⟨w.log, shape.symm ▸ log, walk.told⟩, ?_, ?_, ?_, ?_⟩
  · intro p planned
    rw [log, List.filter_append, unlisted.1, List.nil_append]
    exact (walk.skipped p (answer ▸ planned)).symm
  · intro p planned
    rw [log, List.filter_append, unlisted.2, List.nil_append]
    exact (walk.inits p (answer ▸ planned)).symm
  · rw [log, whole, ← List.append_assoc, answer]
    exact exists_warn_iff calmAll w.answer
  · intro typeName property field failed
    refine ⟨lead ++ quiet, ?_, calmAll⟩
    rw [log, whole, ← answer, failed, List.append_assoc]
    rfl

/-! ## Completing -/

/-- What a completion tells. -/
structure CompletionLog (s : Settings) (d : TypeDecl) : Prop where
  /-- Nothing is told of a declaration with a defect. -/
  malformed : ∀ defect, (d.complete s).answer = .error (.malformed defect) →
    (d.complete s).log = []
  unplanned : ∀ e, (d.complete s).answer = .error e → (∀ defect, e ≠ .malformed defect) →
    (d.plan s).answer = .error e ∧ (d.complete s).log = (d.plan s).log
  /-- The number that is told is the number of the statements that have been put in. -/
  completed : ∀ text, (d.complete s).answer = .ok text → ∃ p count,
    (d.plan s).answer = .ok p ∧ (p.mergeInto d).answer = .ok count ∧
    (d.complete s).after.statements.length = d.statements.length + count ∧
    (d.complete s).log = (d.plan s).log ++
      ((if p.skipped = [] then [] else [.withoutBackingField d.name p.skipped.length]) ++
        (if d.kind = .classType ∧ d.constructors = [] ∧ p.inits ≠ [] then
          [.synthesizedConstructor d.name] else []) ++
        (if p.inits = [] then [] else [.inserted d.name count]))

/-- A constructor gets the assignments that it lacks. -/
theorem length_statements_mapConstructor (inits : List FieldInit) (m : Member) :
    (m.mapConstructor (Constructor.completed inits)).statements.length =
      m.statements.length + ((MemberKind.ofMember? (α := Constructor) m).map
        fun c => (c.missing inits).length).getD 0 := by
  cases m with
  | constructor c =>
      have completed : (c.completed inits).body.length =
          (c.missing inits).length + c.body.length := by
        simp [Constructor.completed, Constructor.precededBy]
      exact completed.trans (Nat.add_comm _ _)
  | _ => rfl

theorem length_statements_map (inits : List FieldInit) (ms : List Member) :
    ((ms.map (·.mapConstructor (Constructor.completed inits))).flatMap (·.statements)).length =
      (ms.flatMap (·.statements)).length +
        ((ms.filterMap (MemberKind.ofMember? (α := Constructor))).flatMap
          (·.missing inits)).length := by
  induction ms with
  | nil => rfl
  | cons m ms ih =>
      have here := length_statements_mapConstructor inits m
      rw [List.map_cons, List.flatMap_cons, List.flatMap_cons, List.length_append,
        List.length_append, ih, here, List.filterMap_cons]
      cases MemberKind.ofMember? (α := Constructor) m with
      | none => simp only [Option.map_none, Option.getD_none]; omega
      | some c =>
          simp only [Option.map_some, Option.getD_some, List.flatMap_cons, List.length_append]
          omega

/-- A merge puts in as many statements as are missing. -/
theorem length_statements_merged (inits : List FieldInit) :
    (d.merged inits).statements.length = d.statements.length + d.missingCount inits := by
  rw [← statements_ensureConstructor (d := d)]
  exact length_statements_map inits d.ensureConstructor.members

section Planned

variable {p : Plan} (planned : (d.plan s).answer = .ok p)

include planned

theorem length_statements_of_planned :
    (p.mergeInto d).after.statements.length = d.statements.length + d.missingCount p.inits := by
  rw [after_mergeInto_of_planned planned]
  split
  · next asksNothing => rw [asksNothing, missingCount_nil, Nat.add_zero]
  · exact length_statements_merged p.inits

theorem log_mergeInto_of_planned :
    (p.mergeInto d).log =
      (if d.kind = .classType ∧ d.constructors = [] ∧ p.inits ≠ [] then
          [.synthesizedConstructor d.name] else []) ++
        (if p.inits = [] then [] else [.inserted d.name (d.missingCount p.inits)]) := by
  have own := typeName_of_planned planned
  by_cases asks : p.inits = []
  · rw [Plan.mergeInto_of_inits_eq_nil own asks]
    simp [asks]
  · have takes := takesInitializers_of_planned planned asks
    rw [Plan.mergeInto_eq own asks takes fun _ => field_ne_empty_of_planned planned]
    simp only [lacksConstructor_iff, asks, ne_eq, not_false_eq_true, and_true, if_false]

theorem log_complete_of_planned (fine : d.defect? = none) :
    (d.complete s).log = (d.plan s).log ++ p.summary ++ (p.mergeInto d).log := by
  simp only [complete, fine, planned]

theorem summary_of_planned :
    p.summary =
      if p.skipped = [] then [] else [.withoutBackingField d.name p.skipped.length] := by
  simp only [Plan.summary, List.isEmpty_iff, typeName_of_planned planned]

end Planned

theorem completionLog (s : Settings) (d : TypeDecl) : d.CompletionLog s := by
  refine ⟨?_, ?_, ?_⟩
  · intro defect failed
    obtain ⟨_, found, -⟩ | ⟨-, p, field, -, undeclared⟩ := answer_complete_eq_error_iff.1 failed
    · rw [complete_of_defect found]
    · cases undeclared
  · intro e failed other
    rcases complete_cases s d with
      ⟨defect, -, answer, -⟩ | ⟨_, fine, stopped, answer, -⟩ | ⟨p, -, -, answer, -⟩
    · cases answer.symm.trans failed
      exact absurd rfl (other defect)
    · cases answer.symm.trans failed
      have sound := defect?_eq_none_iff.2 fine
      exact ⟨stopped, by simp only [complete, sound, stopped]⟩
    · cases answer.symm.trans failed
  · intro text done
    obtain ⟨p, fine, planned, -, after⟩ := exists_planned_of_complete done
    refine ⟨p, d.missingCount p.inits, planned, answer_mergeInto_of_planned planned, ?_, ?_⟩
    · rw [after, length_statements_of_planned planned]
    · rw [log_complete_of_planned planned (defect?_eq_none_iff.2 fine), summary_of_planned planned,
        log_mergeInto_of_planned planned, List.append_assoc, List.append_assoc]

/-- **What the events tell.** Planning tells, in the order of the properties, why one is skipped,
which fields are to be assigned and which are assigned already, and warns exactly if it fails at an
undeclared field. A completion goes on with what it found and did, and says nothing of a declaration
with a defect. -/
theorem log_tells (s : Settings) (d : TypeDecl) : d.PlanLog s ∧ d.CompletionLog s :=
  ⟨planLog s d, completionLog s d⟩

/-- A class without a constructor. Its properties give planning each of its reasons to tell
something or to be silent, and a reason to warn where `_count` is left out. -/
def registry : TypeDecl where
  name := "Registry"
  members :=
    [.field ⟨"_count", "int", none⟩, .field ⟨"_rows", "List<Row>", none⟩,
     .field ⟨"_tags", "List<string>", some (.createEmpty "List<string>")⟩,
     .property (.auto "Rows" "List<Row>" "_rows"),
     .property ⟨"Size", "int", [.verbatim "return _rows.Count;"], []⟩,
     .property (.auto "AllRows" "IEnumerable<Row>" "_rows"),
     .property (.auto "Count" "int" "_count"), .property (.auto "Tags" "List<string>" "_tags")]

theorem registry_log_tells :
    (registry.PlanLog {} ∧ registry.CompletionLog {}) ∧
      (registry.complete {}).log =
        [.needsInitializer "Registry" "_rows" "List<Row>", .notBacked "Registry" "Size",
         .alreadyInitialized "Registry" "_tags", .withoutBackingField "Registry" 1,
         .synthesizedConstructor "Registry", .inserted "Registry" 1] ∧
      plan {} { registry with members := registry.members.tail } =
        ⟨.error (.undeclaredField "Registry" "Count" "_count"),
          [.needsInitializer "Registry" "_rows" "List<Row>", .notBacked "Registry" "Size",
           .undeclaredField "Registry" "Count" "_count"]⟩ ∧
      (plan {} { registry with kind := .structType }).log =
        [.noConstructorBody "Registry" .structType, .notBacked "Registry" "Size"] ∧
      (complete {} { registry with name := "" }).log = [] :=
  ⟨log_tells {} registry, rfl, rfl, rfl, rfl⟩

end TypeDecl

end Prologue
