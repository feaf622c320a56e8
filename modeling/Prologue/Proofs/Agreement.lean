import Mathlib.Data.List.Perm.Subperm
import Prologue.Proofs.Composition
import Prologue.Proofs.Planning

/-!
# Planning and merging agree

Planning asks about a field once for the whole type, and merging asks about it at every constructor.
`TypeDecl.isFieldInitialized_merged` connects the two questions: after a merge a field has a value
on every construction path exactly if it had one before or was asked for. So a plan that is made for
a declaration can be carried out on it, and what is left calls for nothing more.

The declaration is any declaration here, with or without a defect.
-/

namespace Prologue

namespace TypeDecl

variable {s : Settings} {d : TypeDecl} {inits : List FieldInit}

/-! ## What a merge leaves alone -/

@[simp] theorem getField?_merged (field : String) :
    (d.merged inits).getField? field = d.getField? field := by
  rw [getField?, fields_merged, getField?]

@[simp] theorem hasInitializer_merged (field : String) :
    (d.merged inits).hasInitializer field = d.hasInitializer field := by
  rw [hasInitializer, getField?_merged, hasInitializer]

@[simp] theorem callsFor_merged (f : Field) : (d.merged inits).callsFor s f = d.callsFor s f := by
  rw [callsFor, takesInitializers_merged, callsFor]

@[simp] theorem objection?_merged (p : Property) :
    (d.merged inits).objection? s p = d.objection? s p := by
  simp only [objection?, getField?_merged, name_merged, callsFor_merged]

/-! ## What a merge fills in -/

/-- A merge looks at constructors that all assign a field exactly if the type has constructors and
all of these do. -/
theorem all_assigns_ensureConstructor (takes : d.takesInitializers = true) (field : String) :
    d.ensureConstructor.constructors.all (·.assigns field) = d.constructorsAssign field := by
  by_cases none : d.constructors = []
  · have made : d.ensureConstructor.constructors = [{}] := by
      have nonempty := constructors_ensureConstructor_ne_nil takes
      rw [constructors_ensureConstructor] at nonempty ⊢
      split
      · rfl
      · simp_all
    rw [made, constructorsAssign, none]
    rfl
  · rw [ensureConstructor_eq_self none, constructorsAssign]
    simp [none]

theorem exists_assigns_eq_false {field : String} (takes : d.takesInitializers = true)
    (unset : d.constructorsAssign field = false) :
    ∃ c ∈ d.ensureConstructor.constructors, c.assigns field = false := by
  rw [← all_assigns_ensureConstructor takes, List.all_eq_false] at unset
  simpa using unset

theorem constructorsAssign_merged (takes : d.takesInitializers = true) (field : String) :
    (d.merged inits).constructorsAssign field =
      (d.constructorsAssign field || inits.any (·.field == field)) := by
  have nonempty : (d.merged inits).constructors.isEmpty = false := by
    simpa using constructors_merged_ne_nil takes
  rw [constructorsAssign, nonempty, constructors_merged, List.all_map,
    ← all_assigns_ensureConstructor takes]
  cases asked : inits.any (·.field == field) with
  | false => simp [Function.comp_def, Constructor.assigns_completed, asked]
  | true => simp [Function.comp_def, Constructor.assigns_completed, asked]

/-- After a merge a field has a value on every construction path exactly if it had one before or was
asked for. -/
theorem isFieldInitialized_merged (takes : d.takesInitializers = true) {field : String}
    (named : field ≠ "") :
    (d.merged inits).isFieldInitialized field =
      .ok (d.hasInitializer field || d.constructorsAssign field ||
        inits.any (·.field == field)) := by
  rw [isFieldInitialized_of_ne named, hasInitializer_merged, constructorsAssign_merged takes,
    Bool.or_assoc]

/-! ## Counting what is put in -/

theorem length_flatMap_missing_le (cs : List Constructor) :
    (cs.flatMap (·.missing inits)).length ≤ inits.length * cs.length := by
  induction cs with
  | nil => exact Nat.zero_le _
  | cons c cs ih =>
      have here := c.missing_length_le inits
      rw [List.flatMap_cons, List.length_append, List.length_cons, Nat.mul_succ]
      omega

theorem missingCount_le :
    d.missingCount inits ≤ inits.length * (d.merged inits).constructors.length := by
  rw [constructors_merged, List.length_map]
  exact length_flatMap_missing_le _

/-! ## The plan for a declaration, carried out on it -/

section Planned

variable {p : Plan} (planned : (d.plan s).answer = .ok p)

include planned

theorem typeName_of_planned : p.typeName = d.name := by
  rw [(answer_plan_eq_ok_iff.1 planned).2]
  rfl

theorem field_ne_empty_of_planned {i : FieldInit} (asked : i ∈ p.inits) : i.field ≠ "" := by
  rw [(answer_plan_eq_ok_iff.1 planned).2] at asked
  exact field_ne_empty_of_mem_inits asked

theorem takesInitializers_of_planned (asks : p.inits ≠ []) : d.takesInitializers = true := by
  obtain ⟨i, asked⟩ := List.exists_mem_of_ne_nil _ asks
  obtain ⟨q, -, f, -, -, -, calls, -⟩ := (mem_inits_iff planned).1 asked
  exact (Bool.and_eq_true_iff.1 calls).1

/-- The plan for a declaration can be carried out on it. -/
theorem mergeInto_of_planned :
    (p.mergeInto d).answer = .ok (d.missingCount p.inits) ∧
      (p.mergeInto d).after = if p.inits = [] then d else d.merged p.inits :=
  Plan.mergeInto_of_named (typeName_of_planned planned) (takesInitializers_of_planned planned)
    fun _ => field_ne_empty_of_planned planned

theorem answer_mergeInto_of_planned :
    (p.mergeInto d).answer = .ok (d.missingCount p.inits) :=
  (mergeInto_of_planned planned).1

theorem after_mergeInto_of_planned :
    (p.mergeInto d).after = if p.inits = [] then d else d.merged p.inits :=
  (mergeInto_of_planned planned).2

theorem exists_misses_of_planned {i : FieldInit} (asked : i ∈ p.inits) :
    ∃ c ∈ d.ensureConstructor.constructors, c.assigns i.field = false := by
  have takes := takesInitializers_of_planned planned (List.ne_nil_of_mem asked)
  have named := field_ne_empty_of_planned planned asked
  obtain ⟨q, -, f, -, -, rfl, -, unset⟩ := (mem_inits_iff planned).1 asked
  rw [isFieldInitialized_of_ne named, Except.ok.injEq, Bool.or_eq_false_iff] at unset
  exact exists_assigns_eq_false takes unset.2

/-- Carrying the plan out puts in the assignments that are asked for, each of them somewhere, and
nothing else. -/
theorem receives_of_planned :
    ∃ prologue, d.Receives prologue (p.mergeInto d).after ∧
      d.missingCount p.inits = (d.ensureConstructor.constructors.flatMap prologue).length ∧
      ∀ statement, (∃ c ∈ d.ensureConstructor.constructors, statement ∈ prologue c) ↔
        ∃ i ∈ p.inits, statement = i.toStmt := by
  rw [after_mergeInto_of_planned planned]
  split
  · next asksNothing =>
      refine ⟨_, .nothing, ?_, fun statement => ?_⟩
      · simp [asksNothing, missingCount_nil]
      · simp [asksNothing]
  · refine ⟨_, .prologues fun c => (c.missing p.inits).map (·.toStmt), ?_, fun statement => ?_⟩
    · rw [← List.map_flatMap, List.length_map, missingCount]
    · refine ⟨?_, ?_⟩
      · intro inserted
        rcases inserted with ⟨c, listed, put⟩
        obtain ⟨i, missing, rfl⟩ := List.mem_map.1 put
        exact ⟨i, (Constructor.mem_missing.1 missing).1, rfl⟩
      · intro expected
        rcases expected with ⟨i, asked, rfl⟩
        obtain ⟨c, listed, misses⟩ := exists_misses_of_planned planned asked
        exact ⟨c, listed, List.mem_map_of_mem (Constructor.mem_missing.2 ⟨asked, misses⟩)⟩

/-- A plan asks for nothing twice, so at least as many assignments are missing as it asks for. -/
theorem length_le_missingCount : p.inits.length ≤ d.missingCount p.inits := by
  have distinct : p.inits.Nodup := by
    rw [(answer_plan_eq_ok_iff.1 planned).2]
    exact nodup_eraseDups _
  have found : p.inits ⊆ d.ensureConstructor.constructors.flatMap (·.missing p.inits) := by
    intro i asked
    obtain ⟨c, listed, misses⟩ := exists_misses_of_planned planned asked
    exact List.mem_flatMap.2 ⟨c, listed, Constructor.mem_missing.2 ⟨asked, misses⟩⟩
  exact (distinct.subperm found).length_le

/-- Nothing is missing for a property once what was planned is put in. -/
theorem lacking?_merged_of_planned {q : Property} (declared : q ∈ d.properties)
    (asks : p.inits ≠ []) : (d.merged p.inits).lacking? s q = none := by
  -- What is still missing was missing before, so it was planned and has been put in.
  rw [Option.eq_none_iff_forall_ne_some]
  intro i lacking
  obtain ⟨f, returns, found, rfl, calls, unset⟩ := lacking?_eq_some_iff.1 lacking
  have takes := takesInitializers_of_planned planned asks
  have named : f.name ≠ "" := by
    intro unnamed
    cases (congrArg (d.merged p.inits).isFieldInitialized unnamed).symm.trans unset
  rw [isFieldInitialized_merged takes named, Except.ok.injEq, Bool.or_eq_false_iff] at unset
  have before : d.isFieldInitialized f.name = .ok false := by
    rw [isFieldInitialized_of_ne named, unset.1]
  have asked : (⟨f.name, f.typeName⟩ : FieldInit) ∈ p.inits := by
    rw [getField?_merged] at found
    rw [callsFor_merged] at calls
    exact (mem_inits_iff planned).2 ⟨q, declared, f, returns, found, rfl, calls, before⟩
  have notAsked := List.any_eq_false.1 unset.2 _ asked
  exact notAsked (beq_self_eq_true _)

/-- What is left of a plan once it is carried out. -/
theorem plan_merged_of_planned (asks : p.inits ≠ []) :
    ((d.merged p.inits).plan s).answer = .ok { p with inits := [] } := by
  obtain ⟨fine, exact⟩ := answer_plan_eq_ok_iff.1 planned
  have nothing : d.properties.filterMap ((d.merged p.inits).lacking? s) = [] :=
    List.filterMap_eq_nil_iff.2 fun q declared => lacking?_merged_of_planned planned declared asks
  refine answer_plan_eq_ok_iff.2 ⟨?_, ?_⟩
  · intro q declared
    rw [properties_merged] at declared
    rw [objection?_merged]
    exact fine q declared
  · rw [properties_merged, planFor, nothing, name_merged, exact]
    rfl

theorem mergeInto_merged_of_planned (asks : p.inits ≠ []) :
    (p.mergeInto (d.merged p.inits)).answer = .ok 0 ∧
      (p.mergeInto (d.merged p.inits)).after = d.merged p.inits := by
  have takes := takesInitializers_of_planned planned asks
  have own : p.typeName = (d.merged p.inits).name := by
    rw [name_merged, typeName_of_planned planned]
  have takesAfter : (d.merged p.inits).takesInitializers = true := by
    rw [takesInitializers_merged, takes]
  rw [Plan.mergeInto_eq own asks takesAfter fun _ => field_ne_empty_of_planned planned,
    missingCount_merged_self takes, merged_merged takes, followedBy_self]
  exact ⟨rfl, rfl⟩

theorem merged_ne_self (asks : p.inits ≠ []) : d.merged p.inits ≠ d := by
  intro same
  have bound := length_le_missingCount planned
  rw [← same, missingCount_merged_self (takesInitializers_of_planned planned asks)] at bound
  exact asks (List.eq_nil_of_length_eq_zero (Nat.le_zero.1 bound))

end Planned

/-- The plan `p` for the declaration `d` is carried out: `count` statements are put in, which are
`prologue c` in front of the body of every constructor `c`, and `after` is left. Every assignment
that the plan asks for is put in somewhere, and on the whole no more than all of them in every
constructor; the plan for what is left differs in asking for nothing; carrying `p` out again does
nothing; and the declaration is changed exactly if `p` asks for something. -/
structure CarriesOut (s : Settings) (d : TypeDecl) (p : Plan) (count : Nat) (after : TypeDecl)
    (prologue : Constructor → List Stmt) : Prop where
  answered : (p.mergeInto d).answer = .ok count
  left : (p.mergeInto d).after = after
  received : d.Receives prologue after
  counted : count = (d.ensureConstructor.constructors.flatMap prologue).length
  enough : p.inits.length ≤ count
  bounded : count ≤ p.inits.length * after.constructors.length
  assigned : ∀ i ∈ p.inits, ∃ c ∈ d.ensureConstructor.constructors, i.toStmt ∈ prologue c
  replanned : (after.plan s).answer = .ok { p with inits := [] }
  repeated : (p.mergeInto after).answer = .ok 0 ∧ (p.mergeInto after).after = after
  changed : after = d ↔ p.inits = []

/-- **Planning and merging agree.** A plan that is made for a declaration can be carried out on it,
whether or not the declaration has a defect. -/
theorem merge_of_plan_agrees {s : Settings} {d : TypeDecl} {p : Plan}
    (planned : (d.plan s).answer = .ok p) :
    ∃ count after prologue, d.CarriesOut s p count after prologue := by
  obtain ⟨prologue, received, counted, put⟩ := receives_of_planned planned
  have answered := answer_mergeInto_of_planned planned
  have enough := length_le_missingCount planned
  have assigned (i : FieldInit) (asked : i ∈ p.inits) :
      ∃ c ∈ d.ensureConstructor.constructors, i.toStmt ∈ prologue c :=
    (put i.toStmt).2 ⟨i, asked, rfl⟩
  have left := after_mergeInto_of_planned planned
  refine ⟨d.missingCount p.inits, (p.mergeInto d).after, prologue, ?_⟩
  by_cases asks : p.inits = []
  · have unchanged := Plan.mergeInto_of_inits_eq_nil (typeName_of_planned planned) asks
    rw [if_pos asks] at left
    refine ⟨answered, rfl, received, counted, enough, ?_, assigned, ?_, ?_, ?_⟩ <;> rw [left]
    · rw [asks, missingCount_nil]
      exact Nat.zero_le _
    · rw [planned, ← asks]
    · rw [unchanged]
      exact ⟨rfl, rfl⟩
    · exact iff_of_true rfl asks
  · rw [if_neg asks] at left
    refine ⟨answered, rfl, received, counted, enough, ?_, assigned, ?_, ?_, ?_⟩ <;> rw [left]
    · exact missingCount_le
    · exact plan_merged_of_planned planned asks
    · exact mergeInto_merged_of_planned planned asks
    · exact iff_of_false (merged_ne_self planned asks) asks

/-- An order whose two constructors differ in what they assign. Two properties return the items,
and a second field of their name is a defect that planning does not mind. -/
def mixedOrder : TypeDecl where
  name := "Order"
  members :=
    [.field ⟨"_items", "List<Item>", none⟩, .field ⟨"_tags", "Collection<string>", none⟩,
     .field ⟨"_items", "int", none⟩, .property (.auto "Items" "List<Item>" "_items"),
     .property (.auto "All" "List<Item>" "_items"), .property ⟨"Count", "int", [], []⟩,
     .property (.auto "Tags" "Collection<string>" "_tags"), .constructor {},
     .constructor { body := [.assignField "_items" (.createEmpty "List<Item>")] }]

theorem merge_of_mixedOrder_plan :
    ∃ p, p.inits = [⟨"_items", "List<Item>"⟩, ⟨"_tags", "Collection<string>"⟩] ∧
      (mixedOrder.plan {}).answer = .ok p ∧
      ∃ count after prologue, mixedOrder.CarriesOut {} p count after prologue := by
  have planned : (mixedOrder.plan {}).answer =
      .ok (mixedOrder.planFor {} mixedOrder.properties) := rfl
  exact ⟨_, by decide, planned, merge_of_plan_agrees planned⟩

end TypeDecl

end Prologue
