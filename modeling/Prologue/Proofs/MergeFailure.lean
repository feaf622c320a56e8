import Prologue.Proofs.Verdict

/-!
# When a merge fails

A merge can fail before it changes anything, or while it goes through the constructors. In the
second case a class may have been given its constructor already, and this is all that a failure
leaves behind: the first constructor is asked about every field of the plan before its body changes,
so a field without a name is found while all bodies are still as they were.

* `Plan.FailsWith p d e` names the ways of failing.
* `TypeDecl.LeftBy d e left` says what a failure leaves, and that it is forgotten: whatever is done
  afterwards, the next plan that is carried out leaves what it would have left without the failure.
* `Plan.mergeInto_fails_exactly` puts the two together, for any plan and any declaration.
-/

namespace Prologue

/-! ## The ways of failing -/

/-- A merge with the plan fails. The plan is refused if it is made for a type of another name, or
asks for something where no assignment can be made. Otherwise it fails if one of the fields that it
asks for has no name. -/
inductive Plan.FailsWith (p : Plan) (d : TypeDecl) : Failure → Prop
  | foreign : p.typeName ≠ d.name →
    FailsWith p d (.refused (.foreignPlan p.typeName d.name))
  | noConstructorBody : p.typeName = d.name → p.inits ≠ [] →
    d.kind = .interfaceType ∨ d.kind = .enumType ∨
      d.kind = .structType ∧ d.constructors = [] →
    FailsWith p d (.refused (.noConstructorBody d.kind d.name))
  | unnamed : p.typeName = d.name →
    d.kind = .classType ∨ d.kind = .structType ∧ d.constructors ≠ [] →
    (∃ i ∈ p.inits, i.field = "") → FailsWith p d (.lookup .emptyFieldName)

theorem Plan.answer_mergeInto_eq_error_iff {p : Plan} {d : TypeDecl} {e : Failure} :
    (p.mergeInto d).answer = .error e ↔ p.FailsWith d e := by
  refine ⟨?_, ?_⟩
  · intro failed
    by_cases own : p.typeName = d.name
    · rcases p.mergeInto_cases d with
        ⟨foreign | ⟨asks, takes⟩, -, -⟩ | ⟨-, -, answer, -⟩ | ⟨-, takes, unnamed, answer, -⟩ |
          ⟨-, -, -, -, answer, -⟩
      · exact absurd own foreign
      · rw [mergeInto_of_noConstructorBody own asks takes] at failed
        cases failed
        exact .noConstructorBody own asks (TypeDecl.takesInitializers_eq_false_iff.1 takes)
      · cases answer.symm.trans failed
      · cases answer.symm.trans failed
        exact .unnamed own (TypeDecl.takesInitializers_iff.1 takes) unnamed
      · cases answer.symm.trans failed
    · rw [mergeInto_of_foreign own] at failed
      cases failed
      exact .foreign own
  · intro fails
    cases fails with
    | foreign foreign => rw [mergeInto_of_foreign foreign]
    | noConstructorBody own asks takesNone =>
        rw [mergeInto_of_noConstructorBody own asks
          (TypeDecl.takesInitializers_eq_false_iff.2 takesNone)]
    | unnamed own takes unnamed =>
        rw [mergeInto_of_unnamed own (TypeDecl.takesInitializers_iff.2 takes) unnamed]

/-! ## What a failure leaves -/

/-- The statements of a member, in its accessors or in its body. -/
def Member.statements : Member → List Stmt
  | property p => p.getter ++ p.setter
  | constructor c => c.body
  | method m => m.body
  | field _ | verbatim _ => []

namespace TypeDecl

variable {s : Settings} {d e : TypeDecl}

/-- The statements of the members, in order. -/
def statements (d : TypeDecl) : List Stmt := d.members.flatMap (·.statements)

/-- The declaration `left` is what the failure `e` leaves of `d`. -/
structure LeftBy (d : TypeDecl) (e : Failure) (left : TypeDecl) : Prop where
  same : e ≠ .lookup .emptyFieldName ∨ d.kind ≠ .classType ∨ d.constructors ≠ [] → left = d
  /-- A class is left with a constructor that does nothing, directly after its last field, or in
  front if no field is declared. -/
  given : e = .lookup .emptyFieldName → d.kind = .classType → d.constructors = [] →
    ∃ before after, d.members = before ++ after ∧
      left = { d with members := before ++ .constructor {} :: after } ∧
      (∀ m ∈ before.getLast?, m.isField = true) ∧ ∀ m ∈ after, m.isField = false
  statements : left.statements = d.statements
  /-- After the same operations, a plan that asks for something is answered as if the failure had
  not been, and if it is carried out then it leaves the same. -/
  forgotten : ∀ (operations : List Operation) (p : Plan), p.inits ≠ [] →
    (p.mergeInto (Operation.afterAll left operations)).answer =
        (p.mergeInto (Operation.afterAll d operations)).answer ∧
      ∀ count, (p.mergeInto (Operation.afterAll left operations)).answer = .ok count →
        (p.mergeInto (Operation.afterAll left operations)).after =
          (p.mergeInto (Operation.afterAll d operations)).after

theorem statements_ensureConstructor : d.ensureConstructor.statements = d.statements := by
  unfold ensureConstructor
  split
  · obtain ⟨before, after, whole, -, -, inserted⟩ := exists_afterLastField d.members
    simp only [statements, inserted]
    rw [whole, List.flatMap_append, List.flatMap_append, List.flatMap_cons]
    rfl
  · rfl

/-- A failure leaves the declaration as it was, or has given it a constructor. -/
theorem after_mergeInto_of_error {p : Plan} {e : Failure}
    (failed : (p.mergeInto d).answer = .error e) :
    (p.mergeInto d).after = if e = .lookup .emptyFieldName then d.ensureConstructor else d := by
  cases Plan.answer_mergeInto_eq_error_iff.1 failed with
  | foreign foreign => rw [Plan.mergeInto_of_foreign foreign]; rfl
  | noConstructorBody own asks takesNone =>
      rw [Plan.mergeInto_of_noConstructorBody own asks (takesInitializers_eq_false_iff.2 takesNone)]
      rfl
  | unnamed own takes unnamed =>
      rw [Plan.mergeInto_of_unnamed own (takesInitializers_iff.2 takes) unnamed]
      rfl

/-! ## A constructor that does nothing -/

/-- The declarations are the same, or the second one is the first one with the constructor that a
merge gives to a class. -/
def SameOrGiven (d e : TypeDecl) : Prop := e = d ∨ e = d.ensureConstructor

theorem isFieldInitialized_ensureConstructor (field : String) :
    d.ensureConstructor.isFieldInitialized field = d.isFieldInitialized field := by
  cases lacks : d.lacksConstructor with
  | true =>
      have declared : d.ensureConstructor.hasInitializer field = d.hasInitializer field := by
        rw [hasInitializer, getField?, fields_ensureConstructor, hasInitializer, getField?]
      have before : d.constructorsAssign field = false := by
        rw [constructorsAssign, (lacksConstructor_iff.1 lacks).2]
        rfl
      have given : d.ensureConstructor.constructorsAssign field = false := by
        rw [constructorsAssign, constructors_ensureConstructor, lacks]
        rfl
      exact isFieldInitialized_congr declared (given.trans before.symm)
  | false => rw [ensureConstructor_of_not_lacks lacks]

/-- Planning does not notice the constructor. -/
theorem plan_ensureConstructor : d.ensureConstructor.plan s = d.plan s := by
  have steps : d.ensureConstructor.planProperty s = d.planProperty s := by
    funext plan p
    simp only [planProperty, planField, getField?, name_ensureConstructor,
      fields_ensureConstructor, takesInitializers_ensureConstructor,
      isFieldInitialized_ensureConstructor]
  simp only [plan, steps, name_ensureConstructor, kind_ensureConstructor,
    takesInitializers_ensureConstructor, properties_ensureConstructor]

theorem merged_ensureConstructor (inits : List FieldInit) :
    d.ensureConstructor.merged inits = d.merged inits := by
  rw [merged, ensureConstructor_ensureConstructor, merged]

theorem missingCount_ensureConstructor (inits : List FieldInit) :
    d.ensureConstructor.missingCount inits = d.missingCount inits := by
  rw [missingCount, ensureConstructor_ensureConstructor, missingCount]

/-- **One merge.** It is answered the same way for both declarations, and leaves the same if it puts
something in. -/
theorem SameOrGiven.merge (related : d.SameOrGiven e) (p : Plan) :
    (p.mergeInto e).answer = (p.mergeInto d).answer ∧
      (p.mergeInto d).after.SameOrGiven (p.mergeInto e).after ∧
      (p.inits ≠ [] → ∀ count, (p.mergeInto d).answer = .ok count →
        (p.mergeInto e).after = (p.mergeInto d).after) := by
  obtain rfl | rfl := related
  · exact ⟨rfl, Or.inl rfl, fun _ _ _ => rfl⟩
  have takesAs : d.ensureConstructor.takesInitializers = d.takesInitializers :=
    takesInitializers_ensureConstructor
  by_cases own : p.typeName = d.name
  · have ownToo := own.trans name_ensureConstructor.symm
    rcases p.mergeInto_cases d with
      ⟨foreign | ⟨asks, takes⟩, -, -⟩ | ⟨-, asksNothing, -, -⟩ | ⟨-, takes, unnamed, -, -⟩ |
        ⟨-, asks, takes, named, -, -⟩
    · exact absurd own foreign
    · rw [Plan.mergeInto_of_noConstructorBody ownToo asks (takesAs.trans takes),
        Plan.mergeInto_of_noConstructorBody own asks takes, name_ensureConstructor,
        kind_ensureConstructor]
      exact ⟨rfl, Or.inr rfl, fun _ _ done => nomatch done⟩
    · rw [Plan.mergeInto_of_inits_eq_nil ownToo asksNothing,
        Plan.mergeInto_of_inits_eq_nil own asksNothing]
      exact ⟨rfl, Or.inr rfl, fun asks => absurd asksNothing asks⟩
    · rw [Plan.mergeInto_of_unnamed ownToo (takesAs.trans takes) unnamed,
        Plan.mergeInto_of_unnamed own takes unnamed, ensureConstructor_ensureConstructor]
      exact ⟨rfl, Or.inl rfl, fun _ _ _ => rfl⟩
    · rw [Plan.mergeInto_eq ownToo asks (takesAs.trans takes) named,
        Plan.mergeInto_eq own asks takes named, missingCount_ensureConstructor,
        merged_ensureConstructor]
      exact ⟨rfl, Or.inl rfl, fun _ _ _ => rfl⟩
  · have foreign : p.typeName ≠ d.ensureConstructor.name := by rwa [name_ensureConstructor]
    rw [Plan.mergeInto_of_foreign foreign, Plan.mergeInto_of_foreign own, name_ensureConstructor]
    exact ⟨rfl, Or.inr rfl, fun _ _ done => nomatch done⟩

theorem SameOrGiven.complete (related : d.SameOrGiven e) (s : Settings) :
    (d.complete s).after.SameOrGiven (e.complete s).after := by
  obtain rfl | rfl := related
  · exact Or.inl rfl
  have answered : (d.ensureConstructor.plan s).answer = (d.plan s).answer := by
    rw [plan_ensureConstructor]
  rcases complete_cases s d with
    ⟨defect, found, -, after⟩ | ⟨e, fine, failed, -, after⟩ | ⟨p, fine, planned, -, after⟩
  · rw [after, complete_of_defect (defect?_ensureConstructor.trans found)]
    exact Or.inr rfl
  · have sound := defect?_ensureConstructor.trans (defect?_eq_none_iff.2 fine)
    rw [after, (complete_of_plan_error sound (answered.trans failed)).2]
    exact Or.inr rfl
  · have sound := defect?_ensureConstructor.trans (defect?_eq_none_iff.2 fine)
    rw [after, (complete_of_planned sound (answered.trans planned)).2]
    exact (SameOrGiven.merge (Or.inr rfl) p).2.1

theorem SameOrGiven.afterAll (related : d.SameOrGiven e) (operations : List Operation) :
    (Operation.afterAll d operations).SameOrGiven (Operation.afterAll e operations) := by
  induction operations generalizing d e with
  | nil => exact related
  | cons o operations ih =>
      refine ih ?_
      cases o with
      | merge p => exact (related.merge p).2.1
      | complete s => exact related.complete s

/-! ## The failure as a whole -/

theorem leftBy_of_error {p : Plan} {e : Failure} (failed : (p.mergeInto d).answer = .error e) :
    d.LeftBy e (p.mergeInto d).after := by
  have left := after_mergeInto_of_error failed
  refine ⟨fun settled => ?_, fun unnamed kind none => ?_, ?_, fun operations q asks => ?_⟩
  · rw [left]
    split
    · next unnamed =>
        have has : d.lacksConstructor = false := by
          rw [Bool.eq_false_iff, ne_eq, lacksConstructor_iff, not_and_or]
          exact settled.resolve_left (not_not_intro unnamed)
        exact ensureConstructor_of_not_lacks has
    · rfl
  · obtain ⟨before, after, whole, last, others, inserted⟩ := exists_afterLastField d.members
    refine ⟨before, after, whole, ?_, last, others⟩
    rw [left, if_pos unnamed, ensureConstructor, if_pos (lacksConstructor_iff.2 ⟨kind, none⟩),
      inserted]
  · rw [left]
    split
    · exact statements_ensureConstructor
    · rfl
  · have related : d.SameOrGiven (p.mergeInto d).after := by
      rw [left]
      split
      · exact Or.inr rfl
      · exact Or.inl rfl
    obtain ⟨answer, -, after⟩ := (related.afterAll operations).merge q
    exact ⟨answer, fun count done => after asks count (answer.symm.trans done)⟩

end TypeDecl

/-- **When a merge fails.** A merge fails exactly in the ways that are named, and leaves behind no
more than a constructor that does nothing, which is forgotten with the next plan that is carried
out. -/
theorem Plan.mergeInto_fails_exactly (p : Plan) (d : TypeDecl) :
    (∀ e, (p.mergeInto d).answer = .error e ↔ p.FailsWith d e) ∧
      ∀ e, (p.mergeInto d).answer = .error e → d.LeftBy e (p.mergeInto d).after :=
  ⟨fun _ => answer_mergeInto_eq_error_iff, fun _ failed => TypeDecl.leftBy_of_error failed⟩

/-- A class without a constructor, whose only field is not its last member. -/
def toolbox : TypeDecl where
  name := "Toolbox"
  members :=
    [.method { name := "Open" }, .field ⟨"_tools", "List<Tool>", none⟩,
     .property (.auto "Tools" "List<Tool>" "_tools")]

/-- A plan made by hand, whose last field has no name. -/
def unnamedPlan : Plan where
  typeName := "Toolbox"
  inits := [⟨"_tools", "List<Tool>"⟩, ⟨"", "Lid"⟩]

theorem toolbox_fails_exactly :
    (unnamedPlan.mergeInto toolbox).answer = .error (.lookup .emptyFieldName) ∧
      (unnamedPlan.mergeInto toolbox).after ≠ toolbox ∧
      toolbox.LeftBy (.lookup .emptyFieldName) (unnamedPlan.mergeInto toolbox).after := by
  have failed : (unnamedPlan.mergeInto toolbox).answer = .error (.lookup .emptyFieldName) := rfl
  exact ⟨failed, by decide, (unnamedPlan.mergeInto_fails_exactly toolbox).2 _ failed⟩

end Prologue
