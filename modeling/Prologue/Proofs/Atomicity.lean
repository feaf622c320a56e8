import Prologue.Completion
import Prologue.Proofs.Agreement
import Prologue.Proofs.WellFormed

/-!
# When completion fails

`TypeDecl.complete` checks, plans, merges and writes, and only the merge changes the declaration.
A merge can fail by itself, but not with the plan that was made for the declaration, so a failure
comes from the check or from planning and leaves the declaration as it was.

* `TypeDecl.complete_cases` tells the three ways that a completion can go.
* `TypeDecl.complete_fails_iff` names the failures: the defect of the declaration, or else the first
  property that returns an undeclared field.
-/

namespace Prologue

namespace TypeDecl

variable {s : Settings} {d : TypeDecl}

/-- The first property whose getter starts by returning an undeclared field, and the field. -/
def FirstDangling (d : TypeDecl) (p : Property) (field : String) : Prop :=
  d.Dangles p field ∧ ∃ before after, d.properties = before ++ p :: after ∧
    ∀ q ∈ before, ∀ other, ¬d.Dangles q other

/-! ## Planning for a well-formed declaration -/

/-- A well-formed declaration has no field without a name to ask about. -/
theorem WellFormed.objection?_eq_some_iff (fine : d.WellFormed) {p : Property} {e : Failure} :
    d.objection? s p = some e ↔
      ∃ field, d.Dangles p field ∧ e = .undeclaredField d.name p.name field := by
  rw [TypeDecl.objection?_eq_some_iff, or_iff_left]
  intro unnamed
  obtain ⟨f, -, found, -⟩ := unnamed
  exact fine.field_ne_empty (mem_fields_of_getField? found) (name_of_getField? found)

theorem WellFormed.objection?_eq_none_iff (fine : d.WellFormed) {p : Property} :
    d.objection? s p = none ↔ ∀ field, ¬d.Dangles p field := by
  rw [Option.eq_none_iff_forall_ne_some]
  refine ⟨?_, ?_⟩
  · intro silent field dangles
    exact silent _ (fine.objection?_eq_some_iff.2 ⟨field, dangles, rfl⟩)
  · intro sound e objects
    obtain ⟨field, dangles, -⟩ := fine.objection?_eq_some_iff.1 objects
    exact sound field dangles

theorem WellFormed.answer_plan_eq_error_iff (fine : d.WellFormed) {e : Failure} :
    (d.plan s).answer = .error e ↔
      ∃ p field, d.FirstDangling p field ∧ e = .undeclaredField d.name p.name field := by
  rw [TypeDecl.answer_plan_eq_error_iff, List.findSome?_eq_some_iff]
  refine ⟨?_, ?_⟩
  · intro stopped
    rcases stopped with ⟨before, p, after, split, objects, earlier⟩
    obtain ⟨field, dangles, rfl⟩ := fine.objection?_eq_some_iff.1 objects
    exact ⟨p, field, ⟨dangles, before, after, split,
      fun q listed => fine.objection?_eq_none_iff.1 (earlier q listed)⟩, rfl⟩
  · intro first
    rcases first with ⟨p, field, ⟨dangles, before, after, split, earlier⟩, rfl⟩
    exact ⟨before, p, after, split, fine.objection?_eq_some_iff.2 ⟨field, dangles, rfl⟩,
      fun q listed => fine.objection?_eq_none_iff.2 (earlier q listed)⟩

theorem WellFormed.exists_answer_plan_eq_ok_iff (fine : d.WellFormed) :
    (∃ p, (d.plan s).answer = .ok p) ↔ ∀ q ∈ d.properties, ∀ field, ¬d.Dangles q field := by
  simp only [answer_plan_eq_ok_iff, fine.objection?_eq_none_iff, exists_and_left, exists_eq,
    and_true]

/-! ## The ways of a completion -/

theorem complete_of_defect {defect : Defect} (found : d.defect? = some defect) :
    d.complete s = ⟨.error (.malformed defect), d, []⟩ := by
  rw [complete, found]

theorem complete_of_plan_error (fine : d.defect? = none) {e : Failure}
    (failed : (d.plan s).answer = .error e) :
    (d.complete s).answer = .error e ∧ (d.complete s).after = d := by
  simp only [complete, fine, failed, and_self]

theorem complete_of_planned (fine : d.defect? = none) {p : Plan}
    (planned : (d.plan s).answer = .ok p) :
    (d.complete s).answer = .ok ((p.mergeInto d).after.toSource s) ∧
      (d.complete s).after = (p.mergeInto d).after := by
  have carried := answer_mergeInto_of_planned planned
  simp only [complete, fine, planned, carried]
  exact ⟨rfl, trivial⟩

/-- **The three ways of a completion.** The declaration has a defect, or cannot be planned for, or
is merged with its plan. -/
theorem complete_cases (s : Settings) (d : TypeDecl) :
    (∃ defect, d.defect? = some defect ∧ (d.complete s).answer = .error (.malformed defect) ∧
        (d.complete s).after = d) ∨
      (∃ e, d.WellFormed ∧ (d.plan s).answer = .error e ∧ (d.complete s).answer = .error e ∧
        (d.complete s).after = d) ∨
      ∃ p, d.WellFormed ∧ (d.plan s).answer = .ok p ∧
        (d.complete s).answer = .ok ((p.mergeInto d).after.toSource s) ∧
        (d.complete s).after = (p.mergeInto d).after := by
  cases found : d.defect? with
  | some defect =>
      refine Or.inl ⟨defect, rfl, ?_⟩
      rw [complete_of_defect found]
      exact ⟨rfl, rfl⟩
  | none =>
      have fine := defect?_eq_none_iff.1 found
      cases answered : (d.plan s).answer with
      | error e => exact Or.inr (Or.inl ⟨e, fine, rfl, complete_of_plan_error found answered⟩)
      | ok p => exact Or.inr (Or.inr ⟨p, fine, rfl, complete_of_planned found answered⟩)

theorem exists_planned_of_complete {text : String} (done : (d.complete s).answer = .ok text) :
    ∃ p, d.WellFormed ∧ (d.plan s).answer = .ok p ∧ text = (p.mergeInto d).after.toSource s ∧
      (d.complete s).after = (p.mergeInto d).after := by
  rcases complete_cases s d with
    ⟨defect, -, answer, -⟩ | ⟨e, -, -, answer, -⟩ | ⟨p, fine, planned, answer, after⟩
  · cases answer.symm.trans done
  · cases answer.symm.trans done
  · exact ⟨p, fine, planned, Except.ok.inj (done.symm.trans answer), after⟩

theorem answer_complete_eq_error_iff {e : Failure} :
    (d.complete s).answer = .error e ↔
      (∃ defect, d.defect? = some defect ∧ e = .malformed defect) ∨
      (d.defect? = none ∧ ∃ p field, d.FirstDangling p field ∧
        e = .undeclaredField d.name p.name field) := by
  refine ⟨?_, ?_⟩
  · intro failed
    rcases complete_cases s d with
      ⟨defect, found, answer, -⟩ | ⟨e', fine, planned, answer, -⟩ | ⟨p, -, -, answer, -⟩
    · cases answer.symm.trans failed
      exact Or.inl ⟨defect, found, rfl⟩
    · cases answer.symm.trans failed
      exact Or.inr ⟨defect?_eq_none_iff.2 fine, fine.answer_plan_eq_error_iff.1 planned⟩
    · cases answer.symm.trans failed
  · intro reason
    rcases reason with ⟨defect, found, rfl⟩ | ⟨sound, first⟩
    · rw [complete_of_defect found]
    · have fine := defect?_eq_none_iff.1 sound
      exact (complete_of_plan_error sound (fine.answer_plan_eq_error_iff.2 first)).1

theorem exists_answer_complete_eq_ok_iff :
    (∃ text, (d.complete s).answer = .ok text) ↔
      d.defect? = none ∧ ∀ p ∈ d.properties, ∀ field, ¬d.Dangles p field := by
  refine ⟨?_, ?_⟩
  · intro answered
    rcases answered with ⟨text, done⟩
    obtain ⟨p, fine, planned, -, -⟩ := exists_planned_of_complete done
    exact ⟨defect?_eq_none_iff.2 fine, fine.exists_answer_plan_eq_ok_iff.1 ⟨p, planned⟩⟩
  · intro silent
    rcases silent with ⟨sound, declared⟩
    have fine := defect?_eq_none_iff.1 sound
    obtain ⟨p, planned⟩ := fine.exists_answer_plan_eq_ok_iff (s := s) |>.2 declared
    exact ⟨_, (complete_of_planned sound planned).1⟩

theorem after_complete_of_error {e : Failure} (failed : (d.complete s).answer = .error e) :
    (d.complete s).after = d := by
  rcases complete_cases s d with
    ⟨defect, -, -, unchanged⟩ | ⟨e', -, -, -, unchanged⟩ | ⟨p, -, -, answer, -⟩
  · exact unchanged
  · exact unchanged
  · cases answer.symm.trans failed

/-- **When completion fails.** The failures are the defect of the declaration and, if it has none,
the first property that returns an undeclared field; otherwise there is an answer. A failure leaves
the declaration as it was and comes neither from a question about a field nor from the merge, which
never fails with the plan of a declaration without defect. -/
theorem complete_fails_iff (s : Settings) (d : TypeDecl) :
    (∀ e, (d.complete s).answer = .error e ↔
      (∃ defect, d.defect? = some defect ∧ e = .malformed defect) ∨
      (d.defect? = none ∧ ∃ p field, d.FirstDangling p field ∧
        e = .undeclaredField d.name p.name field)) ∧
    ((∃ text, (d.complete s).answer = .ok text) ↔
      d.defect? = none ∧ ∀ p ∈ d.properties, ∀ field, ¬d.Dangles p field) ∧
    (∀ e, (d.complete s).answer = .error e → (d.complete s).after = d ∧
      (∀ question, e ≠ .lookup question) ∧ ∀ refusal, e ≠ .refused refusal) ∧
    (d.defect? = none → ∀ p, (d.plan s).answer = .ok p →
      ∃ count, (p.mergeInto d).answer = .ok count) := by
  refine ⟨fun e => answer_complete_eq_error_iff, exists_answer_complete_eq_ok_iff,
    fun e failed => ⟨after_complete_of_error failed, ?_, ?_⟩,
    fun _ p planned => ⟨_, answer_mergeInto_of_planned planned⟩⟩
  · intro question same
    rcases answer_complete_eq_error_iff.1 failed with
      ⟨defect, -, named⟩ | ⟨-, p, field, -, named⟩ <;> cases same.symm.trans named
  · intro refusal same
    rcases answer_complete_eq_error_iff.1 failed with
      ⟨defect, -, named⟩ | ⟨-, p, field, -, named⟩ <;> cases same.symm.trans named

end TypeDecl

end Prologue
