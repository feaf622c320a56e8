import Prologue.Proofs.Atomicity
import Prologue.Proofs.Verdict

/-!
# Completing twice

A plan that has been carried out asks for nothing any more, so the plan for a completed declaration
is empty and its merge leaves the declaration as it is. A merged declaration is also as free of
defects as it was before, so it gets as far as being planned for and written.

* `TypeDecl.complete_of_asksNothing` is the completion of a declaration that lacks nothing.
* `TypeDecl.complete_idempotent` says that a second completion repeats the first one's answer and
  changes nothing.
-/

namespace Prologue

namespace TypeDecl

variable {s : Settings} {d : TypeDecl}

/-- A plan that has been carried out asks for nothing any more. -/
theorem plan_after_merge {p : Plan} (planned : (d.plan s).answer = .ok p) :
    ((p.mergeInto d).after.plan s).answer = .ok { p with inits := [] } := by
  rw [after_mergeInto_of_planned planned]
  split
  · next asksNothing => rw [planned, ← asksNothing]
  · next asks => exact plan_merged_of_planned planned asks

/-- A declaration that has no defect and lacks nothing is written as it is. -/
theorem complete_of_asksNothing (sound : d.defect? = none) {p : Plan}
    (planned : (d.plan s).answer = .ok p) (asksNothing : p.inits = []) :
    (d.complete s).answer = .ok (d.toSource s) ∧ (d.complete s).after = d := by
  have done := complete_of_planned sound planned
  have unchanged := Plan.mergeInto_of_inits_eq_nil (typeName_of_planned planned) asksNothing
  rwa [unchanged] at done

theorem complete_after_of_ok {text : String} (done : (d.complete s).answer = .ok text) :
    ((d.complete s).after.complete s).answer = .ok text ∧
      ((d.complete s).after.complete s).after = (d.complete s).after := by
  obtain ⟨p, fine, planned, written, after⟩ := exists_planned_of_complete done
  have sound : (p.mergeInto d).after.defect? = none :=
    (defect?_after_merge p d).trans (defect?_eq_none_iff.2 fine)
  obtain ⟨again, unchanged⟩ := complete_of_asksNothing sound (plan_after_merge planned) rfl
  rw [after, written]
  exact ⟨again, unchanged⟩

/-- A failure leaves the declaration as it was, so it comes again. -/
theorem answer_complete_after (s : Settings) (d : TypeDecl) :
    ((d.complete s).after.complete s).answer = (d.complete s).answer := by
  cases answered : (d.complete s).answer with
  | error e => rw [after_complete_of_error answered, answered]
  | ok text => exact (complete_after_of_ok answered).1

theorem after_complete_after (s : Settings) (d : TypeDecl) :
    ((d.complete s).after.complete s).after = (d.complete s).after := by
  cases answered : (d.complete s).answer with
  | error e => rw [after_complete_of_error answered, after_complete_of_error answered]
  | ok text => exact (complete_after_of_ok answered).2

/-- **Completing twice.** A second completion answers the text of the first one, or fails as the
first one did, and changes nothing. -/
theorem complete_idempotent (s : Settings) (d : TypeDecl) :
    ((d.complete s).after.complete s).answer = (d.complete s).answer ∧
      ((d.complete s).after.complete s).after = (d.complete s).after :=
  ⟨answer_complete_after s d, after_complete_after s d⟩

end TypeDecl

end Prologue
