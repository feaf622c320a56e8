import Mathlib.Data.List.Forall2
import Prologue.Proofs.Idempotence

/-!
# Batches

A batch completes its declarations one after the other, and none of them looks at another. So a
batch is decided by what becomes of each declaration alone: `Answers s ds texts` says that all of
them are completed, and `FirstFailure s ds i e` that the declaration of number `i` is the first one
that is not.

* `completeEach_append` takes the declarations that are completed off the front of a batch.
* `completeAll_agrees` gives the answer of a batch and the declarations that it leaves behind.
* `completeAll_retry` says that a failed batch can be tried again on what it has left behind, once
  the failing declaration is replaced.
-/

namespace Prologue

/-- The declarations, each completed alone, answer the texts. -/
def Answers (s : Settings) (ds : List TypeDecl) (texts : List String) : Prop :=
  List.Forall₂ (fun d text => (d.complete s).answer = .ok text) ds texts

/-- The declaration of number `i`, completed alone, fails with `e`, and no earlier one fails. -/
structure FirstFailure (s : Settings) (ds : List TypeDecl) (i : Nat) (e : Failure) : Prop where
  fails : ∃ d, ds[i]? = some d ∧ (d.complete s).answer = .error e
  earlier : ∀ d ∈ ds.take i, ∃ text, (d.complete s).answer = .ok text

variable {s : Settings} {ds : List TypeDecl}

/-! ## The ways of a batch -/

theorem exists_answers (answered : ∀ d ∈ ds, ∃ text, (d.complete s).answer = .ok text) :
    ∃ texts, Answers s ds texts := by
  induction ds with
  | nil => exact ⟨[], .nil⟩
  | cons d ds ih =>
      obtain ⟨text, first⟩ := answered d List.mem_cons_self
      obtain ⟨texts, others⟩ := ih fun other listed =>
        answered other (List.mem_cons_of_mem _ listed)
      exact ⟨text :: texts, .cons first others⟩

/-- Either every declaration can be completed, or there is a first one that cannot. -/
theorem answers_or_firstFailure (s : Settings) (ds : List TypeDecl) :
    (∃ texts, Answers s ds texts) ∨ ∃ i e, FirstFailure s ds i e := by
  induction ds with
  | nil => exact Or.inl ⟨[], .nil⟩
  | cons d ds ih =>
      cases first : (d.complete s).answer with
      | error e =>
          refine Or.inr ⟨0, e, ⟨d, rfl, first⟩, fun earlier none => ?_⟩
          cases none
      | ok text =>
          rcases ih with ⟨texts, others⟩ | ⟨i, e, fails, earlier⟩
          · exact Or.inl ⟨text :: texts, .cons first others⟩
          · refine Or.inr ⟨i + 1, e, fails, ?_⟩
            rw [List.take_succ_cons, List.forall_mem_cons]
            exact ⟨⟨text, first⟩, earlier⟩

theorem FirstFailure.split {i : Nat} {e : Failure} (failure : FirstFailure s ds i e) :
    ∃ d later, (ds.take i).length = i ∧ ds.drop i = d :: later ∧
      (d.complete s).answer = .error e := by
  obtain ⟨d, listed, failed⟩ := failure.fails
  obtain ⟨inside, rfl⟩ := List.getElem?_eq_some_iff.1 listed
  exact ⟨ds[i], ds.drop (i + 1), List.length_take_of_le inside.le,
    List.drop_eq_getElem_cons inside, failed⟩

/-! ## One declaration after the other -/

/-- Declarations that can be completed add their texts in front of what the others answer, and no
other declaration changes what becomes of them. -/
theorem completeEach_append {texts : List String} (done : Answers s ds texts)
    (others : List TypeDecl) :
    completeEach s (ds ++ others) =
      ⟨(completeEach s others).answer.map (texts ++ ·),
        ds.map (fun d => (d.complete s).after) ++ (completeEach s others).after,
        ds.flatMap (fun d => (d.complete s).log) ++ (completeEach s others).log⟩ := by
  induction done with
  | nil =>
      cases answered : (completeEach s others).answer <;> simp [Except.map, ← answered]
  | cons first _ ih =>
      simp only [List.cons_append, completeEach, first, ih, List.map_cons, List.flatMap_cons,
        List.append_assoc]
      cases (completeEach s others).answer <;> rfl

theorem completeEach_of_answers {texts : List String} (done : Answers s ds texts) :
    (completeEach s ds).answer = .ok texts ∧
      (completeEach s ds).after = ds.map fun d => (d.complete s).after := by
  have whole := completeEach_append done []
  simp only [List.append_nil, completeEach, Except.map] at whole
  rw [whole]
  exact ⟨rfl, rfl⟩

/-- The failing declaration and those after it stay as they are. -/
theorem completeEach_of_firstFailure {i : Nat} {e : Failure} (failure : FirstFailure s ds i e) :
    (completeEach s ds).answer = .error e ∧
      (completeEach s ds).after =
        (ds.take i).map (fun d => (d.complete s).after) ++ ds.drop i := by
  obtain ⟨d, later, -, rest, failed⟩ := failure.split
  obtain ⟨texts, done⟩ := exists_answers failure.earlier
  have stopped : completeEach s (d :: later) = ⟨.error e, d :: later, (d.complete s).log⟩ := by
    simp only [completeEach, failed, TypeDecl.after_complete_of_error failed]
  have whole := completeEach_append done (ds.drop i)
  rw [List.take_append_drop, rest, stopped] at whole
  rw [whole, rest]
  exact ⟨rfl, rfl⟩

/-- **A batch and its declarations.** If every declaration can be completed alone, the batch answers
their texts with a line feed between two of them and leaves each declaration as its own completion
does. Otherwise the batch fails as the first one does that cannot be completed; those before it are
left as their own completions leave them, and it and those after it are as they were. -/
theorem completeAll_agrees (s : Settings) (ds : List TypeDecl) :
    (∀ texts, Answers s ds texts →
      (completeAll s ds).answer = .ok ("\n".intercalate texts) ∧
        (completeAll s ds).after = ds.map fun d => (d.complete s).after) ∧
    (∀ i e, FirstFailure s ds i e →
      (completeAll s ds).answer = .error e ∧
        (completeAll s ds).after =
          (ds.take i).map (fun d => (d.complete s).after) ++ ds.drop i) ∧
    ((∃ texts, Answers s ds texts) ∨ ∃ i e, FirstFailure s ds i e) := by
  refine ⟨fun texts done => ?_, fun i e failure => ?_, answers_or_firstFailure s ds⟩
  · obtain ⟨answered, left⟩ := completeEach_of_answers done
    refine ⟨?_, left⟩
    rw [completeAll, answered]
    rfl
  · obtain ⟨failed, left⟩ := completeEach_of_firstFailure failure
    refine ⟨?_, left⟩
    rw [completeAll, failed]
    rfl

/-- A class whose items are to be created, one whose property returns a field that is not declared,
and the first one again. -/
def brokenBatch : List TypeDecl :=
  let order : TypeDecl :=
    { name := "Order"
      members :=
        [.field ⟨"_items", "List<Item>", none⟩, .property (.auto "Items" "List<Item>" "_items")] }
  [order, { name := "Stray", members := [.property (.auto "Lost" "int" "_lost")] }, order]

theorem completeAll_brokenBatch :
    FirstFailure {} brokenBatch 1 (.undeclaredField "Stray" "Lost" "_lost") ∧
      (completeAll {} brokenBatch).answer = .error (.undeclaredField "Stray" "Lost" "_lost") ∧
      (completeAll {} brokenBatch).after =
        (brokenBatch.take 1).map (fun d => (d.complete {}).after) ++ brokenBatch.drop 1 := by
  have failure : FirstFailure {} brokenBatch 1 (.undeclaredField "Stray" "Lost" "_lost") := by
    refine ⟨⟨_, rfl, rfl⟩, fun d listed => ?_⟩
    obtain rfl := List.mem_singleton.1 listed
    exact ⟨_, rfl⟩
  exact ⟨failure, (completeAll_agrees {} brokenBatch).2.1 1 _ failure⟩

/-! ## Trying again -/

theorem FirstFailure.of_answer_completeAll {e : Failure}
    (failed : (completeAll s ds).answer = .error e) : ∃ i, FirstFailure s ds i e := by
  rcases answers_or_firstFailure s ds with ⟨texts, done⟩ | ⟨i, e', failure⟩
  · have answered := (completeEach_of_answers done).1
    rw [completeAll, answered] at failed
    cases failed
  · have stopped := (completeEach_of_firstFailure failure).1
    rw [completeAll, stopped] at failed
    cases failed
    exact ⟨i, failure⟩

/-- Completed declarations answer their texts once more. -/
theorem Answers.again {texts : List String} (done : Answers s ds texts) :
    Answers s (ds.map fun d => (d.complete s).after) texts := by
  rw [Answers, List.forall₂_map_left_iff]
  exact done.imp fun d text answered => (d.answer_complete_after s).trans answered

/-- For what comes of a batch it makes no difference whether the declarations at its front are
completed already. -/
theorem completeEach_again {texts : List String} (done : Answers s ds texts)
    (others : List TypeDecl) :
    (completeEach s (ds.map (fun d => (d.complete s).after) ++ others)).answer =
        (completeEach s (ds ++ others)).answer ∧
      (completeEach s (ds.map (fun d => (d.complete s).after) ++ others)).after =
        (completeEach s (ds ++ others)).after := by
  rw [completeEach_append done.again, completeEach_append done, List.map_map]
  refine ⟨rfl, ?_⟩
  have settled : (fun d => (d.complete s).after) ∘ (fun d : TypeDecl => (d.complete s).after) =
      fun d => (d.complete s).after := funext fun d => d.after_complete_after s
  rw [settled]

/-- **Trying again.** A batch that fails does so at its first declaration that cannot be completed.
With this declaration replaced, whatever by, the batch that the failed run has left behind answers
and leaves the same as the batch as it was before. -/
theorem completeAll_retry {s : Settings} {ds : List TypeDecl} {e : Failure}
    (failed : (completeAll s ds).answer = .error e) :
    ∃ i, FirstFailure s ds i e ∧ ∀ replacement : TypeDecl,
      (completeAll s ((completeAll s ds).after.set i replacement)).answer =
          (completeAll s (ds.set i replacement)).answer ∧
        (completeAll s ((completeAll s ds).after.set i replacement)).after =
          (completeAll s (ds.set i replacement)).after := by
  obtain ⟨i, failure⟩ := FirstFailure.of_answer_completeAll failed
  refine ⟨i, failure, fun replacement => ?_⟩
  obtain ⟨d, later, number, rest, -⟩ := failure.split
  obtain ⟨texts, done⟩ := exists_answers failure.earlier
  have replaced (front : List TypeDecl) (first : front.length = i) :
      (front ++ ds.drop i).set i replacement = front ++ replacement :: later := by
    rw [rest, ← first, List.set_append_right _ _ (Nat.le_refl _), Nat.sub_self,
      List.set_cons_zero]
  have original : ds.set i replacement = ds.take i ++ replacement :: later := by
    rw [← replaced _ number, List.take_append_drop]
  have left : (completeAll s ds).after.set i replacement =
      (ds.take i).map (fun d => (d.complete s).after) ++ replacement :: later := by
    rw [← replaced _ (by rw [List.length_map, number])]
    exact congrArg (·.set i replacement) (completeEach_of_firstFailure failure).2
  obtain ⟨answers, leaves⟩ := completeEach_again done (replacement :: later)
  rw [left, original]
  exact ⟨congrArg (Except.map "\n".intercalate) answers, leaves⟩

theorem completeAll_retry_brokenBatch :
    (completeAll {} brokenBatch).answer = .error (.undeclaredField "Stray" "Lost" "_lost") ∧
      ∃ i, FirstFailure {} brokenBatch i (.undeclaredField "Stray" "Lost" "_lost") ∧
        ∀ replacement : TypeDecl,
          (completeAll {} ((completeAll {} brokenBatch).after.set i replacement)).answer =
              (completeAll {} (brokenBatch.set i replacement)).answer ∧
            (completeAll {} ((completeAll {} brokenBatch).after.set i replacement)).after =
              (completeAll {} (brokenBatch.set i replacement)).after := by
  have failed : (completeAll {} brokenBatch).answer =
      .error (.undeclaredField "Stray" "Lost" "_lost") := rfl
  exact ⟨failed, completeAll_retry failed⟩

end Prologue
