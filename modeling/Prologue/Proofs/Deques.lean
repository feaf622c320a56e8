import Mathlib.Data.List.DropRight
import Mathlib.Data.List.Forall2
import Prologue.Decl.Pool

/-!
# Cursors are double-ended queues

A cursor keeps members of every kind and looks for the next one of its own kind at either end. To
its caller it is a queue that is taken from at both ends, and this module says so step by step.

* `Deque` is a double-ended queue with its history: what was taken from it at either end, and
  whether it was ever found empty. `DequePool` is a pool of them.
* `Cursor.Between` is the relation of a cursor to the deque that it stands for. It also names the
  members that the two ends have gone past, since the bounds on the number of items left count the
  members that they have not.
* `Cursor.Follows.move` says that a cursor and its deque answer every move alike and stay related,
  and `Pool.refines_deques` says the same of pools and runs.

The two ends are alike: the back of a deque is the front of the deque turned around, so what is
shown for the moves at the front holds for those at the back.
-/

namespace Prologue

variable {α : Type}

/-! ## Deques -/

/-- A double-ended queue with its history. -/
structure Deque (α : Type) where
  /-- The items taken from the front, the first one taken first. -/
  front : List α := []
  /-- The items left, in order. -/
  left : List α
  /-- The items taken from the back, the first one taken first. -/
  back : List α := []
  /-- Whether an item was asked for when none was left. -/
  spent : Bool := false
deriving DecidableEq, Repr

namespace Deque

/-- Takes the first item. -/
def popFront (q : Deque α) : Option α × Deque α :=
  match q.left with
  | [] => (none, { q with spent := true })
  | a :: left => (some a, { q with front := q.front ++ [a], left })

/-- Takes the last item. -/
def popBack (q : Deque α) : Option α × Deque α :=
  match q.left.getLast? with
  | none => (none, { q with spent := true })
  | some a => (some a, { q with left := q.left.dropLast, back := q.back ++ [a] })

/-- Takes the first `k` items, or all if there are fewer. -/
def dropFront (k : Nat) (q : Deque α) : Deque α :=
  { q with front := q.front ++ q.left.take k, left := q.left.drop k }

/-- Takes the last `k` items, or all if there are fewer. -/
def dropBack (k : Nat) (q : Deque α) : Deque α :=
  { q with left := q.left.rdrop k, back := q.back ++ (q.left.rtake k).reverse }

/-- What a move of a cursor is to a deque. -/
def move : Cursor.Move → Deque α → Option α × Deque α
  | .next, q => q.popFront
  | .nextBack, q => q.popBack
  | .nth skipped, q => (q.dropFront skipped).popFront
  | .nthBack skipped, q => (q.dropBack skipped).popBack

/-- The deque turned around. -/
def turned (q : Deque α) : Deque α := ⟨q.back, q.left.reverse, q.front, q.spent⟩

@[simp] theorem turned_turned (q : Deque α) : q.turned.turned = q := by
  simp [turned]

theorem popBack_eq (q : Deque α) :
    q.popBack = (q.turned.popFront.1, q.turned.popFront.2.turned) := by
  rcases q with ⟨front, left, back, spent⟩
  cases left using List.reverseRecOn with
  | nil => rfl
  | append_singleton left a => simp [popBack, popFront, turned]

theorem dropBack_eq (k : Nat) (q : Deque α) : q.dropBack k = (q.turned.dropFront k).turned := by
  simp [dropBack, dropFront, turned, List.rdrop_eq_reverse_drop_reverse,
    List.rtake_eq_reverse_take_reverse]

@[simp] theorem dropFront_zero (q : Deque α) : q.dropFront 0 = q := by
  simp [dropFront]

/-- To drop one item more is to pop one first. -/
theorem popFront_dropFront_succ (k : Nat) (q : Deque α) :
    (q.dropFront (k + 1)).popFront =
      match q.popFront with
      | (some _, r) => (r.dropFront k).popFront
      | (none, r) => (none, r) := by
  rcases q with ⟨front, left, back, spent⟩
  cases left with
  | nil => simp [dropFront, popFront]
  | cons a left => simp [dropFront, popFront]

end Deque

/-! ## One cursor -/

namespace Cursor

/-- The cursor over the members read backwards. -/
def turned (c : Cursor α) : Cursor α := ⟨c.pending.reverse⟩

@[simp] theorem turned_turned (c : Cursor α) : c.turned.turned = c := by
  simp [turned]

variable [MemberKind α]

theorem nextBack_eq (c : Cursor α) : c.nextBack = (c.turned.next.1, c.turned.next.2.turned) := by
  unfold nextBack next turned
  split <;> simp_all

theorem nthBack_eq (n : Nat) (c : Cursor α) :
    c.nthBack n = ((c.turned.nth n).1, (c.turned.nth n).2.turned) := by
  induction n generalizing c with
  | zero => exact nextBack_eq c
  | succ n ih =>
      rw [nthBack, nth, nextBack_eq]
      rcases c.turned.next with ⟨_ | a, rest⟩
      · rfl
      · simp [ih]

/-- The cursor stands for the deque. Its front has gone past the members `before` and its back past
the members `after`: up to the last item that was taken there, or up to the other end once no item
was found. -/
structure Between (members before after : List Member) (c : Cursor α) (q : Deque α) : Prop where
  whole : members = before ++ c.pending ++ after
  left : c.toList = q.left
  front : before.filterMap MemberKind.ofMember? = q.front
  back : after.filterMap MemberKind.ofMember? = q.back.reverse
  spent : q.spent = true → c.pending = []
  frontEdge : q.spent = false → ∀ m ∈ before.getLast?, ∃ a : α, m = MemberKind.toMember a
  backEdge : q.spent = false → ∀ m ∈ after.head?, ∃ a : α, m = MemberKind.toMember a

/-- The cursor over the members has come to stand for the deque. -/
def Follows (members : List Member) (c : Cursor α) (q : Deque α) : Prop :=
  ∃ before after, Between members before after c q

variable {members : List Member} {c : Cursor α} {q : Deque α}

theorem Follows.ofDecl (d : TypeDecl) :
    Follows d.members (d.cursor α) { left := d.membersOf α } := by
  refine ⟨[], [], ⟨by simp [TypeDecl.cursor], rfl, rfl, rfl, ?_, ?_, ?_⟩⟩ <;> simp

theorem Follows.turned (follows : Follows members c q) :
    Follows members.reverse c.turned q.turned := by
  rcases follows with ⟨before, after, between⟩
  refine ⟨after.reverse, before.reverse, ⟨?_, ?_, ?_, ?_, ?_, ?_, ?_⟩⟩
  · simp [between.whole, Cursor.turned]
  · simp [Cursor.turned, Deque.turned, ← between.left, toList]
  · simp [Deque.turned, between.back, List.filterMap_reverse]
  · simp [Deque.turned, between.front, List.filterMap_reverse]
  · simpa [Deque.turned, Cursor.turned] using between.spent
  · simpa [Deque.turned] using between.backEdge
  · simpa [Deque.turned] using between.frontEdge

/-- The first item is found behind members of other kinds. -/
theorem exists_skipped_of_first? {ms rest : List Member} {a : α}
    (found : first? ms = some (a, rest)) :
    ∃ skipped, ms = skipped ++ MemberKind.toMember a :: rest ∧
      skipped.filterMap (MemberKind.ofMember? (α := α)) = [] := by
  induction ms with
  | nil => cases found
  | cons m ms ih =>
      unfold first? at found
      split at found
      · next b isKind =>
          cases found
          exact ⟨[], by rw [MemberKind.ofMember?_eq_some_iff.1 isKind]; rfl, rfl⟩
      · next other =>
          obtain ⟨skipped, rfl, none⟩ := ih found
          exact ⟨m :: skipped, rfl, by rw [List.filterMap_cons_none other, none]⟩

/-- The front goes past the members up to its first item. -/
theorem Between.pass {before after skipped rest : List Member} {a : α}
    (between : Between members before after c q)
    (pending : c.pending = skipped ++ MemberKind.toMember a :: rest)
    (none : skipped.filterMap (MemberKind.ofMember? (α := α)) = []) :
    Between members (before ++ skipped ++ [MemberKind.toMember a]) after ⟨rest⟩
      { q with front := q.front ++ [a], left := rest.filterMap MemberKind.ofMember? } := by
  have self : MemberKind.ofMember? (MemberKind.toMember a) = some a :=
    MemberKind.ofMember?_eq_some_iff.2 rfl
  refine ⟨?_, rfl, ?_, between.back, ?_, ?_, between.backEdge⟩
  · simp [between.whole, pending]
  · simp [between.front, none, self]
  · intro spent
    have nothing := between.spent spent
    simp [pending] at nothing
  · intro _ m last
    rw [List.getLast?_concat] at last
    exact ⟨a, (Option.some.inj last).symm⟩

/-- A front that finds no item goes past everything. -/
theorem Between.exhaust {before after : List Member} (between : Between members before after c q)
    (none : c.pending.filterMap (MemberKind.ofMember? (α := α)) = []) :
    Between members (before ++ c.pending) after ⟨[]⟩ { q with left := [], spent := true } := by
  refine ⟨?_, rfl, ?_, between.back, fun _ => rfl, ?_, ?_⟩
  · simp [between.whole]
  · simp [between.front, none]
  · intro fresh
    cases fresh
  · intro fresh
    cases fresh

theorem Follows.next (follows : Follows members c q) :
    c.next.1 = q.popFront.1 ∧ Follows members c.next.2 q.popFront.2 := by
  rcases follows with ⟨before, after, between⟩
  cases found : first? (α := α) c.pending with
  | some item =>
      obtain ⟨a, rest⟩ := item
      obtain ⟨skipped, pending, none⟩ := exists_skipped_of_first? found
      have left : q.left = a :: rest.filterMap MemberKind.ofMember? := by
        rw [← between.left, toList, filterMap_eq_cons_of_first? found]
      simp only [Cursor.next, found, Deque.popFront, left]
      exact ⟨trivial, _, after, between.pass pending none⟩
  | none =>
      have none := filterMap_eq_nil_of_first? found
      have left : q.left = [] := by rw [← between.left, toList, none]
      simp only [Cursor.next, found, Deque.popFront, left]
      exact ⟨trivial, _, after, between.exhaust none⟩

theorem Follows.nth (n : Nat) (follows : Follows members c q) :
    (c.nth n).1 = (q.dropFront n).popFront.1 ∧
      Follows members (c.nth n).2 (q.dropFront n).popFront.2 := by
  induction n generalizing c q with
  | zero =>
      rw [Deque.dropFront_zero]
      exact follows.next
  | succ n ih =>
      obtain ⟨answer, related⟩ := follows.next
      rw [Cursor.nth, Deque.popFront_dropFront_succ]
      generalize c.next = moved at answer related ⊢
      generalize q.popFront = popped at answer related ⊢
      rcases moved with ⟨_ | a, rest⟩ <;> rcases popped with ⟨_ | b, r⟩
      · exact ⟨rfl, related⟩
      · cases answer
      · cases answer
      · exact ih related

/-- **One move.** A cursor and its deque answer alike and stay related. -/
theorem Follows.move (m : Move) (follows : Follows members c q) :
    (c.move m).1 = (q.move m).1 ∧ Follows members (c.move m).2 (q.move m).2 := by
  cases m with
  | next => exact follows.next
  | nth skipped => exact follows.nth skipped
  | nextBack =>
      obtain ⟨answer, related⟩ := follows.turned.next
      rw [Cursor.move, Deque.move, nextBack_eq, Deque.popBack_eq]
      refine ⟨answer, ?_⟩
      simpa using related.turned
  | nthBack skipped =>
      obtain ⟨answer, related⟩ := follows.turned.nth skipped
      rw [Cursor.move, Deque.move, nthBack_eq, Deque.dropBack_eq, Deque.popBack_eq,
        Deque.turned_turned]
      refine ⟨answer, ?_⟩
      simpa using related.turned

/-- What the cursor over the members of the declaration and the deque that it stands for have to do
with each other: the same items are left; with the items taken at either end they are all the items
of the declaration, in order and each of them once; and the upper bound on their number is the
number of members of any kind that neither end has gone past. -/
structure Represents (d : TypeDecl) (c : Cursor α) (q : Deque α) : Prop where
  left : c.toList = q.left
  items : q.front ++ q.left ++ q.back.reverse = d.membersOf α
  bounded : c.count ≤ c.sizeBounds.2
  unpassed : ∃ before after, Between d.members before after c q ∧
    before.length + c.sizeBounds.2 + after.length = d.members.length

theorem Follows.represents {d : TypeDecl} (follows : Follows d.members c q) :
    Represents d c q := by
  rcases follows with ⟨before, after, between⟩
  refine ⟨between.left, ?_, List.length_filterMap_le _ _, before, after, between, ?_⟩
  · rw [TypeDecl.membersOf, between.whole, List.filterMap_append, List.filterMap_append,
      between.front, between.back, ← between.left, toList]
  · rw [between.whole, List.length_append, List.length_append]
    rfl

/-! ## A cursor that has answered nothing -/

/-- A cursor that answers nothing has nothing left. -/
theorem toList_move_of_none {m : Move} (nothing : (c.move m).1 = none) :
    (c.move m).2.toList = [] := by
  cases m with
  | next => exact toList_next_snd_of_none nothing
  | nextBack => exact toList_nextBack_snd_of_none nothing
  | nth skipped =>
      rw [move, nth_fst, List.getElem?_eq_none_iff] at nothing
      rw [move, toList_nth_snd, List.drop_eq_nil_iff]
      exact Nat.le_succ_of_le nothing
  | nthBack skipped =>
      rw [move, nthBack_fst, List.getElem?_eq_none_iff] at nothing
      rw [move, ← List.reverse_eq_nil_iff, reverse_toList_nthBack_snd, List.drop_eq_nil_iff]
      exact Nat.le_succ_of_le nothing

/-- A cursor with nothing left answers nothing at either end. -/
theorem move_of_toList_eq_nil (m : Move) (empty : c.toList = []) :
    (c.move m).1 = none ∧ (c.move m).2.toList = [] := by
  have nothing : (c.move m).1 = none := by
    cases m with
    | next => rw [move, next_fst, empty, List.head?_nil]
    | nextBack => rw [move, nextBack_fst, empty, List.getLast?_nil]
    | nth skipped => rw [move, nth_fst, empty, List.getElem?_nil]
    | nthBack skipped => rw [move, nthBack_fst, empty, List.reverse_nil, List.getElem?_nil]
  exact ⟨nothing, toList_move_of_none nothing⟩

end Cursor

/-! ## Pools -/

/-- Deques over the same items, in the order they were opened. -/
structure DequePool (α : Type) where
  /-- What a new deque holds. -/
  items : List α
  deques : List (Deque α)
deriving DecidableEq, Repr

namespace DequePool

/-- The pool with one deque, of all items. -/
def ofItems (items : List α) : DequePool α := ⟨items, [{ left := items }]⟩

/-- Adds a deque and answers its number. -/
def add (p : DequePool α) (q : Deque α) : Pool.Answer α × DequePool α :=
  (.added p.deques.length, { p with deques := p.deques ++ [q] })

/-- What a step of a pool of cursors is to a pool of deques. -/
def step? (p : DequePool α) : Pool.Step → Option (Pool.Answer α × DequePool α)
  | .move i m =>
    p.deques[i]?.map fun q =>
      let (item, q) := q.move m
      (.item item, { p with deques := p.deques.set i q })
  | .clone i => p.deques[i]?.map p.add
  | .fresh => some (p.add { left := p.items })

/-- Takes the steps in order and answers them all. -/
def run? (p : DequePool α) : List Pool.Step → Option (List (Pool.Answer α) × DequePool α)
  | [] => some ([], p)
  | s :: ss => do
    let (answer, p) ← p.step? s
    let (answers, p) ← p.run? ss
    return (answer :: answers, p)

end DequePool

theorem forall₂_getElem? {β γ : Type} {R : β → γ → Prop} {xs : List β} {ys : List γ}
    (related : List.Forall₂ R xs ys) (i : Nat) : Option.Rel R xs[i]? ys[i]? := by
  induction related generalizing i with
  | nil => exact .none
  | cons first _ ih =>
      cases i with
      | zero => exact .some first
      | succ i => exact ih i

theorem forall₂_set {β γ : Type} {R : β → γ → Prop} {xs : List β} {ys : List γ} {x : β} {y : γ}
    (related : List.Forall₂ R xs ys) (i : Nat) (new : R x y) :
    List.Forall₂ R (xs.set i x) (ys.set i y) := by
  induction related generalizing i with
  | nil => exact .nil
  | cons first others ih =>
      cases i with
      | zero => exact .cons new others
      | succ i => exact .cons first (ih i)

/-- Related computations that go on alike stay related. -/
theorem rel_bind {β β' γ γ' : Type} {R : β → γ → Prop} {S : β' → γ' → Prop} {x : Option β}
    {y : Option γ} {f : β → Option β'} {g : γ → Option γ'} (related : Option.Rel R x y)
    (each : ∀ b c, R b c → Option.Rel S (f b) (g c)) : Option.Rel S (x.bind f) (y.bind g) := by
  cases related with
  | none => exact .none
  | some here => exact each _ _ here

theorem rel_imp {β γ : Type} {R S : β → γ → Prop} {x : Option β} {y : Option γ}
    (related : Option.Rel R x y) (each : ∀ b c, R b c → S b c) : Option.Rel S x y := by
  cases related with
  | none => exact .none
  | some here => exact .some (each _ _ here)

namespace Pool

variable [MemberKind α]

@[simp] theorem step?_move (p : Pool α) (i : Nat) (m : Cursor.Move) :
    p.step? (.move i m) = p.cursors[i]?.map fun c =>
      (.item (c.move m).1, { p with cursors := p.cursors.set i (c.move m).2 }) :=
  rfl

/-- The cursors of the pool over the declaration stand for the deques of the other pool, number by
number. -/
structure Refines (d : TypeDecl) (p : Pool α) (q : DequePool α) : Prop where
  decl : p.decl = d
  items : q.items = d.membersOf α
  cursors : List.Forall₂ (Cursor.Follows d.members) p.cursors q.deques

variable {d : TypeDecl} {p p' : Pool α} {q : DequePool α} {i : Nat}

theorem Refines.ofDecl (d : TypeDecl) :
    Refines d (Pool.ofDecl d : Pool α) (.ofItems (d.membersOf α)) :=
  ⟨rfl, rfl, .cons (Cursor.Follows.ofDecl d) .nil⟩

theorem Refines.add (refines : Refines d p q) {c : Cursor α} {e : Deque α}
    (follows : c.Follows d.members e) :
    (p.add c).1 = (q.add e).1 ∧ Refines d (p.add c).2 (q.add e).2 := by
  have number : (p.add c).1 = (q.add e).1 := by
    rw [Pool.add, DequePool.add, refines.cursors.length_eq]
  exact ⟨number, refines.decl, refines.items,
    List.rel_append refines.cursors (.cons follows .nil)⟩

/-- **One step.** Both pools refuse it, or both answer it alike and stay related. -/
theorem Refines.step (refines : Refines d p q) (s : Step) :
    Option.Rel (fun run spec => run.1 = spec.1 ∧ Refines d run.2 spec.2)
      (p.step? s) (q.step? s) := by
  cases s with
  | move i m =>
      rw [Pool.step?, DequePool.step?, Option.map_eq_bind, Option.map_eq_bind]
      refine rel_bind (forall₂_getElem? refines.cursors i) fun c e follows => ?_
      obtain ⟨answer, related⟩ := follows.move m
      exact .some ⟨congrArg Answer.item answer, refines.decl, refines.items,
        forall₂_set refines.cursors i related⟩
  | clone i =>
      rw [Pool.step?, DequePool.step?, Option.map_eq_bind, Option.map_eq_bind]
      exact rel_bind (forall₂_getElem? refines.cursors i) fun c e follows =>
        .some (refines.add follows)
  | fresh =>
      have follows : (p.decl.cursor α).Follows d.members { left := q.items } := by
        rw [refines.decl, refines.items]
        exact .ofDecl d
      exact .some (refines.add follows)

/-- **A run.** The steps that one pool takes the other takes as well, with the same answers. -/
theorem Refines.run (refines : Refines d p q) (steps : List Step) :
    Option.Rel (fun run spec => run.1 = spec.1 ∧ Refines d run.2 spec.2)
      (p.run? steps) (q.run? steps) := by
  induction steps generalizing p q with
  | nil => exact .some ⟨rfl, refines⟩
  | cons s ss ih =>
      refine rel_bind (refines.step s) fun first specFirst here => ?_
      refine rel_bind (ih here.2) fun later specLater others => ?_
      exact .some ⟨congrArg₂ List.cons here.1 others.1, others.2⟩

/-! ## Cursors that have answered nothing -/

/-- The cursor of the number has nothing left. -/
def Exhausted (p : Pool α) (i : Nat) : Prop := ∃ c, p.cursors[i]? = some c ∧ c.toList = []

theorem Exhausted.add (empty : p.Exhausted i) (c : Cursor α) : (p.add c).2.Exhausted i := by
  rcases empty with ⟨e, listed, none⟩
  refine ⟨e, ?_, none⟩
  rw [Pool.add, List.getElem?_append_left (List.getElem?_eq_some_iff.1 listed).1, listed]

/-- No step gives an exhausted cursor an item. -/
theorem Exhausted.step {s : Step} {answer : Answer α} (empty : p.Exhausted i)
    (taken : p.step? s = some (answer, p')) : p'.Exhausted i := by
  cases s with
  | move j m =>
      obtain ⟨c, here, same⟩ := Option.map_eq_some_iff.1 taken
      cases same
      rcases empty with ⟨e, listed, none⟩
      by_cases own : j = i
      · subst own
        obtain rfl := Option.some.inj (here.symm.trans listed)
        refine ⟨(c.move m).2, ?_, (Cursor.move_of_toList_eq_nil m none).2⟩
        exact List.getElem?_set_self (List.getElem?_eq_some_iff.1 listed).1
      · exact ⟨e, (List.getElem?_set_ne own).trans listed, none⟩
  | clone j =>
      obtain ⟨c, -, same⟩ := Option.map_eq_some_iff.1 taken
      cases same
      exact empty.add c
  | fresh =>
      cases taken
      exact empty.add _

theorem Exhausted.run {steps : List Step} {answers : List (Answer α)} (empty : p.Exhausted i)
    (taken : p.run? steps = some (answers, p')) : p'.Exhausted i := by
  induction steps generalizing p answers with
  | nil =>
      cases taken
      exact empty
  | cons s ss ih =>
      obtain ⟨⟨answer, middle⟩, first, rest⟩ := Option.bind_eq_some_iff.1 taken
      obtain ⟨⟨later, last⟩, others, same⟩ := Option.bind_eq_some_iff.1 rest
      cases same
      exact ih (empty.step first) others

/-- A move that answers nothing leaves its cursor with nothing. -/
theorem exhausted_of_answer {m : Cursor.Move}
    (taken : p.step? (.move i m) = some (.item none, p')) : p'.Exhausted i := by
  obtain ⟨c, listed, same⟩ := Option.map_eq_some_iff.1 taken
  obtain ⟨answer, left⟩ := Prod.mk.inj same
  subst left
  refine ⟨(c.move m).2, ?_, Cursor.toList_move_of_none (Answer.item.inj answer)⟩
  exact List.getElem?_set_self (List.getElem?_eq_some_iff.1 listed).1

theorem Exhausted.answer (empty : p.Exhausted i) (m : Cursor.Move) :
    ∃ after, p.step? (.move i m) = some (.item none, after) := by
  rcases empty with ⟨c, listed, none⟩
  refine ⟨{ p with cursors := p.cursors.set i (c.move m).2 }, ?_⟩
  rw [step?_move, listed, Option.map_some, (Cursor.move_of_toList_eq_nil m none).1]

/-- **Cursors are double-ended queues.** A run of a pool over a declaration answers what the run of
a pool of deques over its items answers, and every cursor represents its deque. A cursor that has
answered nothing at one end answers nothing at either end from then on, whatever is done in
between. -/
theorem refines_deques (d : TypeDecl) :
    (∀ steps, Option.Rel
      (fun run spec => run.1 = spec.1 ∧
        List.Forall₂ (Cursor.Represents d) run.2.cursors spec.2.deques)
      ((Pool.ofDecl d : Pool α).run? steps) ((DequePool.ofItems (d.membersOf α)).run? steps)) ∧
    ∀ (p after : Pool α) i m, p.step? (.move i m) = some (.item none, after) →
      ∀ steps answers later, after.run? steps = some (answers, later) →
        ∀ m', ∃ last, later.step? (.move i m') = some (.item none, last) := by
  refine ⟨fun steps => ?_, fun p after i m nothing steps answers later taken m' => ?_⟩
  · refine rel_imp ((Refines.ofDecl d).run steps) fun run spec related => ?_
    exact ⟨related.1, related.2.cursors.imp fun _ _ follows => follows.represents⟩
  · exact ((exhausted_of_answer nothing).run taken).answer m'

-- The ends meet among members of another kind, and a copy made before then goes its own way.
example :
    let a : Field := ⟨"a", "A", none⟩
    let b : Field := ⟨"b", "B", none⟩
    let d : TypeDecl :=
      { name := "T"
        members := [.verbatim "x", .field a, .verbatim "y", .constructor {}, .field b] }
    ((Pool.ofDecl d : Pool Field).run?
      [.move 0 .nextBack, .clone 0, .move 0 .next, .move 0 .next, .move 1 (.nthBack 0)]).map (·.1) =
      some [.item (some b), .added 1, .item (some a), .item none, .item (some a)] := by
  decide

end Pool

end Prologue
