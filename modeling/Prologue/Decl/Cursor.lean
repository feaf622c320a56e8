import Prologue.Decl.Selection

/-!
# Cursors over the members of one kind

A cursor walks the members of one kind from both ends. It keeps the members of every kind that it
has not passed, and `Cursor.toList` is what it stands for: the members of its kind among them. Every
operation is the operation of the same name on that list: a move at the front answers its head and
keeps its tail, a move at the back answers its last item and keeps the rest, and a cursor that has
answered nothing once has nothing left.
-/

namespace Prologue

/-- A position in a walk over the members of kind `α`. -/
structure Cursor (α : Type) where
  /-- The members of every kind that neither end has passed, in declaration order. -/
  pending : List Member
deriving DecidableEq, Repr

/-- A cursor over all members of one kind. -/
def TypeDecl.cursor (α : Type) (d : TypeDecl) : Cursor α := ⟨d.members⟩

/-- The ways in which a cursor moves. -/
inductive Cursor.Move where
  /-- Passes one item at the front. -/
  | next
  /-- Passes one item at the back. -/
  | nextBack
  /-- Passes `skipped` items at the front and then one more. -/
  | nth (skipped : Nat)
  /-- Passes `skipped` items at the back and then one more. -/
  | nthBack (skipped : Nat)
deriving DecidableEq, Repr

namespace Cursor

variable {α : Type} [MemberKind α]

/-- The items left, in declaration order. -/
def toList (c : Cursor α) : List α := c.pending.filterMap MemberKind.ofMember?

/-- The first member of the kind and the members after it. -/
def first? : List Member → Option (α × List Member)
  | [] => none
  | m :: ms =>
    match MemberKind.ofMember? m with
    | some a => some (a, ms)
    | none => first? ms

/-- Answers the first item left and passes it. -/
def next (c : Cursor α) : Option α × Cursor α :=
  match first? c.pending with
  | some (a, ms) => (some a, ⟨ms⟩)
  | none => (none, ⟨[]⟩)

/-- Answers the last item left and passes it. -/
def nextBack (c : Cursor α) : Option α × Cursor α :=
  match first? c.pending.reverse with
  | some (a, ms) => (some a, ⟨ms.reverse⟩)
  | none => (none, ⟨[]⟩)

/-- Passes `skipped` items at the front and answers and passes the one after them. -/
def nth (skipped : Nat) (c : Cursor α) : Option α × Cursor α :=
  match skipped with
  | 0 => c.next
  | n + 1 =>
    match c.next with
    | (some _, rest) => nth n rest
    | (none, rest) => (none, rest)

/-- Passes `skipped` items at the back and answers and passes the one before them. -/
def nthBack (skipped : Nat) (c : Cursor α) : Option α × Cursor α :=
  match skipped with
  | 0 => c.nextBack
  | n + 1 =>
    match c.nextBack with
    | (some _, rest) => nthBack n rest
    | (none, rest) => (none, rest)

/-- Moves the cursor and answers the item it comes upon, if there is one. -/
def move (m : Move) (c : Cursor α) : Option α × Cursor α :=
  match m with
  | .next => c.next
  | .nextBack => c.nextBack
  | .nth skipped => c.nth skipped
  | .nthBack skipped => c.nthBack skipped

/-- The last item left. -/
def last? (c : Cursor α) : Option α := c.toList.getLast?

/-- The number of items left. -/
def count (c : Cursor α) : Nat := c.toList.length

/-- Bounds on the number of items left that need no look at the members. -/
def sizeBounds (c : Cursor α) : Nat × Nat := (0, c.pending.length)

/-- The position, in words. -/
def describe (c : Cursor α) : String :=
  "MembersOf \x7b remaining: " ++ toString c.pending.length ++ " \x7d"

/-! ## What each move does to the items left -/

@[simp] theorem toList_cursor (d : TypeDecl) : (d.cursor α).toList = d.membersOf α := rfl

@[simp] theorem toList_exhausted : (⟨[]⟩ : Cursor α).toList = [] := rfl

theorem filterMap_eq_cons_of_first? {ms rest : List Member} {a : α}
    (h : first? ms = some (a, rest)) :
    ms.filterMap MemberKind.ofMember? = a :: rest.filterMap MemberKind.ofMember? := by
  induction ms with
  | nil => simp [first?] at h
  | cons m ms ih =>
    cases hm : MemberKind.ofMember? (α := α) m with
    | some b =>
      simp only [first?, hm, Option.some.injEq, Prod.mk.injEq] at h
      obtain ⟨rfl, rfl⟩ := h
      simp [hm]
    | none =>
      simp only [first?, hm] at h
      simpa [hm] using ih h

theorem filterMap_eq_nil_of_first? {ms : List Member} (h : first? (α := α) ms = none) :
    ms.filterMap (MemberKind.ofMember? (α := α)) = [] := by
  induction ms with
  | nil => rfl
  | cons m ms ih =>
    cases hm : MemberKind.ofMember? (α := α) m with
    | some b => simp [first?, hm] at h
    | none =>
      simp only [first?, hm] at h
      simpa [hm] using ih h

theorem next_fst (c : Cursor α) : c.next.1 = c.toList.head? := by
  unfold next toList
  split
  next a ms h => simp [filterMap_eq_cons_of_first? h]
  next h => simp [filterMap_eq_nil_of_first? h]

theorem toList_next_snd (c : Cursor α) : c.next.2.toList = c.toList.tail := by
  unfold next toList
  split
  next a ms h => simp [filterMap_eq_cons_of_first? h]
  next h => simp [filterMap_eq_nil_of_first? h]

/-- Read backwards, the items left are the items of the members read backwards. -/
theorem reverse_toList (c : Cursor α) :
    c.toList.reverse = c.pending.reverse.filterMap MemberKind.ofMember? := by
  simp [toList, List.filterMap_reverse]

theorem nextBack_fst (c : Cursor α) : c.nextBack.1 = c.toList.getLast? := by
  rw [← List.head?_reverse, reverse_toList]
  unfold nextBack
  split
  next a ms h => simp [filterMap_eq_cons_of_first? h]
  next h => simp [filterMap_eq_nil_of_first? h]

theorem toList_nextBack_snd (c : Cursor α) : c.nextBack.2.toList = c.toList.dropLast := by
  rw [← List.reverse_inj, ← List.tail_reverse, reverse_toList c, reverse_toList]
  unfold nextBack
  split
  next a ms h => simp [filterMap_eq_cons_of_first? h]
  next h => simp [filterMap_eq_nil_of_first? h]

theorem toList_next_snd_of_none {c : Cursor α} (h : c.next.1 = none) : c.next.2.toList = [] := by
  rw [next_fst, List.head?_eq_none_iff] at h
  rw [toList_next_snd, h, List.tail_nil]

theorem toList_nextBack_snd_of_none {c : Cursor α} (h : c.nextBack.1 = none) :
    c.nextBack.2.toList = [] := by
  rw [nextBack_fst, List.getLast?_eq_none_iff] at h
  rw [toList_nextBack_snd, h, List.dropLast_nil]

theorem nth_fst (n : Nat) (c : Cursor α) : (c.nth n).1 = c.toList[n]? := by
  induction n generalizing c with
  | zero => rw [nth, next_fst, List.head?_eq_getElem?]
  | succ n ih =>
    rcases moved : c.next with ⟨_ | a, rest⟩
    · have exhausted : c.toList = [] := by
        rw [← List.head?_eq_none_iff, ← next_fst, moved]
      simp [nth, moved, exhausted]
    · have after : rest.toList = c.toList.tail := by rw [← toList_next_snd, moved]
      simp [nth, moved, ih, after]

theorem toList_nth_snd (n : Nat) (c : Cursor α) : (c.nth n).2.toList = c.toList.drop (n + 1) := by
  induction n generalizing c with
  | zero => rw [nth, toList_next_snd, List.drop_one]
  | succ n ih =>
    rcases moved : c.next with ⟨_ | a, rest⟩
    · have exhausted : c.toList = [] := by
        rw [← List.head?_eq_none_iff, ← next_fst, moved]
      have left : rest.toList = [] := by
        simpa [moved] using toList_next_snd_of_none (by rw [moved] : c.next.1 = none)
      simp [nth, moved, exhausted, left]
    · have after : rest.toList = c.toList.tail := by rw [← toList_next_snd, moved]
      simp [nth, moved, ih, after]

theorem nthBack_fst (n : Nat) (c : Cursor α) : (c.nthBack n).1 = c.toList.reverse[n]? := by
  induction n generalizing c with
  | zero => rw [nthBack, nextBack_fst, ← List.head?_reverse, List.head?_eq_getElem?]
  | succ n ih =>
    rcases moved : c.nextBack with ⟨_ | a, rest⟩
    · have exhausted : c.toList = [] := by
        rw [← List.getLast?_eq_none_iff, ← nextBack_fst, moved]
      simp [nthBack, moved, exhausted]
    · have after : rest.toList = c.toList.dropLast := by rw [← toList_nextBack_snd, moved]
      simp only [nthBack, moved, ih, after, ← List.tail_reverse, List.getElem?_tail]

theorem reverse_toList_nthBack_snd (n : Nat) (c : Cursor α) :
    (c.nthBack n).2.toList.reverse = c.toList.reverse.drop (n + 1) := by
  induction n generalizing c with
  | zero => rw [nthBack, toList_nextBack_snd, ← List.tail_reverse, List.drop_one]
  | succ n ih =>
    rcases moved : c.nextBack with ⟨_ | a, rest⟩
    · have exhausted : c.toList = [] := by
        rw [← List.getLast?_eq_none_iff, ← nextBack_fst, moved]
      have left : rest.toList = [] := by
        simpa [moved] using toList_nextBack_snd_of_none (by rw [moved] : c.nextBack.1 = none)
      simp [nthBack, moved, exhausted, left]
    · have after : rest.toList = c.toList.dropLast := by rw [← toList_nextBack_snd, moved]
      simp only [nthBack, moved, ih, after, ← List.tail_reverse, List.drop_tail]

end Cursor

end Prologue
