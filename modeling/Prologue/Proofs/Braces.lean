import Mathlib.Algebra.Order.Ring.Int
import Mathlib.Data.List.Basic
import Prologue.Proofs.TextLines

/-!
# Braces and depths

* `Text.Balanced` are the texts that close what they open, in order. They can be put one after the
  other and between braces.
* `Text.BracesMatch` are the texts that close their first brace with their last one and not earlier.
* `Nested` are lines with a balanced text, each of them at the depth of the braces that are open
  where it starts. Lines can be put together in the same two ways.
-/

namespace Prologue

/-! ## Balanced texts -/

namespace Text

/-- The opening and the closing brace. -/
def braces : List Char := ['\x7b', '\x7d']

/-- There are no braces in the text. -/
def Braceless (cs : List Char) : Prop := ∀ c ∈ braces, c ∉ cs

instance (cs : List Char) : Decidable (Braceless cs) := List.decidableBAll _ _

@[simp] theorem braceless_append {xs ys : List Char} :
    Braceless (xs ++ ys) ↔ Braceless xs ∧ Braceless ys := by
  simp only [Braceless, List.mem_append, not_or]
  exact ⟨fun free => ⟨fun c brace => (free c brace).1, fun c brace => (free c brace).2⟩,
    fun free c brace => ⟨free.1 c brace, free.2 c brace⟩⟩

/-- How many more braces the text opens than it closes. -/
def nesting (cs : List Char) : Int := cs.count '\x7b' - cs.count '\x7d'

@[simp] theorem nesting_append (xs ys : List Char) :
    nesting (xs ++ ys) = nesting xs + nesting ys := by
  simp only [nesting, List.count_append]
  omega

theorem nesting_opening_cons (cs : List Char) : nesting ('\x7b' :: cs) = nesting cs + 1 := by
  simp [nesting]
  omega

theorem nesting_closing_cons (cs : List Char) : nesting ('\x7d' :: cs) = nesting cs - 1 := by
  simp [nesting]
  omega

theorem Braceless.nesting_eq {cs : List Char} (free : Braceless cs) : nesting cs = 0 := by
  have opening : cs.count '\x7b' = 0 := List.count_eq_zero.2 (free _ (by decide))
  have closing : cs.count '\x7d' = 0 := List.count_eq_zero.2 (free _ (by decide))
  simp [nesting, opening, closing]

theorem Braceless.of_subset {xs ys : List Char} (free : Braceless ys) (sub : xs ⊆ ys) :
    Braceless xs :=
  fun c brace listed => free c brace (sub listed)

/-- The text closes what it opens, and nothing else. -/
structure Balanced (cs : List Char) : Prop where
  nesting_eq : nesting cs = 0
  nonneg : ∀ front, front <+: cs → 0 ≤ nesting front

theorem Braceless.balanced {cs : List Char} (free : Braceless cs) : Balanced cs :=
  ⟨free.nesting_eq, fun _ front => (free.of_subset front.subset).nesting_eq.ge⟩

theorem balanced_nil : Balanced [] :=
  Braceless.balanced fun _ _ => List.not_mem_nil

/-- A beginning of a text and another one ends in the first or goes on in the other. -/
theorem isPrefix_append_cases {α : Type} {front xs ys : List α} (whole : front <+: xs ++ ys) :
    front <+: xs ∨ ∃ rest, front = xs ++ rest ∧ rest <+: ys := by
  obtain ⟨back, whole⟩ := whole
  rcases List.append_eq_append_iff.1 whole with ⟨rest, same, -⟩ | ⟨rest, same, tail⟩
  · exact Or.inl ⟨rest, same.symm⟩
  · exact Or.inr ⟨rest, same, back, tail.symm⟩

theorem Balanced.append {xs ys : List Char} (first : Balanced xs) (second : Balanced ys) :
    Balanced (xs ++ ys) := by
  refine ⟨by rw [nesting_append, first.nesting_eq, second.nesting_eq, add_zero],
    fun front whole => ?_⟩
  rcases isPrefix_append_cases whole with within | ⟨rest, rfl, within⟩
  · exact first.nonneg front within
  · rw [nesting_append, first.nesting_eq, zero_add]
    exact second.nonneg rest within

theorem Balanced.enclosed {cs : List Char} (inside : Balanced cs) :
    Balanced ('\x7b' :: (cs ++ ['\x7d'])) := by
  have closed : nesting (cs ++ ['\x7d']) = -1 := by
    rw [nesting_append, inside.nesting_eq, nesting_closing_cons]
    rfl
  refine ⟨by rw [nesting_opening_cons, closed]; rfl, fun front whole => ?_⟩
  rcases List.prefix_cons_iff.1 whole with rfl | ⟨rest, rfl, others⟩
  · exact le_rfl
  · rw [nesting_opening_cons]
    rcases List.prefix_concat_iff.1 others with rfl | within
    · rw [closed]
      rfl
    · exact add_nonneg (inside.nonneg rest within) zero_le_one

/-- The braces of the text match: there are braces, no beginning of the text closes more than it
opens, and behind the first opening brace the count is zero again behind the last closing brace, and
nowhere before. -/
structure BracesMatch (cs : List Char) : Prop where
  opens : '\x7b' ∈ cs
  nonneg : ∀ front, front <+: cs → 0 ≤ nesting front
  closes_last : ∀ front back, front ++ back = cs → '\x7b' ∈ front →
    (nesting front = 0 ↔ '\x7d' ∉ back)

theorem Balanced.bracesMatch {head inside tail : List Char} (before : Braceless head)
    (balanced : Balanced inside) (behind : Braceless tail) :
    BracesMatch (head ++ ('\x7b' :: (inside ++ ['\x7d'])) ++ tail) where
  opens := by simp
  nonneg := ((before.balanced.append balanced.enclosed).append behind.balanced).nonneg
  closes_last front back whole opened := by
    rw [List.append_assoc] at whole
    -- A beginning with an opening brace goes on behind the first one.
    obtain ⟨mid, rfl, others⟩ : ∃ mid, front = head ++ '\x7b' :: mid ∧
        mid ++ back = inside ++ '\x7d' :: tail := by
      have notBefore : ¬front <+: head := fun within =>
        before _ (by decide) (within.subset opened)
      rcases List.append_eq_append_iff.1 whole with ⟨rest, same, -⟩ | ⟨rest, same, others⟩
      · exact absurd ⟨rest, same.symm⟩ notBefore
      · cases rest with
        | nil => exact absurd ⟨[], by simp [same]⟩ notBefore
        | cons c mid =>
            obtain ⟨rfl, others⟩ := List.cons.inj others
            exact ⟨mid, same, by simpa using others.symm⟩
    rw [nesting_append, before.nesting_eq, nesting_opening_cons, zero_add]
    rcases List.append_eq_append_iff.1 others with ⟨rest, same, others⟩ | ⟨rest, same, others⟩
    · -- It ends within the braces, and the last one is still to come.
      have open_ := balanced.nonneg mid ⟨rest, same.symm⟩
      refine iff_of_false (by omega) fun closed => closed ?_
      simp [others]
    · cases rest with
      | nil =>
          -- It ends right before the last brace.
          have none : nesting mid = 0 := by rw [same, List.append_nil, balanced.nesting_eq]
          refine iff_of_false (by omega) fun closed => closed ?_
          rw [List.nil_append] at others
          exact others ▸ List.mem_cons_self
      | cons c rest =>
          obtain ⟨rfl, rfl⟩ := List.cons.inj others
          have free : Braceless (rest ++ back) := behind
          rw [braceless_append] at free
          refine iff_of_true ?_ (free.2 _ (by decide))
          rw [same, nesting_append, balanced.nesting_eq, nesting_closing_cons, free.1.nesting_eq]
          rfl

end Text

/-! ## Nested lines -/

/-- How many braces are open where the line starts, if it stands behind the lines before it. For a
line that is only a closing brace, how many are open behind it. -/
def Line.nesting (indent : String) (before : List Line) (l : Line) : Int :=
  Text.nesting (textOf indent (if l.text = "\x7d" then before ++ [l] else before)).toList

theorem Line.nesting_closing (indent : String) (before : List Line) (depth : Nat) :
    (Line.closing depth).nesting indent before =
      Text.nesting (textOf indent (before ++ [Line.closing depth])).toList := rfl

theorem Line.nesting_append (indent : String) (ls before : List Line) (l : Line) :
    l.nesting indent (ls ++ before) =
      Text.nesting (textOf indent ls).toList + l.nesting indent before := by
  unfold nesting
  split <;> simp only [List.append_assoc, textOf_append, String.toList_append, Text.nesting_append]

/-- Lines that can stand where `depth` braces are open. They close what they open, and each of them,
blank ones aside, is at the depth of the braces that are open where it starts. -/
structure Nested (indent : String) (depth : Nat) (ls : List Line) : Prop where
  balanced : Text.Balanced (textOf indent ls).toList
  starts : ∀ before l after, ls = before ++ l :: after → l ≠ Line.blank →
    depth + l.nesting indent before = l.depth

/-- An item of two lists is one of the first or one of the second. -/
theorem append_eq_append_cons_cases {α : Type} {xs ys before after : List α} {a : α}
    (whole : xs ++ ys = before ++ a :: after) :
    (∃ mid, xs = before ++ a :: mid) ∨ ∃ mid, before = xs ++ mid ∧ ys = mid ++ a :: after := by
  rcases List.append_eq_append_iff.1 whole with ⟨mid, same, others⟩ | ⟨mid, same, others⟩
  · exact Or.inr ⟨mid, same, others⟩
  · cases mid with
    | nil => exact Or.inr ⟨[], by simpa using same.symm, by simpa using others.symm⟩
    | cons b mid =>
        obtain ⟨rfl, -⟩ := List.cons.inj others
        exact Or.inl ⟨mid, same⟩

theorem eq_of_singleton_eq_append_cons {α : Type} {x a : α} {before after : List α}
    (whole : [x] = before ++ a :: after) : before = [] ∧ a = x ∧ after = [] := by
  rcases List.cons_eq_append_iff.1 whole with ⟨rfl, same⟩ | ⟨rest, -, same⟩
  · obtain ⟨rfl, rfl⟩ := List.cons.inj same
    exact ⟨rfl, rfl, rfl⟩
  · exact absurd same (by simp)

section Lines

variable {indent : String} {depth : Nat}

theorem nested_nil : Nested indent depth [] where
  balanced := Text.balanced_nil
  starts before l after whole := absurd whole.symm (by simp)

theorem Nested.append {xs ys : List Line} (first : Nested indent depth xs)
    (second : Nested indent depth ys) : Nested indent depth (xs ++ ys) where
  balanced := by
    rw [textOf_append, String.toList_append]
    exact first.balanced.append second.balanced
  starts before l after whole written := by
    rcases append_eq_append_cons_cases whole with ⟨mid, own⟩ | ⟨mid, rfl, own⟩
    · exact first.starts before l mid own written
    · rw [Line.nesting_append, first.balanced.nesting_eq, zero_add]
      exact second.starts mid l after own written

theorem Nested.flatMap {α : Type} {f : α → List Line} {xs : List α}
    (each : ∀ x ∈ xs, Nested indent depth (f x)) : Nested indent depth (xs.flatMap f) := by
  induction xs with
  | nil => exact nested_nil
  | cons x xs ih =>
      exact (each x List.mem_cons_self).append
        (ih fun y listed => each y (List.mem_cons_of_mem x listed))

theorem Nested.intercalate {separator : List Line} (between : Nested indent depth separator)
    {blocks : List (List Line)} (each : ∀ block ∈ blocks, Nested indent depth block) :
    Nested indent depth (separator.intercalate blocks) := by
  cases blocks with
  | nil => exact nested_nil
  | cons block blocks =>
      rw [intercalate_cons_eq]
      exact (each block List.mem_cons_self).append <| Nested.flatMap fun other listed =>
        between.append (each other (List.mem_cons_of_mem block listed))

variable (unit : Text.Braceless indent.toList)

include unit

theorem braceless_margin (depth : Nat) : Text.Braceless (margin indent depth) := by
  induction depth with
  | zero => exact fun _ _ => List.not_mem_nil
  | succ depth ih =>
      rw [margin, List.replicate_succ, String.join_cons, String.toList_append, ← margin]
      exact Text.braceless_append.2 ⟨unit, ih⟩

theorem balanced_toSource {l : Line} (balanced : Text.Balanced l.text.toList) :
    Text.Balanced (l.toSource indent).toList := by
  have feed : Text.Braceless ['\n'] := by decide
  rw [Line.toList_toSource]
  exact ((braceless_margin unit l.depth).balanced.append balanced).append feed.balanced

/-- A line with a balanced text can stand where as many braces are open as its depth says, and a
blank line anywhere. -/
theorem nested_singleton {l : Line} (balanced : Text.Balanced l.text.toList)
    (level : l ≠ Line.blank → depth = l.depth) : Nested indent depth [l] where
  balanced := by
    rw [textOf_cons, String.toList_append]
    exact (balanced_toSource unit balanced).append Text.balanced_nil
  starts before k after whole written := by
    obtain ⟨rfl, rfl, -⟩ := eq_of_singleton_eq_append_cons whole
    have notClosing : k.text ≠ "\x7d" := by
      intro closing
      have open_ := balanced.nesting_eq
      rw [closing] at open_
      revert open_
      decide
    rw [Line.nesting, if_neg notClosing, level written]
    exact add_zero _

theorem nested_blank : Nested indent depth [Line.blank] :=
  nested_singleton unit Text.balanced_nil fun written => absurd rfl written

theorem nesting_textOf_opening (depth : Nat) :
    Text.nesting (textOf indent [Line.opening depth]).toList = 1 := by
  have feed : Text.Braceless ['\n'] := by decide
  have text : (textOf indent [Line.opening depth]).toList =
      margin indent depth ++ '\x7b' :: ['\n'] := by
    simp [textOf, Line.toList_toSource, Line.opening]
  rw [text, Text.nesting_append, (braceless_margin unit depth).nesting_eq,
    Text.nesting_opening_cons, feed.nesting_eq]
  rfl

theorem balanced_enclosed {ls : List Line} (inside : Text.Balanced (textOf indent ls).toList) :
    Text.Balanced
      (textOf indent ([Line.opening depth] ++ ls ++ [Line.closing depth])).toList := by
  have feed : Text.Braceless ['\n'] := by decide
  have before := braceless_margin unit depth
  have text : (textOf indent ([Line.opening depth] ++ ls ++ [Line.closing depth])).toList =
      margin indent depth ++
        '\x7b' :: (['\n'] ++ (textOf indent ls).toList ++ margin indent depth ++ ['\x7d']) ++
          ['\n'] := by
    simp [textOf, Line.toList_toSource, Line.opening, Line.closing]
  rw [text]
  exact (before.balanced.append
    ((feed.balanced.append inside).append before.balanced).enclosed).append feed.balanced

/-- Lines one level deeper can stand between two braces. -/
theorem Nested.enclosed {ls : List Line} (inside : Nested indent (depth + 1) ls) :
    Nested indent depth (Line.opening depth :: ls ++ [Line.closing depth]) where
  balanced := balanced_enclosed unit inside.balanced
  starts before l after whole written := by
    replace whole : [Line.opening depth] ++ ls ++ [Line.closing depth] = before ++ l :: after :=
      whole
    rcases append_eq_append_cons_cases whole with ⟨others, front⟩ | ⟨others, rfl, last⟩
    · rcases append_eq_append_cons_cases front with ⟨rest, first⟩ | ⟨mid, rfl, own⟩
      · obtain ⟨rfl, rfl, -⟩ := eq_of_singleton_eq_append_cons first
        exact add_zero _
      · -- The opening brace is counted before the lines inside, which are one level deeper.
        have deeper := inside.starts mid l others own written
        rw [Line.nesting_append, nesting_textOf_opening unit]
        push_cast at deeper
        omega
    · -- The closing brace is counted itself, so nothing is open there.
      obtain ⟨rfl, rfl, -⟩ := eq_of_singleton_eq_append_cons last
      rw [Line.nesting_closing, List.append_nil,
        (balanced_enclosed unit inside.balanced).nesting_eq]
      exact add_zero _

end Lines

end Prologue
