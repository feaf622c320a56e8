import Mathlib.Data.List.Basic
import Mathlib.Data.List.Flatten
import Prologue.Layout.Block

/-!
# Lines and the text that they make

A declaration is laid out as a list of lines, and `textOf` writes such a list. Every line ends with
a line feed, so a text is cut at its line feeds into what its lines are cut into, one after the
other: `pieces_textOf`. A line that holds no line feed itself is one piece.

`Interleaves added kept out` says that the lines `out` are the lines `kept` with the lines `added`
put in between. It is a relation of lists, which passes through everything that puts lists together,
and of the texts it says that `kept` gives an ordered part of the pieces of `out`, and how many
pieces are new.
-/

namespace Prologue

/-! ## Putting items in between -/

/-- The items of the last list are those of the first two, and each of these two keeps its order. -/
inductive Interleaves {α : Type} : List α → List α → List α → Prop
  | nil : Interleaves [] [] []
  | add {added kept out : List α} (a : α) :
    Interleaves added kept out → Interleaves (a :: added) kept (a :: out)
  | keep {added kept out : List α} (a : α) :
    Interleaves added kept out → Interleaves added (a :: kept) (a :: out)

namespace Interleaves

variable {α β : Type} {added kept out : List α}

theorem nothing (ls : List α) : Interleaves [] ls ls := by
  induction ls with
  | nil => exact .nil
  | cons l ls ih => exact .keep l ih

theorem everything (ls : List α) : Interleaves ls [] ls := by
  induction ls with
  | nil => exact .nil
  | cons l ls ih => exact .add l ih

theorem eq_of_nothing (interleaves : Interleaves [] kept out) : out = kept := by
  generalize asked : ([] : List α) = added at interleaves
  induction interleaves with
  | nil => rfl
  | add a _ _ => cases asked
  | keep a _ ih => rw [ih asked]

theorem append {added' kept' out' : List α} (first : Interleaves added kept out)
    (second : Interleaves added' kept' out') :
    Interleaves (added ++ added') (kept ++ kept') (out ++ out') := by
  induction first with
  | nil => exact second
  | add l _ ih => exact .add l ih
  | keep l _ ih => exact .keep l ih

/-- New items in one place. -/
theorem between (before new after : List α) :
    Interleaves new (before ++ after) (before ++ new ++ after) := by
  simpa using ((nothing before).append (everything new)).append (nothing after)

theorem intercalate {added kept out : β → List α} {xs : List β} (separator : List α)
    (each : ∀ x ∈ xs, Interleaves (added x) (kept x) (out x)) :
    Interleaves (xs.flatMap added) (separator.intercalate (xs.map kept))
      (separator.intercalate (xs.map out)) := by
  induction xs with
  | nil => exact .nil
  | cons x xs ih =>
      have first := each x List.mem_cons_self
      have others := ih fun y listed => each y (List.mem_cons_of_mem _ listed)
      cases xs with
      | nil => simpa using first
      | cons y ys =>
          simp only [List.map_cons, List.intercalate_cons_cons, List.flatMap_cons] at others ⊢
          simpa using (first.append (nothing separator)).append others

theorem sublist (interleaves : Interleaves added kept out) : kept.Sublist out := by
  induction interleaves with
  | nil => exact List.Sublist.slnil
  | add l _ ih => exact ih.cons l
  | keep l _ ih => exact ih.cons_cons l

/-- Where each new item gives one piece, there are as many new pieces as new items. -/
theorem length_flatMap (pieces : α → List β) (interleaves : Interleaves added kept out)
    (single : ∀ a ∈ added, (pieces a).length = 1) :
    (out.flatMap pieces).length = (kept.flatMap pieces).length + added.length := by
  induction interleaves with
  | nil => rfl
  | add a _ ih =>
      have others := ih fun b listed => single b (List.mem_cons_of_mem _ listed)
      have first := single a List.mem_cons_self
      simp only [List.flatMap_cons, List.length_append, List.length_cons]
      omega
  | keep a _ ih =>
      have others := ih single
      simp only [List.flatMap_cons, List.length_append]
      omega

end Interleaves

theorem intercalate_cons_eq {α : Type} (separator x : List α) (ys : List (List α)) :
    separator.intercalate (x :: ys) = x ++ ys.flatMap (separator ++ ·) := by
  induction ys generalizing x with
  | nil => simp
  | cons y ys ih => rw [List.intercalate_cons_cons, ih, List.flatMap_cons, List.append_assoc,
      List.append_assoc]

/-- What stands behind the first lists begins with a separator. -/
theorem intercalate_append_eq {α : Type} (separator : List α) {xs : List (List α)}
    (some : xs ≠ []) (ys : List (List α)) :
    separator.intercalate (xs ++ ys) =
      separator.intercalate xs ++ ys.flatMap (separator ++ ·) := by
  cases xs with
  | nil => exact absurd rfl some
  | cons x xs =>
      rw [List.cons_append, intercalate_cons_eq, intercalate_cons_eq, List.flatMap_append,
        List.append_assoc]

/-- What stands around one of the lists does not depend on it. -/
theorem intercalate_append_cons_eq {α : Type} (separator : List α) (xs : List (List α))
    (y : List α) (zs : List (List α)) :
    separator.intercalate (xs ++ y :: zs) =
      xs.flatMap (· ++ separator) ++ y ++ zs.flatMap (separator ++ ·) := by
  induction xs with
  | nil => exact intercalate_cons_eq separator y zs
  | cons x xs ih =>
      rw [List.cons_append, List.intercalate_cons_of_ne_nil (by simp), ih, List.flatMap_cons]
      simp only [List.append_assoc]

/-- What the items of separated lists become, one after the other. -/
theorem flatMap_intercalate {α β : Type} (f : α → List β) (separator : List α)
    (xs : List (List α)) :
    (separator.intercalate xs).flatMap f =
      (separator.flatMap f).intercalate (xs.map (·.flatMap f)) := by
  cases xs with
  | nil => rfl
  | cons x xs =>
      rw [intercalate_cons_eq, List.map_cons, intercalate_cons_eq, List.flatMap_append,
        List.flatMap_assoc, List.flatMap_map]
      simp only [List.flatMap_append]

theorem nil_intercalate {α : Type} (xs : List (List α)) :
    ([] : List α).intercalate xs = xs.flatten := by
  cases xs with
  | nil => rfl
  | cons x xs => simp [intercalate_cons_eq, List.flatMap_id']

theorem map_intercalate {α β : Type} (f : α → β) (separator : List α) (xs : List (List α)) :
    (separator.intercalate xs).map f = (separator.map f).intercalate (xs.map (·.map f)) := by
  simp only [List.map_eq_flatMap, flatMap_intercalate]

/-- Separators without an answer leave the answers of the lists. -/
theorem filterMap_intercalate {α β : Type} {f : α → Option β} {separator : List α}
    (silent : separator.filterMap f = []) (xs : List (List α)) :
    (separator.intercalate xs).filterMap f = xs.flatMap (·.filterMap f) := by
  simp only [List.filterMap_eq_flatMap_toList] at silent ⊢
  rw [flatMap_intercalate, silent, nil_intercalate, List.flatMap_def]

/-- An item of separated lists stands in the separator or in one of the lists. -/
theorem mem_intercalate {α : Type} {separator : List α} {xs : List (List α)} {a : α}
    (listed : a ∈ separator.intercalate xs) : a ∈ separator ∨ ∃ x ∈ xs, a ∈ x := by
  cases xs with
  | nil => cases listed
  | cons x xs =>
      rw [intercalate_cons_eq, List.mem_append, List.mem_flatMap] at listed
      rcases listed with first | ⟨y, others, listed⟩
      · exact Or.inr ⟨x, List.mem_cons_self, first⟩
      · rcases List.mem_append.1 listed with separator | inside
        · exact Or.inl separator
        · exact Or.inr ⟨y, List.mem_cons_of_mem x others, inside⟩

/-- What stands in front of all separators goes to the first piece. -/
theorem splitOn_append_of_not_mem {α : Type} [BEq α] [LawfulBEq α] {a : α} {xs : List α}
    (free : a ∉ xs) (ys : List α) :
    ∃ first, (xs ++ ys).splitOn a = (xs ++ first) :: (ys.splitOn a).tail := by
  induction xs with
  | nil =>
      obtain ⟨first, others, split⟩ := List.exists_cons_of_ne_nil (List.splitOn_ne_nil a ys)
      exact ⟨first, by rw [List.nil_append, split, List.nil_append, List.tail_cons]⟩
  | cons x xs ih =>
      obtain ⟨first, split⟩ := ih fun listed => free (List.mem_cons_of_mem x listed)
      have other : (x == a) = false := beq_eq_false_iff_ne.2 fun same =>
        free (same ▸ List.mem_cons_self)
      refine ⟨first, ?_⟩
      rw [List.cons_append, List.splitOn_cons_eq_if_modifyHead, other, split]
      rfl

/-! ## Line feeds of a text -/

/-- The number of line feeds in the text. -/
def Text.lineFeeds (text : String) : Nat := text.toList.count '\n'

theorem Text.lineFeeds_append (a b : String) :
    lineFeeds (a ++ b) = lineFeeds a + lineFeeds b := by
  rw [lineFeeds, String.toList_append, List.count_append, lineFeeds, lineFeeds]

theorem Text.lineFeeds_eq_zero {text : String} (plain : '\n' ∉ text.toList) :
    lineFeeds text = 0 :=
  List.count_eq_zero_of_not_mem plain

/-! ## Pieces of a text -/

/-- What the text is cut into at its line feeds. -/
def Text.pieces (text : String) : List (List Char) := text.toList.splitOn '\n'

/-- The text of the lines. -/
def textOf (indent : String) (ls : List Line) : String :=
  String.join (ls.map (·.toSource indent))

theorem TypeDecl.depth_header (d : TypeDecl) : d.header.depth = 0 := by
  unfold header
  split <;> rfl

theorem textOf_cons (indent : String) (l : Line) (ls : List Line) :
    textOf indent (l :: ls) = l.toSource indent ++ textOf indent ls := by
  rw [textOf, List.map_cons, String.join_cons, textOf]

theorem textOf_append (indent : String) (ls ks : List Line) :
    textOf indent (ls ++ ks) = textOf indent ls ++ textOf indent ks := by
  rw [textOf, List.map_append, String.join_append, textOf, textOf]

/-- The indentation of a line at the depth. -/
def margin (indent : String) (depth : Nat) : List Char :=
  (String.join (List.replicate depth indent)).toList

theorem Line.toList_toSource (indent : String) (l : Line) :
    (l.toSource indent).toList = margin indent l.depth ++ l.text.toList ++ ['\n'] := by
  rw [toSource, String.toList_append, String.toList_append, margin]
  rfl

/-- What the line, with its indentation, is cut into at its line feeds. -/
def Line.pieces (indent : String) (l : Line) : List (List Char) :=
  Text.pieces (String.join (List.replicate l.depth indent) ++ l.text)

theorem Line.pieces_eq (indent : String) (l : Line) :
    l.pieces indent = (margin indent l.depth ++ l.text.toList).splitOn '\n' := by
  rw [pieces, Text.pieces, String.toList_append, margin]

theorem pieces_textOf (indent : String) (ls : List Line) :
    Text.pieces (textOf indent ls) = ls.flatMap (·.pieces indent) ++ [[]] := by
  induction ls with
  | nil => rfl
  | cons l ls ih =>
      rw [textOf_cons, Text.pieces, String.toList_append, Line.toList_toSource, List.append_assoc,
        List.singleton_append, List.splitOn_append_cons_self, ← Line.pieces_eq, ← Text.pieces, ih,
        List.flatMap_cons, List.append_assoc]

/-- A line without a line feed is one piece. -/
theorem Line.pieces_eq_singleton {indent : String} (unit : '\n' ∉ indent.toList) {l : Line}
    (plain : '\n' ∉ l.text.toList) :
    l.pieces indent = [margin indent l.depth ++ l.text.toList] := by
  have whole : '\n' ∉ margin indent l.depth ++ l.text.toList := by
    simp [margin, plain, unit]
  rw [Line.pieces_eq, List.splitOn_eq_singleton whole]

theorem Line.length_pieces {indent : String} (unit : '\n' ∉ indent.toList) {l : Line}
    (plain : '\n' ∉ l.text.toList) : (l.pieces indent).length = 1 := by
  rw [Line.pieces_eq_singleton unit plain, List.length_singleton]

/-- The pieces of the lines that were there before are still there, in order. -/
theorem Interleaves.pieces_sublist {added kept out : List Line} (indent : String)
    (interleaves : Interleaves added kept out) :
    (Text.pieces (textOf indent kept)).Sublist (Text.pieces (textOf indent out)) := by
  rw [pieces_textOf, pieces_textOf]
  exact (interleaves.sublist.flatMap _).append_right _

theorem Interleaves.length_pieces {added kept out : List Line} {indent : String}
    (interleaves : Interleaves added kept out) (unit : '\n' ∉ indent.toList)
    (plain : ∀ l ∈ added, '\n' ∉ l.text.toList) :
    (Text.pieces (textOf indent out)).length =
      (Text.pieces (textOf indent kept)).length + added.length := by
  have counted := interleaves.length_flatMap (Line.pieces indent) fun l listed =>
    Line.length_pieces unit (plain l listed)
  rw [pieces_textOf, pieces_textOf, List.length_append, List.length_append, counted,
    Nat.add_right_comm]

/-! ## Rows of a text without a line feed -/

/-- No row of a text has a line feed. -/
theorem Text.lineFeed_not_mem_of_mem_rowsOf {cs row : List Char} (listed : row ∈ rowsOf cs) :
    '\n' ∉ row := by
  fun_induction rowsOf cs generalizing row with
  | case1 => cases listed
  | case2 cs ih | case3 cs ih =>
      rcases List.mem_cons.1 listed with rfl | listed
      · exact List.not_mem_nil
      · exact ih listed
  | case4 c cs notFeed _ none _ =>
      obtain rfl := List.mem_singleton.1 listed
      exact fun feed => notFeed (List.mem_singleton.1 feed).symm
  | case5 c cs notFeed _ first rows others ih =>
      rw [others] at ih
      rcases List.mem_cons.1 listed with rfl | listed
      · intro feed
        rcases List.mem_cons.1 feed with same | feed
        · exact notFeed same.symm
        · exact ih List.mem_cons_self feed
      · exact ih (List.mem_cons_of_mem first listed)

theorem Text.lineFeed_not_mem_of_mem_rows {text row : String} (listed : row ∈ rows text) :
    '\n' ∉ row.toList := by
  obtain ⟨cs, own, rfl⟩ := List.mem_map.1 listed
  rw [String.toList_ofList]
  exact lineFeed_not_mem_of_mem_rowsOf own

theorem Text.rowsOf_eq_singleton {c : Char} {cs : List Char} (plain : '\n' ∉ c :: cs) :
    rowsOf (c :: cs) = [c :: cs] := by
  have notFeed : c ≠ '\n' := fun feed => plain (feed ▸ List.mem_cons_self)
  induction cs generalizing c with
  | nil =>
      rw [rowsOf]
      · rfl
      · exact notFeed
      · intro rest _ pair
        cases pair
  | cons b cs ih =>
      have others : '\n' ∉ b :: cs := fun listed => plain (List.mem_cons_of_mem _ listed)
      have next : b ≠ '\n' := fun feed => others (feed ▸ List.mem_cons_self)
      rw [rowsOf, ih others next]
      · exact notFeed
      · intro rest _ pair
        exact next (List.cons.inj pair).1

theorem Text.rows_eq_singleton {text : String} (some : text ≠ "") (plain : '\n' ∉ text.toList) :
    rows text = [text] := by
  rw [rows]
  cases written : text.toList with
  | nil => exact absurd (String.toList_eq_nil_iff.1 written) some
  | cons c cs =>
      rw [written] at plain
      rw [rowsOf_eq_singleton plain, List.map_singleton, ← written, String.ofList_toList]

end Prologue
