import Mathlib.Algebra.Order.BigOperators.Group.List
import Mathlib.Algebra.Order.Ring.Nat
import Mathlib.Data.List.Basic
import Prologue.Proofs.Writing

/-!
# Units of indentation

Writing a declaration puts the unit of indentation into the output line by line, at all the places
where a line is written. Still one list of lines, chosen before the unit, describes the text under
every unit, because each part of the writing has such a list: `Writes` says so of the parts, and
`TypeDecl.toSource_eq_textOf` of the declaration.

A line of the layout can hold line feeds, and then a line in the text goes on without indentation.
`Line.cut` makes lines of such a line. With them, `TypeDecl.exists_layout` says that each choice of
qualification has one list of lines without line feeds that describes the text under every unit,
that no other such list does, and that no line is deeper than three levels.
-/

namespace Prologue

/-! ## Depths -/

theorem depth_of_mem_rowLines {depth : Nat} {text : String} {l : Line}
    (listed : l ∈ rowLines depth text) : l.depth = depth := by
  obtain ⟨row, -, rfl⟩ := List.mem_map.1 listed
  rfl

theorem depth_le_of_mem_bodyLines {qualified : Bool} {depth : Nat} {body : List Stmt} {l : Line}
    (listed : l ∈ bodyLines qualified depth body) : l.depth ≤ depth + 1 := by
  simp only [bodyLines, List.cons_append, List.mem_cons, List.mem_append, List.mem_flatMap,
    List.not_mem_nil, or_false] at listed
  rcases listed with rfl | ⟨s, -, listed⟩ | rfl
  · exact Nat.le_succ depth
  · exact (depth_of_mem_rowLines listed).le
  · exact Nat.le_succ depth

theorem Property.depth_le_of_mem_accessorLines {qualified : Bool} {keyword : String}
    {body : List Stmt} {l : Line} (listed : l ∈ accessorLines qualified keyword body) :
    l.depth ≤ 3 := by
  rcases List.mem_cons.1 listed with rfl | listed
  · exact Nat.le_succ 2
  · exact depth_le_of_mem_bodyLines listed

theorem Property.depth_le_of_mem_lines {qualified : Bool} {p : Property} {l : Line}
    (listed : l ∈ p.lines qualified) : l.depth ≤ 3 := by
  simp only [lines, List.cons_append, List.mem_cons, List.mem_append, List.not_mem_nil,
    or_false] at listed
  rcases listed with rfl | rfl | (getter | setter) | rfl
  · exact Nat.le_add_left 1 2
  · exact Nat.le_add_left 1 2
  · exact depth_le_of_mem_accessorLines getter
  · split at setter
    · cases setter
    · exact depth_le_of_mem_accessorLines setter
  · exact Nat.le_add_left 1 2

/-- Only the bodies of accessors stand at the third level. -/
theorem Member.depth_le_of_mem_lines {qualified : Bool} {owner : TypeName} {kind : TypeKind}
    {m : Member} {l : Line} (listed : l ∈ m.lines qualified owner kind) : l.depth ≤ 3 := by
  cases m with
  | field f =>
      simp only [lines, Field.lines] at listed
      split at listed <;> obtain rfl := List.mem_singleton.1 listed <;> exact Nat.le_add_left 1 2
  | property p =>
      rw [lines] at listed
      split at listed
      · obtain rfl := List.mem_singleton.1 listed
        exact Nat.le_add_left 1 2
      · exact Property.depth_le_of_mem_lines listed
  | constructor c =>
      rcases List.mem_cons.1 listed with rfl | listed
      · exact Nat.le_add_left 1 2
      · exact (depth_le_of_mem_bodyLines listed).trans (Nat.le_succ 2)
  | method m =>
      rw [lines] at listed
      split at listed
      · obtain rfl := List.mem_singleton.1 listed
        exact Nat.le_add_left 1 2
      · rcases List.mem_cons.1 listed with rfl | listed
        · exact Nat.le_add_left 1 2
        · exact (depth_le_of_mem_bodyLines listed).trans (Nat.le_succ 2)
  | verbatim text => exact (depth_of_mem_rowLines listed).le.trans (Nat.le_add_left 1 2)

theorem TypeDecl.depth_le_of_mem_lines {qualified : Bool} {d : TypeDecl} {l : Line}
    (listed : l ∈ d.lines qualified) : l.depth ≤ 3 := by
  simp only [lines, List.cons_append, List.mem_cons, List.mem_append, List.not_mem_nil,
    or_false] at listed
  rcases listed with rfl | rfl | listed | rfl
  · exact d.depth_header.le.trans (Nat.zero_le 3)
  · exact Nat.zero_le 3
  · rcases mem_intercalate listed with separator | ⟨block, own, listed⟩
    · obtain rfl := List.mem_singleton.1 separator
      exact Nat.zero_le 3
    · obtain ⟨m, -, rfl⟩ := List.mem_map.1 own
      exact m.depth_le_of_mem_lines listed
  · exact Nat.zero_le 3

/-! ## Lines without line feeds -/

theorem not_mem_of_mem_splitOn {α : Type} [BEq α] [LawfulBEq α] {a : α} {xs piece : List α}
    (listed : piece ∈ xs.splitOn a) : a ∉ piece := by
  induction xs generalizing piece with
  | nil =>
      rw [List.splitOn_nil] at listed
      rw [List.mem_singleton.1 listed]
      exact List.not_mem_nil
  | cons x xs ih =>
      rw [List.splitOn_cons_eq_if_modifyHead] at listed
      split at listed
      case isTrue =>
        rcases List.mem_cons.1 listed with rfl | listed
        · exact List.not_mem_nil
        · exact ih listed
      case isFalse other =>
        obtain ⟨first, others, split⟩ := List.exists_cons_of_ne_nil (List.splitOn_ne_nil a xs)
        rw [split, List.modifyHead_cons] at listed
        rcases List.mem_cons.1 listed with rfl | listed
        · intro inside
          rcases List.mem_cons.1 inside with rfl | inside
          · exact other (beq_self_eq_true a)
          · exact ih (split ▸ List.mem_cons_self) inside
        · exact ih (split ▸ List.mem_cons_of_mem first listed)

/-- The lines that a line is cut into at its line feeds. What follows a line feed has no
indentation. -/
def Line.cut (l : Line) : List Line :=
  match Text.pieces l.text with
  | [] => []
  | first :: others =>
    ⟨l.depth, String.ofList first⟩ :: others.map fun piece => ⟨0, String.ofList piece⟩

theorem Line.lineFeed_not_mem_of_mem_cut {l k : Line} (listed : k ∈ l.cut) :
    '\n' ∉ k.text.toList := by
  obtain ⟨first, others, split⟩ :=
    List.exists_cons_of_ne_nil (List.splitOn_ne_nil '\n' l.text.toList)
  have free (piece : List Char) (own : piece ∈ first :: others) : '\n' ∉ piece :=
    not_mem_of_mem_splitOn (split ▸ own)
  simp only [cut, Text.pieces, split, List.mem_cons, List.mem_map] at listed
  rcases listed with rfl | ⟨piece, own, rfl⟩
  · simpa using free first List.mem_cons_self
  · simpa using free piece (List.mem_cons_of_mem first own)

theorem Line.depth_le_of_mem_cut {l k : Line} (listed : k ∈ l.cut) : k.depth ≤ l.depth := by
  unfold cut at listed
  split at listed
  · cases listed
  · rcases List.mem_cons.1 listed with rfl | listed
    · exact le_rfl
    · obtain ⟨piece, -, rfl⟩ := List.mem_map.1 listed
      exact Nat.zero_le _

/-- Separators before the items and one at the end are one before the first and one behind each. -/
theorem flatMap_cons_append_singleton {α : Type} (a : α) (xss : List (List α)) :
    xss.flatMap (a :: ·) ++ [a] = a :: xss.flatMap (· ++ [a]) := by
  induction xss with
  | nil => rfl
  | cons xs xss ih =>
      rw [List.flatMap_cons, List.append_assoc, ih, List.flatMap_cons]
      simp

/-- Cutting a line changes nothing in the text. -/
theorem Line.textOf_cut (indent : String) (l : Line) : textOf indent l.cut = l.toSource indent := by
  obtain ⟨first, others, split⟩ :=
    List.exists_cons_of_ne_nil (List.splitOn_ne_nil '\n' l.text.toList)
  have whole : l.text.toList = first ++ others.flatMap ('\n' :: ·) := by
    have joined : ['\n'].intercalate (l.text.toList.splitOn '\n') = l.text.toList :=
      List.intercalate_splitOn '\n'
    rw [← joined, split, intercalate_cons_eq]
    rfl
  have bare (piece : List Char) :
      (Line.toSource indent ⟨0, String.ofList piece⟩).toList = piece ++ ['\n'] := by
    simp [toList_toSource, margin]
  have further : (textOf indent (others.map fun piece => ⟨0, String.ofList piece⟩)).toList =
      others.flatMap (· ++ ['\n']) := by
    rw [textOf, String.toList_join, List.map_map, List.flatMap_map]
    exact List.flatMap_congr fun piece _ => bare piece
  rw [← String.toList_inj, toList_toSource, whole]
  simp only [cut, Text.pieces, split]
  rw [textOf_cons, String.toList_append, further, toList_toSource, String.toList_ofList]
  simp [flatMap_cons_append_singleton]

theorem textOf_flatMap_cut (indent : String) (ls : List Line) :
    textOf indent (ls.flatMap (·.cut)) = textOf indent ls := by
  induction ls with
  | nil => rfl
  | cons l ls ih => rw [List.flatMap_cons, textOf_append, Line.textOf_cut, ih, textOf_cons]

/-! ## Reading depths and texts off -/

theorem length_margin (indent : String) (depth : Nat) :
    (margin indent depth).length = indent.toList.length * depth := by
  induction depth with
  | zero => rfl
  | succ depth ih =>
      rw [margin, List.replicate_succ, String.join_cons, String.toList_append, ← margin,
        List.length_append, ih, Nat.mul_succ, Nat.add_comm]

/-- If the unit of indentation is longer than the texts, a line is known from what it looks like
with its indentation. -/
theorem Line.eq_of_margin_append_eq {indent : String} {l k : Line}
    (short : l.text.toList.length < indent.toList.length)
    (short' : k.text.toList.length < indent.toList.length)
    (same : margin indent l.depth ++ l.text.toList = margin indent k.depth ++ k.text.toList) :
    l = k := by
  have total : indent.toList.length * l.depth + l.text.toList.length =
      indent.toList.length * k.depth + k.text.toList.length := by
    simpa only [List.length_append, length_margin] using congrArg List.length same
  have depth : l.depth = k.depth := by
    have some : 0 < indent.toList.length := Nat.zero_lt_of_lt short
    have quotient := congrArg (· / indent.toList.length) total
    simpa only [Nat.mul_add_div some, Nat.div_eq_of_lt short, Nat.div_eq_of_lt short',
      Nat.add_zero] using quotient
  have text : l.text = k.text := by
    rw [depth] at same
    exact String.toList_inj.1 (List.append_cancel_left same)
  cases l
  cases k
  rw [mk.injEq]
  exact ⟨depth, text⟩

theorem pieces_textOf_of_plain {indent : String} (unit : '\n' ∉ indent.toList) {ls : List Line}
    (plain : ∀ l ∈ ls, '\n' ∉ l.text.toList) :
    Text.pieces (textOf indent ls) =
      (ls.map fun l => margin indent l.depth ++ l.text.toList) ++ [[]] := by
  rw [pieces_textOf, List.map_eq_flatMap]
  rw [List.flatMap_congr fun l listed => Line.pieces_eq_singleton unit (plain l listed)]

/-- If the unit of indentation has no line feed and is longer than the texts, lines without line
feeds are known from their text. -/
theorem eq_of_textOf_eq {indent : String} (unit : '\n' ∉ indent.toList) {ls ks : List Line}
    (plain : ∀ l ∈ ls ++ ks, '\n' ∉ l.text.toList)
    (short : ∀ l ∈ ls ++ ks, l.text.toList.length < indent.toList.length)
    (same : textOf indent ls = textOf indent ks) : ls = ks := by
  obtain ⟨plain, plain'⟩ := List.forall_mem_append.1 plain
  obtain ⟨short, short'⟩ := List.forall_mem_append.1 short
  have pieces := congrArg Text.pieces same
  rw [pieces_textOf_of_plain unit plain, pieces_textOf_of_plain unit plain'] at pieces
  have indented := List.append_cancel_right pieces
  refine List.ext_getElem (by simpa using congrArg List.length indented) fun n left right => ?_
  have each := List.getElem_of_eq indented ((List.length_map _).symm ▸ left)
  rw [List.getElem_map, List.getElem_map] at each
  exact Line.eq_of_margin_append_eq (short _ (List.getElem_mem left))
    (short' _ (List.getElem_mem right)) each

/-- There are units of indentation without a line feed that are longer than all the texts. -/
theorem exists_long_unit (ls : List Line) :
    ∃ indent : String, '\n' ∉ indent.toList ∧
      ∀ l ∈ ls, l.text.toList.length < indent.toList.length := by
  let lengths := ls.map fun l => l.text.toList.length
  refine ⟨String.ofList (List.replicate (lengths.sum + 1) ' '), by simp, fun l listed => ?_⟩
  rw [String.toList_ofList, List.length_replicate]
  exact Nat.lt_succ_of_le (List.le_sum_of_mem (List.mem_map.2 ⟨l, listed, rfl⟩))

/-! ## The layout of a declaration -/

namespace TypeDecl

/-- Under every unit of indentation, the text of the declaration is that of the lines, one after the
other: the unit, as often as the depth says, the text and a line feed. The lines have no line feeds
themselves. -/
structure LaidOutAs (qualified : Bool) (d : TypeDecl) (ls : List Line) : Prop where
  plain : ∀ l ∈ ls, '\n' ∉ l.text.toList
  written : ∀ s : Settings, s.thisQualifier = qualified →
    d.toSource s = String.join
      (ls.map fun l => String.join (List.replicate l.depth s.indent) ++ l.text ++ "\n")

variable {qualified : Bool} {d : TypeDecl}

theorem laidOutAs_cut (qualified : Bool) (d : TypeDecl) :
    d.LaidOutAs qualified ((d.lines qualified).flatMap (·.cut)) where
  plain l listed := by
    obtain ⟨k, -, own⟩ := List.mem_flatMap.1 listed
    exact Line.lineFeed_not_mem_of_mem_cut own
  written s choice := by
    rw [toSource_eq_textOf, choice, ← textOf_flatMap_cut]
    rfl

theorem LaidOutAs.unique {ls ks : List Line} (layout : d.LaidOutAs qualified ls)
    (other : d.LaidOutAs qualified ks) : ls = ks := by
  -- A unit longer than all texts shows how deep each line is.
  obtain ⟨indent, unit, long⟩ := exists_long_unit (ls ++ ks)
  let s : Settings := { indent := indent, thisQualifier := qualified }
  have same : textOf indent ls = textOf indent ks :=
    (layout.written s rfl).symm.trans (other.written s rfl)
  exact eq_of_textOf_eq unit (List.forall_mem_append.2 ⟨layout.plain, other.plain⟩) long same

/-- **The layout does not depend on the unit of indentation.** For each choice of qualification one
list of lines describes the text of a declaration under every unit of indentation, whatever its
characters are. The lines are at most three levels deep. There is only one such list without line
feeds in its texts, so what the texts under all units have in common are these depths and texts. -/
theorem exists_layout (qualified : Bool) (d : TypeDecl) :
    ∃ ls : List Line, d.LaidOutAs qualified ls ∧ (∀ l ∈ ls, l.depth ≤ 3) ∧
      ∀ ks, d.LaidOutAs qualified ks → ks = ls := by
  have layout := laidOutAs_cut qualified d
  refine ⟨_, layout, fun l listed => ?_, fun ks other => other.unique layout⟩
  obtain ⟨k, written, own⟩ := List.mem_flatMap.1 listed
  exact (Line.depth_le_of_mem_cut own).trans (depth_le_of_mem_lines written)

end TypeDecl

end Prologue
