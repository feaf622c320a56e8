import Mathlib.Data.List.Induction
import Prologue.Settings

/-!
# White space and the classes of type names

`TypeName.base` takes the type arguments off before it trims, and `TypeName.isScalar` trims before
it takes the base. `TypeName.base_trim` says that this makes no difference, since the `<` that
starts the arguments is not blank. So the classes of a name are read off two things, its base and
the mark at its end: `TypeName.isScalar_eq` and `Settings.isScalar_of_needsInitialization`.
-/

namespace Prologue

/-! ## Trimming -/

namespace Text

theorem trimEnd_concat (cs : List Char) (c : Char) :
    trimEnd (cs ++ [c]) = if isBlank c then trimEnd cs else cs ++ [c] := by
  rw [trimEnd, trimStart, List.reverse_append, List.reverse_singleton, List.singleton_append,
    List.dropWhile_cons]
  split
  · rfl
  · rw [List.reverse_cons, List.reverse_reverse]

theorem trimEnd_isPrefix (cs : List Char) : trimEnd cs <+: cs := by
  rw [← List.reverse_suffix, trimEnd, List.reverse_reverse]
  exact List.dropWhile_suffix _

theorem trimStart_cons (c : Char) (cs : List Char) :
    trimStart (c :: cs) = if isBlank c then trimStart cs else c :: cs :=
  List.dropWhile_cons

/-- A part from the front of a text without blanks in front has none in front either. -/
theorem trimStart_of_isPrefix {cs ds : List Char} (front : ds <+: trimStart cs) :
    trimStart ds = ds := by
  cases ds with
  | nil => rfl
  | cons d ds =>
      obtain ⟨rest, whole⟩ := front
      have first : isBlank d = false := by
        have stopped := List.head?_dropWhile_not isBlank cs
        rw [← trimStart, ← whole] at stopped
        simpa using stopped
      rw [trimStart, List.dropWhile_cons_of_neg (by simp [first])]

end Text

namespace TypeName

open Text

theorem ne_of_isBlank {c : Char} (blank : isBlank c = true) : c ≠ '<' := by
  intro opens
  rw [opens] at blank
  exact absurd blank (by decide)

theorem withoutArguments_cons (c : Char) (cs : List Char) :
    withoutArguments (c :: cs) = if c = '<' then [] else c :: withoutArguments cs := by
  rw [withoutArguments, List.takeWhile_cons]
  split <;> simp_all [withoutArguments]

/-- The base of a name has no characters of its own. -/
theorem mem_of_mem_base {c : Char} {name : TypeName} (listed : c ∈ name.base.toList) :
    c ∈ name.toList := by
  rw [base, String.toList_ofList] at listed
  have trimmed : c ∈ trim (withoutArguments name.toList) :=
    List.mem_reverse.1 ((List.takeWhile_subset _) (List.mem_reverse.1 listed))
  have front : c ∈ trimStart (withoutArguments name.toList) := (trimEnd_isPrefix _).subset trimmed
  exact List.takeWhile_subset _ ((List.dropWhile_sublist _).subset front)

/-- A blank in front of a name does not start the type arguments. -/
theorem withoutArguments_trimStart (cs : List Char) :
    withoutArguments (trimStart cs) = trimStart (withoutArguments cs) := by
  induction cs with
  | nil => rfl
  | cons c cs ih =>
      rw [trimStart_cons, withoutArguments_cons]
      split
      · next blank => rw [if_neg (ne_of_isBlank blank), trimStart_cons, if_pos blank, ih]
      · next stops =>
          rw [withoutArguments_cons]
          split
          · rfl
          · rw [trimStart_cons, if_neg stops]

/-- Blanks behind a name are cut off with the type arguments or trimmed without them. -/
theorem trimEnd_withoutArguments_trimEnd (cs : List Char) :
    trimEnd (withoutArguments (trimEnd cs)) = trimEnd (withoutArguments cs) := by
  induction cs using List.reverseRecOn with
  | nil => rfl
  | append_singleton cs c ih =>
      rw [trimEnd_concat]
      split
      · next blank =>
          rw [ih, withoutArguments, withoutArguments, List.takeWhile_append]
          split
          · next whole =>
              have kept := (List.takeWhile_prefix (· != '<')).eq_of_length whole
              have alone : [c].takeWhile (· != '<') = [c] := by simp [ne_of_isBlank blank]
              rw [alone, trimEnd_concat, if_pos blank, kept]
          · rfl
      · rfl

theorem trim_withoutArguments_trim (cs : List Char) :
    trim (withoutArguments (trim cs)) = trim (withoutArguments cs) := by
  have front : withoutArguments (trim cs) <+: trimStart cs :=
    (List.takeWhile_prefix _).trans (trimEnd_isPrefix _)
  rw [trim, trimStart_of_isPrefix front, trim, trimEnd_withoutArguments_trimEnd,
    withoutArguments_trimStart, trim]

/-- Blanks around a name do not belong to its base. -/
theorem base_trim (name : TypeName) : base (String.ofList (trim name.toList)) = base name := by
  rw [base, base, baseOf, baseOf, String.toList_ofList, trim_withoutArguments_trim]

/-- Whether the name ends with the mark of a nullable type or of an array type. -/
def isMarked (name : TypeName) : Bool := endsNullableOrArray (trim name.toList)

/-- The scalar types are the marked ones and the ones with the base of a built-in type. -/
theorem isScalar_eq (name : TypeName) :
    name.isScalar = (name.isMarked || scalarNames.contains name.base) := by
  rw [isScalar, base_trim, isMarked]

end TypeName

/-- A type that is created under the standard collection types is scalar by its mark only. With
`initializeAll` it is not scalar at all. -/
theorem Settings.isScalar_of_needsInitialization {s : Settings} {name : TypeName}
    (standard : s.collectionTypes = ({} : Settings).collectionTypes)
    (needs : s.needsInitialization name = true) :
    name.isScalar = (!s.initializeAll && name.isMarked) := by
  unfold needsInitialization at needs
  split at needs
  · next all =>
      obtain ⟨notScalar, -⟩ := Bool.and_eq_true_iff.1 needs
      rw [all, Bool.not_true, Bool.false_and, ← Bool.not_eq_true']
      exact notScalar
  · next chosen =>
      -- No name stands in both lists.
      have apart : ∀ base ∈ ({} : Settings).collectionTypes,
          TypeName.scalarNames.contains base = false := by decide
      rw [standard] at needs
      have created := apart _ (List.contains_iff_mem.1 needs)
      have off : s.initializeAll = false := Bool.eq_false_iff.2 chosen
      rw [TypeName.isScalar_eq, created, Bool.or_false, off, Bool.not_false, Bool.true_and]

end Prologue
