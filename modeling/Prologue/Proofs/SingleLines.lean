import Prologue.Proofs.Parts
import Prologue.Proofs.Tokens

/-!
# Written code on one line

Five characters end a line of source text. A quoted literal has escapes for two of them, the line
feed and the carriage return. The other three, which are the next-line control and the separators
of lines and of paragraphs, stand for themselves and end a line inside the literal.

* `Stmt.singleLine_toSource_iff_parts` says which texts and which contents keep a written statement
  on one line.
* `Stmt.singleLine_toSource_iff` says it for statements whose names, types and verbatim texts are on
  one line.
-/

namespace Prologue

/-! ## Line terminators -/

namespace Text

/-- The characters that end a line of source text. -/
def lineTerminators : List Char := ['\n', '\r', '\u0085', '\u2028', '\u2029']

/-- The line terminators that stand for themselves in a quoted literal. -/
def unescapedTerminators : List Char := ['\u0085', '\u2028', '\u2029']

/-- No character of the text ends a line. -/
def SingleLine (text : String) : Prop := ∀ c ∈ text.toList, c ∉ lineTerminators

instance (text : String) : Decidable (SingleLine text) :=
  decidable_of_iff (text.toList.all fun c => !lineTerminators.contains c) (by simp [SingleLine])

theorem mem_unescapedTerminators_iff {c : Char} :
    c ∈ unescapedTerminators ↔ c ∈ lineTerminators ∧ escape? c = none := by
  have kept : unescapedTerminators = lineTerminators.filter fun d => (escape? d).isNone := by
    decide
  rw [kept, List.mem_filter, Option.isNone_iff_eq_none]

theorem not_mem_escapeMarks_of_mem_lineTerminators {c : Char} (ends : c ∈ lineTerminators) :
    c ∉ escapeMarks := by
  have others : lineTerminators.all (fun d => !escapeMarks.contains d) = true := by decide
  simpa using List.all_eq_true.1 others c ends

theorem singleLine_quoted_iff (content : String) :
    SingleLine (quoted content) ↔ ∀ c ∈ content.toList, c ∉ unescapedTerminators := by
  have quote : '"' ∉ lineTerminators := by decide
  have inside (c : Char) (ends : c ∈ lineTerminators) :
      c ∈ (quoted content).toList ↔ c ∈ content.toList ∧ escape? c = none := by
    have notQuote : c ≠ '"' := fun same => quote (same ▸ ends)
    have other := not_mem_escapeMarks_of_mem_lineTerminators ends
    simp [toList_quoted, mem_escaped_iff other, notQuote]
  refine ⟨fun single c listed unescaped => ?_, fun free c written ends => ?_⟩
  · obtain ⟨ends, plain⟩ := mem_unescapedTerminators_iff.1 unescaped
    exact single c ((inside c ends).2 ⟨listed, plain⟩) ends
  · obtain ⟨listed, plain⟩ := (inside c ends).1 written
    exact free c listed (mem_unescapedTerminators_iff.2 ⟨ends, plain⟩)

end Text

/-! ## Parts on one line -/

open Text (SingleLine unescapedTerminators)

theorem Mark.singleLine_toSource (m : Mark) : SingleLine m.toSource := by
  cases m <;> decide

theorem Expr.singleLine_memberSource_iff (qualified : Bool) (name : String) :
    SingleLine (memberSource qualified name) ↔ SingleLine name := by
  have qualifier : SingleLine "this." := by decide
  cases qualified with
  | false => exact Iff.rfl
  | true =>
      simp only [memberSource, if_true, SingleLine, String.toList_append, List.mem_append]
      exact ⟨fun single c listed => single c (Or.inr listed), fun single c listed =>
        listed.elim (qualifier c) (single c)⟩

/-- A character that can be part of a token ends no line. -/
theorem Text.not_mem_lineTerminators_of_isTokenPart {c : Char} (part : isTokenPart c = true) :
    c ∉ lineTerminators := by
  have others : lineTerminators.all (!isTokenPart ·) = true := by decide
  intro ends
  have other := List.all_eq_true.1 others c ends
  rw [part] at other
  cases other

/-- Only a string literal can be broken across lines. -/
theorem Literal.singleLine_iff (value : Literal) :
    SingleLine value.toSource ↔
      ∀ content, value = .str content → ∀ c ∈ content.toList, c ∉ unescapedTerminators := by
  cases value with
  | null => exact iff_of_true (by decide) nofun
  | bool value => exact iff_of_true (by cases value <;> decide) nofun
  | int value =>
      refine iff_of_true (fun c listed => ?_) nofun
      exact Text.not_mem_lineTerminators_of_isTokenPart (Expr.isTokenPart_of_mem_repr listed)
  | str content => simp [toSource, Text.singleLine_quoted_iff]

/-- A part is on one line exactly if what is given in it is, and if it is no string literal with an
unescaped line terminator. -/
theorem Part.singleLine_iff (qualified : Bool) (p : Part) :
    SingleLine (p.toSource qualified) ↔ (∀ text ∈ p.given?, SingleLine text) ∧
      ∀ content ∈ p.content?, ∀ c ∈ content.toList, c ∉ unescapedTerminators := by
  simp only [Option.mem_def, content?_eq_some_iff]
  cases p with
  | mark m => simp [toSource, given?, m.singleLine_toSource]
  | member text => simp [toSource, given?, Expr.singleLine_memberSource_iff]
  | name text => simp [toSource, given?]
  | verbatim text => simp [toSource, given?]
  | literal value => simp [toSource, given?, Literal.singleLine_iff]

/-! ## Statements on one line -/

namespace Stmt

/-- A written statement is on one line exactly if its names, types and verbatim texts are and if no
string literal in it, at any depth, has an unescaped line terminator. -/
theorem singleLine_toSource_iff_parts (qualified : Bool) (s : Stmt) :
    SingleLine (s.toSource qualified) ↔ (∀ text ∈ s.givenTexts, SingleLine text) ∧
      ∀ content ∈ s.contents, ∀ c ∈ content.toList, c ∉ unescapedTerminators := by
  have each : SingleLine (s.toSource qualified) ↔
      ∀ p ∈ s.parts, SingleLine (p.toSource qualified) := by
    simp only [SingleLine, toList_toSource_eq_flatMap, List.mem_flatMap]
    exact ⟨fun single p part c listed => single c ⟨p, part, listed⟩,
      fun single c ⟨p, part, listed⟩ => single p part c listed⟩
  simp only [each, Part.singleLine_iff, givenTexts, contents, List.mem_filterMap]
  refine ⟨fun single => ⟨?_, ?_⟩, fun ⟨plain, free⟩ p part => ⟨?_, ?_⟩⟩
  · rintro text ⟨p, part, given⟩
    exact (single p part).1 text given
  · rintro content ⟨p, part, own⟩
    exact (single p part).2 content own
  · exact fun text given => plain text ⟨p, part, given⟩
  · exact fun content own => free content ⟨p, part, own⟩

/-- **When a statement is on one line.** A statement whose names, types and verbatim texts are on
one line is written on one line, with qualified references and without, exactly if no string literal
in it, at any depth, has a next-line control, a line separator or a paragraph separator. A string
literal is broken across lines by these three characters only. -/
theorem singleLine_toSource_iff {s : Stmt} (plain : ∀ text ∈ s.givenTexts, SingleLine text)
    (qualified : Bool) :
    (SingleLine (s.toSource qualified) ↔
      ∀ content ∈ s.contents, ∀ c ∈ content.toList, c ∉ unescapedTerminators) ∧
    ∀ content, SingleLine (Literal.str content).toSource ↔
      ∀ c ∈ content.toList, c ∉ unescapedTerminators := by
  refine ⟨?_, Text.singleLine_quoted_iff⟩
  rw [singleLine_toSource_iff_parts]
  exact and_iff_right plain

/-- Returns a new report. Its title has line feeds, carriage returns and quotes, and one of its
arguments is a creation with a string of its own. -/
def report : Stmt :=
  .ret (some (.create "Report"
    [.literal (.str "first\r\nsecond\t\"third\"\\"), .this,
     .create "Row<A, B>" [.literal (.str "\n"), .literal (.int (-5)), .field "_rows"]]))

theorem report_singleLine :
    (∀ text ∈ report.givenTexts, SingleLine text) ∧ SingleLine (report.toSource true) := by
  have given : report.givenTexts = ["Report", "Row<A, B>", "_rows"] := rfl
  have contents : report.contents = ["first\r\nsecond\t\"third\"\\", "\n"] := rfl
  have plain : ∀ text ∈ report.givenTexts, SingleLine text := by
    rw [given]
    decide
  refine ⟨plain, (singleLine_toSource_iff plain true).1.2 ?_⟩
  simp [contents, unescapedTerminators]

/-- A string literal with a line separator is broken across lines. -/
theorem not_forall_singleLine_toSource :
    ¬∀ (s : Stmt) (qualified : Bool), (∀ text ∈ s.givenTexts, SingleLine text) →
      SingleLine (s.toSource qualified) := by
  intro rule
  have claimed := rule (.ret (some (.literal (.str "first\u2028second")))) true nofun
  have broken : ¬SingleLine
      ((Stmt.ret (some (.literal (.str "first\u2028second")))).toSource true) := by
    decide
  exact broken claimed

end Stmt

end Prologue
