import Prologue.Code.Written

/-!
# Reading quoted literals

`Text.readQuoted` reads a quoted literal from the front of a text and answers what it stands for and
what follows it. `Text.readQuoted_quoted` says that it reads back what `Text.quoted` writes, with
any text behind. So neither the content of a literal nor its end is ever in doubt:
`Text.quoted_append_inj`. No part of a literal is a literal, as `Text.isSome_readQuoted_take_iff`
says, and `Literal.str_read_back` puts all this together for the literals of expressions.
-/

namespace Prologue

namespace Text

/-- The character that a backslash and the character stand for. -/
def unescape? (e : Char) : Option Char :=
  match e with
  | '"' => some '"'
  | '\\' => some '\\'
  | 'n' => some '\n'
  | 'r' => some '\r'
  | 't' => some '\t'
  | _ => none

/-- Reads the inside of a quoted literal up to the quote that ends it. There is no answer where the
text ends first, and none at a backslash with a character that makes no escape. -/
def readEscaped : List Char → Option (List Char × List Char)
  | [] => none
  | '"' :: rest => some ([], rest)
  | ['\\'] => none
  | '\\' :: e :: cs => do
    let c ← unescape? e
    let (content, rest) ← readEscaped cs
    return (c :: content, rest)
  | c :: cs => do
    let (content, rest) ← readEscaped cs
    return (c :: content, rest)

/-- Reads a quoted literal. -/
def readQuoted : List Char → Option (List Char × List Char)
  | '"' :: cs => readEscaped cs
  | _ => none

theorem unescape?_of_escape? {c e : Char} (escapes : escape? c = some e) :
    unescape? e = some c := by
  unfold escape? at escapes
  split at escapes <;> cases escapes <;> rfl

theorem readEscaped_cons_of_ne {c : Char} (notQuote : c ≠ '"') (notBackslash : c ≠ '\\')
    (cs : List Char) :
    readEscaped (c :: cs) = (readEscaped cs).map fun (content, rest) => (c :: content, rest) := by
  rw [readEscaped]
  · cases readEscaped cs <;> rfl
  · exact notQuote
  · exact fun backslash _ => notBackslash backslash
  · exact fun _ _ backslash _ => notBackslash backslash

theorem readEscaped_cons_of_escape?_eq_none {c : Char} (plain : escape? c = none)
    (cs : List Char) :
    readEscaped (c :: cs) = (readEscaped cs).map fun (content, rest) => (c :: content, rest) := by
  refine readEscaped_cons_of_ne (fun quote => ?_) (fun backslash => ?_) cs
  · subst quote
    cases plain
  · subst backslash
    cases plain

theorem readEscaped_escaped (content rest : List Char) :
    readEscaped (escaped content ++ '"' :: rest) = some (content, rest) := by
  induction content with
  | nil => rfl
  | cons c content ih =>
      rw [escaped]
      cases escapes : escape? c with
      | some e =>
          simp only [List.cons_append, readEscaped, unescape?_of_escape? escapes, ih]
          rfl
      | none =>
          simp only [List.cons_append, readEscaped_cons_of_escape?_eq_none escapes, ih]
          rfl

theorem toList_quoted (text : String) :
    (quoted text).toList = '"' :: (escaped text.toList ++ ['"']) := by
  rw [quoted, String.toList_ofList, List.cons_append]

/-- A quoted literal is read back, and what follows it is left. -/
theorem readQuoted_quoted (text : String) (rest : List Char) :
    readQuoted ((quoted text).toList ++ rest) = some (text.toList, rest) := by
  rw [toList_quoted, List.cons_append, List.append_assoc, readQuoted]
  exact readEscaped_escaped text.toList rest

/-- The content of a quoted literal and what follows the literal can be told from the text. -/
theorem quoted_append_inj {s t : String} {rest rest' : List Char}
    (same : (quoted s).toList ++ rest = (quoted t).toList ++ rest') : s = t ∧ rest = rest' := by
  have read := readQuoted_quoted s rest
  rw [same, readQuoted_quoted] at read
  obtain ⟨content, left⟩ := Prod.mk.inj (Option.some.inj read)
  exact ⟨(String.toList_inj.1 content).symm, left.symm⟩

/-- Reading looks at nothing behind the quote that it stops at. -/
theorem readEscaped_append {cs content rest : List Char} (more : List Char)
    (read : readEscaped cs = some (content, rest)) :
    readEscaped (cs ++ more) = some (content, rest ++ more) := by
  induction cs using readEscaped.induct generalizing content rest with
  | case1 => cases read
  | case2 cs =>
      obtain ⟨rfl, rfl⟩ := Prod.mk.inj (Option.some.inj read)
      rfl
  | case3 => cases read
  | case4 e cs ih =>
      rw [readEscaped] at read
      obtain ⟨c, escape, read⟩ := Option.bind_eq_some_iff.1 read
      obtain ⟨⟨inside, behind⟩, others, same⟩ := Option.bind_eq_some_iff.1 read
      obtain ⟨rfl, rfl⟩ := Prod.mk.inj (Option.some.inj same)
      rw [List.cons_append, List.cons_append, readEscaped, escape, ih others]
      rfl
  | case5 c cs notQuote notLast notEscape ih =>
      -- A backslash is followed by something or by nothing, and neither is possible here.
      have notBackslash : c ≠ '\\' := by
        intro backslash
        cases cs with
        | nil => exact notLast backslash rfl
        | cons e cs => exact notEscape e cs backslash rfl
      rw [readEscaped_cons_of_ne notQuote notBackslash] at read
      obtain ⟨⟨inside, behind⟩, others, same⟩ := Option.map_eq_some_iff.1 read
      obtain ⟨rfl, rfl⟩ := Prod.mk.inj same
      rw [List.cons_append, readEscaped_cons_of_ne notQuote notBackslash, ih others]
      rfl

theorem readQuoted_append {cs content rest : List Char} (more : List Char)
    (read : readQuoted cs = some (content, rest)) :
    readQuoted (cs ++ more) = some (content, rest ++ more) := by
  unfold readQuoted at read
  split at read
  · exact readEscaped_append more read
  · cases read

/-- What a quoted literal starts with is no quoted literal, unless it is all of it. -/
theorem isSome_readQuoted_take_iff (text : String) (n : Nat) :
    (readQuoted ((quoted text).toList.take n)).isSome = true ↔ (quoted text).length ≤ n := by
  have whole := readQuoted_quoted text []
  rw [List.append_nil] at whole
  refine ⟨fun ends => ?_, fun enough => ?_⟩
  · obtain ⟨⟨content, rest⟩, read⟩ := Option.isSome_iff_exists.1 ends
    have read := readQuoted_append ((quoted text).toList.drop n) read
    rw [List.take_append_drop, whole] at read
    obtain ⟨-, left⟩ := Prod.mk.inj (Option.some.inj read)
    rw [← String.length_toList, ← List.drop_eq_nil_iff]
    exact (List.append_eq_nil_iff.1 left.symm).2
  · rw [← String.length_toList] at enough
    rw [List.take_of_length_le enough, whole]
    rfl

/-- The backslash and the characters that stand behind one. -/
def escapeMarks : List Char := ['\\', '"', 'n', 'r', 't']

theorem mem_escapeMarks_of_escape? {c e : Char} (escapes : escape? c = some e) :
    e ∈ escapeMarks := by
  unfold escape? at escapes
  split at escapes <;> cases escapes <;> decide

/-- Another character than those of escapes is left in the inside of a quoted literal exactly if it
has no escape. -/
theorem mem_escaped_iff {c : Char} (other : c ∉ escapeMarks) (content : List Char) :
    c ∈ escaped content ↔ c ∈ content ∧ escape? c = none := by
  induction content with
  | nil => simp [escaped]
  | cons d content ih =>
      rw [escaped]
      cases escapes : escape? d with
      | some e =>
          have notBackslash : c ≠ '\\' := fun same => other (same ▸ List.mem_cons_self)
          have notEscape : c ≠ e := fun same => other (same ▸ mem_escapeMarks_of_escape? escapes)
          have notHead : escape? c = none → c ≠ d := by
            rintro plain rfl
            cases plain.symm.trans escapes
          simp only [List.mem_cons, notBackslash, notEscape, ih, false_or]
          refine ⟨?_, ?_⟩
          · rintro ⟨listed, plain⟩
            exact ⟨Or.inr listed, plain⟩
          · rintro ⟨listed, plain⟩
            exact ⟨listed.resolve_left (notHead plain), plain⟩
      | none =>
          simp only [List.mem_cons, ih]
          refine ⟨?_, ?_⟩
          · rintro (rfl | ⟨listed, plain⟩)
            · exact ⟨Or.inl rfl, escapes⟩
            · exact ⟨Or.inr listed, plain⟩
          · rintro ⟨rfl | listed, plain⟩
            · exact Or.inl rfl
            · exact Or.inr ⟨listed, plain⟩

theorem quoted_inj {s t : String} : quoted s = quoted t ↔ s = t := by
  refine ⟨fun same => ?_, fun same => same ▸ rfl⟩
  have alone : (quoted s).toList ++ [] = (quoted t).toList ++ [] := by rw [same]
  exact (quoted_append_inj alone).1

end Text

/-- **String literals are read back.** With any text behind a written string literal the reader
meets no unknown escape, answers the content of the literal and leaves the text behind it. It does
not stop earlier: what the literal starts with is complete only where it is the whole literal. So
different strings are written differently. -/
theorem Literal.str_read_back (s : String) :
    (∀ t : String,
      Text.readQuoted ((Literal.str s).toSource ++ t).toList = some (s.toList, t.toList)) ∧
    (∀ n, (Text.readQuoted ((Literal.str s).toSource.toList.take n)).isSome = true ↔
      (Literal.str s).toSource.length ≤ n) ∧
    ∀ s', (Literal.str s).toSource = (Literal.str s').toSource ↔ s = s' := by
  refine ⟨fun t => ?_, fun n => ?_, fun s' => ?_⟩
  · rw [String.toList_append]
    exact Text.readQuoted_quoted s t.toList
  · exact Text.isSome_readQuoted_take_iff s n
  · exact Text.quoted_inj

end Prologue
