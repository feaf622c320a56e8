import Prologue.Code.Written
import Prologue.Proofs.Quoting

/-!
# The tokens of written expressions

A written expression starts with a token: a name, which may be qualified, a keyword or a number, and
an empty one in front of a quoted literal. `Expr.toList_toSource` cuts a written expression into its
token and what is behind. Where names are identifiers and no keywords (`Expr.Readable`), the token
tells the kind of the expression: `Expr.ofToken` reads it, and `Expr.Readable.ofToken_token` says
what is read.

What comes behind an expression in written code never goes on with its token (`Text.Breaks`). So the
token and what is behind it can be told from a text with an expression in front:
`Expr.Readable.split`.
-/

namespace Prologue

/-! ## Names and tokens -/

namespace Text

/-- Whether the character can start an identifier. -/
def isIdentifierStart (c : Char) : Bool := c.isAlpha || c == '_'

/-- Whether the character can go on an identifier. -/
def isIdentifierPart (c : Char) : Bool := c.isAlphanum || c == '_'

/-- Whether the characters are an ASCII letter or an underscore and then ASCII letters, digits and
underscores. -/
def isIdentifier : List Char → Bool
  | [] => false
  | c :: cs => isIdentifierStart c && cs.all isIdentifierPart

/-- The words that cannot be names. -/
def keywords : List String := ["this", "null", "true", "false", "new", "return"]

/-- The text is an identifier and not a keyword. -/
structure IsName (name : String) : Prop where
  identifier : isIdentifier name.toList = true
  free : name ∉ keywords

/-- Whether the character can be part of a token: of a name, which may be qualified, or of a
number. -/
def isTokenPart (c : Char) : Bool := isIdentifierPart c || c == '.' || c == '-'

/-- The text does not go on with a token. -/
def Breaks (cs : List Char) : Prop := ∀ c ∈ cs.head?, isTokenPart c = false

/-- Where all characters in front pass a test and the next one does not, the characters in front
can be told from the whole. -/
theorem append_inj_of_stops {test : Char → Bool} {a b rest rest' : List Char}
    (first : ∀ c ∈ a, test c = true) (second : ∀ c ∈ b, test c = true)
    (stops : ∀ c ∈ rest.head?, test c = false) (stops' : ∀ c ∈ rest'.head?, test c = false)
    (same : a ++ rest = b ++ rest') : a = b ∧ rest = rest' := by
  have front {a rest : List Char} (passes : ∀ c ∈ a, test c = true)
      (stops : ∀ c ∈ rest.head?, test c = false) : (a ++ rest).takeWhile test = a := by
    rw [List.takeWhile_append_of_pos passes]
    cases rest with
    | nil => rw [List.takeWhile_nil, List.append_nil]
    | cons c cs => rw [List.takeWhile_cons, stops c rfl, if_neg Bool.false_ne_true, List.append_nil]
  have token : a = b := by rw [← front first stops, same, front second stops']
  subst token
  exact ⟨rfl, List.append_cancel_left same⟩

/-- What stands in front of the first opening parenthesis can be told. -/
theorem append_opening_inj {s t rest rest' : List Char} (first : '(' ∉ s) (second : '(' ∉ t)
    (same : s ++ '(' :: rest = t ++ '(' :: rest') : s = t ∧ rest = rest' := by
  have other {s : List Char} (free : '(' ∉ s) (c : Char) (listed : c ∈ s) : (c != '(') = true :=
    bne_iff_ne.2 fun same => free (same ▸ listed)
  have stops {rest : List Char} (c : Char) (head : c ∈ ('(' :: rest).head?) :
      (c != '(') = false := by
    obtain rfl := Option.some.inj head
    rfl
  obtain ⟨front, behind⟩ := append_inj_of_stops (other first) (other second) stops stops same
  exact ⟨front, (List.cons.inj behind).2⟩

theorem isTokenPart_of_isIdentifierPart {c : Char} (part : isIdentifierPart c = true) :
    isTokenPart c = true := by
  simp [isTokenPart, part]

theorem isIdentifierPart_of_start {c : Char} (start : isIdentifierStart c = true) :
    isIdentifierPart c = true := by
  simp only [isIdentifierStart, isIdentifierPart, Char.isAlphanum, Bool.or_eq_true] at start ⊢
  exact start.imp_left Or.inl

theorem IsName.exists_start {name : String} (named : IsName name) :
    ∃ c cs, name.toList = c :: cs ∧ isIdentifierStart c = true ∧
      ∀ d ∈ name.toList, isIdentifierPart d = true := by
  have identifier := named.identifier
  cases written : name.toList with
  | nil => rw [written] at identifier; cases identifier
  | cons c cs =>
      rw [written, isIdentifier, Bool.and_eq_true, List.all_eq_true] at identifier
      refine ⟨c, cs, rfl, identifier.1, List.forall_mem_cons.2 ⟨?_, identifier.2⟩⟩
      exact isIdentifierPart_of_start identifier.1

theorem isDigit_eq_false_of_isAlpha {c : Char} (letter : c.isAlpha = true) :
    c.isDigit = false := by
  -- All digits come before all letters.
  have above : 65 ≤ c.val.toNat := by
    rcases Bool.or_eq_true_iff.1 letter with upper | lower
    · exact (of_decide_eq_true upper).1
    · have low : 97 ≤ c.val.toNat := of_decide_eq_true (Bool.and_eq_true_iff.1 lower).1
      omega
  refine Bool.eq_false_iff.2 fun digit => ?_
  have below : c.val.toNat ≤ 57 := of_decide_eq_true (Bool.and_eq_true_iff.1 digit).2
  omega

/-- Reads a number as it is written, with a minus in front of the digits if it is negative. A text
that starts with another character is no number. -/
def number? : List Char → Option Int
  | [] => none
  | c :: cs =>
    if c = '-' then some (-Nat.ofDigitChars 10 cs 0)
    else if c.isDigit then some (Nat.ofDigitChars 10 (c :: cs) 0)
    else none

theorem number?_repr (value : Int) : number? value.repr.toList = some value := by
  rw [Int.repr_eq_if]
  split
  · next positive =>
      obtain ⟨c, cs, digits⟩ := List.exists_cons_of_ne_nil
        (Nat.toDigits_ne_nil (n := value.toNat) (b := 10))
      have digit : c.isDigit = true := Nat.isDigit_of_mem_toDigits (by decide) (by decide)
        (digits ▸ List.mem_cons_self)
      have noMinus : c ≠ '-' := by
        rintro rfl
        cases digit
      rw [Nat.toList_repr, digits, number?, if_neg noMinus, if_pos digit, ← digits,
        Nat.ofDigitChars_ten_toDigits, Int.toNat_of_nonneg positive]
  · next negative =>
      have written : ("-" ++ (-value).toNat.repr).toList =
          '-' :: Nat.toDigits 10 (-value).toNat := by
        rw [String.toList_append, Nat.toList_repr]
        rfl
      rw [written, number?, if_pos rfl, Nat.ofDigitChars_ten_toDigits]
      exact congrArg some (by omega)

/-- A text that starts like an identifier is no number. -/
theorem number?_of_start {c : Char} (start : isIdentifierStart c = true) (cs : List Char) :
    number? (c :: cs) = none := by
  have noMinus : c ≠ '-' := by
    rintro rfl
    cases start
  have noDigit : c.isDigit = false := by
    rcases Bool.or_eq_true_iff.1 start with letter | underscore
    · exact isDigit_eq_false_of_isAlpha letter
    · rw [beq_iff_eq.1 underscore]
      rfl
  rw [number?, if_neg noMinus, noDigit, if_neg Bool.false_ne_true]

theorem breaks_cons {c : Char} {cs : List Char} (other : isTokenPart c = false) :
    Breaks (c :: cs) := by
  intro d first
  obtain rfl := Option.some.inj first
  exact other

end Text

/-! ## The tokens of expressions -/

namespace Expr

/-- The expression is written without source text of others: the names in it are names, and no type
in it has an opening parenthesis. -/
inductive Readable : Expr → Prop
  | field (name : String) : Text.IsName name → Readable (.field name)
  | property (name : String) : Text.IsName name → Readable (.property name)
  | argument (name : String) : Text.IsName name → Readable (.argument name)
  | this : Readable .this
  | literal (value : Literal) : Readable (.literal value)
  | create (typeName : TypeName) (arguments : List Expr) :
    '(' ∉ typeName.toList → (∀ e ∈ arguments, Readable e) → Readable (.create typeName arguments)

/-- The token in front of the written expression: all of it, but only the keyword of a creation and
nothing of a quoted literal. -/
def token : Expr → String
  | .literal (.str _) => ""
  | .create _ _ => "new"
  | e => e.toSource true

/-- The written arguments. -/
def argumentList (es : List Expr) : List Char :=
  (", ".intercalate (argumentSources true es)).toList

/-- What follows the token in the written expression. -/
def behind : Expr → List Char
  | .literal (.str content) => (Text.quoted content).toList
  | .create typeName arguments =>
    ' ' :: typeName.toList ++ '(' :: argumentList arguments ++ [')']
  | _ => []

/-- What the token tells of an expression: not what is inside a quoted literal or a creation, and
not whether a reference is one to a field or to a property. -/
def surface : Expr → Expr
  | .property name => .field name
  | .literal (.str _) => .literal (.str "")
  | .create _ _ => .create "" []
  | e => e

/-- Reads a token. -/
def ofToken (token : String) : Expr :=
  match Text.number? token.toList with
  | some value => .literal (.int value)
  | none =>
    if token.toList.take 5 = "this.".toList then .field (String.ofList (token.toList.drop 5))
    else if token = "" then .literal (.str "")
    else if token = "new" then .create "" []
    else if token = "this" then .this
    else if token = "null" then .literal .null
    else if token = "true" then .literal (.bool true)
    else if token = "false" then .literal (.bool false)
    else .argument token

theorem toList_toSource (e : Expr) :
    (e.toSource true).toList = e.token.toList ++ e.behind := by
  cases e with
  | literal value => cases value <;> simp [toSource, token, behind, Literal.toSource]
  | create typeName arguments => simp [toSource, token, behind, argumentList]
  | _ => simp [token, behind]

theorem isTokenPart_of_mem_repr {value : Int} {c : Char} (listed : c ∈ value.repr.toList) :
    Text.isTokenPart c = true := by
  have digits {n : Nat} (listed : c ∈ n.repr.toList) : Text.isTokenPart c = true := by
    rw [Nat.repr_eq_ofList_toDigits, String.toList_ofList] at listed
    have digit := Nat.isDigit_of_mem_toDigits (by decide) (by decide) listed
    simp [Text.isTokenPart, Text.isIdentifierPart, Char.isAlphanum, digit]
  rw [Int.repr_eq_if] at listed
  split at listed
  · exact digits listed
  · rw [String.toList_append, List.mem_append] at listed
    rcases listed with minus | listed
    · obtain rfl := List.mem_singleton.1 minus
      rfl
    · exact digits listed

theorem isTokenPart_of_mem_name {name : String} (named : Text.IsName name) {c : Char}
    (listed : c ∈ name.toList) : Text.isTokenPart c = true := by
  obtain ⟨-, -, -, -, parts⟩ := named.exists_start
  exact Text.isTokenPart_of_isIdentifierPart (parts c listed)

theorem isTokenPart_of_mem_keyword (word : String) (keyword : word ∈ Text.keywords) {c : Char}
    (listed : c ∈ word.toList) : Text.isTokenPart c = true := by
  have parts : Text.keywords.all (·.toList.all Text.isTokenPart) = true := by decide
  exact List.all_eq_true.1 (List.all_eq_true.1 parts word keyword) c listed

theorem isTokenPart_of_mem_memberSource {name : String} (named : Text.IsName name) {c : Char}
    (listed : c ∈ (memberSource true name).toList) : Text.isTokenPart c = true := by
  rw [memberSource, if_pos rfl, String.toList_append, List.mem_append] at listed
  rcases listed with qualifier | listed
  · have parts : "this.".toList.all Text.isTokenPart = true := by decide
    exact List.all_eq_true.1 parts c qualifier
  · exact isTokenPart_of_mem_name named listed

theorem Readable.isTokenPart_of_mem_token {e : Expr} (readable : e.Readable) (c : Char)
    (listed : c ∈ e.token.toList) : Text.isTokenPart c = true := by
  cases readable with
  | field name named => exact isTokenPart_of_mem_memberSource named listed
  | property name named => exact isTokenPart_of_mem_memberSource named listed
  | argument name named => exact isTokenPart_of_mem_name named listed
  | this => exact isTokenPart_of_mem_keyword "this" (by decide) listed
  | literal value =>
      cases value with
      | null => exact isTokenPart_of_mem_keyword "null" (by decide) listed
      | bool value =>
          cases value with
          | true => exact isTokenPart_of_mem_keyword "true" (by decide) listed
          | false => exact isTokenPart_of_mem_keyword "false" (by decide) listed
      | int value => exact isTokenPart_of_mem_repr listed
      | str content => cases listed
  | create typeName arguments => exact isTokenPart_of_mem_keyword "new" (by decide) listed

theorem breaks_behind (e : Expr) {rest : List Char} (breaks : Text.Breaks rest) :
    Text.Breaks (e.behind ++ rest) := by
  unfold behind
  split
  · rw [Text.toList_quoted]
    exact Text.breaks_cons rfl
  · exact Text.breaks_cons rfl
  · exact breaks

theorem ofToken_memberSource (name : String) :
    ofToken (memberSource true name) = .field name := by
  have written : (memberSource true name).toList =
      't' :: 'h' :: 'i' :: 's' :: '.' :: name.toList := by
    rw [memberSource, if_pos rfl, String.toList_append]
    rfl
  rw [ofToken, written, Text.number?_of_start rfl]
  simp

theorem ofToken_name {name : String} (named : Text.IsName name) :
    ofToken name = .argument name := by
  obtain ⟨c, cs, written, start, parts⟩ := named.exists_start
  have some : name ≠ "" := by
    intro same
    rw [same] at written
    cases written
  have free := named.free
  have plain : name.toList.take 5 ≠ "this.".toList := by
    intro same
    have dot : '.' ∈ name.toList.take 5 := by
      rw [same]
      decide
    cases parts '.' (List.mem_of_mem_take dot)
  simp only [Text.keywords, List.mem_cons, not_or, List.not_mem_nil, not_false_eq_true,
    and_true] at free
  obtain ⟨this, null, true, false, new, -⟩ := free
  have noNumber : Text.number? name.toList = none := written ▸ Text.number?_of_start start cs
  simp only [ofToken, noNumber, some, this, null, true, false, new, plain, if_false]

/-- A token is read back. -/
theorem Readable.ofToken_token {e : Expr} (readable : e.Readable) :
    ofToken e.token = e.surface := by
  cases readable with
  | field name named => exact ofToken_memberSource name
  | property name named => exact ofToken_memberSource name
  | argument name named => exact ofToken_name named
  | this => rfl
  | literal value =>
      cases value with
      | null => rfl
      | bool value => cases value <;> rfl
      | int value => simp [token, toSource, Literal.toSource, ofToken, Text.number?_repr, surface]
      | str content => rfl
  | create typeName arguments =>
      rw [token, surface]
      rfl

/-- A written expression that can also be read as a token and a text that breaks it off: the token
tells the expression, and the text is what follows. -/
theorem Readable.surface_eq_ofToken {e : Expr} (readable : e.Readable) (word : String)
    (parts : ∀ c ∈ word.toList, Text.isTokenPart c = true) {rest rest' : List Char}
    (breaks : Text.Breaks rest) (breaks' : Text.Breaks rest')
    (same : (e.toSource true).toList ++ rest = word.toList ++ rest') :
    e.surface = ofToken word ∧ e.behind ++ rest = rest' := by
  rw [toList_toSource, List.append_assoc] at same
  obtain ⟨token, behind⟩ := Text.append_inj_of_stops readable.isTokenPart_of_mem_token parts
    (breaks_behind e breaks) breaks' same
  rw [← readable.ofToken_token, String.toList_inj.1 token]
  exact ⟨rfl, behind⟩

/-- Of two written expressions in front of texts that break off their tokens, the tokens tell the
same, and the same follows the tokens. -/
theorem Readable.split {a b : Expr} (first : a.Readable) (second : b.Readable)
    {rest rest' : List Char} (breaks : Text.Breaks rest) (breaks' : Text.Breaks rest')
    (same : (a.toSource true).toList ++ rest = (b.toSource true).toList ++ rest') :
    a.surface = b.surface ∧ a.behind ++ rest = b.behind ++ rest' := by
  rw [b.toList_toSource, List.append_assoc] at same
  rw [← second.ofToken_token]
  exact first.surface_eq_ofToken b.token second.isTokenPart_of_mem_token breaks
    (breaks_behind b breaks') same

end Expr

end Prologue
