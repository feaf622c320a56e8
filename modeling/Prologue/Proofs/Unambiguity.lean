import Prologue.Proofs.TextLines
import Prologue.Proofs.Tokens

/-!
# Telling written code apart

Two written expressions in front of any texts that break off their tokens tell the same by their
tokens if the whole texts are the same. Only a quoted literal and a creation go on behind their
tokens. The first is read back by `Text.quoted_append_inj`, and for the second there is an induction
over the arguments, in which the text behind an argument is the rest of the creation.

* `Expr.eq_of_toSource_append` tells two expressions, and what follows them, from the whole text.
* `toSource_unambiguous` says that readable code is written alike exactly if it differs in nothing
  but fields for properties.
-/

namespace Prologue

/-! ## Expressions -/

namespace Expr

mutual

/-- The expression with every reference to a property replaced by one to the field of its name. -/
def asFields : Expr → Expr
  | property name => field name
  | create typeName arguments => create typeName (asFieldsAll arguments)
  | field name => field name
  | argument name => argument name
  | this => this
  | literal value => literal value
  | verbatim text => verbatim text

/-- The expressions, each with fields for properties. -/
def asFieldsAll : List Expr → List Expr
  | [] => []
  | e :: es => asFields e :: asFieldsAll es

end

theorem exists_eq_create_of_surface {e : Expr} (surface : e.surface = .create "" []) :
    ∃ typeName arguments, e = .create typeName arguments := by
  cases e with
  | create typeName arguments => exact ⟨typeName, arguments, rfl⟩
  | literal value => cases value <;> cases surface
  | _ => cases surface

theorem exists_eq_str_of_surface {e : Expr} (surface : e.surface = .literal (.str "")) :
    ∃ content, e = .literal (.str content) := by
  cases e with
  | literal value =>
      cases value with
      | str content => exact ⟨content, rfl⟩
      | _ => cases surface
  | _ => cases surface

/-- Anything but a creation and a quoted literal is told by its token. -/
theorem asFields_eq_surface {e : Expr} (notCreate : e.surface ≠ .create "" [])
    (notStr : e.surface ≠ .literal (.str "")) : e.asFields = e.surface ∧ e.behind = [] := by
  cases e with
  | create typeName arguments => exact absurd rfl notCreate
  | literal value =>
      cases value with
      | str content => exact absurd rfl notStr
      | _ => exact ⟨rfl, rfl⟩
  | _ => exact ⟨rfl, rfl⟩

theorem eq_of_toSource_append_of_ne_create {a b : Expr} (first : a.Readable) (second : b.Readable)
    {rest rest' : List Char} (breaks : Text.Breaks rest) (breaks' : Text.Breaks rest')
    (notCreate : a.surface ≠ .create "" [])
    (same : (a.toSource true).toList ++ rest = (b.toSource true).toList ++ rest') :
    a.asFields = b.asFields ∧ rest = rest' := by
  obtain ⟨surface, behind⟩ := first.split second breaks breaks' same
  by_cases str : a.surface = .literal (.str "")
  · obtain ⟨content, rfl⟩ := exists_eq_str_of_surface str
    obtain ⟨content', rfl⟩ := exists_eq_str_of_surface (surface.symm.trans str)
    obtain ⟨rfl, others⟩ := Text.quoted_append_inj behind
    exact ⟨rfl, others⟩
  · obtain ⟨whole, nothing⟩ := asFields_eq_surface notCreate str
    rw [surface] at notCreate str
    obtain ⟨whole', nothing'⟩ := asFields_eq_surface notCreate str
    rw [nothing, nothing'] at behind
    exact ⟨whole.trans (surface.trans whole'.symm), behind⟩

/-- What follows the first argument of a list. -/
def moreArguments (es : List Expr) : List Char :=
  es.flatMap fun e => ',' :: ' ' :: (e.toSource true).toList

theorem argumentList_cons (e : Expr) (es : List Expr) :
    argumentList (e :: es) = (e.toSource true).toList ++ moreArguments es := by
  rw [argumentList, String.toList_intercalate, argumentSources_eq_map, List.map_map, List.map_cons,
    intercalate_cons_eq, List.flatMap_map]
  rfl

theorem argumentList_eq_of_moreArguments {as bs : List Expr} {rest rest' : List Char}
    (same : moreArguments as ++ ')' :: rest = moreArguments bs ++ ')' :: rest') :
    argumentList as ++ ')' :: rest = argumentList bs ++ ')' :: rest' := by
  cases as with
  | nil =>
      cases bs with
      | nil => exact same
      | cons b bs => cases same
  | cons a as =>
      cases bs with
      | nil => cases same
      | cons b bs =>
          rw [argumentList_cons, argumentList_cons]
          exact (List.cons.inj (List.cons.inj same).2).2

theorem breaks_moreArguments (es : List Expr) (rest : List Char) :
    Text.Breaks (moreArguments es ++ ')' :: rest) := by
  cases es with
  | nil => exact Text.breaks_cons rfl
  | cons e es => exact Text.breaks_cons rfl

/-- No written expression starts with a closing parenthesis. -/
theorem Readable.append_ne_closing {e : Expr} (readable : e.Readable) {rest rest' : List Char}
    (breaks : Text.Breaks rest) : (e.toSource true).toList ++ rest ≠ ')' :: rest' := by
  intro same
  obtain ⟨surface, behind⟩ :=
    readable.surface_eq_ofToken "" nofun breaks (Text.breaks_cons rfl) same
  have empty : ofToken "" = .literal (.str "") := rfl
  obtain ⟨content, rfl⟩ := exists_eq_str_of_surface (surface.trans empty)
  rw [Expr.behind, Text.toList_quoted] at behind
  cases behind

mutual

theorem eq_of_toSource_append : ∀ (a : Expr) {b : Expr} {rest rest' : List Char},
    a.Readable → b.Readable → Text.Breaks rest → Text.Breaks rest' →
    (a.toSource true).toList ++ rest = (b.toSource true).toList ++ rest' →
    a.asFields = b.asFields ∧ rest = rest'
  | .create typeName arguments, b, rest, rest', first, second, breaks, breaks', same => by
    obtain ⟨surface, behind⟩ := first.split second breaks breaks' same
    obtain ⟨typeName', arguments', rfl⟩ := exists_eq_create_of_surface surface.symm
    cases first with
    | create _ _ plain each =>
        cases second with
        | create _ _ plain' each' =>
            simp only [Expr.behind, List.cons_append, List.append_assoc, List.nil_append,
              List.cons.injEq, true_and] at behind
            obtain ⟨type, inside⟩ := Text.append_opening_inj plain plain' behind
            obtain ⟨all, others⟩ := eq_of_argumentList arguments each each' inside
            refine ⟨?_, others⟩
            rw [asFields, asFields, String.toList_inj.1 type, all]
  | .field _, _, _, _, first, second, breaks, breaks', same
  | .property _, _, _, _, first, second, breaks, breaks', same
  | .argument _, _, _, _, first, second, breaks, breaks', same
  | .this, _, _, _, first, second, breaks, breaks', same
  | .verbatim _, _, _, _, first, second, breaks, breaks', same =>
    eq_of_toSource_append_of_ne_create first second breaks breaks' nofun same
  | .literal value, _, _, _, first, second, breaks, breaks', same =>
    eq_of_toSource_append_of_ne_create first second breaks breaks' (by cases value <;> nofun) same

theorem eq_of_argumentList : ∀ (as : List Expr) {bs : List Expr} {rest rest' : List Char},
    (∀ e ∈ as, Readable e) → (∀ e ∈ bs, Readable e) →
    argumentList as ++ ')' :: rest = argumentList bs ++ ')' :: rest' →
    asFieldsAll as = asFieldsAll bs ∧ rest = rest'
  | [], bs, rest, rest', _, second, same => by
    cases bs with
    | nil => exact ⟨rfl, (List.cons.inj same).2⟩
    | cons b bs =>
        rw [argumentList_cons, List.append_assoc] at same
        exact absurd same.symm
          ((second b List.mem_cons_self).append_ne_closing (breaks_moreArguments bs rest'))
  | a :: as, bs, rest, rest', first, second, same => by
    have here := first a List.mem_cons_self
    rw [argumentList_cons, List.append_assoc] at same
    cases bs with
    | nil => exact absurd same (here.append_ne_closing (breaks_moreArguments as rest))
    | cons b bs =>
        rw [argumentList_cons, List.append_assoc] at same
        obtain ⟨head, others⟩ := eq_of_toSource_append a here (second b List.mem_cons_self)
          (breaks_moreArguments as rest) (breaks_moreArguments bs rest') same
        obtain ⟨tail, left⟩ := eq_of_argumentList as
          (fun e listed => first e (List.mem_cons_of_mem a listed))
          (fun e listed => second e (List.mem_cons_of_mem b listed))
          (argumentList_eq_of_moreArguments others)
        exact ⟨congrArg₂ List.cons head tail, left⟩

end

mutual

theorem toSource_asFields (qualified : Bool) :
    ∀ e : Expr, e.asFields.toSource qualified = e.toSource qualified
  | field _ | property _ | argument _ | this | literal _ | verbatim _ => rfl
  | create _ arguments => by
    rw [asFields, toSource, toSource, argumentSources_asFieldsAll qualified arguments]

theorem argumentSources_asFieldsAll (qualified : Bool) :
    ∀ es : List Expr, argumentSources qualified (asFieldsAll es) = argumentSources qualified es
  | [] => rfl
  | e :: es => by
    rw [asFieldsAll, argumentSources, argumentSources, toSource_asFields qualified e,
      argumentSources_asFieldsAll qualified es]

end

theorem Readable.toSource_eq_iff {a b : Expr} (first : a.Readable) (second : b.Readable) :
    a.toSource true = b.toSource true ↔ a.asFields = b.asFields := by
  refine ⟨fun same => ?_, fun same => ?_⟩
  · have ends : Text.Breaks [] := nofun
    exact (eq_of_toSource_append a first second ends ends
      (congrArg (·.toList ++ []) same)).1
  · rw [← toSource_asFields true a, same, toSource_asFields true b]

/-- No written expression starts with the keyword of a return. -/
theorem Readable.append_ne_return {e : Expr} (readable : e.Readable) {rest rest' : List Char}
    (breaks : Text.Breaks rest) (breaks' : Text.Breaks rest') :
    (e.toSource true).toList ++ rest ≠ "return".toList ++ rest' := by
  intro same
  obtain ⟨surface, -⟩ := readable.surface_eq_ofToken "return"
    (fun c => isTokenPart_of_mem_keyword "return" (by decide)) breaks breaks' same
  have argument : ofToken "return" = .argument "return" := rfl
  rw [argument] at surface
  cases readable with
  | argument name named =>
      cases surface
      exact named.free (by decide)
  | literal value => cases value <;> cases surface
  | _ => cases surface

end Expr

/-! ## Statements -/

namespace Stmt

/-- The statement is written without source text of others, and its expressions are readable. -/
inductive Readable : Stmt → Prop
  | retNothing : Readable (.ret none)
  | ret (value : Expr) : value.Readable → Readable (.ret (some value))
  | assign (target value : Expr) : target.Readable → value.Readable →
    Readable (.assign target value)
  | eval (value : Expr) : value.Readable → Readable (.eval value)

/-- The statement with fields for properties. -/
def asFields : Stmt → Stmt
  | .ret value => .ret (value.map Expr.asFields)
  | .assign target value => .assign target.asFields value.asFields
  | .eval value => .eval value.asFields
  | .verbatim text => .verbatim text

/-- The expression that the written statement starts with, if it does not start with a keyword. -/
def front? : Stmt → Option Expr
  | .assign target _ => some target
  | .eval value => some value
  | _ => none

/-- What follows the expression or the keyword in the written statement, unless it is verbatim. -/
def behind : Stmt → List Char
  | .ret (some value) => ' ' :: (value.toSource true).toList ++ [';']
  | .assign _ value => ' ' :: '=' :: ' ' :: (value.toSource true).toList ++ [';']
  | _ => [';']

theorem breaks_behind (s : Stmt) : Text.Breaks s.behind := by
  unfold behind
  split <;> exact Text.breaks_cons rfl

theorem toSource_asFields (qualified : Bool) (s : Stmt) :
    s.asFields.toSource qualified = s.toSource qualified := by
  cases s with
  | ret value =>
      cases value with
      | none => rfl
      | some value =>
          rw [asFields, Option.map_some, toSource, toSource, Expr.toSource_asFields]
  | assign target value =>
      rw [asFields, toSource, toSource, Expr.toSource_asFields, Expr.toSource_asFields]
  | eval value => rw [asFields, toSource, toSource, Expr.toSource_asFields]
  | verbatim text => rfl

variable {s t : Stmt}

theorem Readable.toList_toSource (readable : s.Readable) :
    (s.toSource true).toList =
      (s.front?.elim "return" (·.toSource true)).toList ++ s.behind := by
  cases readable with
  | retNothing => rfl
  | ret value => simp [toSource, front?, behind]
  | assign target value => simp [toSource, front?, behind]
  | eval value => simp [toSource, front?, behind]

theorem Readable.readable_front (readable : s.Readable) {e : Expr} (front : s.front? = some e) :
    e.Readable := by
  cases readable with
  | assign target value first => cases front; exact first
  | eval value first => cases front; exact first
  | _ => cases front

/-- Statements that are written alike start alike, and go on alike. -/
theorem Readable.split (first : s.Readable) (second : t.Readable)
    (same : s.toSource true = t.toSource true) :
    s.front?.map Expr.asFields = t.front?.map Expr.asFields ∧ s.behind = t.behind := by
  have whole := congrArg String.toList same
  rw [first.toList_toSource, second.toList_toSource] at whole
  cases front : s.front? with
  | none =>
      cases front' : t.front? with
      | none =>
          rw [front, front'] at whole
          exact ⟨rfl, List.append_cancel_left whole⟩
      | some b =>
          rw [front, front'] at whole
          exact absurd whole.symm ((second.readable_front front').append_ne_return
            t.breaks_behind s.breaks_behind)
  | some a =>
      cases front' : t.front? with
      | none =>
          rw [front, front'] at whole
          exact absurd whole ((first.readable_front front).append_ne_return s.breaks_behind
            t.breaks_behind)
      | some b =>
          rw [front, front'] at whole
          obtain ⟨expression, behind⟩ := Expr.eq_of_toSource_append a (first.readable_front front)
            (second.readable_front front') s.breaks_behind t.breaks_behind whole
          exact ⟨congrArg some expression, behind⟩

theorem asFields_eq_of_value {a b : Expr} (first : a.Readable) (second : b.Readable)
    (same : (a.toSource true).toList ++ [';'] = (b.toSource true).toList ++ [';']) :
    a.asFields = b.asFields :=
  (first.toSource_eq_iff second).1 (String.toList_inj.1 (List.append_cancel_right same))

theorem Readable.asFields_eq (first : s.Readable) (second : t.Readable)
    (same : s.toSource true = t.toSource true) : s.asFields = t.asFields := by
  obtain ⟨front, behind⟩ := first.split second same
  cases first with
  | retNothing =>
      cases second with
      | retNothing => rfl
      | ret value => cases behind
      | _ => cases front
  | ret value readable =>
      cases second with
      | retNothing => cases behind
      | ret value' readable' =>
          have values := asFields_eq_of_value readable readable' (List.cons.inj behind).2
          rw [asFields, asFields, Option.map_some, Option.map_some, values]
      | _ => cases front
  | assign target value _ readable =>
      cases second with
      | assign target' value' _ readable' =>
          have targets : target.asFields = target'.asFields := Option.some.inj front
          have values := asFields_eq_of_value readable readable'
            (List.cons.inj (List.cons.inj (List.cons.inj behind).2).2).2
          rw [asFields, asFields, targets, values]
      | eval value' => cases behind
      | _ => cases front
  | eval value =>
      cases second with
      | assign target' value' => cases behind
      | eval value' =>
          have values : value.asFields = value'.asFields := Option.some.inj front
          rw [asFields, asFields, values]
      | _ => cases front

theorem Readable.toSource_eq_iff (first : s.Readable) (second : t.Readable) :
    s.toSource true = t.toSource true ↔ s.asFields = t.asFields := by
  refine ⟨first.asFields_eq second, fun same => ?_⟩
  rw [← toSource_asFields true s, same, toSource_asFields true t]

end Stmt

/-- **Written code is unambiguous.** Readable expressions are written alike with qualified
references exactly if they differ in nothing but that a reference to a field in one of them is a
reference to the property of that name in the other, and so are readable statements. -/
theorem toSource_unambiguous :
    (∀ a b : Expr, a.Readable → b.Readable →
      (a.toSource true = b.toSource true ↔ a.asFields = b.asFields)) ∧
    ∀ s t : Stmt, s.Readable → t.Readable →
      (s.toSource true = t.toSource true ↔ s.asFields = t.asFields) :=
  ⟨fun _ _ first second => first.toSource_eq_iff second,
    fun _ _ first second => first.toSource_eq_iff second⟩

/-- An assignment with a string that looks like the end of its argument, and a type with a comma. -/
def pairing (reference : String → Expr) (text : String) : Stmt :=
  .assign (reference "_both")
    (.create "Pair<A, B>" [.literal (.str text), .create "C" [], .literal (.int (-5)),
      reference "_both", .argument "news"])

theorem readable_pairing {reference : String → Expr}
    (readable : (reference "_both").Readable) (text : String) :
    (pairing reference text).Readable := by
  refine .assign _ _ readable (.create _ _ (by decide) ?_)
  have news : (Expr.argument "news").Readable := .argument _ ⟨by decide, by decide⟩
  have empty : (Expr.create "C" []).Readable := .create _ _ (by decide) nofun
  simp only [List.forall_mem_cons]
  exact ⟨.literal _, empty, .literal _, readable, news, nofun⟩

theorem pairing_unambiguous :
    (pairing .field "a\", b)").toSource true = (pairing .property "a\", b)").toSource true ∧
      (pairing .field "a\", b)").toSource true ≠ (pairing .field "a, \"b)").toSource true := by
  have both : Text.IsName "_both" := ⟨by decide, by decide⟩
  have fields := readable_pairing (.field _ both)
  have properties := readable_pairing (.property _ both)
  refine ⟨?_, fun same => ?_⟩
  · exact (toSource_unambiguous.2 _ _ (fields _) (properties _)).2 rfl
  · have equal := (toSource_unambiguous.2 _ _ (fields _) (fields _)).1 same
    revert equal
    decide

end Prologue
