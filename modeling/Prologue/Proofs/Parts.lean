import Prologue.Code.Written
import Prologue.Proofs.TextLines

/-!
# The parts of written code

Written code is put together from parts: words and marks of the language, references to members of
the object, names, types and verbatim texts, and literals. `Expr.parts` and `Stmt.parts` list the
parts in order, and the written code is what the parts are written as, one after the other:
`Expr.toList_toSource_eq_flatMap` and `Stmt.toList_toSource_eq_flatMap`. So a question about the
characters of written code can be put to each part on its own.
-/

namespace Prologue

/-! ## Kinds of parts -/

/-- A word or a mark of the language, with the blanks that stand beside it. -/
inductive Mark where
  | this
  | new
  | opening
  | comma
  | closing
  | ret
  | space
  | assign
  | semicolon
deriving DecidableEq, Repr

/-- How a word or a mark is written. -/
def Mark.toSource : Mark → String
  | this => "this"
  | new => "new "
  | opening => "("
  | comma => ", "
  | closing => ")"
  | ret => "return"
  | space => " "
  | assign => " = "
  | semicolon => ";"

/-- A part of written code. -/
inductive Part where
  | mark (mark : Mark)
  /-- A reference to a member of the object, by its name. -/
  | member (name : String)
  /-- The name of a parameter, or a type. -/
  | name (text : String)
  | verbatim (text : String)
  | literal (value : Literal)
deriving DecidableEq, Repr

namespace Part

/-- How a part is written. -/
def toSource (qualified : Bool) : Part → String
  | mark m => m.toSource
  | member text => Expr.memberSource qualified text
  | name text | verbatim text => text
  | literal value => value.toSource

/-- The name or the type in the part, if it has one. -/
def name? : Part → Option String
  | member text | name text => some text
  | mark _ | verbatim _ | literal _ => none

/-- The name, the type or the verbatim text in the part, if it has one. -/
def given? : Part → Option String
  | member text | name text | verbatim text => some text
  | mark _ | literal _ => none

/-- The content of the string literal, if the part is one. -/
def content? : Part → Option String
  | literal (.str content) => some content
  | _ => none

theorem content?_eq_some_iff {p : Part} {content : String} :
    p.content? = some content ↔ p = literal (.str content) := by
  unfold content?
  split <;> simp_all

end Part

/-! ## The parts of expressions and statements -/

namespace Expr

mutual

/-- The parts of an expression, in order. -/
def parts : Expr → List Part
  | field name => [.member name]
  | property name => [.member name]
  | argument name => [.name name]
  | this => [.mark .this]
  | literal value => [.literal value]
  | create typeName arguments =>
    .mark .new :: .name typeName :: .mark .opening ::
      [Part.mark .comma].intercalate (argumentParts arguments) ++ [.mark .closing]
  | verbatim text => [.verbatim text]

/-- The parts of each argument. -/
def argumentParts : List Expr → List (List Part)
  | [] => []
  | e :: es => parts e :: argumentParts es

end

end Expr

/-- The parts of a statement, in order. -/
def Stmt.parts : Stmt → List Part
  | .ret none => [.mark .ret, .mark .semicolon]
  | .ret (some value) => .mark .ret :: .mark .space :: value.parts ++ [.mark .semicolon]
  | .assign target value => target.parts ++ .mark .assign :: value.parts ++ [.mark .semicolon]
  | .eval value => value.parts ++ [.mark .semicolon]
  | .verbatim text => [.verbatim text]

namespace Stmt

/-- The names, types and verbatim texts in the statement. -/
def givenTexts (s : Stmt) : List String := s.parts.filterMap Part.given?

/-- The contents of the string literals in the statement. -/
def contents (s : Stmt) : List String := s.parts.filterMap Part.content?

end Stmt

/-- The parts of the code in a member: of its initializer or of its bodies. -/
def Member.codeParts : Member → List Part
  | .field f => f.initializer.elim [] Expr.parts
  | .property p => (p.getter ++ p.setter).flatMap Stmt.parts
  | .constructor c => c.body.flatMap Stmt.parts
  | .method m => m.body.flatMap Stmt.parts
  | .verbatim _ => []

/-! ## Written code as its parts -/

namespace Expr

variable (qualified : Bool)

mutual

theorem toList_toSource_eq_flatMap : ∀ e : Expr,
    (e.toSource qualified).toList = e.parts.flatMap fun p => (p.toSource qualified).toList
  | field _ | property _ | argument _ | this | literal _ | verbatim _ => by
    simp [toSource, parts, Part.toSource, Mark.toSource]
  | create typeName arguments => by
    have inside := toList_argumentSources arguments
    simp [toSource, parts, Part.toSource, Mark.toSource, flatMap_intercalate, inside]

theorem toList_argumentSources : ∀ es : List Expr,
    (argumentSources qualified es).map String.toList =
      (argumentParts es).map (·.flatMap fun p => (p.toSource qualified).toList)
  | [] => rfl
  | e :: es => by
    rw [argumentSources, argumentParts, List.map_cons, List.map_cons,
      toList_toSource_eq_flatMap e, toList_argumentSources es]

end

end Expr

theorem Stmt.toList_toSource_eq_flatMap (qualified : Bool) (s : Stmt) :
    (s.toSource qualified).toList = s.parts.flatMap fun p => (p.toSource qualified).toList := by
  cases s with
  | ret value =>
      cases value with
      | none => simp [toSource, parts, Part.toSource, Mark.toSource]
      | some value =>
          simp [toSource, parts, Part.toSource, Mark.toSource, Expr.toList_toSource_eq_flatMap]
  | assign target value =>
      simp [toSource, parts, Part.toSource, Mark.toSource, Expr.toList_toSource_eq_flatMap]
  | eval value =>
      simp [toSource, parts, Part.toSource, Mark.toSource, Expr.toList_toSource_eq_flatMap]
  | verbatim text => simp [toSource, parts, Part.toSource]

end Prologue
