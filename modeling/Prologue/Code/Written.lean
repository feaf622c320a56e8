import Prologue.Code.Stmt
import Prologue.Text.Quoted

/-!
# Written code

The source text of literals, expressions and statements. A reference to a field or a property of
the object may be qualified with `this`; nothing else depends on that choice. A statement is
written with its terminator.
-/

namespace Prologue

/-- The source text of a literal. -/
def Literal.toSource : Literal → String
  | .null => "null"
  | .bool true => "true"
  | .bool false => "false"
  | .int value => value.repr
  | .str content => Text.quoted content

namespace Expr

/-- The source text of a reference to a member of the object. -/
def memberSource (qualified : Bool) (name : String) : String :=
  if qualified then "this." ++ name else name

mutual

/-- The source text of an expression. -/
def toSource (qualified : Bool) : Expr → String
  | field name => memberSource qualified name
  | property name => memberSource qualified name
  | argument name => name
  | this => "this"
  | literal value => value.toSource
  | create typeName arguments =>
    "new " ++ typeName ++ "(" ++ ", ".intercalate (argumentSources qualified arguments) ++ ")"
  | verbatim text => text

/-- The source texts of the arguments, in order. -/
def argumentSources (qualified : Bool) : List Expr → List String
  | [] => []
  | e :: es => toSource qualified e :: argumentSources qualified es

end

theorem argumentSources_eq_map (qualified : Bool) (es : List Expr) :
    argumentSources qualified es = es.map (toSource qualified) := by
  induction es with
  | nil => rfl
  | cons e es ih => simp [argumentSources, ih]

end Expr

/-- The source text of a statement. -/
def Stmt.toSource (qualified : Bool) : Stmt → String
  | .ret none => "return;"
  | .ret (some value) => "return " ++ value.toSource qualified ++ ";"
  | .assign target value => target.toSource qualified ++ " = " ++ value.toSource qualified ++ ";"
  | .eval value => value.toSource qualified ++ ";"
  | .verbatim text => text

example : (Stmt.assignField "_items" (.create "Box" [.this, .property "P"])).toSource true =
    "this._items = new Box(this, this.P);" := by
  decide

end Prologue
