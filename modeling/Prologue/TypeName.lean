import Prologue.Code.Expr
import Prologue.Text.Blank
import Prologue.Text.Uppercase

/-!
# Written type names

A written type name may carry a namespace in front and type arguments behind. `TypeName.base` is
what is left without them, and the classifications below look at it: which types have a value
without being created, and which are named like an interface.
-/

namespace Prologue

namespace TypeName

/-- The part of a text before its first `<`, or all of it. -/
def withoutArguments (cs : List Char) : List Char := cs.takeWhile (· != '<')

/-- The part of a text after its last dot, or all of it. -/
def afterLastDot (cs : List Char) : List Char := (cs.reverse.takeWhile (· != '.')).reverse

/-- The characters of the name without type arguments and namespace. -/
def baseOf (cs : List Char) : List Char := afterLastDot (Text.trim (withoutArguments cs))

/-- The name without type arguments and namespace: the text before the first `<`, trimmed, from
after its last dot on. -/
def base (name : TypeName) : String := String.ofList (baseOf name.toList)

/-- The types that have a value without being created: the built-in types, under their keywords and
under their names in the framework, and the framework's dates, times and identifiers. -/
def scalarNames : List String :=
  ["bool", "byte", "sbyte", "char", "short", "ushort", "int", "uint", "long", "ulong", "float",
   "double", "decimal", "string", "object", "dynamic",
   "Boolean", "Byte", "SByte", "Char", "Int16", "UInt16", "Int32", "UInt32", "Int64", "UInt64",
   "Single", "Double", "Decimal", "String", "Object",
   "DateTime", "DateTimeOffset", "TimeSpan", "Guid"]

/-- Whether the characters end a nullable type or an array type. -/
def endsNullableOrArray (cs : List Char) : Bool :=
  cs.getLast? == some '?' || cs.getLast? == some ']'

/-- Whether the type has a value without being created: it is nullable, an array, or one of
`scalarNames`. -/
def isScalar (name : TypeName) : Bool :=
  let cs := Text.trim name.toList
  endsNullableOrArray cs || scalarNames.contains (base (String.ofList cs))

/-- Whether the name is that of an interface by convention: an `I` and then an uppercase letter. -/
def isInterface (name : TypeName) : Bool :=
  match name.toList with
  | 'I' :: c :: _ => Text.isUppercase c
  | _ => false

example : base "System.Collections.Generic.List<Shop.Item>" = "List" := by decide

example : isScalar " System.Int32 " = true ∧ isScalar "List<int>[]" = true ∧
    isScalar "List<int>" = false := by
  decide

end TypeName

end Prologue
