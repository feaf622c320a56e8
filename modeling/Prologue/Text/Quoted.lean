/-!
# Quoted literals

A quoted literal stands between double quotes. Inside it the quote, the backslash, the line feed,
the carriage return and the tab are written as a backslash and one further character; every other
character stands for itself.
-/

namespace Prologue.Text

/-- The character after the backslash that stands for `c`, if `c` cannot stand for itself. -/
def escape? (c : Char) : Option Char :=
  match c with
  | '"' => some '"'
  | '\\' => some '\\'
  | '\n' => some 'n'
  | '\r' => some 'r'
  | '\t' => some 't'
  | _ => none

/-- The inside of a quoted literal. -/
def escaped : List Char → List Char
  | [] => []
  | c :: cs =>
    match escape? c with
    | some e => '\\' :: e :: escaped cs
    | none => c :: escaped cs

/-- A text as a quoted literal. -/
def quoted (text : String) : String := String.ofList ('"' :: escaped text.toList ++ ['"'])

example : quoted "say \"hi\"\\\n" = "\"say \\\"hi\\\"\\\\\\n\"" := by decide

end Prologue.Text
