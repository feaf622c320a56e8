/-!
# Rows of a text

A line feed ends a row, a carriage return directly before it belongs to the terminator, and the
text after the last line feed is a row only if it is not empty. So the empty text has no rows, a
final line feed starts no further row, and a carriage return elsewhere is an ordinary character.
-/

namespace Prologue.Text

/-- The rows of a list of characters, without their terminators. -/
def rowsOf : List Char → List (List Char)
  | [] => []
  | '\n' :: cs => [] :: rowsOf cs
  | '\r' :: '\n' :: cs => [] :: rowsOf cs
  | c :: cs =>
    match rowsOf cs with
    | [] => [[c]]
    | row :: rows => (c :: row) :: rows

/-- The rows of a text, without their terminators. -/
def rows (text : String) : List String := (rowsOf text.toList).map String.ofList

@[simp] theorem rowsOf_nil : rowsOf [] = [] := rfl

@[simp] theorem rowsOf_lineFeed (cs : List Char) : rowsOf ('\n' :: cs) = [] :: rowsOf cs := rfl

@[simp] theorem rowsOf_carriageReturn_lineFeed (cs : List Char) :
    rowsOf ('\r' :: '\n' :: cs) = [] :: rowsOf cs := rfl

example : rows "a\r\n\nb" = ["a", "", "b"] := by decide

example : rows "a\r\r\n\r" = ["a\r", "\r"] := by decide

end Prologue.Text
