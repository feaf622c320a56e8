/-!
# Lines

The layout of a declaration is a list of lines, each a depth and a text. What one level of
indentation looks like is not part of a line.
-/

namespace Prologue

/-- A text at a depth of indentation. -/
structure Line where
  depth : Nat
  text : String
deriving DecidableEq, Repr

namespace Line

/-- The line between two members. -/
def blank : Line := ⟨0, ""⟩

/-- The line that opens a block. -/
def opening (depth : Nat) : Line := ⟨depth, "\x7b"⟩

/-- The line that closes a block. -/
def closing (depth : Nat) : Line := ⟨depth, "\x7d"⟩

/-- The line with its indentation and its line feed. -/
def toSource (indent : String) (l : Line) : String :=
  String.join (List.replicate l.depth indent) ++ l.text ++ "\n"

end Line

end Prologue
