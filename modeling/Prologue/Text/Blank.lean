/-!
# White space

`Text.isBlank` is the Unicode property White_Space, and `Text.trim` takes blank characters off
both ends of a text. Core's `Char.isWhitespace` is the part of the property below code point 33
that source text commonly uses, so `isBlank_of_isWhitespace` holds and its converse does not.
-/

namespace Prologue.Text

/-- Whether the character has the Unicode property White_Space: the controls from tab to carriage
return, the next-line control, and the space, line and paragraph separators. -/
def isBlank (c : Char) : Bool :=
  let n := c.toNat
  (0x09 ≤ n && n ≤ 0x0D) || n == 0x20 || n == 0x85 || n == 0xA0 || n == 0x1680 ||
    (0x2000 ≤ n && n ≤ 0x200A) || n == 0x2028 || n == 0x2029 || n == 0x202F || n == 0x205F ||
    n == 0x3000

/-- Takes the blank characters off the front. -/
def trimStart (cs : List Char) : List Char := cs.dropWhile isBlank

/-- Takes the blank characters off the back. -/
def trimEnd (cs : List Char) : List Char := (trimStart cs.reverse).reverse

/-- Takes the blank characters off both ends. -/
def trim (cs : List Char) : List Char := trimEnd (trimStart cs)

/-- Every character that core counts as white space is blank. -/
theorem isBlank_of_isWhitespace {c : Char} (h : c.isWhitespace = true) : isBlank c = true := by
  simp only [Char.isWhitespace, Bool.or_eq_true, decide_eq_true_eq] at h
  rcases h with ((rfl | rfl) | rfl) | rfl <;> decide

@[simp] theorem trimStart_nil : trimStart [] = [] := rfl

@[simp] theorem trimEnd_nil : trimEnd [] = [] := rfl

@[simp] theorem trim_nil : trim [] = [] := rfl

end Prologue.Text
