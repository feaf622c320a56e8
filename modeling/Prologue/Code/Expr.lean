/-!
# Expressions

Only what can be asked about an expression is modelled: references, literals and object creation.
Any other expression is carried as the text it was given as, so no code is lost.
-/

namespace Prologue

/-- A type as it is written in source text, such as `System.Collections.Generic.List<int>`. -/
abbrev TypeName := String

/-- A literal value. -/
inductive Literal where
  | null
  | bool (value : Bool)
  | int (value : Int)
  /-- A string, given by its content and not by its escaped form. -/
  | str (content : String)
deriving DecidableEq, Repr, Inhabited

/-- An expression. -/
inductive Expr where
  /-- A field of the enclosing type. -/
  | field (name : String)
  /-- A property of the enclosing type. -/
  | property (name : String)
  /-- A parameter, or the implicit `value` of a setter. -/
  | argument (name : String)
  /-- The object itself. -/
  | this
  | literal (value : Literal)
  /-- Creates an object of the type from the arguments. -/
  | create (typeName : TypeName) (arguments : List Expr)
  /-- Any other expression, as source text. -/
  | verbatim (text : String)
deriving Repr, Inhabited

namespace Expr

/-- Creates an object without arguments. -/
def createEmpty (typeName : TypeName) : Expr := .create typeName []

/-- The name of the field, if the expression is a reference to one. -/
def fieldName? : Expr → Option String
  | field name => some name
  | _ => none

@[simp] theorem fieldName?_eq_some_iff {e : Expr} {name : String} :
    e.fieldName? = some name ↔ e = field name := by
  cases e <;> simp [fieldName?]

mutual

/-- Structural equality, by recursion on the tree. -/
def same : Expr → Expr → Bool
  | field a, field b => a == b
  | property a, property b => a == b
  | argument a, argument b => a == b
  | this, this => true
  | literal a, literal b => a == b
  | create t as, create u bs => t == u && sameAll as bs
  | verbatim a, verbatim b => a == b
  | _, _ => false

/-- Structural equality of argument lists. -/
def sameAll : List Expr → List Expr → Bool
  | [], [] => true
  | a :: as, b :: bs => same a b && sameAll as bs
  | _, _ => false

end

mutual

theorem same_self : ∀ e : Expr, same e e = true
  | field _ | property _ | argument _ | this | literal _ | verbatim _ => by simp [same]
  | create _ as => by simp [same, sameAll_self as]

theorem sameAll_self : ∀ es : List Expr, sameAll es es = true
  | [] => rfl
  | e :: es => by simp [sameAll, same_self e, sameAll_self es]

end

mutual

theorem eq_of_same : ∀ {a b : Expr}, same a b = true → a = b
  | field _, b, h | property _, b, h | argument _, b, h | this, b, h | literal _, b, h
  | verbatim _, b, h => by cases b <;> simp_all [same]
  | create _ as, b, h => by
    cases b with
    | create _ bs =>
      simp only [same, Bool.and_eq_true, beq_iff_eq] at h
      rw [h.1, eq_of_sameAll h.2]
    | _ => simp [same] at h

theorem eq_of_sameAll : ∀ {as bs : List Expr}, sameAll as bs = true → as = bs
  | [], [], _ => rfl
  | a :: as, b :: bs, h => by
    simp only [sameAll, Bool.and_eq_true] at h
    rw [eq_of_same h.1, eq_of_sameAll h.2]
  | [], _ :: _, h | _ :: _, [], h => by simp [sameAll] at h

end

theorem same_iff_eq {a b : Expr} : same a b = true ↔ a = b :=
  ⟨eq_of_same, fun h => h ▸ same_self a⟩

instance : DecidableEq Expr := fun _ _ => decidable_of_iff _ same_iff_eq

end Expr

example :
    Expr.create "Pair" [.this, .createEmpty "A"] ≠ .create "Pair" [.this, .createEmpty "B"] := by
  decide

end Prologue
