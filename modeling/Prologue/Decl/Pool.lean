import Prologue.Decl.Cursor

/-!
# Pools of cursors

A pool keeps cursors over the members of one declaration, numbered from zero. A step moves one of
them, copies one of them, or opens a new one; no step touches a cursor that it does not name.
-/

namespace Prologue

/-- Cursors over the members of kind `α` of one declaration, in the order they were opened. -/
structure Pool (α : Type) where
  /-- The declaration that a new cursor walks. -/
  decl : TypeDecl
  cursors : List (Cursor α)
deriving DecidableEq, Repr

namespace Pool

/-- What can be done to a pool. -/
inductive Step where
  /-- Moves the cursor of the number. -/
  | move (cursor : Nat) (move : Cursor.Move)
  /-- Adds a copy of the cursor of the number. -/
  | clone (cursor : Nat)
  /-- Adds a cursor over all members of the kind. -/
  | fresh
deriving DecidableEq, Repr

/-- What a step answers. -/
inductive Answer (α : Type) where
  /-- The item that a cursor came upon, if it came upon one. -/
  | item (item : Option α)
  /-- The number of the cursor that was added. -/
  | added (cursor : Nat)
deriving DecidableEq, Repr

variable {α : Type}

/-- The pool with one cursor, over all members of the kind. -/
def ofDecl (d : TypeDecl) : Pool α := ⟨d, [d.cursor α]⟩

/-- Adds a cursor and answers its number. -/
def add (p : Pool α) (c : Cursor α) : Answer α × Pool α :=
  (.added p.cursors.length, { p with cursors := p.cursors ++ [c] })

/-- Takes one step, or answers nothing if the step names a cursor that the pool does not have. -/
def step? [MemberKind α] (p : Pool α) : Step → Option (Answer α × Pool α)
  | .move i m =>
    p.cursors[i]?.map fun c =>
      let (item, c) := c.move m
      (.item item, { p with cursors := p.cursors.set i c })
  | .clone i => p.cursors[i]?.map p.add
  | .fresh => some (p.add (p.decl.cursor α))

/-- Takes the steps in order and answers them all. -/
def run? [MemberKind α] (p : Pool α) : List Step → Option (List (Answer α) × Pool α)
  | [] => some ([], p)
  | s :: ss => do
    let (answer, p) ← p.step? s
    let (answers, p) ← p.run? ss
    return (answer :: answers, p)

end Pool

end Prologue
