import Prologue.Decl.Defects
import Prologue.Layout.Writing
import Prologue.Merge

/-!
# Completion

`TypeDecl.complete` puts the assignments that a declaration lacks into its constructors and writes
the result. A declaration with a defect is not planned for, and one that cannot be planned for is
not touched. `completeAll` does the same for a list of declarations and stops at the first failure.
-/

namespace Prologue

/-- What is told about the properties that a plan skips. -/
def Plan.summary (p : Plan) : List Event :=
  if p.skipped.isEmpty then [] else [.withoutBackingField p.typeName p.skipped.length]

/-- Completes a declaration and answers its source text. -/
def TypeDecl.complete (s : Settings) (d : TypeDecl) : Outcome TypeDecl String :=
  match d.defect? with
  | some defect => ⟨.error (.malformed defect), d, []⟩
  | none =>
    let planned := d.plan s
    match planned.answer with
    | .error e => ⟨.error e, d, planned.log⟩
    | .ok p =>
      let merged := p.mergeInto d
      ⟨merged.answer.map fun _ => merged.after.toSource s, merged.after,
        planned.log ++ p.summary ++ merged.log⟩

/-- Completes declarations one after the other and answers their source texts. The declarations
from the first failure on are left as they are. -/
def completeEach (s : Settings) : List TypeDecl → Outcome (List TypeDecl) (List String)
  | [] => ⟨.ok [], [], []⟩
  | d :: ds =>
    let first := d.complete s
    match first.answer with
    | .error e => ⟨.error e, first.after :: ds, first.log⟩
    | .ok text =>
      let others := completeEach s ds
      ⟨others.answer.map (text :: ·), first.after :: others.after, first.log ++ others.log⟩

/-- Completes declarations and answers their source texts, with a blank line between two of them. -/
def completeAll (s : Settings) (ds : List TypeDecl) : Outcome (List TypeDecl) String :=
  let each := completeEach s ds
  { each with answer := each.answer.map "\n".intercalate }

end Prologue
