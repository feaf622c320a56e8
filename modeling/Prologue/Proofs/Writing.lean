import Prologue.Proofs.TextLines

/-!
# What is written

Writing a declaration puts the unit of indentation into the output all along the way. `Writes` says
of a part of this that it puts the text of certain lines behind the output, under every unit and
whatever stands there already. The lines are fixed before the unit is.

Two parts that do so one after the other do it together, and so the lines of a declaration come from
those of its members, bodies and statements: `TypeDecl.toSource_eq_textOf`.
-/

namespace Prologue

/-- With the choice of qualification, whatever the other settings are, the text of the lines is put
behind the output. -/
def Writes (qualified : Bool) (write : Settings → String → String) (ls : List Line) : Prop :=
  ∀ s : Settings, s.thisQualifier = qualified → ∀ output,
    write s output = output ++ textOf s.indent ls

namespace Writes

variable {qualified : Bool} {f g : Settings → String → String} {ls ks : List Line}

theorem nothing (qualified : Bool) : Writes qualified (fun _ output => output) [] :=
  fun _ _ _ => String.append_empty.symm

theorem andThen (first : Writes qualified f ls) (second : Writes qualified g ks) :
    Writes qualified (fun s output => g s (f s output)) (ls ++ ks) := by
  intro s choice output
  calc g s (f s output) = f s output ++ textOf s.indent ks := second s choice _
    _ = output ++ textOf s.indent ls ++ textOf s.indent ks := by rw [first s choice]
    _ = output ++ textOf s.indent (ls ++ ks) := by rw [textOf_append, String.append_assoc]

/-- A choice that does not depend on the settings or the output is one of lines. -/
theorem ite (c : Prop) [Decidable c] (first : Writes qualified f ls)
    (second : Writes qualified g ks) :
    Writes qualified (fun s output => if c then f s output else g s output)
      (if c then ls else ks) := by
  split
  · exact first
  · exact second

/-- A loop over a list writes the lines of its items. -/
theorem each {α : Type} {write : Settings → α → String → String} {lines : α → List Line}
    (item : ∀ a, Writes qualified (fun s => write s a) (lines a)) (as : List α) :
    Writes qualified (fun s output => as.foldl (fun output a => write s a output) output)
      (as.flatMap lines) := by
  induction as with
  | nil => exact nothing qualified
  | cons a as ih => exact (item a).andThen ih

end Writes

/-! ## Lines and bodies -/

section

variable (qualified : Bool)

theorem repeat_append (indent output : String) (depth : Nat) :
    Nat.repeat (· ++ indent) depth output =
      output ++ String.join (List.replicate depth indent) := by
  induction depth with
  | zero => exact String.append_empty.symm
  | succ depth ih =>
      have last : String.join [indent] = indent := String.join_cons.trans String.append_empty
      rw [Nat.repeat, ih, List.replicate_succ', String.join_append, String.append_assoc, last]

theorem writes_line (depth : Nat) (text : String) :
    Writes qualified (fun s => writeLine s depth text) [⟨depth, text⟩] := by
  intro s _ output
  simp only [writeLine, repeat_append, textOf_cons, Line.toSource, String.append_assoc]
  rfl

theorem writes_rows (depth : Nat) (text : String) :
    Writes qualified (fun s => writeRows s depth text) (rowLines depth text) := by
  rw [rowLines, List.map_eq_flatMap]
  exact .each (writes_line qualified depth) (Text.rows text)

theorem writes_body (depth : Nat) (body : List Stmt) :
    Writes qualified (fun s => writeBody s depth body) (bodyLines qualified depth body) := by
  have statement (statement : Stmt) : Writes qualified
      (fun s => writeRows s (depth + 1) (statement.toSource s.thisQualifier))
      (statement.lines qualified (depth + 1)) := by
    intro s choice output
    subst choice
    exact writes_rows s.thisQualifier (depth + 1) _ s rfl output
  exact ((writes_line qualified depth _).andThen (.each statement body)).andThen
    (writes_line qualified depth _)

/-! ## Members -/

theorem Field.writes (f : Field) : Writes qualified (fun s => f.write s) (f.lines qualified) := by
  obtain ⟨name, typeName, initializer⟩ := f
  intro s choice output
  subst choice
  cases initializer with
  | none => exact writes_line s.thisQualifier 1 _ s rfl output
  | some value => exact writes_line s.thisQualifier 1 _ s rfl output

theorem Property.writes_accessor (keyword : String) (body : List Stmt) :
    Writes qualified (fun s => writeAccessor s keyword body)
      (accessorLines qualified keyword body) :=
  (writes_line qualified 2 keyword).andThen (writes_body qualified 2 body)

theorem Property.writes (p : Property) :
    Writes qualified (fun s => p.write s) (p.lines qualified) := by
  have opened := (writes_line qualified 1 ("public " ++ p.typeName ++ " " ++ p.name)).andThen
    (writes_line qualified 1 "\x7b")
  have readable := opened.andThen (writes_accessor qualified "get" p.getter)
  have writable := readable.andThen
    (.ite (p.isReadOnly = true) (.nothing qualified) (writes_accessor qualified "set" p.setter))
  exact writable.andThen (writes_line qualified 1 "\x7d")

theorem Property.writes_signature (p : Property) :
    Writes qualified (fun s => p.writeSignature s) p.signatureLines :=
  writes_line qualified 1 _

theorem Constructor.writes (typeName : TypeName) (c : Constructor) :
    Writes qualified (fun s => c.write s typeName) (c.lines qualified typeName) :=
  (writes_line qualified 1 _).andThen (writes_body qualified 1 c.body)

theorem Method.writes (m : Method) :
    Writes qualified (fun s => m.write s) (m.lines qualified) :=
  (writes_line qualified 1 _).andThen (writes_body qualified 1 m.body)

theorem Method.writes_signature (m : Method) :
    Writes qualified (fun s => m.writeSignature s) m.signatureLines :=
  writes_line qualified 1 _

theorem Member.writes (typeName : TypeName) (kind : TypeKind) (m : Member) :
    Writes qualified (fun s => m.write s typeName kind) (m.lines qualified typeName kind) := by
  cases m with
  | field f => exact f.writes qualified
  | property p => exact .ite _ (p.writes_signature qualified) (p.writes qualified)
  | constructor c => exact c.writes qualified typeName
  | method m => exact .ite _ (m.writes_signature qualified) (m.writes qualified)
  | verbatim text => exact writes_rows qualified 1 text

/-! ## Declarations -/

namespace TypeDecl

theorem writes_header (d : TypeDecl) :
    Writes qualified (fun _ => d.writeHeader) [d.header] := by
  intro s _ output
  have unindented : d.header.toSource s.indent = d.header.text ++ "\n" := by
    simp [Line.toSource, depth_header]
  rw [textOf_cons, unindented]
  unfold writeHeader header
  cases d.kind <;> simp [textOf, String.append_assoc]

/-- Every member but the first one is written behind a blank line. -/
theorem writes_later_members (d : TypeDecl) (ms : List Member) (position : Nat) :
    Writes qualified (fun s output => (ms.zipIdx (position + 1)).foldl
        (fun output entry => d.writeMember s entry.2 entry.1 output) output)
      (ms.flatMap fun m => [Line.blank] ++ m.lines qualified d.name d.kind) := by
  induction ms generalizing position with
  | nil => exact .nothing qualified
  | cons m ms ih =>
      have blank : Writes qualified (fun _ output => output ++ "\n") [Line.blank] := by
        intro s _ output
        simp [textOf, Line.toSource, Line.blank]
      have later := (blank.andThen (m.writes qualified d.name d.kind)).andThen (ih (position + 1))
      simpa [List.zipIdx_cons, writeMember] using later

theorem writes_members (d : TypeDecl) :
    Writes qualified (fun s => d.writeMembers s) (d.memberLines qualified) := by
  unfold memberLines writeMembers
  cases d.members with
  | nil => exact .nothing qualified
  | cons m ms =>
      have all := (m.writes qualified d.name d.kind).andThen (writes_later_members qualified d ms 0)
      rw [List.map_cons, intercalate_cons_eq, List.flatMap_map]
      simpa [List.zipIdx_cons, writeMember] using all

end TypeDecl

end

/-- The text of a declaration is that of its lines. -/
theorem TypeDecl.toSource_eq_textOf (s : Settings) (d : TypeDecl) :
    d.toSource s = textOf s.indent (d.lines s.thisQualifier) := by
  have brace (text : String) : Writes s.thisQualifier (fun _ output => output ++ (text ++ "\n"))
      [⟨0, text⟩] := by
    intro t _ output
    simp [textOf, Line.toSource]
  have opened := (d.writes_header s.thisQualifier).andThen (brace "\x7b")
  have filled := opened.andThen (d.writes_members s.thisQualifier)
  have whole := filled.andThen (brace "\x7d") s rfl ""
  rw [String.empty_append] at whole
  exact whole

end Prologue
