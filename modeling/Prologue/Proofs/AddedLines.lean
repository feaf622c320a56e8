import Prologue.Proofs.Coverage
import Prologue.Proofs.TypeNames
import Prologue.Proofs.Writing

/-!
# What completion adds to the text

A completion changes a declaration by putting assignments into constructors, and its text by putting
lines in between. This module says which lines and where.

* `TypeDecl.linesWith` are the lines of a declaration with further lines directly after the opening
  brace of each constructor. If no constructor has to be made, the text after a completion is this,
  with the assignments that each constructor lacks.
* `TypeDecl.lines_merged_of_lacksConstructor` is the other case: one block more after the last
  field.
* `TypeDecl.complete_adds_lines` puts the two together and counts the lines.

An assignment is one line if the name and the type of its field have no line feed. Nothing is asked
of the rest of the declaration.
-/

namespace Prologue

/-! ## The line of an assignment -/

namespace FieldInit

/-- The line of the assignment in the body of a constructor. -/
def line (qualified : Bool) (i : FieldInit) : Line :=
  ⟨2, Expr.memberSource qualified i.field ++ " = new " ++ i.typeName ++ "();"⟩

/-- Neither the name nor the type of the field has a line feed. -/
structure Plain (i : FieldInit) : Prop where
  field : '\n' ∉ i.field.toList
  typeName : '\n' ∉ i.typeName.toList

variable {i : FieldInit} {qualified : Bool}

theorem toSource_toStmt (i : FieldInit) (qualified : Bool) :
    i.toStmt.toSource qualified = (i.line qualified).text := by
  rw [← String.toList_inj]
  simp [toStmt, Stmt.assignField, Stmt.toSource, Expr.toSource, Expr.createEmpty,
    Expr.argumentSources, line, String.toList_append]

theorem Plain.line (plain : i.Plain) : '\n' ∉ (i.line qualified).text.toList := by
  cases qualified <;>
    simp [FieldInit.line, Expr.memberSource, String.toList_append, plain.field, plain.typeName]

theorem Plain.lines_toStmt (plain : i.Plain) : i.toStmt.lines qualified 2 = [i.line qualified] := by
  have some : (i.line qualified).text ≠ "" := by
    intro empty
    simpa [FieldInit.line] using congrArg String.toList empty
  rw [Stmt.lines, rowLines, toSource_toStmt, Text.rows_eq_singleton some plain.line]
  rfl

theorem flatMap_lines_toStmt {inits : List FieldInit} (plain : ∀ i ∈ inits, i.Plain) :
    (inits.map (·.toStmt)).flatMap (·.lines qualified 2) = inits.map (·.line qualified) := by
  induction inits with
  | nil => rfl
  | cons i inits ih =>
      have first := plain i List.mem_cons_self
      have others := ih fun j listed => plain j (List.mem_cons_of_mem _ listed)
      rw [List.map_cons, List.flatMap_cons, first.lines_toStmt, others]
      rfl

end FieldInit

/-! ## Lines after the opening braces -/

/-- The lines of the constructor with further lines after the second one, which is that of the
opening brace of its body. -/
def Constructor.linesWith (qualified : Bool) (typeName : TypeName) (added : List Line)
    (c : Constructor) : List Line :=
  (c.lines qualified typeName).take 2 ++ added ++ (c.lines qualified typeName).drop 2

/-- The lines of the member with further lines after the opening brace of a constructor. -/
def Member.linesWith (qualified : Bool) (typeName : TypeName) (kind : TypeKind)
    (added : Constructor → List Line) : Member → List Line
  | .constructor c => c.linesWith qualified typeName (added c)
  | m => m.lines qualified typeName kind

/-- The lines of the declaration with further lines after the opening brace of each constructor. -/
def TypeDecl.linesWith (qualified : Bool) (added : Constructor → List Line) (d : TypeDecl) :
    List Line :=
  d.header :: Line.opening 0 ::
    [Line.blank].intercalate (d.members.map (·.linesWith qualified d.name d.kind added)) ++
    [Line.closing 0]

/-- The second line of a constructor opens its body. -/
theorem Constructor.getElem?_one_lines (qualified : Bool) (typeName : TypeName) (c : Constructor) :
    (c.lines qualified typeName)[1]? = some (Line.opening 1) := rfl

theorem Constructor.lines_completed {inits : List FieldInit} (plain : ∀ i ∈ inits, i.Plain)
    (qualified : Bool) (typeName : TypeName) (c : Constructor) :
    (c.completed inits).lines qualified typeName =
      c.linesWith qualified typeName ((c.missing inits).map (·.line qualified)) := by
  have own : ∀ i ∈ c.missing inits, i.Plain := fun i listed => plain i (mem_missing.1 listed).1
  simp only [linesWith, lines, bodyLines, completed, precededBy, List.flatMap_append,
    FieldInit.flatMap_lines_toStmt own]
  simp

theorem Member.interleaves_linesWith (qualified : Bool) (typeName : TypeName) (kind : TypeKind)
    (added : Constructor → List Line) (m : Member) :
    Interleaves (((MemberKind.ofMember? m).map added).getD [])
      (m.lines qualified typeName kind) (m.linesWith qualified typeName kind added) := by
  cases m with
  | constructor c =>
      have whole := Interleaves.between ((c.lines qualified typeName).take 2) (added c)
        ((c.lines qualified typeName).drop 2)
      rwa [List.take_append_drop] at whole
  | _ => exact .nothing _

theorem flatMap_constructors (added : Constructor → List Line) (ms : List Member) :
    ms.flatMap (fun m => ((MemberKind.ofMember? m).map added).getD []) =
      (ms.filterMap MemberKind.ofMember?).flatMap added := by
  induction ms with
  | nil => rfl
  | cons m ms ih =>
      rw [List.flatMap_cons, List.filterMap_cons, ih]
      cases MemberKind.ofMember? (α := Constructor) m <;> rfl

namespace TypeDecl

variable {s : Settings} {d : TypeDecl} {inits : List FieldInit} {qualified : Bool}

theorem interleaves_linesWith (qualified : Bool) (added : Constructor → List Line)
    (d : TypeDecl) :
    Interleaves (d.constructors.flatMap added) (d.lines qualified)
      (d.linesWith qualified added) := by
  have members := Interleaves.intercalate [Line.blank] fun m (_ : m ∈ d.members) =>
    m.interleaves_linesWith qualified d.name d.kind added
  rw [flatMap_constructors] at members
  have whole := ((Interleaves.nothing [d.header, Line.opening 0]).append members).append
    (.nothing [Line.closing 0])
  rwa [List.nil_append, List.append_nil] at whole

theorem lines_mapConstructors_completed (plain : ∀ i ∈ inits, i.Plain) :
    (d.mapConstructors (Constructor.completed inits)).lines qualified =
      d.linesWith qualified fun c => (c.missing inits).map (·.line qualified) := by
  have members : (d.mapConstructors (Constructor.completed inits)).members.map
      (·.lines qualified d.name d.kind) =
      d.members.map (·.linesWith qualified d.name d.kind
        fun c => (c.missing inits).map (·.line qualified)) := by
    rw [mapConstructors, List.map_map]
    refine List.map_congr_left fun m _ => ?_
    cases m with
    | constructor c => exact c.lines_completed plain qualified d.name
    | _ => rfl
  rw [lines, memberLines, name_mapConstructors, kind_mapConstructors, members]
  rfl

end TypeDecl

/-! ## A block after the last field -/

/-- The lines of a constructor without parameters that makes the assignments. -/
def constructorBlock (qualified : Bool) (typeName : TypeName) (inits : List FieldInit) :
    List Line :=
  ⟨1, "public " ++ typeName.base ++ "()"⟩ :: Line.opening 1 ::
    inits.map (·.line qualified) ++ [Line.closing 1]

theorem Constructor.lines_completed_empty {inits : List FieldInit}
    (plain : ∀ i ∈ inits, i.Plain) (qualified : Bool) (typeName : TypeName) :
    (Constructor.completed inits {}).lines qualified typeName =
      constructorBlock qualified typeName inits := by
  have all : Constructor.missing inits {} = inits := List.filter_eq_self.2 fun _ _ => rfl
  have header : "public " ++ typeName.base ++ "(" ++ parametersSource [] ++ ")" =
      "public " ++ typeName.base ++ "()" := by
    rw [← String.toList_inj]
    simp [parametersSource]
  rw [lines_completed plain, all, linesWith, lines, header]
  simp [bodyLines, constructorBlock]

/-- Where a field is declared, the place after the last one is found. -/
theorem exists_lastField {ms : List Member} (some : ∃ m ∈ ms, m.isField = true) :
    ∃ before f after, ms = before ++ .field f :: after ∧ (∀ m ∈ after, m.isField = false) ∧
      ∀ m, insertAfterLastField m ms = before ++ .field f :: m :: after := by
  obtain ⟨before, after, whole, last, others, place⟩ := exists_afterLastField ms
  rcases List.eq_nil_or_concat before with rfl | ⟨earlier, m, rfl⟩
  · rw [whole, List.nil_append] at some
    obtain ⟨m, listed, isField⟩ := some
    cases (others m listed).symm.trans isField
  · have isField : m.isField = true := last m (by simp)
    cases m with
    | field f => exact ⟨earlier, f, after, by simpa using whole, others, fun m => by simp [place]⟩
    | _ => cases isField

/-- The block and the blank line in front of it are four lines and the assignments. -/
theorem plain_of_mem_constructorBlock {qualified : Bool} {typeName : TypeName}
    {inits : List FieldInit} (named : '\n' ∉ typeName.toList) (plain : ∀ i ∈ inits, i.Plain) :
    ∀ l ∈ Line.blank :: constructorBlock qualified typeName inits, '\n' ∉ l.text.toList := by
  have base : '\n' ∉ typeName.base.toList := fun listed => named (TypeName.mem_of_mem_base listed)
  intro l listed
  simp only [constructorBlock, List.mem_cons, List.mem_append, List.mem_map, List.not_mem_nil,
    or_false, List.cons_append] at listed
  rcases listed with rfl | rfl | rfl | ⟨i, asked, rfl⟩ | rfl
  · decide
  · simp [base]
  · decide
  · exact (plain i asked).line
  · decide

namespace TypeDecl

variable {s : Settings} {d : TypeDecl} {inits : List FieldInit} {qualified : Bool}

/-- The lines of the declaration up to the block of the last of the members, which are its first
ones. -/
def linesThrough (qualified : Bool) (d : TypeDecl) (ms : List Member) : List Line :=
  d.header :: Line.opening 0 ::
    [Line.blank].intercalate (ms.map (·.lines qualified d.name d.kind))

theorem lines_eq_linesThrough {d e : TypeDecl} {ms others : List Member} (name : e.name = d.name)
    (kind : e.kind = d.kind) (members : e.members = ms ++ others) (some : ms ≠ []) :
    e.lines qualified = d.linesThrough qualified ms ++
      ((others.map (·.lines qualified d.name d.kind)).flatMap ([Line.blank] ++ ·) ++
        [Line.closing 0]) := by
  have header : e.header = d.header := by rw [header, name, kind, header]
  have blocks : ms.map (·.lines qualified d.name d.kind) ≠ [] := by simpa using some
  rw [lines, memberLines, header, name, kind, members, List.map_append,
    intercalate_append_eq _ blocks, linesThrough, List.cons_append, List.cons_append,
    List.cons_append, List.cons_append, List.append_assoc]

theorem mapConstructor_eq_self {f : Constructor → Constructor} (none : d.constructors = [])
    {m : Member} (listed : m ∈ d.members) : m.mapConstructor f = m := by
  cases m with
  | constructor c =>
      have declared : c ∈ d.constructors := mem_membersOf.2 listed
      rw [none] at declared
      cases declared
  | _ => rfl

/-- The members of a merged class that declares no constructor. -/
theorem members_merged_of_lacksConstructor (lacks : d.lacksConstructor = true)
    {before after : List Member} {f : Field} (members : d.members = before ++ .field f :: after)
    (place : ∀ m, insertAfterLastField m d.members = before ++ .field f :: m :: after) :
    (d.merged inits).members =
      before ++ [.field f] ++ .constructor (Constructor.completed inits {}) :: after := by
  have none := (lacksConstructor_iff.1 lacks).2
  have same {ms : List Member} (part : ms ⊆ d.members) :
      ms.map (·.mapConstructor (Constructor.completed inits)) = ms :=
    (List.map_congr_left fun m listed => mapConstructor_eq_self none (part listed)).trans
      (List.map_id _)
  have first : before ⊆ d.members := by simp [members]
  have last : after ⊆ d.members := by
    rw [members]
    exact fun m listed => List.mem_append_right _ (List.mem_cons_of_mem _ listed)
  simp only [merged, mapConstructors, ensureConstructor, lacks, if_true, place, List.map_append,
    List.map_cons, same first, same last, List.append_assoc]
  rfl

/-- **One block more.** A class that declares fields and no constructor is given a block after that
of its last field, with a blank line in front of it. -/
theorem lines_merged_of_lacksConstructor (qualified : Bool) (lacks : d.lacksConstructor = true)
    (some : ∃ m ∈ d.members, m.isField = true) (plain : ∀ i ∈ inits, i.Plain) :
    ∃ before f after rest, d.members = before ++ .field f :: after ∧
      (∀ m ∈ after, m.isField = false) ∧
      d.lines qualified = d.linesThrough qualified (before ++ [.field f]) ++ rest ∧
      (d.merged inits).lines qualified =
        d.linesThrough qualified (before ++ [.field f]) ++
          (Line.blank :: constructorBlock qualified d.name inits) ++ rest := by
  obtain ⟨before, f, after, members, others, place⟩ := exists_lastField some
  have through : before ++ [Member.field f] ≠ [] := by simp
  have members' : d.members = before ++ [.field f] ++ after := by simpa using members
  refine ⟨before, f, after, _, members, others,
    lines_eq_linesThrough rfl rfl members' through, ?_⟩
  rw [lines_eq_linesThrough name_merged kind_merged
    (members_merged_of_lacksConstructor lacks members place) through, List.map_cons,
    List.flatMap_cons, Member.lines, Constructor.lines_completed_empty plain]
  simp

/-! ## The whole text -/

theorem linesWith_nothing (d : TypeDecl) :
    d.linesWith qualified (fun _ => []) = d.lines qualified := by
  have interleaves := interleaves_linesWith qualified (fun _ => []) d
  rw [List.flatMap_eq_nil_iff.2 fun _ _ => rfl] at interleaves
  exact interleaves.eq_of_nothing

/-- What the plan `p` for the declaration adds to its text, of which it makes `out`, where carrying
it out puts in `count` assignments. The pieces of the text between its line feeds stay in order.
The second line of a constructor is the opening brace of its body, after which `linesWith` puts what
it is given. If there is a constructor or nothing is asked for, then the lines of the assignments
that each constructor lacks are put there, in the order of the plan, and nothing else is added. If a
constructor has to be made, then its block, with all assignments, and a blank line before it are put
directly after the block of the last field. So there are as many new pieces as assignments, and four
more for a new constructor. -/
structure AddsLines (s : Settings) (d : TypeDecl) (p : Plan) (count : Nat) (out : String) :
    Prop where
  kept : (Text.pieces (d.toSource s)).Sublist (Text.pieces out)
  opened : ∀ c ∈ d.constructors, (c.lines s.thisQualifier d.name)[1]? = some (Line.opening 1)
  inserted : d.constructors ≠ [] ∨ p.inits = [] →
    out = textOf s.indent (d.linesWith s.thisQualifier fun c =>
      (c.missing p.inits).map (·.line s.thisQualifier))
  synthesized : d.constructors = [] → p.inits ≠ [] →
    ∃ before f after rest, d.members = before ++ .field f :: after ∧
      (∀ m ∈ after, m.isField = false) ∧
      d.lines s.thisQualifier = d.linesThrough s.thisQualifier (before ++ [.field f]) ++ rest ∧
      out = textOf s.indent (d.linesThrough s.thisQualifier (before ++ [.field f]) ++
        (Line.blank :: constructorBlock s.thisQualifier d.name p.inits) ++ rest)
  counted : (Text.pieces out).length =
    (Text.pieces (d.toSource s)).length + count +
      if d.constructors = [] ∧ p.inits ≠ [] then 4 else 0

section Planned

variable {p : Plan} (planned : (d.plan s).answer = .ok p)

include planned

theorem plain_of_planned
    (fields : ∀ f ∈ d.fields, '\n' ∉ f.name.toList ∧ '\n' ∉ f.typeName.toList) :
    ∀ i ∈ p.inits, i.Plain := by
  intro i asked
  obtain ⟨q, -, f, -, found, rfl, -⟩ := (mem_inits_iff planned).1 asked
  obtain ⟨name, typeName⟩ := fields f (mem_fields_of_getField? found)
  exact ⟨name, typeName⟩

theorem lacksConstructor_of_planned (none : d.constructors = []) (asks : p.inits ≠ []) :
    d.lacksConstructor = true := by
  rcases takesInitializers_iff.1 (takesInitializers_of_planned planned asks) with
    kind | ⟨-, some⟩
  · simp [lacksConstructor, kind, none]
  · exact absurd none some

theorem exists_field_of_planned (asks : p.inits ≠ []) : ∃ m ∈ d.members, m.isField = true := by
  obtain ⟨i, asked⟩ := List.exists_mem_of_ne_nil _ asks
  obtain ⟨q, -, f, -, found, -⟩ := (mem_inits_iff planned).1 asked
  exact ⟨.field f, mem_membersOf.1 (mem_fields_of_getField? found), rfl⟩

theorem addsLines_of_asksNothing (asksNothing : p.inits = []) :
    d.AddsLines s p (d.missingCount p.inits) ((p.mergeInto d).after.toSource s) := by
  rw [after_mergeInto_of_planned planned, if_pos asksNothing, asksNothing, missingCount_nil]
  refine ⟨List.Sublist.refl _, fun c _ => c.getElem?_one_lines _ _, fun _ => ?_,
    fun _ asks => absurd asksNothing asks, ?_⟩
  · rw [asksNothing, toSource_eq_textOf]
    exact congrArg (textOf s.indent) (linesWith_nothing d).symm
  · rw [if_neg fun made => made.2 asksNothing]
    rfl

theorem addsLines_of_constructors (plain : ∀ i ∈ p.inits, i.Plain)
    (unit : '\n' ∉ s.indent.toList) (asks : p.inits ≠ []) (some : d.constructors ≠ []) :
    d.AddsLines s p (d.missingCount p.inits) ((p.mergeInto d).after.toSource s) := by
  have written : (d.merged p.inits).toSource s = textOf s.indent
      (d.linesWith s.thisQualifier fun c => (c.missing p.inits).map (·.line s.thisQualifier)) := by
    rw [toSource_eq_textOf, merged, ensureConstructor_eq_self some,
      lines_mapConstructors_completed plain]
  have interleaves := interleaves_linesWith s.thisQualifier
    (fun c => (c.missing p.inits).map (·.line s.thisQualifier)) d
  rw [← List.map_flatMap] at interleaves
  have lines : ∀ l ∈ (d.constructors.flatMap (·.missing p.inits)).map (·.line s.thisQualifier),
      '\n' ∉ l.text.toList := by
    intro l listed
    obtain ⟨i, missing, rfl⟩ := List.mem_map.1 listed
    obtain ⟨c, -, own⟩ := List.mem_flatMap.1 missing
    exact (plain i (Constructor.mem_missing.1 own).1).line
  have counted := interleaves.length_pieces unit lines
  rw [after_mergeInto_of_planned planned, if_neg asks, written]
  refine ⟨?_, fun c _ => c.getElem?_one_lines _ _, fun _ => rfl, fun none => absurd none some, ?_⟩
  · rw [toSource_eq_textOf]
    exact interleaves.pieces_sublist s.indent
  · rw [if_neg fun made => some made.1, counted, List.length_map, missingCount,
      ensureConstructor_eq_self some, toSource_eq_textOf]
    rfl

theorem addsLines_of_lacksConstructor (plain : ∀ i ∈ p.inits, i.Plain)
    (named : '\n' ∉ d.name.toList) (unit : '\n' ∉ s.indent.toList) (asks : p.inits ≠ [])
    (none : d.constructors = []) :
    d.AddsLines s p (d.missingCount p.inits) ((p.mergeInto d).after.toSource s) := by
  have lacks := lacksConstructor_of_planned planned none asks
  obtain ⟨before, f, after, rest, members, others, front, whole⟩ :=
    lines_merged_of_lacksConstructor s.thisQualifier lacks
      (exists_field_of_planned planned asks) plain
  have interleaves := Interleaves.between (d.linesThrough s.thisQualifier (before ++ [.field f]))
    (Line.blank :: constructorBlock s.thisQualifier d.name p.inits) rest
  rw [← front, ← whole] at interleaves
  have counted := interleaves.length_pieces unit (plain_of_mem_constructorBlock named plain)
  have all : d.missingCount p.inits = p.inits.length := by
    rw [missingCount, constructors_ensureConstructor, if_pos lacks, List.flatMap_singleton]
    exact congrArg List.length (List.filter_eq_self.2 fun _ _ => rfl)
  have block : (Line.blank :: constructorBlock s.thisQualifier d.name p.inits).length =
      p.inits.length + 4 := by
    simp [constructorBlock]
  rw [after_mergeInto_of_planned planned, if_neg asks]
  refine ⟨?_, fun c _ => c.getElem?_one_lines _ _, fun possible => ?_, fun _ _ => ?_, ?_⟩
  · rw [toSource_eq_textOf, toSource_eq_textOf]
    exact interleaves.pieces_sublist s.indent
  · rcases possible with some | asksNothing
    · exact absurd none some
    · exact absurd asksNothing asks
  · refine ⟨before, f, after, rest, members, others, front, ?_⟩
    rw [toSource_eq_textOf, whole]
  · rw [if_pos ⟨none, asks⟩, toSource_eq_textOf, counted, block, all, toSource_eq_textOf]
    omega

end Planned

/-- **What completion adds to the text.** Where neither the unit of indentation nor the name of the
type nor the name or the type of a field has a line feed, the text after a completion is the text
before with the lines of the planned assignments added. Other names, types and texts may have line
feeds. -/
theorem complete_adds_lines {s : Settings} {d : TypeDecl} {out : String}
    (unit : '\n' ∉ s.indent.toList) (named : '\n' ∉ d.name.toList)
    (fields : ∀ f ∈ d.fields, '\n' ∉ f.name.toList ∧ '\n' ∉ f.typeName.toList)
    (done : (d.complete s).answer = .ok out) :
    ∃ p count, (d.plan s).answer = .ok p ∧ (p.mergeInto d).answer = .ok count ∧
      d.AddsLines s p count out := by
  rcases complete_cases s d with
    ⟨defect, -, answer, -⟩ | ⟨e, -, -, answer, -⟩ | ⟨p, -, planned, answer, -⟩
  · cases answer.symm.trans done
  · cases answer.symm.trans done
  · cases answer.symm.trans done
    refine ⟨p, _, planned, answer_mergeInto_of_planned planned, ?_⟩
    have plain := plain_of_planned planned fields
    by_cases asks : p.inits = []
    · exact addsLines_of_asksNothing planned asks
    · by_cases none : d.constructors = []
      · exact addsLines_of_lacksConstructor planned plain named unit asks none
      · exact addsLines_of_constructors planned plain unit asks none

/-- A class with two constructors that lack different fields. A text and an initializer have line
feeds. -/
def ledger : TypeDecl where
  name := "Ledger"
  members :=
    [.field ⟨"_items", "List<Item>", none⟩, .field ⟨"_tags", "Collection<string>", none⟩,
     .field ⟨"_note", "string", some (.verbatim "first\n+ second")⟩,
     .property (.auto "Items" "List<Item>" "_items"),
     .property (.auto "Tags" "Collection<string>" "_tags"), .constructor {},
     .constructor
       { parameters := [⟨"items", "List<Item>"⟩]
         body := [.assignField "_items" (.argument "items")] },
     .verbatim "[Obsolete]\nprivate int _count;"]

theorem ledger_adds_lines :
    ∃ out p, (ledger.complete {}).answer = .ok out ∧ (ledger.plan {}).answer = .ok p ∧
      p.inits = [⟨"_items", "List<Item>"⟩, ⟨"_tags", "Collection<string>"⟩] ∧
      (p.mergeInto ledger).answer = .ok 3 ∧ ledger.AddsLines {} p 3 out := by
  have done : ∃ out, (ledger.complete {}).answer = .ok out := ⟨_, rfl⟩
  obtain ⟨out, answer⟩ := done
  obtain ⟨p, count, planned, merged, adds⟩ :=
    complete_adds_lines (by decide) (by decide) (by decide) answer
  have known : (ledger.plan {}).answer = .ok (ledger.planFor {} ledger.properties) := rfl
  obtain rfl := Except.ok.inj (known.symm.trans planned)
  have three : ((ledger.planFor {} ledger.properties).mergeInto ledger).answer = .ok 3 := rfl
  obtain rfl := Except.ok.inj (three.symm.trans merged)
  exact ⟨out, _, answer, planned, by decide, merged, adds⟩

end TypeDecl

end Prologue
