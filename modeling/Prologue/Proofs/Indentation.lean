import Mathlib.Data.List.Basic
import Prologue.Decl.Selection
import Prologue.Proofs.Parts
import Prologue.Proofs.TypeNames
import Prologue.Proofs.Writing

/-!
# Indentation

The lines of the members are indented, each on its own. What a line starts with is indentation, and
a line feed inside a line starts a piece of text that has none. Statements and verbatim members are
cut into rows before they become lines, so no such piece comes from them. A field is not, and the
initializer of a field can hold line feeds.

* `Member.inner_of_not_field` says that all lines of another member than a field are indented lines
  without a line feed.
* `TypeDecl.unindented_insidePieces` says which pieces of the text between the outer braces are
  neither empty nor indented: those behind a line feed of an initializer.
* `TypeDecl.indented_iff` says when there are none.
-/

namespace Prologue

/-! ## Names and types in heads -/

/-- The names and types that are written in the head of the member. -/
def Member.headTexts : Member → List String
  | .field f => [f.name, f.typeName]
  | .property p => [p.name, p.typeName]
  | .constructor c => c.parameters.flatMap fun p => [p.name, p.typeName]
  | .method m => m.name :: m.result.toList ++ m.parameters.flatMap fun p => [p.name, p.typeName]
  | .verbatim _ => []

/-- The name of the type, and the names and types in the heads of its members. -/
def TypeDecl.headTexts (d : TypeDecl) : List String := d.name :: d.members.flatMap (·.headTexts)

/-- What stands in the written parameters stands in their names and types or between them. -/
theorem not_mem_parametersSource {c : Char} (other : c ∉ ", ".toList) {ps : List Parameter}
    (named : ∀ text ∈ ps.flatMap fun p => [p.name, p.typeName], c ∉ text.toList) :
    c ∉ (parametersSource ps).toList := by
  intro written
  rw [parametersSource, String.toList_intercalate] at written
  rcases mem_intercalate written with separator | ⟨x, listed, written⟩
  · exact other separator
  · simp only [List.map_map, List.mem_map, Function.comp_apply] at listed
    obtain ⟨p, listed, rfl⟩ := listed
    have name := named p.name (List.mem_flatMap.2 ⟨p, listed, by simp⟩)
    have typeName := named p.typeName (List.mem_flatMap.2 ⟨p, listed, by simp⟩)
    have notBlank : c ≠ ' ' := fun same => other (by simp [same])
    simp [name, typeName, notBlank] at written

/-- What stands in a signature stands in its names and types, in the word for no result or in the
marks between them. -/
theorem Method.not_mem_signature {c : Char} (other : c ∉ "void (, )".toList) {m : Method}
    (named : ∀ text ∈ (Member.method m).headTexts, c ∉ text.toList) :
    c ∉ m.signature.toList := by
  simp only [Member.headTexts, List.cons_append, List.forall_mem_cons, List.forall_mem_append]
    at named
  obtain ⟨name, result, parameters⟩ := named
  have mark {text : String} (marks : text.toList ⊆ "void (, )".toList) : c ∉ text.toList :=
    fun written => other (marks written)
  have parameters := not_mem_parametersSource (mark (by decide)) parameters
  have typeName : c ∉ (m.result.getD "void").toList := by
    cases same : m.result with
    | none => exact mark (by decide)
    | some typeName => exact result typeName (by simp [same])
  have blank : c ∉ " ".toList := mark (by decide)
  have opening : c ∉ "(".toList := mark (by decide)
  have closing : c ∉ ")".toList := mark (by decide)
  simp only [signature, String.toList_append, List.mem_append, typeName, blank, name, opening,
    parameters, closing, or_self, not_false_eq_true]

/-! ## Indented lines -/

/-- The piece of a text is empty or starts with the unit of indentation. -/
def Text.Indented (indent : String) (piece : List Char) : Prop :=
  piece = [] ∨ indent.toList <+: piece

instance (indent : String) (piece : List Char) : Decidable (Text.Indented indent piece) :=
  inferInstanceAs (Decidable (_ ∨ _))

/-- The line is indented and has no line feed. -/
structure Line.Inner (l : Line) : Prop where
  depth_pos : 0 < l.depth
  plain : '\n' ∉ l.text.toList

theorem Text.indented_append (indent : String) (depth : Nat) (cs : List Char) :
    Indented indent (margin indent (depth + 1) ++ cs) := by
  rw [margin, List.replicate_succ, String.join_cons, String.toList_append, List.append_assoc]
  exact Or.inr (List.prefix_append _ _)

theorem Line.Inner.indented {indent : String} (unit : '\n' ∉ indent.toList) {l : Line}
    (inner : l.Inner) {piece : List Char} (listed : piece ∈ l.pieces indent) :
    Text.Indented indent piece := by
  rw [Line.pieces_eq_singleton unit inner.plain, List.mem_singleton] at listed
  obtain ⟨depth, same⟩ := Nat.exists_eq_add_one.2 inner.depth_pos
  rw [listed, same]
  exact Text.indented_append indent depth l.text.toList

theorem inner_opening {depth : Nat} (pos : 0 < depth) : (Line.opening depth).Inner :=
  ⟨pos, by simp [Line.opening]⟩

theorem inner_closing {depth : Nat} (pos : 0 < depth) : (Line.closing depth).Inner :=
  ⟨pos, by simp [Line.closing]⟩

/-- Rows become lines of their own, so whatever the text is, no line has a line feed. -/
theorem inner_of_mem_rowLines {depth : Nat} (pos : 0 < depth) {text : String} {l : Line}
    (listed : l ∈ rowLines depth text) : l.Inner := by
  obtain ⟨row, own, rfl⟩ := List.mem_map.1 listed
  exact ⟨pos, Text.lineFeed_not_mem_of_mem_rows own⟩

theorem inner_of_mem_bodyLines {qualified : Bool} {depth : Nat} (pos : 0 < depth)
    {body : List Stmt} {l : Line} (listed : l ∈ bodyLines qualified depth body) : l.Inner := by
  simp only [bodyLines, List.cons_append, List.mem_cons, List.mem_append, List.mem_flatMap,
    List.not_mem_nil, or_false] at listed
  rcases listed with rfl | ⟨s, -, listed⟩ | rfl
  · exact inner_opening pos
  · exact inner_of_mem_rowLines (Nat.succ_pos depth) listed
  · exact inner_closing pos

namespace Property

theorem inner_of_mem_accessorLines {qualified : Bool} {keyword : String}
    (plain : '\n' ∉ keyword.toList) {body : List Stmt} {l : Line}
    (listed : l ∈ accessorLines qualified keyword body) : l.Inner := by
  rcases List.mem_cons.1 listed with rfl | listed
  · exact ⟨Nat.two_pos, plain⟩
  · exact inner_of_mem_bodyLines Nat.two_pos listed

variable {p : Property} (name : '\n' ∉ p.name.toList) (typeName : '\n' ∉ p.typeName.toList)

include name typeName

theorem inner_of_mem_lines {qualified : Bool} {l : Line} (listed : l ∈ p.lines qualified) :
    l.Inner := by
  simp only [lines, List.cons_append, List.mem_cons, List.mem_append, List.not_mem_nil,
    or_false] at listed
  rcases listed with rfl | rfl | (getter | setter) | rfl
  · exact ⟨Nat.one_pos, by simp [name, typeName]⟩
  · exact inner_opening Nat.one_pos
  · exact inner_of_mem_accessorLines (by decide) getter
  · split at setter
    · cases setter
    · exact inner_of_mem_accessorLines (by decide) setter
  · exact inner_closing Nat.one_pos

theorem inner_of_mem_signatureLines {l : Line} (listed : l ∈ p.signatureLines) : l.Inner := by
  obtain rfl := List.mem_singleton.1 listed
  refine ⟨Nat.one_pos, ?_⟩
  cases p.isReadOnly <;> simp [name, typeName]

end Property

theorem Constructor.inner_of_mem_lines {qualified : Bool} {owner : TypeName} {c : Constructor}
    (plain : '\n' ∉ owner.toList) (parameters : '\n' ∉ (parametersSource c.parameters).toList)
    {l : Line} (listed : l ∈ c.lines qualified owner) : l.Inner := by
  have base : '\n' ∉ owner.base.toList := fun feed => plain (TypeName.mem_of_mem_base feed)
  rcases List.mem_cons.1 listed with rfl | listed
  · exact ⟨Nat.one_pos, by simp [base, parameters]⟩
  · exact inner_of_mem_bodyLines Nat.one_pos listed

namespace Method

variable {m : Method} (plain : '\n' ∉ m.signature.toList)

include plain

theorem inner_of_mem_lines {qualified : Bool} {l : Line} (listed : l ∈ m.lines qualified) :
    l.Inner := by
  rcases List.mem_cons.1 listed with rfl | listed
  · exact ⟨Nat.one_pos, by simp [plain]⟩
  · exact inner_of_mem_bodyLines Nat.one_pos listed

theorem inner_of_mem_signatureLines {l : Line} (listed : l ∈ m.signatureLines) : l.Inner := by
  obtain rfl := List.mem_singleton.1 listed
  exact ⟨Nat.one_pos, by simp [plain]⟩

end Method

/-- All lines of a member that is no field are indented and have no line feed. -/
theorem Member.inner_of_not_field {qualified : Bool} {owner : TypeName} {kind : TypeKind}
    {m : Member} (plain : '\n' ∉ owner.toList)
    (named : ∀ text ∈ m.headTexts, '\n' ∉ text.toList) (notField : m.isField = false) {l : Line}
    (listed : l ∈ m.lines qualified owner kind) : l.Inner := by
  cases m with
  | field f => cases notField
  | property p =>
      have name : '\n' ∉ p.name.toList := named p.name (by simp [headTexts])
      have typeName : '\n' ∉ p.typeName.toList := named p.typeName (by simp [headTexts])
      rw [lines] at listed
      split at listed
      · exact Property.inner_of_mem_signatureLines name typeName listed
      · exact Property.inner_of_mem_lines name typeName listed
  | constructor c =>
      exact Constructor.inner_of_mem_lines plain
        (not_mem_parametersSource (by decide) named) listed
  | method m =>
      have signature := Method.not_mem_signature (by decide) named
      rw [lines] at listed
      split at listed
      · exact Method.inner_of_mem_signatureLines signature listed
      · exact Method.inner_of_mem_lines signature listed
  | verbatim text => exact inner_of_mem_rowLines Nat.one_pos listed

/-! ## Line feeds in initializers -/

/-- The pieces of the line of the field behind the line feeds of its initializer. -/
def Field.furtherPieces (qualified : Bool) (f : Field) : List (List Char) :=
  match f.initializer with
  | some value => (Text.pieces (value.toSource qualified ++ ";")).tail
  | none => []

/-- The text of a field starts with an indented piece. -/
theorem Field.pieces_lines {indent : String} (unit : '\n' ∉ indent.toList) {f : Field}
    (name : '\n' ∉ f.name.toList) (typeName : '\n' ∉ f.typeName.toList) (qualified : Bool) :
    ∃ first, Text.Indented indent first ∧
      (f.lines qualified).flatMap (·.pieces indent) = first :: f.furtherPieces qualified := by
  cases same : f.initializer with
  | none =>
      simp only [lines, furtherPieces, same, List.flatMap_singleton]
      rw [Line.pieces_eq_singleton unit (by simp [name, typeName])]
      exact ⟨_, Text.indented_append indent 0 _, rfl⟩
  | some value =>
      simp only [lines, furtherPieces, same, List.flatMap_singleton]
      have front : '\n' ∉ margin indent 1 ++
          ("private " ++ f.typeName ++ " " ++ f.name ++ " = ").toList := by
        simp [margin, unit, name, typeName]
      obtain ⟨first, split⟩ :=
        splitOn_append_of_not_mem front (value.toSource qualified ++ ";").toList
      refine ⟨_, ?_, Eq.trans ?_ split⟩
      · rw [List.append_assoc]
        exact Text.indented_append indent 0 _
      · simp [Line.pieces, Text.pieces, margin]

/-- The pieces that are neither empty nor indented. -/
def Text.unindented (indent : String) (pieces : List (List Char)) : List (List Char) :=
  pieces.filter fun piece => ¬Indented indent piece

theorem Text.unindented_eq_nil_iff {indent : String} {pieces : List (List Char)} :
    unindented indent pieces = [] ↔ ∀ piece ∈ pieces, Indented indent piece := by
  simp [unindented]

theorem Text.unindented_flatMap {α : Type} (indent : String) (f : α → List (List Char))
    (xs : List α) :
    unindented indent (xs.flatMap f) = xs.flatMap fun x => unindented indent (f x) :=
  List.filter_flatMap

/-- Of the pieces of a member, only those behind a line feed of an initializer can lack
indentation. -/
theorem Member.unindented_pieces_lines {indent : String} (unit : '\n' ∉ indent.toList)
    {owner : TypeName} (plain : '\n' ∉ owner.toList) {m : Member}
    (named : ∀ text ∈ m.headTexts, '\n' ∉ text.toList) (qualified : Bool) (kind : TypeKind) :
    Text.unindented indent ((m.lines qualified owner kind).flatMap (·.pieces indent)) =
      (MemberKind.ofMember? m).toList.flatMap
        fun f : Field => Text.unindented indent (f.furtherPieces qualified) := by
  have other (notField : m.isField = false) :
      Text.unindented indent ((m.lines qualified owner kind).flatMap (·.pieces indent)) = [] := by
    refine Text.unindented_eq_nil_iff.2 fun piece listed => ?_
    obtain ⟨l, written, listed⟩ := List.mem_flatMap.1 listed
    exact (inner_of_not_field plain named notField written).indented unit listed
  cases m with
  | field f =>
      have name : '\n' ∉ f.name.toList := named f.name (by simp [headTexts])
      have typeName : '\n' ∉ f.typeName.toList := named f.typeName (by simp [headTexts])
      obtain ⟨first, indented, pieces⟩ := f.pieces_lines unit name typeName qualified
      simp [lines, pieces, Text.unindented, indented, MemberKind.ofMember?]
  | _ => exact other rfl

/-! ## The text between the outer braces -/

namespace TypeDecl

/-- The pieces of the text behind the line of the opening brace and before that of the closing
one. -/
def insidePieces (s : Settings) (d : TypeDecl) : List (List Char) :=
  ((Text.pieces (d.toSource s)).drop 2).dropLast.dropLast

variable {s : Settings} {d : TypeDecl}

theorem pieces_header (unit : '\n' ∉ s.indent.toList) (named : '\n' ∉ d.name.toList) :
    d.header.pieces s.indent = [d.header.text.toList] := by
  have plain : d.header.depth = 0 ∧ '\n' ∉ d.header.text.toList := by
    unfold header
    split
    · simp [named]
    · cases d.kind <;> simp [TypeKind.keyword, named]
  rw [Line.pieces_eq_singleton unit plain.2, plain.1]
  rfl

theorem pieces_toSource (unit : '\n' ∉ s.indent.toList) (named : '\n' ∉ d.name.toList) :
    Text.pieces (d.toSource s) = d.header.text.toList :: ['\x7b'] ::
      (d.memberLines s.thisQualifier).flatMap (·.pieces s.indent) ++ [['\x7d'], []] := by
  have opening : (Line.opening 0).pieces s.indent = [['\x7b']] :=
    Line.pieces_eq_singleton unit (by decide)
  have closing : (Line.closing 0).pieces s.indent = [['\x7d']] :=
    Line.pieces_eq_singleton unit (by decide)
  rw [toSource_eq_textOf, pieces_textOf, lines]
  simp [pieces_header unit named, opening, closing]

theorem insidePieces_eq (unit : '\n' ∉ s.indent.toList) (named : '\n' ∉ d.name.toList) :
    d.insidePieces s = (d.memberLines s.thisQualifier).flatMap (·.pieces s.indent) := by
  rw [insidePieces, pieces_toSource unit named]
  simp

/-- The pieces between the outer braces that lack indentation are those behind the line feeds of
initializers, in the order of the fields. -/
theorem unindented_insidePieces (unit : '\n' ∉ s.indent.toList)
    (named : ∀ text ∈ d.headTexts, '\n' ∉ text.toList) :
    Text.unindented s.indent (d.insidePieces s) =
      Text.unindented s.indent (d.fields.flatMap (·.furtherPieces s.thisQualifier)) := by
  obtain ⟨owner, heads⟩ := List.forall_mem_cons.1 named
  let bare (l : Line) : List (List Char) := Text.unindented s.indent (l.pieces s.indent)
  have blank : [Line.blank].flatMap bare = [] := rfl
  have each (m : Member) (listed : m ∈ d.members) :
      (m.lines s.thisQualifier d.name d.kind).flatMap bare =
        (MemberKind.ofMember? m).toList.flatMap
          fun f : Field => Text.unindented s.indent (f.furtherPieces s.thisQualifier) := by
    rw [← m.unindented_pieces_lines unit owner
      (fun text head => heads text (List.mem_flatMap.2 ⟨m, listed, head⟩)),
      Text.unindented_flatMap]
  calc Text.unindented s.indent (d.insidePieces s)
      = (d.memberLines s.thisQualifier).flatMap bare := by
        rw [insidePieces_eq unit owner, Text.unindented_flatMap]
    _ = d.members.flatMap fun m => (m.lines s.thisQualifier d.name d.kind).flatMap bare := by
        rw [memberLines, flatMap_intercalate, blank, nil_intercalate, List.map_map]
        rfl
    _ = d.members.flatMap fun m => (MemberKind.ofMember? m).toList.flatMap
          fun f : Field => Text.unindented s.indent (f.furtherPieces s.thisQualifier) := by
        rw [List.flatMap_congr each]
    _ = d.fields.flatMap fun f => Text.unindented s.indent (f.furtherPieces s.thisQualifier) := by
        rw [fields, membersOf, List.filterMap_eq_flatMap_toList, List.flatMap_assoc]
    _ = Text.unindented s.indent (d.fields.flatMap (·.furtherPieces s.thisQualifier)) := by
        rw [Text.unindented_flatMap]

/-- **When all lines are indented.** Where the unit of indentation and the names and types in the
heads of a declaration have no line feed, the text is the line that names the type, its braces, each
on a line of its own, and the pieces between them. All of these are empty or indented exactly if the
pieces behind the line feeds of the initializers of fields are. Statements and verbatim members may
have any line feeds. -/
theorem indented_iff {s : Settings} {d : TypeDecl} (unit : '\n' ∉ s.indent.toList)
    (named : ∀ text ∈ d.headTexts, '\n' ∉ text.toList) :
    Text.pieces (d.toSource s) =
        d.header.text.toList :: ['\x7b'] :: d.insidePieces s ++ [['\x7d'], []] ∧
      ((∀ piece ∈ d.insidePieces s, Text.Indented s.indent piece) ↔
        ∀ f ∈ d.fields, ∀ piece ∈ f.furtherPieces s.thisQualifier,
          Text.Indented s.indent piece) := by
  have owner : '\n' ∉ d.name.toList := (List.forall_mem_cons.1 named).1
  refine ⟨?_, ?_⟩
  · rw [insidePieces_eq unit owner, pieces_toSource unit owner]
  · rw [← Text.unindented_eq_nil_iff, unindented_insidePieces unit named,
      Text.unindented_eq_nil_iff, List.forall_mem_flatMap]

/-- A class whose texts, statements and initializer have line feeds. The further line of the
initializer is indented in its own text. -/
def journal : TypeDecl where
  name := "Journal"
  members :=
    [.verbatim "[Obsolete]\n\nprivate int _count;",
     .field ⟨"_note", "string", some (.verbatim "first\n    + second")⟩,
     .constructor
       { body :=
           [.assignField "_note" (.create "Note" [.verbatim "head\n+ body"]),
            .verbatim "if (ready)\n  Start();\n"] },
     .property (.auto "Note" "string" "_note")]

theorem journal_indented :
    (∀ text ∈ journal.headTexts, '\n' ∉ text.toList) ∧
      ∀ piece ∈ journal.insidePieces {}, Text.Indented "    " piece := by
  have named : ∀ text ∈ journal.headTexts, '\n' ∉ text.toList := by decide
  have rule := indented_iff (s := {}) (by decide) named
  refine ⟨named, rule.2.2 ?_⟩
  decide

/-- A class with a field whose initializer goes on in a second line. -/
def notebook : TypeDecl where
  name := "Notebook"
  members := [.field ⟨"_note", "string", some (.verbatim "first\n+ second")⟩]

/-- The second line of an initializer is not indented. -/
theorem not_forall_indented :
    ¬∀ (s : Settings) (d : TypeDecl), s.indent ≠ "" → '\n' ∉ s.indent.toList →
      (∀ text ∈ d.headTexts, '\n' ∉ text.toList) →
      (∀ m ∈ d.members, ∀ p ∈ m.codeParts, ∀ text ∈ p.name?, '\n' ∉ text.toList) →
        ∀ piece ∈ d.insidePieces s, piece ≠ [] → s.indent.toList <+: piece := by
  intro rule
  have claimed := rule {} notebook (by decide) (by decide) (by decide) (by decide)
    "+ second;".toList (by decide) (by decide)
  revert claimed
  decide

end TypeDecl

end Prologue
