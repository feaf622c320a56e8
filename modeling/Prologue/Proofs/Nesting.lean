import Prologue.Proofs.Braces
import Prologue.Proofs.Indentation
import Prologue.Proofs.MemberBlocks
import Prologue.Proofs.Tokens

/-!
# Nesting of declarations

The braces that a declaration is written with match, and a line is indented as deep as braces are
open where it starts. This is so if no text that is given has braces of its own.

* `Part.braceless_toSource` says that written code has no other braces than those that are given.
* `TypeDecl.braces_match` says what this is for the whole text. It closes its first brace with its
  last one and not earlier.
-/

namespace Prologue

/-! ## Texts that are given -/

/-- The name, type, verbatim text or content of a string literal in the part. -/
def Part.texts (p : Part) : List String := p.given?.toList ++ p.content?.toList

/-- All texts in the member: names, types, verbatim texts and contents of string literals. -/
def Member.texts : Member → List String
  | .verbatim text => [text]
  | m => m.headTexts ++ m.codeParts.flatMap (·.texts)

/-- All texts in the declaration. -/
def TypeDecl.texts (d : TypeDecl) : List String := d.name :: d.members.flatMap (·.texts)

open Text (Braceless)

theorem Text.braceless_flatMap {α : Type} {f : α → List Char} {xs : List α} :
    Braceless (xs.flatMap f) ↔ ∀ x ∈ xs, Braceless (f x) := by
  simp only [Braceless, List.mem_flatMap, not_exists, not_and]
  exact ⟨fun free x listed c brace => free c brace x listed,
    fun free c brace x listed => free x listed c brace⟩

theorem Text.braceless_quoted {content : String} (free : Braceless content.toList) :
    Braceless (quoted content).toList := by
  have quote : Braceless ['"'] := by decide
  have marks : Braceless escapeMarks := by decide
  have inside : Braceless (escaped content.toList) := fun c brace listed =>
    free c brace ((mem_escaped_iff (marks c brace) _).1 listed).1
  rw [toList_quoted]
  exact braceless_append.2 ⟨braceless_append.2 ⟨quote, inside⟩, quote⟩

theorem Literal.braceless_toSource {value : Literal}
    (free : ∀ content, value = .str content → Braceless content.toList) :
    Braceless value.toSource.toList := by
  cases value with
  | null => decide
  | bool value => cases value <;> decide
  | int value =>
      have others : Text.braces.all (!Text.isTokenPart ·) = true := by decide
      intro c brace listed
      have other := List.all_eq_true.1 others c brace
      rw [Expr.isTokenPart_of_mem_repr listed] at other
      cases other
  | str content => exact Text.braceless_quoted (free content rfl)

theorem Mark.braceless_toSource (m : Mark) : Braceless m.toSource.toList := by
  cases m <;> decide

/-- A part has no braces of its own. -/
theorem Part.braceless_toSource (qualified : Bool) {p : Part}
    (free : ∀ text ∈ p.texts, Braceless text.toList) :
    Braceless (p.toSource qualified).toList := by
  cases p with
  | mark m => exact m.braceless_toSource
  | member name =>
      have own : Braceless name.toList := free name (by simp [texts, given?])
      have qualifier : Braceless "this.".toList := by decide
      cases qualified with
      | false => exact own
      | true =>
          rw [toSource, Expr.memberSource, if_pos rfl, String.toList_append]
          exact Text.braceless_append.2 ⟨qualifier, own⟩
  | name text => exact free text (by simp [texts, given?])
  | verbatim text => exact free text (by simp [texts, given?])
  | literal value =>
      refine Literal.braceless_toSource fun content same => free content ?_
      simp [texts, content?, same]

theorem Part.braceless_flatMap_toSource (qualified : Bool) {ps : List Part}
    (free : ∀ text ∈ ps.flatMap (·.texts), Braceless text.toList) :
    Braceless (ps.flatMap fun p => (p.toSource qualified).toList) := by
  refine Text.braceless_flatMap.2 fun p part => p.braceless_toSource qualified fun text own => ?_
  exact free text (List.mem_flatMap.2 ⟨p, part, own⟩)

theorem Expr.braceless_toSource (qualified : Bool) {e : Expr}
    (free : ∀ text ∈ e.parts.flatMap (·.texts), Braceless text.toList) :
    Braceless (e.toSource qualified).toList := by
  rw [toList_toSource_eq_flatMap]
  exact Part.braceless_flatMap_toSource qualified free

theorem Stmt.braceless_toSource (qualified : Bool) {s : Stmt}
    (free : ∀ text ∈ s.parts.flatMap (·.texts), Braceless text.toList) :
    Braceless (s.toSource qualified).toList := by
  rw [toList_toSource_eq_flatMap]
  exact Part.braceless_flatMap_toSource qualified free

theorem braceless_parametersSource {ps : List Parameter}
    (free : ∀ text ∈ ps.flatMap fun p => [p.name, p.typeName], Braceless text.toList) :
    Braceless (parametersSource ps).toList := by
  have marks : Braceless ", ".toList := by decide
  exact fun c brace =>
    not_mem_parametersSource (marks c brace) fun text listed => free text listed c brace

theorem Method.braceless_signature {m : Method}
    (free : ∀ text ∈ (Member.method m).headTexts, Braceless text.toList) :
    Braceless m.signature.toList := by
  have marks : Braceless "void (, )".toList := by decide
  exact fun c brace =>
    not_mem_signature (marks c brace) fun text listed => free text listed c brace

/-- What stands in a row of a text stands in the text. -/
theorem Text.mem_of_mem_rowsOf {cs row : List Char} {c : Char} (listed : row ∈ rowsOf cs)
    (own : c ∈ row) : c ∈ cs := by
  fun_induction rowsOf cs generalizing row with
  | case1 => cases listed
  | case2 cs ih =>
      rcases List.mem_cons.1 listed with rfl | listed
      · cases own
      · exact List.mem_cons_of_mem _ (ih listed own)
  | case3 cs ih =>
      rcases List.mem_cons.1 listed with rfl | listed
      · cases own
      · exact List.mem_cons_of_mem _ (List.mem_cons_of_mem _ (ih listed own))
  | case4 d cs =>
      obtain rfl := List.mem_singleton.1 listed
      exact List.mem_cons.2 (Or.inl (List.mem_singleton.1 own))
  | case5 d cs _ _ first rows others ih =>
      rw [others] at ih
      rcases List.mem_cons.1 listed with rfl | listed
      · rcases List.mem_cons.1 own with rfl | own
        · exact List.mem_cons_self
        · exact List.mem_cons_of_mem d (ih List.mem_cons_self own)
      · exact List.mem_cons_of_mem d (ih (List.mem_cons_of_mem first listed) own)

/-! ## Lines of members -/

section Members

variable {indent : String} (unit : Braceless indent.toList) (qualified : Bool)

include unit

theorem nested_rowLines (depth : Nat) {text : String} (free : Braceless text.toList) :
    Nested indent depth (rowLines depth text) := by
  rw [rowLines, List.map_eq_flatMap]
  refine Nested.flatMap fun row listed => nested_singleton unit ?_ fun _ => rfl
  obtain ⟨cs, own, rfl⟩ := List.mem_map.1 listed
  rw [String.toList_ofList]
  exact (free.of_subset fun c inside => Text.mem_of_mem_rowsOf own inside).balanced

theorem nested_bodyLines (depth : Nat) {body : List Stmt}
    (free : ∀ text ∈ (body.flatMap Stmt.parts).flatMap (·.texts), Braceless text.toList) :
    Nested indent depth (bodyLines qualified depth body) := by
  refine Nested.enclosed unit (Nested.flatMap fun s listed => nested_rowLines unit (depth + 1) ?_)
  refine s.braceless_toSource qualified fun text own => free text ?_
  rw [List.flatMap_assoc]
  exact List.mem_flatMap.2 ⟨s, listed, own⟩

theorem nested_headed {depth : Nat} {head : String} (free : Braceless head.toList)
    {ls : List Line} (nested : Nested indent depth ls) :
    Nested indent depth (⟨depth, head⟩ :: ls) :=
  (nested_singleton (l := ⟨depth, head⟩) unit free.balanced fun _ => rfl).append nested

theorem Property.nested_accessorLines {keyword : String} (word : Braceless keyword.toList)
    {body : List Stmt}
    (free : ∀ text ∈ (body.flatMap Stmt.parts).flatMap (·.texts), Braceless text.toList) :
    Nested indent 2 (accessorLines qualified keyword body) :=
  nested_headed unit word (nested_bodyLines unit qualified 2 free)

theorem Property.nested_lines {p : Property}
    (free : ∀ text ∈ (Member.property p).texts, Braceless text.toList) :
    Nested indent 1 (p.lines qualified) := by
  simp only [Member.texts, Member.headTexts, Member.codeParts, List.flatMap_append,
    List.forall_mem_append, List.forall_mem_cons] at free
  obtain ⟨⟨name, typeName, -⟩, getter, setter⟩ := free
  have head : Braceless ("public " ++ p.typeName ++ " " ++ p.name).toList := by
    simp +decide only [String.toList_append, Text.braceless_append, typeName, name, and_self]
  have get : Nested indent 2 (accessorLines qualified "get" p.getter) :=
    Property.nested_accessorLines unit qualified (by decide) getter
  have set : Nested indent 2
      (if p.isReadOnly then [] else accessorLines qualified "set" p.setter) := by
    split
    · exact nested_nil
    · exact Property.nested_accessorLines unit qualified (by decide) setter
  exact nested_headed unit head (Nested.enclosed unit (get.append set))

/-- The braces in a signature are closed on its line. -/
theorem Property.nested_signatureLines {p : Property} (name : Braceless p.name.toList)
    (typeName : Braceless p.typeName.toList) : Nested indent 1 p.signatureLines := by
  have words : Text.Balanced
      (if p.isReadOnly then "\x7b get; \x7d" else "\x7b get; set; \x7d").toList := by
    have get : Braceless " get; ".toList := by decide
    have both : Braceless " get; set; ".toList := by decide
    split
    · exact get.balanced.enclosed
    · exact both.balanced.enclosed
  refine nested_singleton unit ?_ fun _ => rfl
  have front : Braceless (p.typeName ++ " " ++ p.name ++ " ").toList := by
    simp +decide only [String.toList_append, Text.braceless_append, typeName, name, and_self]
  rw [String.toList_append]
  exact front.balanced.append words

theorem Field.nested_lines {f : Field}
    (free : ∀ text ∈ (Member.field f).texts, Braceless text.toList) :
    Nested indent 1 (f.lines qualified) := by
  simp only [Member.texts, Member.headTexts, Member.codeParts, List.forall_mem_append,
    List.forall_mem_cons] at free
  obtain ⟨⟨name, typeName, -⟩, code⟩ := free
  unfold lines
  split
  case h_1 value same =>
    have value : Braceless (value.toSource qualified).toList :=
      value.braceless_toSource qualified (by simpa [same] using code)
    refine nested_singleton unit (Braceless.balanced ?_) fun _ => rfl
    simp +decide only [String.toList_append, Text.braceless_append, typeName, name, value, and_self]
  case h_2 =>
    refine nested_singleton unit (Braceless.balanced ?_) fun _ => rfl
    simp +decide only [String.toList_append, Text.braceless_append, typeName, name, and_self]

theorem Constructor.nested_lines {owner : TypeName} (named : Braceless owner.toList)
    {c : Constructor} (free : ∀ text ∈ (Member.constructor c).texts, Braceless text.toList) :
    Nested indent 1 (c.lines qualified owner) := by
  obtain ⟨parameters, code⟩ := List.forall_mem_append.1 free
  have base : Braceless owner.base.toList := named.of_subset fun c => TypeName.mem_of_mem_base
  have written := braceless_parametersSource parameters
  refine nested_headed unit ?_ (nested_bodyLines unit qualified 1 code)
  simp +decide only [String.toList_append, Text.braceless_append, base, written, and_self]

theorem Method.nested_lines {m : Method}
    (free : ∀ text ∈ (Member.method m).texts, Braceless text.toList) :
    Nested indent 1 (m.lines qualified) := by
  obtain ⟨heads, code⟩ := List.forall_mem_append.1 free
  have signature := Method.braceless_signature heads
  refine nested_headed unit ?_ (nested_bodyLines unit qualified 1 code)
  simp +decide only [String.toList_append, Text.braceless_append, signature, and_self]

theorem Method.nested_signatureLines {m : Method}
    (free : ∀ text ∈ (Member.method m).headTexts, Braceless text.toList) :
    Nested indent 1 m.signatureLines := by
  have signature := Method.braceless_signature free
  refine nested_singleton unit (Braceless.balanced ?_) fun _ => rfl
  simp +decide only [String.toList_append, Text.braceless_append, signature, and_self]

theorem Member.nested_lines {owner : TypeName} (named : Braceless owner.toList) (kind : TypeKind)
    {m : Member} (free : ∀ text ∈ m.texts, Braceless text.toList) :
    Nested indent 1 (m.lines qualified owner kind) := by
  cases m with
  | field f => exact Field.nested_lines unit qualified free
  | property p =>
      have name : Braceless p.name.toList := free p.name (by simp [texts, headTexts])
      have typeName : Braceless p.typeName.toList := free p.typeName (by simp [texts, headTexts])
      rw [lines]
      split
      · exact Property.nested_signatureLines unit name typeName
      · exact Property.nested_lines unit qualified free
  | constructor c => exact Constructor.nested_lines unit qualified named free
  | method m =>
      rw [lines]
      split
      · exact Method.nested_signatureLines unit (List.forall_mem_append.1 free).1
      · exact Method.nested_lines unit qualified free
  | verbatim text => exact nested_rowLines unit 1 (free text List.mem_cons_self)

end Members

/-! ## The whole text -/

namespace TypeDecl

variable {s : Settings} {d : TypeDecl}

section Braceless

variable (plain : ∀ text ∈ d.texts, Braceless text.toList)

include plain

theorem braceless_header : Braceless d.header.text.toList := by
  have named : Braceless d.name.toList := plain d.name List.mem_cons_self
  have keyword : Braceless d.kind.keyword.toList := by cases d.kind <;> decide
  unfold header
  split
  · simp +decide only [String.toList_append, Text.braceless_append, named, and_self]
  · simp +decide only [String.toList_append, Text.braceless_append, keyword, named, and_self]

variable (unit : Braceless s.indent.toList)

include unit

theorem nested_memberLines : Nested s.indent 1 (d.memberLines s.thisQualifier) := by
  obtain ⟨named, members⟩ := List.forall_mem_cons.1 plain
  refine Nested.intercalate (nested_blank unit) fun block own => ?_
  obtain ⟨m, listed, rfl⟩ := List.mem_map.1 own
  exact m.nested_lines unit s.thisQualifier named d.kind fun text inside =>
    members text (List.mem_flatMap.2 ⟨m, listed, inside⟩)

theorem nested_lines : Nested s.indent 0 (d.lines s.thisQualifier) := by
  have head : Nested s.indent 0 [d.header] :=
    nested_singleton unit (braceless_header plain).balanced fun _ => d.depth_header.symm
  exact head.append (Nested.enclosed unit (nested_memberLines plain unit))

theorem bracesMatch_toSource : Text.BracesMatch (d.toSource s).toList := by
  have feed : Braceless ['\n'] := by decide
  have head : Braceless (d.header.text.toList ++ ['\n']) :=
    Text.braceless_append.2 ⟨braceless_header plain, feed⟩
  have inside : Text.Balanced ('\n' :: (innerText s d.name d.kind d.members).toList) :=
    feed.balanced.append (nested_memberLines plain unit).balanced
  have whole := Text.Balanced.bracesMatch head inside feed
  have framed : d.toSource s =
      d.header.text ++ "\n\x7b\n" ++ innerText s d.name d.kind d.members ++ "\x7d\n" :=
    toSource_eq_innerText s d.name d.kind d.members
  rw [framed]
  simpa using whole

end Braceless

/-- **The braces match, and the depth of a line is the number of open braces.** If the unit of
indentation and all texts that are given have no braces, no beginning of the text of a declaration
closes more braces than it opens, and all of them are closed at the last closing brace, and not
between the first opening one and it. Where a line starts that does not separate members, as many
braces are open as the line is deep. A closing brace on its own counts as closed there. -/
theorem braces_match (unit : Braceless s.indent.toList)
    (plain : ∀ text ∈ d.texts, Braceless text.toList) :
    Text.BracesMatch (d.toSource s).toList ∧
      ∀ before l after, d.lines s.thisQualifier = before ++ l :: after →
        d.toSource s =
            textOf s.indent before ++ l.toSource s.indent ++ textOf s.indent after ∧
          (l ≠ Line.blank → l.nesting s.indent before = l.depth) := by
  refine ⟨bracesMatch_toSource plain unit, fun before l after whole => ⟨?_, fun written => ?_⟩⟩
  · rw [toSource_eq_textOf, whole, textOf_append, textOf_cons, String.append_assoc]
  · simpa using (nested_lines plain unit).starts before l after whole written

/-- A class with a field whose initializer goes on in a second line, with accessors, with a verbatim
text that has no rows and with an empty body. -/
def counter : TypeDecl where
  name := "Counter<T>"
  members :=
    [.field ⟨"_count", "int", some (.verbatim "1 +\n1")⟩,
     .property (.auto "Count" "int" "_count"),
     .verbatim "",
     .method { name := "Reset", parameters := [⟨"item", "T"⟩] }]

theorem counter_braces_match :
    Text.BracesMatch (counter.toSource {}).toList ∧
      ∃ before after, counter.lines true = before ++ ⟨3, "return this._count;"⟩ :: after ∧
        Line.nesting "    " before ⟨3, "return this._count;"⟩ = 3 := by
  obtain ⟨matched, levels⟩ := braces_match (s := {}) (d := counter) (by decide) (by decide)
  let before := (counter.lines true).take 8
  let after := (counter.lines true).drop 9
  have whole : counter.lines true = before ++ ⟨3, "return this._count;"⟩ :: after := by decide
  exact ⟨matched, before, after, whole, (levels before _ after whole).2 (by decide)⟩

end TypeDecl

end Prologue
