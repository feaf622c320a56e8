import Mathlib.Data.List.Forall2
import Prologue.Proofs.Indentation
import Prologue.Proofs.MemberBlocks

/-!
# Signatures of interfaces

The members of an interface are written as signatures, so its text tells nothing about the bodies of
its members. Two interfaces that say the same outside the bodies have the same text, also if
references are qualified in one and not in the other: a signature has no references.

* `Member.SameSignature` relates members that differ in their bodies only.
* `IndentedLine` says of a text that it is one line behind the unit of indentation. It is a single
  line if the unit has no line feed, and only then.
* `TypeDecl.toSource_eq_of_sameSignatures` says that interfaces with such members have one text, and
  that every property and every method is an indented line in it.
-/

namespace Prologue

/-- Two members that say the same outside their bodies. Properties have the same name and type, and
both have statements in their setters or neither has any. Methods have the same name, result type
and parameters. Verbatim members are the same text. The statements of the bodies are not related. -/
inductive Member.SameSignature : Member → Member → Prop
  | property {p q : Property} (name : p.name = q.name) (typeName : p.typeName = q.typeName)
    (setter : p.setter = [] ↔ q.setter = []) : SameSignature (.property p) (.property q)
  | method {m n : Method} (name : m.name = n.name) (result : m.result = n.result)
    (parameters : m.parameters = n.parameters) : SameSignature (.method m) (.method n)
  | verbatim (text : String) : SameSignature (.verbatim text) (.verbatim text)

theorem Property.isReadOnly_congr {p q : Property} (setter : p.setter = [] ↔ q.setter = []) :
    p.isReadOnly = q.isReadOnly := by
  rw [isReadOnly, isReadOnly, Bool.eq_iff_iff, List.isEmpty_iff, List.isEmpty_iff, setter]

/-- The lines of a member of an interface depend on its signature only. -/
theorem Member.SameSignature.lines_eq {m n : Member} (same : SameSignature m n)
    (qualified qualified' : Bool) (owner : TypeName) :
    m.lines qualified owner .interfaceType = n.lines qualified' owner .interfaceType := by
  cases same with
  | property name typeName setter =>
      simp only [lines, if_true, Property.signatureLines]
      rw [name, typeName, Property.isReadOnly_congr setter]
  | method name result parameters =>
      simp only [lines, if_true, Method.signatureLines, Method.signature]
      rw [name, result, parameters]
  | verbatim text => rfl

/-- The blocks of members of interfaces with the same signatures are the same. -/
theorem Member.SameSignature.map_block_eq {s t : Settings} (unit : s.indent = t.indent)
    (owner : TypeName) {ms ns : List Member} (signatures : List.Forall₂ SameSignature ms ns) :
    ms.map (·.block s owner .interfaceType) = ns.map (·.block t owner .interfaceType) := by
  induction signatures with
  | nil => rfl
  | cons same _ ih =>
      have first : Member.block s owner .interfaceType _ = Member.block t owner .interfaceType _ :=
        congrArg₂ textOf unit (same.lines_eq s.thisQualifier t.thisQualifier owner)
      rw [List.map_cons, List.map_cons, first, ih]

/-! ## Indented lines -/

/-- The text is one line. It ends with a line feed and has no other one. -/
def Text.IsLine (text : String) : Prop :=
  ∃ line : String, '\n' ∉ line.toList ∧ text = line ++ "\n"

/-- The text is the unit of indentation, something without a line feed, and a line feed. So it has
one line feed more than the unit, and is one line exactly if the unit has none. -/
structure IndentedLine (indent text : String) : Prop where
  written : ∃ line : String, '\n' ∉ line.toList ∧ text = indent ++ line ++ "\n"
  lineFeeds : Text.lineFeeds text = Text.lineFeeds indent + 1
  isLine_iff : Text.IsLine text ↔ '\n' ∉ indent.toList

theorem Text.IsLine.lineFeeds_eq {text : String} (line : IsLine text) : lineFeeds text = 1 := by
  obtain ⟨line, plain, rfl⟩ := line
  rw [lineFeeds_append, lineFeeds_eq_zero plain]
  rfl

theorem IndentedLine.of_plain (indent : String) {line : String} (plain : '\n' ∉ line.toList) :
    IndentedLine indent (indent ++ line ++ "\n") := by
  have counted : Text.lineFeeds (indent ++ line ++ "\n") = Text.lineFeeds indent + 1 := by
    rw [Text.lineFeeds_append, Text.lineFeeds_append, Text.lineFeeds_eq_zero plain]
    rfl
  refine ⟨⟨line, plain, rfl⟩, counted, fun single => ?_, fun unit => ?_⟩
  · have none : Text.lineFeeds indent = 0 := Nat.succ.inj (counted.symm.trans single.lineFeeds_eq)
    exact List.count_eq_zero.1 none
  · refine ⟨indent ++ line, ?_, rfl⟩
    rw [String.toList_append, List.mem_append, not_or]
    exact ⟨unit, plain⟩

theorem indentedLine_textOf (indent : String) {text : String} (plain : '\n' ∉ text.toList) :
    IndentedLine indent (textOf indent [⟨1, text⟩]) := by
  have written : textOf indent [⟨1, text⟩] = indent ++ text ++ "\n" := by
    simp [textOf, Line.toSource]
  rw [written]
  exact .of_plain indent plain

/-- A property or a method of an interface is an indented line. -/
theorem Member.SameSignature.indentedLine_block {m n : Member} (same : SameSignature m n)
    (signed : ∀ text, m ≠ .verbatim text) (named : ∀ text ∈ m.headTexts, '\n' ∉ text.toList)
    (s : Settings) (owner : TypeName) :
    IndentedLine s.indent (m.block s owner .interfaceType) := by
  cases same with
  | @property p _ name typeName setter =>
      have inner := Property.inner_of_mem_signatureLines (p := p)
        (named p.name (by simp [headTexts])) (named p.typeName (by simp [headTexts]))
        List.mem_cons_self
      exact indentedLine_textOf s.indent inner.plain
  | @method m _ name result parameters =>
      have inner := Method.inner_of_mem_signatureLines
        (Method.not_mem_signature (by decide) named) List.mem_cons_self
      exact indentedLine_textOf s.indent inner.plain
  | verbatim text => exact absurd rfl (signed text)

namespace TypeDecl

/-- **Interfaces do not show bodies.** Two interfaces with the same name and with members of the
same signatures, one by one, have the same text under settings with the same unit of indentation. In
it, between the heading and the last brace, stand the blocks of the members. That of a property or a
method is an indented line if its names and types have no line feed, and so it is one line exactly
if the unit of indentation has none either. -/
theorem toSource_eq_of_sameSignatures {s t : Settings} (unit : s.indent = t.indent)
    {d e : TypeDecl} (kind : d.kind = .interfaceType) (kind' : e.kind = .interfaceType)
    (name : d.name = e.name)
    (signatures : List.Forall₂ Member.SameSignature d.members e.members) :
    d.toSource s = e.toSource t ∧
      d.toSource s = heading d.name d.kind ++
        "\n".intercalate (d.members.map (·.block s d.name d.kind)) ++ "\x7d\n" ∧
      ∀ m ∈ d.members, (∀ text, m ≠ .verbatim text) →
        (∀ text ∈ m.headTexts, '\n' ∉ text.toList) →
          IndentedLine s.indent (m.block s d.name d.kind) := by
  obtain ⟨owner, _, ms⟩ := d
  obtain ⟨_, _, ns⟩ := e
  cases kind
  cases kind'
  cases name
  have blocks := Member.SameSignature.map_block_eq unit owner signatures
  refine ⟨?_, ?_, fun m listed signed named => ?_⟩
  · rw [toSource_eq_innerText, toSource_eq_innerText, innerText_eq, innerText_eq, blocks]
  · rw [toSource_eq_innerText, innerText_eq]
  · obtain ⟨n, position, rfl⟩ := List.getElem_of_mem listed
    have same := signatures.get position (signatures.length_eq ▸ position)
    exact same.indentedLine_block signed named s owner

/-- An interface whose members have no bodies. -/
def shape : TypeDecl where
  name := "IShape"
  kind := .interfaceType
  members :=
    [.property { name := "Area", typeName := "double" },
     .property { name := "Name", typeName := "string", setter := [.verbatim "Touch();"] },
     .verbatim "// scaling",
     .method { name := "Scale", parameters := [⟨"factor", "double"⟩] }]

/-- The same interface with other statements in its getters, its setter and its method. -/
def bodiedShape : TypeDecl where
  name := "IShape"
  kind := .interfaceType
  members :=
    [.property { name := "Area", typeName := "double", getter := [.retField "_area"] },
     .property (.auto "Name" "string" "_name"),
     .verbatim "// scaling",
     .method
       { name := "Scale"
         parameters := [⟨"factor", "double"⟩]
         body := [.assignField "_area" (.argument "factor"), .verbatim "Touch();\n\x7b \x7d"] }]

theorem bodiedShape_toSource :
    bodiedShape.toSource {} = shape.toSource { thisQualifier := false } ∧
      bodiedShape.toSource {} = "public partial interface IShape\n\x7b\n" ++
        "    double Area \x7b get; \x7d\n\n    string Name \x7b get; set; \x7d\n\n" ++
        "    // scaling\n\n    void Scale(double factor);\n\x7d\n" ∧
      Text.IsLine
        ((Member.property (.auto "Name" "string" "_name")).block {} "IShape" .interfaceType) := by
  have signatures : List.Forall₂ Member.SameSignature bodiedShape.members shape.members :=
    .cons (.property rfl rfl (by decide)) <| .cons (.property rfl rfl (by decide)) <|
      .cons (.verbatim _) <| .cons (.method rfl rfl rfl) .nil
  obtain ⟨same, -, lines⟩ :=
    toSource_eq_of_sameSignatures (s := {}) (t := { thisQualifier := false }) (d := bodiedShape)
      (e := shape) rfl rfl rfl rfl signatures
  have line := lines (.property (.auto "Name" "string" "_name")) (by decide) nofun (by decide)
  exact ⟨same, by decide, line.isLine_iff.2 (by decide)⟩

/-- Without a condition on the unit of indentation, a property of an interface can be more than one
line: a unit that is a line feed puts an empty line in front of it. -/
theorem not_forall_isLine_block :
    ¬∀ (s t : Settings) (d e : TypeDecl), s.indent = t.indent → d.kind = .interfaceType →
      e.kind = .interfaceType → d.name = e.name →
      List.Forall₂ Member.SameSignature d.members e.members →
        d.toSource s = e.toSource t ∧
          ∀ m ∈ d.members, (∀ text, m ≠ .verbatim text) →
            (∀ text ∈ m.headTexts, '\n' ∉ text.toList) → Text.IsLine (m.block s d.name d.kind) := by
  intro rule
  let s : Settings := { indent := "\n" }
  let area : Member := .property { name := "Area", typeName := "double" }
  let d : TypeDecl := ⟨"IShape", .interfaceType, [area]⟩
  have signatures : List.Forall₂ Member.SameSignature d.members d.members :=
    .cons (.property rfl rfl Iff.rfl) .nil
  have claimed := (rule s s d d rfl rfl rfl rfl signatures).2 area List.mem_cons_self nofun
    (by decide)
  have written : area.block s d.name d.kind = "\ndouble Area \x7b get; \x7d\n" := by decide
  rw [written] at claimed
  have twice : Text.lineFeeds "\ndouble Area \x7b get; \x7d\n" = 2 := by decide
  exact absurd (twice.symm.trans claimed.lineFeeds_eq) (by decide)

end TypeDecl

end Prologue
