import Prologue.Layout.Line
import Prologue.Layout.Writing

/-!
# Layout of declarations

The text of a declaration as a list of lines. Each member is laid out as one block of lines, which
depends on the member, the name and kind of the type and the choice of qualification only. Between
the blocks of two members stands a blank line.

The unit of indentation is not among the things that a layout depends on, and nothing here writes.
That these are the lines that `TypeDecl.toSource` writes under every unit is
`TypeDecl.toSource_eq_textOf`.
-/

namespace Prologue

/-- The rows of a text as lines at the same depth. -/
def rowLines (depth : Nat) (text : String) : List Line := (Text.rows text).map (⟨depth, ·⟩)

/-- The lines of a statement. -/
def Stmt.lines (qualified : Bool) (depth : Nat) (s : Stmt) : List Line :=
  rowLines depth (s.toSource qualified)

/-- The lines of a body, with its braces. -/
def bodyLines (qualified : Bool) (depth : Nat) (body : List Stmt) : List Line :=
  Line.opening depth :: body.flatMap (·.lines qualified (depth + 1)) ++ [Line.closing depth]

/-- The lines of a field. -/
def Field.lines (qualified : Bool) (f : Field) : List Line :=
  match f.initializer with
  | some value =>
    [⟨1, "private " ++ f.typeName ++ " " ++ f.name ++ " = " ++ value.toSource qualified ++ ";"⟩]
  | none => [⟨1, "private " ++ f.typeName ++ " " ++ f.name ++ ";"⟩]

namespace Property

/-- The lines of an accessor. -/
def accessorLines (qualified : Bool) (keyword : String) (body : List Stmt) : List Line :=
  ⟨2, keyword⟩ :: bodyLines qualified 2 body

/-- The lines of a property with the bodies of its accessors. -/
def lines (qualified : Bool) (p : Property) : List Line :=
  ⟨1, "public " ++ p.typeName ++ " " ++ p.name⟩ :: Line.opening 1 ::
    accessorLines qualified "get" p.getter ++
    (if p.isReadOnly then [] else accessorLines qualified "set" p.setter) ++
    [Line.closing 1]

/-- The line of a property without the bodies of its accessors. -/
def signatureLines (p : Property) : List Line :=
  let accessors := if p.isReadOnly then "\x7b get; \x7d" else "\x7b get; set; \x7d"
  [⟨1, p.typeName ++ " " ++ p.name ++ " " ++ accessors⟩]

end Property

/-- The lines of a constructor of the type. A constructor is named like its type, without the type
arguments. -/
def Constructor.lines (qualified : Bool) (typeName : TypeName) (c : Constructor) : List Line :=
  ⟨1, "public " ++ typeName.base ++ "(" ++ parametersSource c.parameters ++ ")"⟩ ::
    bodyLines qualified 1 c.body

namespace Method

/-- The lines of a method with its body. -/
def lines (qualified : Bool) (m : Method) : List Line :=
  ⟨1, "public " ++ m.signature⟩ :: bodyLines qualified 1 m.body

/-- The line of a method without its body. -/
def signatureLines (m : Method) : List Line := [⟨1, m.signature ++ ";"⟩]

end Method

/-- The lines of a member of a type of the name and kind. -/
def Member.lines (qualified : Bool) (typeName : TypeName) (kind : TypeKind) : Member → List Line
  | .field f => f.lines qualified
  | .property p => if kind = .interfaceType then p.signatureLines else p.lines qualified
  | .constructor c => c.lines qualified typeName
  | .method m => if kind = .interfaceType then m.signatureLines else m.lines qualified
  | .verbatim text => rowLines 1 text

namespace TypeDecl

/-- The line that names the type. An enumeration is not partial. -/
def header (d : TypeDecl) : Line :=
  match d.kind with
  | .enumType => ⟨0, "public enum " ++ d.name⟩
  | kind => ⟨0, "public partial " ++ kind.keyword ++ " " ++ d.name⟩

/-- The lines of the members, with a blank line between two of them. -/
def memberLines (qualified : Bool) (d : TypeDecl) : List Line :=
  [Line.blank].intercalate (d.members.map (·.lines qualified d.name d.kind))

/-- The lines of the declaration. -/
def lines (qualified : Bool) (d : TypeDecl) : List Line :=
  d.header :: Line.opening 0 :: d.memberLines qualified ++ [Line.closing 0]

end TypeDecl

end Prologue
