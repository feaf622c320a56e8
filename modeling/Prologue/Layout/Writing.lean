import Prologue.Code.Written
import Prologue.Decl.Basic
import Prologue.Settings
import Prologue.Text.Rows

/-!
# Writing declarations

A declaration is written from top to bottom, and whatever is written goes behind the output so far.
The settings are at hand everywhere: `writeLine` writes the unit of indentation, and code is written
with the choice of qualification.

Statements and verbatim members may have several rows, and each row is written as a line of its own.
A field is always written as one line. Members of an interface are written as signatures.
-/

namespace Prologue

/-- Writes a text as a line at a depth of indentation. -/
def writeLine (s : Settings) (depth : Nat) (text output : String) : String :=
  Nat.repeat (· ++ s.indent) depth output ++ text ++ "\n"

/-- Writes the rows of a text as lines at the same depth. -/
def writeRows (s : Settings) (depth : Nat) (text output : String) : String :=
  (Text.rows text).foldl (fun output row => writeLine s depth row output) output

/-- Writes a body with its braces, one level deeper than these. -/
def writeBody (s : Settings) (depth : Nat) (body : List Stmt) (output : String) : String :=
  let opened := writeLine s depth "\x7b" output
  let filled := body.foldl (fun output statement =>
    writeRows s (depth + 1) (statement.toSource s.thisQualifier) output) opened
  writeLine s depth "\x7d" filled

/-- The parameters as they are written between parentheses. -/
def parametersSource (ps : List Parameter) : String :=
  ", ".intercalate (ps.map fun p => p.typeName ++ " " ++ p.name)

/-- Writes a field. -/
def Field.write (s : Settings) (f : Field) (output : String) : String :=
  let text := match f.initializer with
    | some value =>
      "private " ++ f.typeName ++ " " ++ f.name ++ " = " ++ value.toSource s.thisQualifier ++ ";"
    | none => "private " ++ f.typeName ++ " " ++ f.name ++ ";"
  writeLine s 1 text output

namespace Property

/-- Writes an accessor. -/
def writeAccessor (s : Settings) (keyword : String) (body : List Stmt) (output : String) : String :=
  writeBody s 2 body (writeLine s 2 keyword output)

/-- Writes a property with the bodies of its accessors. -/
def write (s : Settings) (p : Property) (output : String) : String :=
  let headed := writeLine s 1 ("public " ++ p.typeName ++ " " ++ p.name) output
  let opened := writeLine s 1 "\x7b" headed
  let readable := writeAccessor s "get" p.getter opened
  let writable := if p.isReadOnly then readable else writeAccessor s "set" p.setter readable
  writeLine s 1 "\x7d" writable

/-- Writes a property without the bodies of its accessors. -/
def writeSignature (s : Settings) (p : Property) (output : String) : String :=
  let accessors := if p.isReadOnly then "\x7b get; \x7d" else "\x7b get; set; \x7d"
  writeLine s 1 (p.typeName ++ " " ++ p.name ++ " " ++ accessors) output

end Property

/-- Writes a constructor of the type. A constructor is named like its type, without the type
arguments. -/
def Constructor.write (s : Settings) (typeName : TypeName) (c : Constructor) (output : String) :
    String :=
  let headed :=
    writeLine s 1 ("public " ++ typeName.base ++ "(" ++ parametersSource c.parameters ++ ")") output
  writeBody s 1 c.body headed

namespace Method

/-- Result type, name and parameters. -/
def signature (m : Method) : String :=
  m.result.getD "void" ++ " " ++ m.name ++ "(" ++ parametersSource m.parameters ++ ")"

/-- Writes a method with its body. -/
def write (s : Settings) (m : Method) (output : String) : String :=
  writeBody s 1 m.body (writeLine s 1 ("public " ++ m.signature) output)

/-- Writes a method without its body. -/
def writeSignature (s : Settings) (m : Method) (output : String) : String :=
  writeLine s 1 (m.signature ++ ";") output

end Method

/-- Writes a member of a type of the name and kind. -/
def Member.write (s : Settings) (typeName : TypeName) (kind : TypeKind) (m : Member)
    (output : String) : String :=
  match m with
  | .field f => f.write s output
  | .property p =>
    if kind = .interfaceType then p.writeSignature s output else p.write s output
  | .constructor c => c.write s typeName output
  | .method m => if kind = .interfaceType then m.writeSignature s output else m.write s output
  | .verbatim text => writeRows s 1 text output

namespace TypeDecl

/-- Writes the line that names the type. An enumeration is not partial. -/
def writeHeader (d : TypeDecl) (output : String) : String :=
  match d.kind with
  | .enumType => output ++ "public enum " ++ d.name ++ "\n"
  | kind => output ++ "public partial " ++ kind.keyword ++ " " ++ d.name ++ "\n"

/-- Writes a member, with a line feed in front of it if it is not the first one. -/
def writeMember (s : Settings) (d : TypeDecl) (position : Nat) (m : Member) (output : String) :
    String :=
  m.write s d.name d.kind (if position = 0 then output else output ++ "\n")

/-- Writes the members. -/
def writeMembers (s : Settings) (d : TypeDecl) (output : String) : String :=
  d.members.zipIdx.foldl (fun output entry => d.writeMember s entry.2 entry.1 output) output

/-- The source text of the declaration. -/
def toSource (s : Settings) (d : TypeDecl) : String :=
  let opened := d.writeHeader "" ++ "\x7b\n"
  d.writeMembers s opened ++ "\x7d\n"

end TypeDecl

end Prologue
