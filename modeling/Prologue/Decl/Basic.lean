import Prologue.Code.Stmt

/-!
# Type declarations

A type declaration has a name, a kind and a list of members. The order of the members is the order
in which they were declared; nothing here changes it. Members of other kinds than those modelled
are carried as source text.
-/

namespace Prologue

/-- What a declaration declares. -/
inductive TypeKind where
  | classType
  | structType
  | interfaceType
  | enumType
deriving DecidableEq, Repr, Inhabited

/-- The keyword that declares a type of the kind. -/
def TypeKind.keyword : TypeKind → String
  | .classType => "class"
  | .structType => "struct"
  | .interfaceType => "interface"
  | .enumType => "enum"

/-- A field, with its inline initializer if it has one. -/
structure Field where
  name : String
  typeName : TypeName
  initializer : Option Expr := none
deriving DecidableEq, Repr, Inhabited

/-- A property, given by the bodies of its accessors. -/
structure Property where
  name : String
  typeName : TypeName
  getter : List Stmt := []
  setter : List Stmt := []
deriving DecidableEq, Repr, Inhabited

/-- A parameter of a constructor or a method. -/
structure Parameter where
  name : String
  typeName : TypeName
deriving DecidableEq, Repr, Inhabited

/-- A constructor. -/
structure Constructor where
  parameters : List Parameter := []
  body : List Stmt := []
deriving DecidableEq, Repr, Inhabited

/-- A method. One without a result type returns nothing. -/
structure Method where
  name : String
  result : Option TypeName := none
  parameters : List Parameter := []
  body : List Stmt := []
deriving DecidableEq, Repr, Inhabited

/-- A member of a type. -/
inductive Member where
  | field (field : Field)
  | property (property : Property)
  | constructor (constructor : Constructor)
  | method (method : Method)
  /-- Any other member, as source text. -/
  | verbatim (text : String)
deriving DecidableEq, Repr, Inhabited

/-- A type declaration. -/
structure TypeDecl where
  name : TypeName
  kind : TypeKind := .classType
  members : List Member := []
deriving DecidableEq, Repr, Inhabited

/-- A property without a setter body can only be read. -/
def Property.isReadOnly (p : Property) : Bool := p.setter.isEmpty

/-- The property that reads and writes a field: its getter returns the field and its setter assigns
the implicit `value` to it. -/
def Property.auto (name : String) (typeName : TypeName) (field : String) : Property where
  name := name
  typeName := typeName
  getter := [.retField field]
  setter := [.assignField field (.argument "value")]

namespace Member

/-- The name of the member. Constructors and verbatim members have none. -/
def name? : Member → Option String
  | field f => some f.name
  | property p => some p.name
  | method m => some m.name
  | constructor _ | verbatim _ => none

/-- What the member is called in a message. -/
def label : Member → String
  | field _ => "field"
  | property _ => "property"
  | constructor _ => "constructor"
  | method _ => "method"
  | verbatim _ => "member"

/-- Whether the member is a field. -/
def isField : Member → Bool
  | field _ => true
  | _ => false

/-- Whether the member is a constructor. -/
def isConstructor : Member → Bool
  | constructor _ => true
  | _ => false

end Member

end Prologue
