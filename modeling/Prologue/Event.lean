import Prologue.Decl.Basic

/-!
# Events

Planning and merging tell what they find and do, in the order in which they find and do it. An
`Event` is one such thing.
-/

namespace Prologue

/-- How much attention an event asks for. -/
inductive Level where
  | debug
  | warn
deriving DecidableEq, Repr

/-- The name of the level. -/
def Level.name : Level → String
  | debug => "debug"
  | warn => "warn"

/-- Something found or done on the way to a completed declaration. -/
inductive Event where
  /-- The type has no constructor body, so nothing is planned for it. -/
  | noConstructorBody (typeName : String) (kind : TypeKind)
  /-- The getter of the property does not return a field. -/
  | notBacked (typeName property : String)
  /-- The property returns a field that the type does not declare. -/
  | undeclaredField (typeName property field : String)
  /-- The field has a value on every construction path. -/
  | alreadyInitialized (typeName field : String)
  /-- The field is to be assigned a new value of the type. -/
  | needsInitializer (typeName field fieldType : String)
  /-- So many properties have no backing field. -/
  | withoutBackingField (typeName : String) (count : Nat)
  /-- The type was given a constructor. -/
  | synthesizedConstructor (typeName : String)
  /-- So many assignments were put into the constructors. -/
  | inserted (typeName : String) (count : Nat)
deriving DecidableEq, Repr

namespace Event

/-- Only a reference to an undeclared field is a warning. -/
def level : Event → Level
  | undeclaredField .. => .warn
  | _ => .debug

/-- The wording of an event. -/
def message : Event → String
  | noConstructorBody typeName kind =>
    s!"{typeName}: {kind.keyword} without constructor body, no initializers planned"
  | notBacked typeName property =>
    s!"{typeName}.{property}: getter is not a field return, skipping"
  | undeclaredField typeName property field =>
    s!"{typeName}.{property} returns undeclared field {field}"
  | alreadyInitialized typeName field => s!"{typeName}.{field} already initialized"
  | needsInitializer typeName field fieldType =>
    s!"{typeName}.{field} needs initializer new {fieldType}()"
  | withoutBackingField typeName count =>
    s!"{typeName}: {count} propert(ies) without a backing field"
  | synthesizedConstructor typeName => s!"{typeName}: synthesized default constructor"
  | inserted typeName count => s!"{typeName}: inserted {count} initializer(s)"

end Event

end Prologue
