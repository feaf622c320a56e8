import Prologue.Decl.Initialization
import Prologue.Logged
import Prologue.Settings

/-!
# Plans

A plan for a declaration pairs each property with its backing field and lists the fields that are to
be assigned a new value in the constructors. A field is listed once, for the first property it
backs, if its type calls for a created value and some construction path leaves it without one.

Planning goes through the properties in the order of their declaration. It fails at the first
property that returns an undeclared field.
-/

namespace Prologue

/-- A property and the field that its getter returns. -/
structure Binding where
  property : String
  field : String
deriving DecidableEq, Repr

/-- A field that is to be assigned a new value of the type. -/
structure FieldInit where
  field : String
  typeName : TypeName
deriving DecidableEq, Repr

/-- The assignment of the new value, created without arguments. -/
def FieldInit.toStmt (i : FieldInit) : Stmt := .assignField i.field (.createEmpty i.typeName)

/-- What is to be done to the constructors of a type. -/
structure Plan where
  /-- The name of the type that the plan is for. -/
  typeName : TypeName
  /-- The properties that have a backing field, with it. -/
  bindings : List Binding := []
  /-- The fields to be assigned. -/
  inits : List FieldInit := []
  /-- The properties that have no backing field. -/
  skipped : List String := []
deriving DecidableEq, Repr

namespace Plan

/-- A plan without fields to be assigned asks for nothing. -/
def isEmpty (p : Plan) : Bool := p.inits.isEmpty

/-- Notes that the property has no backing field. -/
def addSkipped (property : String) (p : Plan) : Plan :=
  { p with skipped := p.skipped ++ [property] }

/-- Notes that the field backs the property. -/
def addBinding (property field : String) (p : Plan) : Plan :=
  { p with bindings := p.bindings ++ [⟨property, field⟩] }

/-- Notes that the field is to be assigned. -/
def addInit (f : Field) (p : Plan) : Plan :=
  { p with inits := p.inits ++ [⟨f.name, f.typeName⟩] }

/-- Whether the field is to be assigned. -/
def assigns (p : Plan) (field : String) : Bool := p.inits.any (·.field == field)

end Plan

namespace TypeDecl

/-- Whether assignments can be put into the constructors of the type. A class without a constructor
can be given one, but a struct takes assignments only in the constructors that it declares. -/
def takesInitializers (d : TypeDecl) : Bool :=
  match d.kind with
  | .classType => true
  | .structType => !d.constructors.isEmpty
  | .interfaceType => false
  | .enumType => false

theorem takesInitializers_iff {d : TypeDecl} :
    d.takesInitializers = true ↔
      d.kind = .classType ∨ d.kind = .structType ∧ d.constructors ≠ [] := by
  unfold takesInitializers
  cases d.kind <;> simp

theorem takesInitializers_eq_false_iff {d : TypeDecl} :
    d.takesInitializers = false ↔
      d.kind = .interfaceType ∨ d.kind = .enumType ∨
        d.kind = .structType ∧ d.constructors = [] := by
  unfold takesInitializers
  cases d.kind <;> simp

/-- Plans the assignment of a field that backs a property, if it needs one. -/
def planField (s : Settings) (d : TypeDecl) (f : Field) (plan : Plan) : Logged Plan :=
  if !d.takesInitializers || !s.needsInitialization f.typeName || plan.assigns f.name then
    return plan
  else do
    let initialized ← Logged.ofLookup (d.isFieldInitialized f.name)
    if initialized then
      Logged.tell (.alreadyInitialized d.name f.name)
      return plan
    else
      Logged.tell (.needsInitializer d.name f.name f.typeName)
      return plan.addInit f

/-- Takes one more property into the plan. -/
def planProperty (s : Settings) (d : TypeDecl) (plan : Plan) (p : Property) : Logged Plan :=
  match p.backingFieldName? with
  | none => do
    Logged.tell (.notBacked d.name p.name)
    return plan.addSkipped p.name
  | some name =>
    match d.getField? name with
    | none => do
      Logged.tell (.undeclaredField d.name p.name name)
      Logged.fail (.undeclaredField d.name p.name name)
    | some f => d.planField s f (plan.addBinding p.name f.name)

/-- The plan for the declaration. -/
def plan (s : Settings) (d : TypeDecl) : Logged Plan := do
  if !d.takesInitializers then Logged.tell (.noConstructorBody d.name d.kind)
  d.properties.foldlM (d.planProperty s) { typeName := d.name }

end TypeDecl

end Prologue
