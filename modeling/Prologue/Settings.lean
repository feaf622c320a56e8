import Prologue.TypeName

/-!
# Settings

The choices of a caller: which field types call for a created value, and how the text is laid out.
-/

namespace Prologue

/-- The choices that govern planning and layout. -/
structure Settings where
  /-- The base names of the types that are created empty. -/
  collectionTypes : List String := ["List", "Collection", "ObservableCollection"]
  /-- Whether every type that can be created is, in place of `collectionTypes`. -/
  initializeAll : Bool := false
  /-- The text of one level of indentation. -/
  indent : String := "    "
  /-- Whether references to members of the object are qualified with `this`. -/
  thisQualifier : Bool := true
deriving DecidableEq, Repr, Inhabited

/-- Whether a field of the type is to hold a created value. With `initializeAll` this is every type
that is not scalar and whose base name is not that of an interface. -/
def Settings.needsInitialization (s : Settings) (name : TypeName) : Bool :=
  if s.initializeAll then !name.isScalar && !TypeName.isInterface name.base
  else s.collectionTypes.contains name.base

end Prologue
