import Prologue.Proofs.Writing

/-!
# Blocks of members

The text inside the braces of a type is made of one block for each member, in the order of the
members, with a line feed between two of them. A block depends on its member, on the name and the
kind of the type and on the settings. It does not depend on the other members or on where the member
stands, and a verbatim member without rows has an empty block, which is separated like any other.

* `TypeDecl.innerText_eq` gives the text inside the braces by its blocks.
* `TypeDecl.members_compose` says what follows for members that are put together, replaced or
  rearranged.
-/

namespace Prologue

/-- The text of separated lists of lines is made of their texts, separated likewise. -/
theorem textOf_intercalate (indent : String) (separator : List Line) (blocks : List (List Line)) :
    textOf indent (separator.intercalate blocks) =
      (textOf indent separator).intercalate (blocks.map (textOf indent)) := by
  induction blocks with
  | nil => rfl
  | cons block blocks ih =>
      cases blocks with
      | nil => simp
      | cons next others =>
          rw [List.intercalate_cons_cons, textOf_append, textOf_append, ih]
          simp only [List.map_cons, String.intercalate_cons_cons]

/-- What is written for the member in a type of the name and kind. -/
def Member.block (s : Settings) (owner : TypeName) (kind : TypeKind) (m : Member) : String :=
  textOf s.indent (m.lines s.thisQualifier owner kind)

namespace TypeDecl

/-- The text in front of the members: the line that names the type and that of the opening brace. -/
def heading (owner : TypeName) (kind : TypeKind) : String :=
  (⟨owner, kind, []⟩ : TypeDecl).header.text ++ "\n\x7b\n"

/-- The text between the line of the opening brace and that of the closing one. -/
def innerText (s : Settings) (owner : TypeName) (kind : TypeKind) (ms : List Member) : String :=
  textOf s.indent ((⟨owner, kind, ms⟩ : TypeDecl).memberLines s.thisQualifier)

/-- The heading does not depend on the members. -/
theorem textOf_header (indent : String) (owner : TypeName) (kind : TypeKind) (ms : List Member) :
    textOf indent [(⟨owner, kind, ms⟩ : TypeDecl).header, Line.opening 0] =
      heading owner kind := by
  have header : (⟨owner, kind, ms⟩ : TypeDecl).header = (⟨owner, kind, []⟩ : TypeDecl).header :=
    rfl
  rw [← String.toList_inj, header, heading]
  simp [textOf, Line.toSource, depth_header, Line.opening]

theorem toSource_eq_innerText (s : Settings) (owner : TypeName) (kind : TypeKind)
    (ms : List Member) :
    (⟨owner, kind, ms⟩ : TypeDecl).toSource s =
      heading owner kind ++ innerText s owner kind ms ++ "\x7d\n" := by
  let d : TypeDecl := ⟨owner, kind, ms⟩
  have whole : d.lines s.thisQualifier =
      [d.header, Line.opening 0] ++ d.memberLines s.thisQualifier ++ [Line.closing 0] := rfl
  have closing : textOf s.indent [Line.closing 0] = "\x7d\n" := by
    simp [textOf, Line.toSource, Line.closing]
  rw [toSource_eq_textOf, whole, textOf_append, textOf_append, textOf_header, closing]
  rfl

/-- The text inside the braces by the blocks of the members. -/
theorem innerText_eq (s : Settings) (owner : TypeName) (kind : TypeKind) (ms : List Member) :
    innerText s owner kind ms = "\n".intercalate (ms.map (·.block s owner kind)) := by
  have blank : textOf s.indent [Line.blank] = "\n" := by
    simp [textOf, Line.toSource, Line.blank]
  rw [innerText, memberLines, textOf_intercalate, blank, List.map_map]
  rfl

theorem innerText_append (s : Settings) (owner : TypeName) (kind : TypeKind) {xs ys : List Member}
    (some : xs ≠ []) (some' : ys ≠ []) :
    innerText s owner kind (xs ++ ys) =
      innerText s owner kind xs ++ "\n" ++ innerText s owner kind ys := by
  rw [innerText_eq, innerText_eq, innerText_eq, List.map_append,
    String.intercalate_append_of_ne_nil (by simpa using some) (by simpa using some')]

/-- The text inside the braces around one of the blocks. -/
theorem innerText_append_cons (s : Settings) (owner : TypeName) (kind : TypeKind)
    (before : List Member) (m : Member) (after : List Member) :
    innerText s owner kind (before ++ m :: after) =
      String.join (before.map (·.block s owner kind ++ "\n")) ++ m.block s owner kind ++
        String.join (after.map ("\n" ++ ·.block s owner kind)) := by
  rw [innerText_eq, ← String.toList_inj, String.toList_intercalate, List.map_append,
    List.map_cons, List.map_append, List.map_cons, intercalate_append_cons_eq]
  simp [List.flatMap_map]

/-- How the text of a type of the name and kind is composed of what is written for its members.
What stands around the inner text does not depend on the members (`framed`). The inner text of two
lists of members, one after the other, is that of both with a line feed between them (`joined`),
and in general it is the blocks of the members, in order and separated by line feeds (`ordered`).
So what stands around a block does not depend on its member (`contiguous`), and if members are
picked by their positions, in any order, then so are the blocks (`rearranged`). -/
structure ComposesMembers (s : Settings) (owner : TypeName) (kind : TypeKind) : Prop where
  framed : ∀ ms, (⟨owner, kind, ms⟩ : TypeDecl).toSource s =
    heading owner kind ++ innerText s owner kind ms ++ "\x7d\n"
  joined : ∀ xs ys, xs ≠ [] → ys ≠ [] → innerText s owner kind (xs ++ ys) =
    innerText s owner kind xs ++ "\n" ++ innerText s owner kind ys
  ordered : ∀ ms, innerText s owner kind ms = "\n".intercalate (ms.map (·.block s owner kind))
  contiguous : ∀ before m after, innerText s owner kind (before ++ m :: after) =
    String.join (before.map (·.block s owner kind ++ "\n")) ++ m.block s owner kind ++
      String.join (after.map ("\n" ++ ·.block s owner kind))
  rearranged : ∀ (ms : List Member) (positions : List Nat),
    innerText s owner kind (positions.filterMap (ms[·]?)) =
      "\n".intercalate (positions.filterMap ((ms.map (·.block s owner kind))[·]?))

/-- **Members are written on their own.** The text inside the braces of a type is composed of one
block for each member, whatever the members are, the name and the kind of the type and the
settings. -/
theorem members_compose (s : Settings) (owner : TypeName) (kind : TypeKind) :
    ComposesMembers s owner kind where
  framed := toSource_eq_innerText s owner kind
  joined _ _ some some' := innerText_append s owner kind some some'
  ordered := innerText_eq s owner kind
  contiguous := innerText_append_cons s owner kind
  rearranged ms positions := by
    rw [innerText_eq, List.map_filterMap]
    simp only [List.getElem?_map]

/-- Two blocks behind the empty block of a verbatim text without rows. -/
theorem shelf_members_compose :
    innerText {} "Shelf" .classType
        ([.verbatim "", .field ⟨"_count", "int", none⟩] ++ [.method { name := "Clear" }]) =
      "\n    private int _count;\n" ++ "\n" ++ "    public void Clear()\n    \x7b\n    \x7d\n" := by
  rw [(members_compose {} "Shelf" .classType).joined _ _ (by decide) (by decide)]
  decide

end TypeDecl

end Prologue
