import Mathlib.Data.List.Basic
import Prologue.Proofs.Writing

/-!
# Verbatim text in written declarations

A verbatim text is cut into rows, and each row is written with the indentation of its place in front
and a line feed behind. Taking the indentation off again gives the text back.

* `Text.flatMap_rowsOf` says that the rows of a text, each with a line feed, are the text, with a
  line feed more if it does not end with one. Carriage returns are the exception, since one directly
  before a line feed belongs to no row.
* `Place.exists_lines_fill` says that a text in a member is a block of lines of its own, and that
  the lines around it do not depend on it.
* `TypeDecl.verbatim_recovered` puts the two together.
-/

namespace Prologue

/-! ## Rows and line feeds -/

namespace Text

/-- The text with a line feed at its end. -/
def terminated (cs : List Char) : List Char :=
  if cs.getLast? = some '\n' then cs else cs ++ ['\n']

theorem terminated_cons {cs : List Char} (some : cs ≠ []) (c : Char) :
    terminated (c :: cs) = c :: terminated cs := by
  obtain ⟨d, ds, rfl⟩ := List.exists_cons_of_ne_nil some
  rw [terminated, terminated, List.getLast?_cons_cons]
  split <;> rfl

theorem terminated_ne_nil (cs : List Char) : terminated cs ≠ [] := by
  intro none
  rw [terminated] at none
  split at none
  case isTrue ends =>
    rw [none] at ends
    cases ends
  case isFalse => exact absurd none (by simp)

/-- The rows of a text without carriage returns, each with a line feed, are the text. -/
theorem flatMap_rowsOf {cs : List Char} (some : cs ≠ []) (plain : '\r' ∉ cs) :
    (rowsOf cs).flatMap (· ++ ['\n']) = terminated cs := by
  fun_induction rowsOf cs with
  | case1 => exact absurd rfl some
  | case2 cs ih =>
      by_cases last : cs = []
      · rw [last]
        rfl
      · rw [List.flatMap_cons, ih last fun listed => plain (List.mem_cons_of_mem _ listed),
          terminated_cons last]
        rfl
  | case3 cs => exact absurd List.mem_cons_self plain
  | case4 c cs notFeed _ none ih =>
      -- Only the empty text has no rows.
      have last : cs = [] := Classical.byContradiction fun some => by
        have whole := ih some fun listed => plain (List.mem_cons_of_mem _ listed)
        rw [none] at whole
        exact terminated_ne_nil cs whole.symm
      subst last
      simpa [terminated] using notFeed
  | case5 c cs _ _ row rows others ih =>
      have some : cs ≠ [] := by
        rintro rfl
        cases others
      have whole := ih some fun listed => plain (List.mem_cons_of_mem _ listed)
      rw [others, List.flatMap_cons] at whole
      rw [List.flatMap_cons, terminated_cons some, ← whole]
      rfl

/-- The lines of a text without the margin in front of each. There is no answer if a line lacks the
margin. What follows the last line feed is no line and stays as it is. -/
def dropMargins? (margin : List Char) : List (List Char) → Option (List Char)
  | [] => some []
  | [rest] => some rest
  | line :: lines => do
    let text ← line.dropPrefix? margin
    let others ← dropMargins? margin lines
    return text ++ '\n' :: others

/-- The text without the margin in front of each of its lines. -/
def withoutMargin? (margin : List Char) (text : String) : Option (List Char) :=
  dropMargins? margin (pieces text)

theorem dropMargins?_rows (margin : List Char) (rows : List (List Char)) :
    dropMargins? margin (rows.map (margin ++ ·) ++ [[]]) = some (rows.flatMap (· ++ ['\n'])) := by
  induction rows with
  | nil => rfl
  | cons row rows ih =>
      have front : (margin ++ row).dropPrefix? margin = some row :=
        List.dropPrefix?_append_of_beq row (beq_self_eq_true margin)
      rw [List.map_cons, List.cons_append, dropMargins?, front, ih]
      · simp
      · simp

end Text

theorem pieces_rowLines {indent : String} (unit : '\n' ∉ indent.toList) (depth : Nat)
    (text : String) :
    Text.pieces (textOf indent (rowLines depth text)) =
      (Text.rowsOf text.toList).map (margin indent depth ++ ·) ++ [[]] := by
  have each (row : String) (listed : row ∈ Text.rows text) :
      Line.pieces indent ⟨depth, row⟩ = [margin indent depth ++ row.toList] :=
    Line.pieces_eq_singleton unit (Text.lineFeed_not_mem_of_mem_rows listed)
  calc Text.pieces (textOf indent (rowLines depth text))
      = (Text.rows text).flatMap (fun row => Line.pieces indent ⟨depth, row⟩) ++ [[]] := by
        rw [pieces_textOf, rowLines, List.flatMap_map]
    _ = (Text.rows text).map (fun row => margin indent depth ++ row.toList) ++ [[]] := by
        rw [List.flatMap_congr each, List.map_eq_flatMap]
    _ = (Text.rowsOf text.toList).map (margin indent depth ++ ·) ++ [[]] := by
        simp [Text.rows]

/-- The lines that a verbatim text becomes, without their indentation, are the text. -/
theorem withoutMargin?_rowLines {indent : String} (unit : '\n' ∉ indent.toList) (depth : Nat)
    {text : String} (some : text ≠ "") (plain : '\r' ∉ text.toList) :
    Text.withoutMargin? (margin indent depth) (textOf indent (rowLines depth text)) =
      .some (Text.terminated text.toList) := by
  have written : text.toList ≠ [] := mt String.toList_eq_nil_iff.1 some
  rw [Text.withoutMargin?, pieces_rowLines unit, Text.dropMargins?_rows,
    Text.flatMap_rowsOf written plain]

/-! ## Places of a verbatim text -/

/-- A member without one of its bodies. -/
inductive Frame where
  | constructor (parameters : List Parameter)
  | method (name : String) (result : Option TypeName) (parameters : List Parameter)
  | getter (name : String) (typeName : TypeName) (other : List Stmt)
  | setter (name : String) (typeName : TypeName) (other : List Stmt)

namespace Frame

/-- The member with the body. -/
def fill : Frame → List Stmt → Member
  | constructor parameters, body => .constructor ⟨parameters, body⟩
  | method name result parameters, body => .method ⟨name, result, parameters, body⟩
  | getter name typeName other, body => .property ⟨name, typeName, body, other⟩
  | setter name typeName other, body => .property ⟨name, typeName, other, body⟩

/-- The depth of the braces around the body. -/
def depth : Frame → Nat
  | constructor .. | method .. => 1
  | getter .. | setter .. => 2

/-- The lines around a body do not depend on it. A setter without statements is not written at
all. -/
theorem exists_lines_fill (frame : Frame) (qualified : Bool) (owner : TypeName) {kind : TypeKind}
    (bodied : kind ≠ .interfaceType) :
    ∃ front back : List Line, ∀ body ≠ [], (frame.fill body).lines qualified owner kind =
      front ++ bodyLines qualified frame.depth body ++ back := by
  cases frame with
  | constructor parameters =>
      exact ⟨[⟨1, "public " ++ owner.base ++ "(" ++ parametersSource parameters ++ ")"⟩], [],
        fun body _ => by simp [fill, Member.lines, Constructor.lines, depth]⟩
  | method name result parameters =>
      refine ⟨[⟨1, "public " ++ Method.signature ⟨name, result, parameters, []⟩⟩], [],
        fun body _ => ?_⟩
      simp [fill, Member.lines, Method.lines, Method.signature, depth, bodied]
  | getter name typeName other =>
      refine ⟨[⟨1, "public " ++ typeName ++ " " ++ name⟩, Line.opening 1, ⟨2, "get"⟩],
        (if other.isEmpty then [] else Property.accessorLines qualified "set" other) ++
          [Line.closing 1], fun body _ => ?_⟩
      simp [fill, Member.lines, Property.lines, Property.accessorLines, Property.isReadOnly, depth,
        bodied]
  | setter name typeName other =>
      refine ⟨⟨1, "public " ++ typeName ++ " " ++ name⟩ :: Line.opening 1 ::
        Property.accessorLines qualified "get" other ++ [⟨2, "set"⟩], [Line.closing 1],
        fun body some => ?_⟩
      simp [fill, Member.lines, Property.lines, Property.accessorLines, Property.isReadOnly, depth,
        bodied, some]

end Frame

/-- Where a verbatim text can stand: as a member, or in a body between other statements. -/
inductive Place where
  | member
  | statement (frame : Frame) (before after : List Stmt)

namespace Place

/-- The member with the verbatim text in its place. -/
def fill : Place → String → Member
  | member, text => .verbatim text
  | statement frame before after, text => frame.fill (before ++ .verbatim text :: after)

/-- The depth of the lines of a text in the place. -/
def depth : Place → Nat
  | member => 1
  | statement frame _ _ => frame.depth + 1

/-- The text is a block of lines of its own, and the lines around it do not depend on it. -/
theorem exists_lines_fill (place : Place) (qualified : Bool) (owner : TypeName) {kind : TypeKind}
    (bodied : kind ≠ .interfaceType) :
    ∃ front back : List Line, ∀ text, (place.fill text).lines qualified owner kind =
      front ++ rowLines place.depth text ++ back := by
  cases place with
  | member => exact ⟨[], [], fun text => by simp [fill, Member.lines, depth]⟩
  | statement frame before after =>
      obtain ⟨front, back, written⟩ := frame.exists_lines_fill qualified owner bodied
      let others (body : List Stmt) := body.flatMap (·.lines qualified (frame.depth + 1))
      refine ⟨front ++ Line.opening frame.depth :: others before,
        others after ++ Line.closing frame.depth :: back, fun text => ?_⟩
      have verbatim : (Stmt.verbatim text).lines qualified (frame.depth + 1) =
          rowLines (frame.depth + 1) text := rfl
      rw [fill, written _ (by simp), bodyLines, List.flatMap_append, List.flatMap_cons, verbatim]
      simp [others, depth]

end Place

/-! ## The text of the declaration -/

namespace TypeDecl

/-- The lines around one of the members do not depend on it. -/
theorem exists_lines_member (qualified : Bool) (owner : TypeName) (kind : TypeKind)
    (before after : List Member) :
    ∃ front back : List Line, ∀ m : Member,
      (⟨owner, kind, before ++ m :: after⟩ : TypeDecl).lines qualified =
        front ++ m.lines qualified owner kind ++ back := by
  let block (m : Member) : List Line := m.lines qualified owner kind
  let empty : TypeDecl := ⟨owner, kind, []⟩
  refine ⟨empty.header :: Line.opening 0 :: (before.map block).flatMap (· ++ [Line.blank]),
    (after.map block).flatMap ([Line.blank] ++ ·) ++ [Line.closing 0], fun m => ?_⟩
  have header : (⟨owner, kind, before ++ m :: after⟩ : TypeDecl).header = empty.header := rfl
  rw [lines, memberLines, List.map_append, List.map_cons, intercalate_append_cons_eq, header]
  simp only [block, List.cons_append, List.append_assoc]

/-- **Verbatim texts can be read back.** In a type that is no interface, a verbatim text is written
between texts that do not depend on it. If it is not empty and has no carriage returns, what is
written for it, without the indentation of its place in front of each line, is the text with a line
feed at its end. -/
theorem verbatim_recovered (s : Settings) (unit : '\n' ∉ s.indent.toList) (owner : TypeName)
    {kind : TypeKind} (bodied : kind ≠ .interfaceType) (before after : List Member)
    (place : Place) :
    ∃ front back : List Line, ∀ text : String,
      (⟨owner, kind, before ++ place.fill text :: after⟩ : TypeDecl).toSource s =
          textOf s.indent front ++ textOf s.indent (rowLines place.depth text) ++
            textOf s.indent back ∧
        (text ≠ "" → '\r' ∉ text.toList →
          Text.withoutMargin? (margin s.indent place.depth)
              (textOf s.indent (rowLines place.depth text)) =
            some (Text.terminated text.toList)) := by
  obtain ⟨front, back, whole⟩ := exists_lines_member s.thisQualifier owner kind before after
  obtain ⟨above, below, member⟩ := place.exists_lines_fill s.thisQualifier owner bodied
  refine ⟨front ++ above, below ++ back, fun text => ⟨?_, withoutMargin?_rowLines unit _⟩⟩
  rw [toSource_eq_textOf, whole, member]
  simp only [textOf_append, String.append_assoc]

/-- Empty lines in front, between and behind, in the second statement of a setter. -/
theorem setter_text_recovered :
    ∃ front back : List Line,
      (⟨"Gauge", .structType,
          [.field ⟨"_level", "int", none⟩,
           .property ⟨"Level", "int", [.retField "_level"],
            [.assignField "_level" (.argument "value"),
             .verbatim "\n  if (ready)\n\n    Start();\n\n"]⟩]⟩ : TypeDecl).toSource {} =
          textOf "    " front ++
            textOf "    " [⟨3, ""⟩, ⟨3, "  if (ready)"⟩, ⟨3, ""⟩, ⟨3, "    Start();"⟩, ⟨3, ""⟩] ++
            textOf "    " back ∧
        Text.withoutMargin? "            ".toList
            (textOf "    "
              [⟨3, ""⟩, ⟨3, "  if (ready)"⟩, ⟨3, ""⟩, ⟨3, "    Start();"⟩, ⟨3, ""⟩]) =
          some "\n  if (ready)\n\n    Start();\n\n".toList := by
  obtain ⟨front, back, rule⟩ :=
    verbatim_recovered {} (by decide) "Gauge" (show TypeKind.structType ≠ .interfaceType by decide)
      [.field ⟨"_level", "int", none⟩] []
      (.statement (.setter "Level" "int" [.retField "_level"])
        [.assignField "_level" (.argument "value")] [])
  obtain ⟨written, recovered⟩ := rule "\n  if (ready)\n\n    Start();\n\n"
  exact ⟨front, back, written, recovered (by decide) (by decide)⟩

end TypeDecl

end Prologue
