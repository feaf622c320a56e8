import Mathlib.Algebra.GroupWithZero.Nat
import Prologue.Proofs.Parts
import Prologue.Proofs.VerbatimText

/-!
# References and their qualification

The choice of qualification puts `this.` in front of the references to members of the object and
does nothing else. Written code is a list of pieces, which are fixed texts and names of members, and
the two ways of writing it differ in what stands in front of the names.

* `Expr.references` and `Stmt.references` list the references in code, and `QualifiesReferences`
  says of two ways of writing that they differ at just these.
* `Line.extent` is what the number of line feeds in a text needs to know of a line, and
  `TypeDecl.map_extent_lines` says that it does not depend on the qualification.
* `qualifier_reaches_references` puts the two together.
-/

namespace Prologue

/-! ## References -/

namespace Expr

mutual

/-- The names of the members of the object that the expression refers to, from left to right. -/
def references : Expr → List String
  | field name | property name => [name]
  | argument _ | this | literal _ | verbatim _ => []
  | create _ arguments => argumentReferences arguments

/-- The names that the arguments refer to. -/
def argumentReferences : List Expr → List String
  | [] => []
  | e :: es => references e ++ argumentReferences es

end

end Expr

/-- The names of the members of the object that the statement refers to, from left to right. -/
def Stmt.references : Stmt → List String
  | .ret none => []
  | .ret (some value) => value.references
  | .assign target value => target.references ++ value.references
  | .eval value => value.references
  | .verbatim _ => []

/-- A piece of written code. -/
inductive Piece where
  | fixed (text : String)
  /-- The name of a member of the object, where it is referred to. -/
  | member (name : String)
deriving DecidableEq, Repr

namespace Piece

/-- The piece as it is. -/
def text : Piece → String
  | fixed text => text
  | member name => name

/-- The piece with `this.` in front, if it is the name of a member. -/
def withThis : Piece → String
  | fixed text => text
  | member name => "this." ++ name

/-- The name of the member, if the piece is one. -/
def member? : Piece → Option String
  | fixed _ => none
  | member name => some name

end Piece

/-- What is written with and without qualification are the same pieces, of which the names are the
references. With qualification `this.` stands in front of every name. -/
structure QualifiesReferences (references : List String) (write : Bool → String) : Prop where
  pieces : ∃ pieces : List Piece, pieces.filterMap Piece.member? = references ∧
    write false = String.join (pieces.map Piece.text) ∧
    write true = String.join (pieces.map Piece.withThis)
  length : (write true).length = (write false).length + 5 * references.length

/-! ## Parts as pieces -/

/-- A part of written code as a piece. -/
def Part.piece : Part → Piece
  | .mark m => .fixed m.toSource
  | .member text => .member text
  | .name text | .verbatim text => .fixed text
  | .literal value => .fixed value.toSource

theorem Part.text_piece (p : Part) : p.piece.text = p.toSource false := by
  cases p <;> rfl

theorem Part.withThis_piece (p : Part) : p.piece.withThis = p.toSource true := by
  cases p <;> rfl

namespace Expr

mutual

theorem references_eq_filterMap : ∀ e : Expr,
    e.references = e.parts.filterMap (·.piece.member?)
  | field _ | property _ | argument _ | this | literal _ | verbatim _ => rfl
  | create _ arguments => by
    have inside := argumentReferences_eq_flatMap arguments
    have silent : [Part.mark .comma].filterMap (·.piece.member?) = [] := rfl
    rw [references, inside, ← filterMap_intercalate silent]
    simp [parts, Part.piece, Piece.member?]

theorem argumentReferences_eq_flatMap : ∀ es : List Expr,
    argumentReferences es = (argumentParts es).flatMap (·.filterMap (·.piece.member?))
  | [] => rfl
  | e :: es => by
    rw [argumentReferences, argumentParts, List.flatMap_cons, references_eq_filterMap e,
      argumentReferences_eq_flatMap es]

end

end Expr

theorem Stmt.references_eq_filterMap (s : Stmt) :
    s.references = s.parts.filterMap (·.piece.member?) := by
  cases s with
  | ret value =>
      cases value with
      | none => rfl
      | some value =>
          simp [references, parts, Part.piece, Piece.member?, Expr.references_eq_filterMap]
  | assign target value =>
      simp [references, parts, Part.piece, Piece.member?, Expr.references_eq_filterMap]
  | eval value =>
      simp [references, parts, Part.piece, Piece.member?, Expr.references_eq_filterMap]
  | verbatim text => rfl

theorem length_join_withThis (pieces : List Piece) :
    (String.join (pieces.map Piece.withThis)).length =
      (String.join (pieces.map Piece.text)).length +
        5 * (pieces.filterMap Piece.member?).length := by
  induction pieces with
  | nil => rfl
  | cons p pieces ih =>
      rw [List.map_cons, List.map_cons, String.join_cons, String.join_cons, String.length_append,
        String.length_append, ih]
      cases p with
      | fixed text =>
          have unnamed : (Piece.fixed text).member? = none := rfl
          rw [List.filterMap_cons_none unnamed]
          exact (Nat.add_assoc _ _ _).symm
      | member name =>
          have named : (Piece.member name).member? = some name := rfl
          have five : "this.".length = 5 := rfl
          rw [List.filterMap_cons_some named, List.length_cons, Piece.withThis, Piece.text,
            String.length_append]
          omega

/-- Code that is written as its parts is written as pieces. -/
theorem QualifiesReferences.of_parts {parts : List Part} {write : Bool → String}
    (written : ∀ qualified, (write qualified).toList =
      parts.flatMap fun p => (p.toSource qualified).toList) :
    QualifiesReferences (parts.filterMap (·.piece.member?)) write := by
  have names : (parts.map (·.piece)).filterMap Piece.member? =
      parts.filterMap (·.piece.member?) := by
    rw [List.filterMap_map]
    rfl
  have plain : write false = String.join ((parts.map (·.piece)).map Piece.text) := by
    rw [← String.toList_inj, written, String.toList_join, List.map_map, List.flatMap_map]
    exact List.flatMap_congr fun p _ => congrArg String.toList p.text_piece.symm
  have qualified : write true = String.join ((parts.map (·.piece)).map Piece.withThis) := by
    rw [← String.toList_inj, written, String.toList_join, List.map_map, List.flatMap_map]
    exact List.flatMap_congr fun p _ => congrArg String.toList p.withThis_piece.symm
  refine ⟨⟨_, names, plain, qualified⟩, ?_⟩
  rw [plain, qualified, length_join_withThis, names]

theorem Expr.qualifiesReferences (e : Expr) :
    QualifiesReferences e.references fun qualified => e.toSource qualified := by
  rw [e.references_eq_filterMap]
  exact .of_parts fun qualified => e.toList_toSource_eq_flatMap qualified

theorem Stmt.qualifiesReferences (s : Stmt) :
    QualifiesReferences s.references fun qualified => s.toSource qualified := by
  rw [s.references_eq_filterMap]
  exact .of_parts fun qualified => s.toList_toSource_eq_flatMap qualified

/-! ## Line feeds -/

/-- What is put in front of the references has no line feed. -/
theorem QualifiesReferences.lineFeeds_eq {references : List String} {write : Bool → String}
    (qualifies : QualifiesReferences references write) :
    Text.lineFeeds (write true) = Text.lineFeeds (write false) := by
  obtain ⟨pieces, -, plain, qualified⟩ := qualifies.pieces
  rw [plain, qualified]
  clear plain qualified
  induction pieces with
  | nil => rfl
  | cons p pieces ih =>
      have first : Text.lineFeeds p.withThis = Text.lineFeeds p.text := by
        cases p with
        | fixed text => rfl
        | member name =>
            have none : Text.lineFeeds "this." = 0 := rfl
            rw [Piece.withThis, Text.lineFeeds_append, none, Nat.zero_add, Piece.text]
      rw [List.map_cons, List.map_cons, String.join_cons, String.join_cons, Text.lineFeeds_append,
        Text.lineFeeds_append, first, ih]

namespace Text

theorem rowsOf_eq_nil_iff {cs : List Char} : rowsOf cs = [] ↔ cs = [] := by
  refine ⟨fun none => ?_, fun none => none ▸ rowsOf_nil⟩
  fun_cases rowsOf cs with
  | case1 => rfl
  | case2 cs | case3 cs | case4 c cs _ _ _ | case5 c cs _ _ row rows _ => simp_all [rowsOf]

/-- A text has as many rows as line feeds once it ends with one. -/
theorem length_rowsOf {cs : List Char} (some : cs ≠ []) :
    (rowsOf cs).length = (terminated cs).count '\n' := by
  fun_induction rowsOf cs with
  | case1 => exact absurd rfl some
  | case2 cs ih =>
      by_cases last : cs = []
      · rw [last]
        rfl
      · rw [terminated_cons last, List.count_cons_self, List.length_cons, ih last]
  | case3 cs ih =>
      by_cases last : cs = []
      · rw [last]
        rfl
      · rw [terminated_cons (List.cons_ne_nil _ _), terminated_cons last,
          List.count_cons_of_ne (by decide), List.count_cons_self, List.length_cons, ih last]
  | case4 c cs notFeed _ none ih =>
      obtain rfl := rowsOf_eq_nil_iff.1 none
      have other : ([c].getLast? = Option.some '\n') ↔ False := by simpa using notFeed
      rw [terminated, if_neg other.1, List.count_append, List.count_eq_zero_of_not_mem]
      · rfl
      · simpa [eq_comm] using notFeed
  | case5 c cs notFeed _ row rows others ih =>
      have last : cs ≠ [] := by
        rintro rfl
        cases others
      have whole := ih last
      rw [others, List.length_cons] at whole
      rw [terminated_cons last, List.count_cons_of_ne notFeed, List.length_cons, whole]

/-- A text that ends with a semicolon has one row more than line feeds. -/
theorem length_rows_semicolon (text : String) :
    (rows (text ++ ";")).length = lineFeeds (text ++ ";") + 1 := by
  have written : (text ++ ";").toList = text.toList ++ [';'] := String.toList_append
  have ends : (text.toList ++ [';']).getLast? ≠ some '\n' := by simp
  rw [rows, List.length_map, written, length_rowsOf (by simp), terminated, if_neg ends,
    List.count_append, List.count_singleton_self, lineFeeds, written]

end Text

/-- Every statement but a verbatim one ends with a semicolon. -/
theorem Stmt.exists_toSource_eq (s : Stmt) :
    (∃ text, s = .verbatim text) ∨ ∀ qualified, ∃ text, s.toSource qualified = text ++ ";" := by
  cases s with
  | ret value =>
      cases value with
      | none => exact Or.inr fun _ => ⟨"return", rfl⟩
      | some value => exact Or.inr fun _ => ⟨_, rfl⟩
  | assign target value => exact Or.inr fun _ => ⟨_, rfl⟩
  | eval value => exact Or.inr fun _ => ⟨_, rfl⟩
  | verbatim text => exact Or.inl ⟨text, rfl⟩

theorem Stmt.length_rows_toSource (s : Stmt) :
    (Text.rows (s.toSource true)).length = (Text.rows (s.toSource false)).length := by
  have feeds := s.qualifiesReferences.lineFeeds_eq
  rcases s.exists_toSource_eq with ⟨text, rfl⟩ | ends
  · rfl
  · obtain ⟨qualified, written⟩ := ends true
    obtain ⟨plain, written'⟩ := ends false
    rw [written, written'] at feeds ⊢
    rw [Text.length_rows_semicolon, Text.length_rows_semicolon, feeds]

/-! ## Line feeds in declarations -/

/-- The depth of a line and the number of line feeds in its text. -/
def Line.extent (l : Line) : Nat × Nat := (l.depth, Text.lineFeeds l.text)

theorem lineFeeds_margin (indent : String) (depth : Nat) :
    (margin indent depth).count '\n' = depth * Text.lineFeeds indent := by
  induction depth with
  | zero => simp [margin]
  | succ depth ih =>
      rw [margin, List.replicate_succ, String.join_cons, String.toList_append, List.count_append,
        ← margin, ih, Nat.succ_mul, Nat.add_comm, Text.lineFeeds]

/-- The line feeds in the text of lines are those of the margins and the texts, and one at the end
of each line. -/
theorem lineFeeds_textOf (indent : String) (ls : List Line) :
    Text.lineFeeds (textOf indent ls) =
      ((ls.map Line.extent).map fun extent =>
        extent.1 * Text.lineFeeds indent + extent.2 + 1).sum := by
  induction ls with
  | nil => rfl
  | cons l ls ih =>
      have first : Text.lineFeeds (l.toSource indent) =
          l.depth * Text.lineFeeds indent + Text.lineFeeds l.text + 1 := by
        rw [Text.lineFeeds, Line.toList_toSource, List.count_append, List.count_append,
          lineFeeds_margin, List.count_singleton_self, ← Text.lineFeeds]
      rw [textOf_cons, Text.lineFeeds_append, first, ih]
      rfl

theorem map_extent_rowLines (depth : Nat) (text : String) :
    (rowLines depth text).map Line.extent =
      List.replicate (Text.rows text).length (depth, 0) := by
  rw [rowLines, List.map_map, List.eq_replicate_iff]
  refine ⟨List.length_map _, fun extent listed => ?_⟩
  obtain ⟨row, own, rfl⟩ := List.mem_map.1 listed
  exact congrArg (depth, ·) (List.count_eq_zero_of_not_mem (Text.lineFeed_not_mem_of_mem_rows own))

theorem Stmt.map_extent_lines (depth : Nat) (s : Stmt) :
    (s.lines true depth).map Line.extent = (s.lines false depth).map Line.extent := by
  rw [lines, lines, map_extent_rowLines, map_extent_rowLines, s.length_rows_toSource]

theorem map_extent_bodyLines (depth : Nat) (body : List Stmt) :
    (bodyLines true depth body).map Line.extent = (bodyLines false depth body).map Line.extent := by
  simp only [bodyLines, List.map_append, List.map_cons, List.map_flatMap, Stmt.map_extent_lines]

theorem Property.map_extent_accessorLines (keyword : String) (body : List Stmt) :
    (accessorLines true keyword body).map Line.extent =
      (accessorLines false keyword body).map Line.extent := by
  simp only [accessorLines, List.map_cons, map_extent_bodyLines]

theorem Property.map_extent_lines (p : Property) :
    (p.lines true).map Line.extent = (p.lines false).map Line.extent := by
  unfold lines
  split <;> simp only [List.map_append, List.map_cons, map_extent_accessorLines]

theorem Field.map_extent_lines (f : Field) :
    (f.lines true).map Line.extent = (f.lines false).map Line.extent := by
  unfold lines
  cases f.initializer with
  | none => rfl
  | some value =>
      simp only [List.map_cons, Line.extent, Text.lineFeeds_append,
        value.qualifiesReferences.lineFeeds_eq]

theorem Member.map_extent_lines (m : Member) (owner : TypeName) (kind : TypeKind) :
    (m.lines true owner kind).map Line.extent = (m.lines false owner kind).map Line.extent := by
  cases m with
  | field f => exact f.map_extent_lines
  | property p =>
      rw [lines, lines]
      split
      · rfl
      · exact p.map_extent_lines
  | constructor c => simp only [lines, Constructor.lines, List.map_cons, map_extent_bodyLines]
  | method m =>
      rw [lines, lines]
      split
      · rfl
      · simp only [Method.lines, List.map_cons, map_extent_bodyLines]
  | verbatim text => rfl

theorem TypeDecl.map_extent_lines (d : TypeDecl) :
    (d.lines true).map Line.extent = (d.lines false).map Line.extent := by
  have blocks : d.members.map (fun m => (m.lines true d.name d.kind).map Line.extent) =
      d.members.map fun m => (m.lines false d.name d.kind).map Line.extent :=
    List.map_congr_left fun m _ => m.map_extent_lines d.name d.kind
  simp only [lines, memberLines, List.map_append, List.map_cons, map_intercalate, List.map_map,
    Function.comp_def, blocks]

/-- **The qualifier reaches exactly the references.** Expressions and statements are written with
and without qualification as the same pieces, where `this.` stands in front of each reference with
qualification, so the lengths differ by five for each reference. The text of a declaration has as
many line feeds with qualification as without. -/
theorem qualifier_reaches_references :
    (∀ e : Expr, QualifiesReferences e.references fun qualified => e.toSource qualified) ∧
    (∀ s : Stmt, QualifiesReferences s.references fun qualified => s.toSource qualified) ∧
    ∀ (d : TypeDecl) (s : Settings),
      Text.lineFeeds (d.toSource { s with thisQualifier := true }) =
        Text.lineFeeds (d.toSource { s with thisQualifier := false }) := by
  refine ⟨Expr.qualifiesReferences, Stmt.qualifiesReferences, fun d s => ?_⟩
  rw [TypeDecl.toSource_eq_textOf, TypeDecl.toSource_eq_textOf, lineFeeds_textOf, lineFeeds_textOf,
    d.map_extent_lines]

end Prologue
