import Mathlib.Data.List.Forall2
import Prologue.Proofs.ExactPlan
import Prologue.Proofs.SmallerPlans

/-!
# Values on every construction path

An object is constructed by one of the constructors of its type, after the initializers of its
fields. `TypeDecl.SetOnEveryPath` says that a field has a value on each of these ways, and
`TypeDecl.isFieldInitialized` asks just this.

* `TypeDecl.isFieldInitialized_eq_ok_true_iff` is this agreement. The question has an answer for
  every field with a name.
* `Rearranged` and `Member.Rebodied` relate lists of members that differ in their order or in the
  bodies of constructors.
* `TypeDecl.isFieldInitialized_decides` adds what such differences do to the answer.
-/

namespace Prologue

namespace TypeDecl

variable {d : TypeDecl} {field : String}

/-- Every construction path gives the field a value. The first field of the name has an inline
initializer, or there is a constructor and every constructor assigns the field with a statement of
its body. -/
def SetOnEveryPath (d : TypeDecl) (field : String) : Prop :=
  (∃ f, d.FirstField field f ∧ ∃ value, f.initializer = some value) ∨
    d.constructors ≠ [] ∧ ∀ c ∈ d.constructors, ∃ value, Stmt.assign (.field field) value ∈ c.body

theorem hasInitializer_iff :
    d.hasInitializer field = true ↔
      ∃ f, d.FirstField field f ∧ ∃ value, f.initializer = some value := by
  simp only [hasInitializer, Option.any_eq_true, firstField_iff, Option.isSome_iff_exists]

theorem constructorsAssign_iff :
    d.constructorsAssign field = true ↔
      d.constructors ≠ [] ∧ ∀ c ∈ d.constructors, c.assigns field = true := by
  simp [constructorsAssign]

theorem isFieldInitialized_eq_ok_true_iff (named : field ≠ "") :
    d.isFieldInitialized field = .ok true ↔ d.SetOnEveryPath field := by
  rw [isFieldInitialized_of_ne named, Except.ok.injEq, Bool.or_eq_true, hasInitializer_iff,
    constructorsAssign_iff]
  simp only [Constructor.assigns_iff]
  rfl

theorem isFieldInitialized_eq_error_iff {e : LookupError} :
    d.isFieldInitialized field = .error e ↔ field = "" ∧ e = .emptyFieldName := by
  by_cases unnamed : field = ""
  · simp [unnamed]
  · simp [isFieldInitialized_of_ne unnamed, unnamed]

/-- A field stays with a value on every path if both ways of giving it one are kept. -/
theorem isFieldInitialized_mono {e : TypeDecl}
    (inline : d.hasInitializer field = true → e.hasInitializer field = true)
    (assigned : d.constructorsAssign field = true → e.constructorsAssign field = true)
    (set : d.isFieldInitialized field = .ok true) : e.isFieldInitialized field = .ok true := by
  have named : field ≠ "" := by
    rintro rfl
    cases set
  rw [isFieldInitialized_of_ne named, Except.ok.injEq, Bool.or_eq_true] at set ⊢
  exact set.imp inline assigned

end TypeDecl

/-! ## Members in other orders and with other bodies -/

/-- An optional value is related to itself if every value is. -/
theorem rel_self {α : Type} {R : α → α → Prop} (refl : ∀ a, R a a) (o : Option α) :
    Option.Rel R o o := by
  cases o with
  | none => exact .none
  | some a => exact .some (refl a)

/-- The second member is the first one, or both are constructors that differ in their bodies only,
which are related. -/
inductive Member.Rebodied (related : List Stmt → List Stmt → Prop) : Member → Member → Prop
  | same (m : Member) : Rebodied related m m
  | constructor (c : Constructor) (body : List Stmt) : related c.body body →
    Rebodied related (.constructor c) (.constructor { c with body })

/-- The second list has the members of the first one in some order, and the statements of each
constructor in some order. -/
def Rearranged (ms ns : List Member) : Prop :=
  ∃ os, ms.Perm os ∧ List.Forall₂ (Member.Rebodied List.Perm) os ns

namespace Constructor

variable {b c : Constructor} {field : String}

theorem assigns_of_perm (order : b.body.Perm c.body) : c.assigns field = b.assigns field :=
  order.symm.any_eq

theorem assigns_of_sublist (more : b.body.Sublist c.body) (assigned : b.assigns field = true) :
    c.assigns field = true := by
  obtain ⟨value, listed⟩ := assigns_iff.1 assigned
  exact assigns_iff.2 ⟨value, more.subset listed⟩

end Constructor

namespace TypeDecl

variable {d : TypeDecl} {members : List Member} {field : String}

section Rebodied

variable {related : List Stmt → List Stmt → Prop}
  (rebodied : List.Forall₂ (Member.Rebodied related) d.members members)

include rebodied

theorem fields_rebodied : fields { d with members } = d.fields := by
  have alike : List.Forall₂ (· = ·) d.fields (fields { d with members }) := by
    refine List.rel_filterMap ?_ rebodied
    intro m n same
    cases same with
    | same m => exact rel_self (fun _ => rfl) _
    | constructor c body _ => exact .none
  exact (List.forall₂_eq_eq_eq ▸ alike).symm

theorem constructors_rebodied (refl : ∀ body, related body body) :
    List.Forall₂ (fun b c : Constructor => related b.body c.body) d.constructors
      (constructors { d with members }) := by
  refine List.rel_filterMap ?_ rebodied
  intro m n same
  cases same with
  | same m => exact rel_self (fun c => refl c.body) _
  | constructor c body kept => exact .some kept

end Rebodied

/-! ### Other orders -/

/-- Where no two fields have one name, the name decides the field. -/
theorem getField?_eq_some_iff_of_nodup (distinct : (d.fields.map (·.name)).Nodup) {f : Field} :
    d.getField? field = some f ↔ f ∈ d.fields ∧ f.name = field := by
  refine ⟨fun found => ⟨mem_fields_of_getField? found, name_of_getField? found⟩, ?_⟩
  rintro ⟨declared, rfl⟩
  exact getField?_of_nodup distinct declared

theorem getField?_perm (distinct : (d.fields.map (·.name)).Nodup)
    (order : d.members.Perm members) :
    getField? { d with members } field = d.getField? field := by
  have fields : d.fields.Perm (fields { d with members }) := order.filterMap _
  have distinct' := (fields.map (·.name)).nodup_iff.1 distinct
  refine Option.ext fun f => ?_
  rw [getField?_eq_some_iff_of_nodup distinct', getField?_eq_some_iff_of_nodup distinct,
    fields.mem_iff]

theorem constructorsAssign_perm (order : d.members.Perm members) :
    constructorsAssign { d with members } field = d.constructorsAssign field := by
  have constructors : d.constructors.Perm (constructors { d with members }) := order.filterMap _
  rw [constructorsAssign, ← constructors.isEmpty_eq, ← constructors.all_eq, constructorsAssign]

theorem constructorsAssign_of_perm_bodies
    (bodies : List.Forall₂ (Member.Rebodied List.Perm) d.members members) (field : String) :
    constructorsAssign { d with members } field = d.constructorsAssign field := by
  have answers : (constructors { d with members }).map (·.assigns field) =
      d.constructors.map (·.assigns field) := by
    refine (List.forall₂_eq_eq_eq ▸ List.rel_map ?_ (constructors_rebodied bodies .refl)).symm
    exact fun b c order => (Constructor.assigns_of_perm order).symm
  have read (e : TypeDecl) : e.constructorsAssign field =
      (!(e.constructors.map (·.assigns field)).isEmpty &&
        (e.constructors.map (·.assigns field)).all id) := by
    rw [constructorsAssign, List.isEmpty_map, List.all_map]
    rfl
  rw [read, answers, read]

theorem isFieldInitialized_rearranged (distinct : (d.fields.map (·.name)).Nodup)
    (rearranged : Rearranged d.members members) :
    isFieldInitialized { d with members } field = d.isFieldInitialized field := by
  obtain ⟨ms, order, bodies⟩ := rearranged
  refine isFieldInitialized_congr ?_ ?_
  · have moved := hasInitializer_congr
      (fields_rebodied (d := { d with members := ms }) bodies) field
    refine moved.trans ?_
    rw [hasInitializer, getField?_perm distinct order, hasInitializer]
  · have moved := constructorsAssign_of_perm_bodies (d := { d with members := ms }) bodies field
    exact moved.trans (constructorsAssign_perm order)

/-! ### More statements, and one constructor more -/

theorem all_assigns_of_sublist {bs cs : List Constructor}
    (more : List.Forall₂ (fun b c : Constructor => b.body.Sublist c.body) bs cs)
    (all : ∀ b ∈ bs, b.assigns field = true) : ∀ c ∈ cs, c.assigns field = true := by
  induction more with
  | nil => exact fun _ listed => nomatch listed
  | cons first _ ih =>
      rw [List.forall_mem_cons] at all ⊢
      exact ⟨Constructor.assigns_of_sublist first all.1, ih all.2⟩

theorem isFieldInitialized_of_more_statements
    (more : List.Forall₂ (Member.Rebodied List.Sublist) d.members members)
    (set : d.isFieldInitialized field = .ok true) :
    isFieldInitialized { d with members } field = .ok true := by
  have constructors := constructors_rebodied more .refl
  refine isFieldInitialized_mono ?_ ?_ set
  · rw [hasInitializer_congr (fields_rebodied more)]
    exact id
  · rw [constructorsAssign_iff, constructorsAssign_iff]
    rintro ⟨some, all⟩
    refine ⟨?_, all_assigns_of_sublist constructors all⟩
    intro none
    rw [none, List.forall₂_nil_right_iff] at constructors
    exact some constructors

/-- A constructor more is a path more, so no field gets a value on every path by it. -/
theorem isFieldInitialized_of_further_constructor {before after : List Member} (c : Constructor)
    (whole : d.members = before ++ after) (has : d.constructors ≠ [])
    (unset : d.isFieldInitialized field = .ok false) :
    isFieldInitialized { d with members := before ++ .constructor c :: after } field =
      .ok false := by
  obtain ⟨other, declared⟩ := List.exists_mem_of_ne_nil _ has
  have left : .constructor other ∈ before ++ after := whole ▸ mem_membersOf.1 declared
  have more := InitializesMore.of_deletion (d := d) c left
  have named : field ≠ "" := by
    rintro rfl
    cases unset
  rw [← whole] at more
  rw [isFieldInitialized_of_ne named, Except.ok.injEq, ← Bool.not_eq_true, Bool.or_eq_true,
    not_or] at unset ⊢
  exact ⟨fun inline => unset.1 (more.inline field inline),
    fun assigned => unset.2 (more.assigned field assigned)⟩

/-- **Values on every construction path.** The question whether a field has a value on every
construction path has an answer for every name but the empty one, and it is answered by what it
means. Where no two fields have one name, the order of the members and of the statements in the
constructors does not matter. Statements that are put into constructors never take a value away, and
a further constructor, wherever it is put, never adds a value if there was a constructor before. -/
theorem isFieldInitialized_decides (d : TypeDecl) (field : String) :
    (field ≠ "" → (d.isFieldInitialized field = .ok true ↔ d.SetOnEveryPath field)) ∧
    (∀ e, d.isFieldInitialized field = .error e ↔ field = "" ∧ e = .emptyFieldName) ∧
    ((d.fields.map (·.name)).Nodup → ∀ members, Rearranged d.members members →
      isFieldInitialized { d with members } field = d.isFieldInitialized field) ∧
    (∀ members, List.Forall₂ (Member.Rebodied List.Sublist) d.members members →
      d.isFieldInitialized field = .ok true →
        isFieldInitialized { d with members } field = .ok true) ∧
    ∀ before after c, d.members = before ++ after → d.constructors ≠ [] →
      d.isFieldInitialized field = .ok false →
        isFieldInitialized { d with members := before ++ .constructor c :: after } field =
          .ok false :=
  ⟨isFieldInitialized_eq_ok_true_iff, fun _ => isFieldInitialized_eq_error_iff,
    fun distinct _ rearranged => isFieldInitialized_rearranged distinct rearranged,
    fun _ more set => isFieldInitialized_of_more_statements more set,
    fun _ _ c whole has unset => isFieldInitialized_of_further_constructor c whole has unset⟩

/-- The constructor that fills a workbench with saws that are given to it. -/
def fillWorkbench : Constructor where
  parameters := [⟨"saws", "List<Saw>"⟩]
  body := [.verbatim "Check();", .assignField "_saws" (.argument "saws")]

/-- The constructor that makes a workbench with a vise. -/
def equipWorkbench : Constructor where
  parameters := [⟨"vise", "Vise"⟩]
  body := [.assignField "_saws" (.createEmpty "List<Saw>"), .assignField "_vise" (.argument "vise")]

/-- A class whose two constructors assign the saws. One of them assigns the vise as well, which has
an initializer, and neither assigns the owner. -/
def workbench : TypeDecl where
  name := "Workbench"
  members :=
    [.field ⟨"_saws", "List<Saw>", none⟩, .field ⟨"_vise", "Vise", some (.createEmpty "Vise")⟩,
     .field ⟨"_owner", "string", none⟩, .constructor fillWorkbench, .constructor equipWorkbench]

/-- The members of `workbench` in another order, with the statements of both constructors turned
round. -/
def turnedWorkbench : List Member :=
  [.constructor { equipWorkbench with body := equipWorkbench.body.reverse },
   .field ⟨"_owner", "string", none⟩, .field ⟨"_vise", "Vise", some (.createEmpty "Vise")⟩,
   .constructor { fillWorkbench with body := fillWorkbench.body.reverse },
   .field ⟨"_saws", "List<Saw>", none⟩]

/-- The members of `workbench` with two statements more in one constructor. -/
def busyWorkbench : List Member :=
  [.field ⟨"_saws", "List<Saw>", none⟩, .field ⟨"_vise", "Vise", some (.createEmpty "Vise")⟩,
   .field ⟨"_owner", "string", none⟩,
   .constructor { fillWorkbench with
     body := .assignField "_saws" .this :: fillWorkbench.body ++ [.verbatim "Sort();"] },
   .constructor equipWorkbench]

theorem workbench_decides :
    workbench.isFieldInitialized "_saws" = .ok true ∧ workbench.SetOnEveryPath "_saws" ∧
      Rearranged workbench.members turnedWorkbench ∧
      isFieldInitialized { workbench with members := turnedWorkbench } "_saws" =
        workbench.isFieldInitialized "_saws" ∧
      List.Forall₂ (Member.Rebodied List.Sublist) workbench.members busyWorkbench ∧
      isFieldInitialized { workbench with members := busyWorkbench } "_saws" = .ok true ∧
      workbench.isFieldInitialized "_owner" = .ok false ∧
      isFieldInitialized { workbench with members := workbench.members ++ [.constructor {}] }
        "_owner" = .ok false := by
  have set : workbench.isFieldInitialized "_saws" = .ok true := by decide
  have unset : workbench.isFieldInitialized "_owner" = .ok false := by decide
  have turned : Rearranged workbench.members turnedWorkbench := by
    refine ⟨[.constructor equipWorkbench, .field ⟨"_owner", "string", none⟩,
      .field ⟨"_vise", "Vise", some (.createEmpty "Vise")⟩, .constructor fillWorkbench,
      .field ⟨"_saws", "List<Saw>", none⟩], by decide, ?_⟩
    exact .cons (.constructor _ _ (List.reverse_perm _).symm) <| .cons (.same _) <|
      .cons (.same _) <| .cons (.constructor _ _ (List.reverse_perm _).symm) <| .cons (.same _) .nil
  have busy : List.Forall₂ (Member.Rebodied List.Sublist) workbench.members busyWorkbench :=
    .cons (.same _) <| .cons (.same _) <| .cons (.same _) <|
      .cons (.constructor _ _ (by decide)) <| .cons (.same _) .nil
  obtain ⟨means, -, order, more, -⟩ := isFieldInitialized_decides workbench "_saws"
  obtain ⟨-, -, -, -, further⟩ := isFieldInitialized_decides workbench "_owner"
  exact ⟨set, (means (by decide)).1 set, turned, order (by decide) _ turned, busy, more _ busy set,
    unset, further workbench.members [] {} (by decide) (by decide) unset⟩

end TypeDecl

end Prologue
