import Mathlib.Data.Finset.Dedup
import Mathlib.Logic.Relation
import Prologue.Plan

/-!
# What planning reads

Planning reads only an outline of a declaration: its name and kind, of each field the name, the type
and whether it has an initializer, of each property the name and the field that its getter starts by
returning, and which fields each constructor assigns.

* `TypeDecl.SameOutline d e` says that two declarations agree on this, where the constructors may
  stand in different orders. `TypeDecl.SameOutline.plan_eq` says that then planning goes the same
  way for both, with the same plan or failure and the same events.
* `Unread ms ns` lists changes of the members that keep the outline: in methods, verbatim members,
  accessors, parameters, values and the order of things.
* `TypeDecl.plan_reads_outline` puts the two together.
-/

namespace Prologue

/-! ## Outlines -/

/-- The fields that statements of the body assign. -/
def Constructor.assignedFields (c : Constructor) : Finset String :=
  (c.body.filterMap Stmt.assignedField?).toFinset

/-- What planning reads of a field. -/
def Field.outline (f : Field) : String × TypeName × Bool :=
  (f.name, f.typeName, f.initializer.isSome)

/-- What planning reads of a property. -/
def Property.outline (p : Property) : String × Option String := (p.name, p.backingFieldName?)

/-- The declarations agree on what planning reads. -/
structure TypeDecl.SameOutline (d e : TypeDecl) : Prop where
  name : e.name = d.name
  kind : e.kind = d.kind
  fields : e.fields.map (·.outline) = d.fields.map (·.outline)
  properties : e.properties.map (·.outline) = d.properties.map (·.outline)
  constructors :
    (e.constructors.map (·.assignedFields)).Perm (d.constructors.map (·.assignedFields))

theorem Constructor.assigns_eq (c : Constructor) (field : String) :
    c.assigns field = decide (field ∈ c.assignedFields) := by
  rw [Bool.eq_iff_iff, decide_eq_true_iff, assignedFields, List.mem_toFinset, List.mem_filterMap]
  simp [assigns]

namespace TypeDecl

variable {s : Settings} {d e : TypeDecl}

theorem map_outline_getField? (d : TypeDecl) (field : String) :
    (d.getField? field).map (·.outline) = (d.fields.map (·.outline)).find? (·.1 == field) := by
  rw [List.find?_map]
  rfl

theorem constructorsAssign_eq (d : TypeDecl) (field : String) :
    d.constructorsAssign field =
      (!(d.constructors.map (·.assignedFields)).isEmpty &&
        (d.constructors.map (·.assignedFields)).all fun assigned => decide (field ∈ assigned)) := by
  rw [constructorsAssign, List.isEmpty_map, List.all_map]
  congr 2
  exact funext fun c => c.assigns_eq field

namespace SameOutline

theorem refl (d : TypeDecl) : d.SameOutline d := ⟨rfl, rfl, rfl, rfl, .refl _⟩

theorem symm (same : d.SameOutline e) : e.SameOutline d :=
  ⟨same.name.symm, same.kind.symm, same.fields.symm, same.properties.symm, same.constructors.symm⟩

theorem trans {f : TypeDecl} (first : d.SameOutline e) (second : e.SameOutline f) :
    d.SameOutline f :=
  ⟨second.name.trans first.name, second.kind.trans first.kind, second.fields.trans first.fields,
    second.properties.trans first.properties, second.constructors.trans first.constructors⟩

/-! ## Questions about a declaration -/

theorem getField? (same : d.SameOutline e) (field : String) :
    (e.getField? field).map (·.outline) = (d.getField? field).map (·.outline) := by
  rw [map_outline_getField?, same.fields, map_outline_getField?]

theorem hasInitializer (same : d.SameOutline e) (field : String) :
    e.hasInitializer field = d.hasInitializer field := by
  have read (f : TypeDecl) : f.hasInitializer field =
      ((f.getField? field).map (·.outline)).any (·.2.2) := by
    rw [Option.any_map]
    rfl
  rw [read, same.getField?, read]

theorem isEmpty_constructors (same : d.SameOutline e) :
    e.constructors.isEmpty = d.constructors.isEmpty := by
  simpa using same.constructors.isEmpty_eq

theorem constructorsAssign (same : d.SameOutline e) (field : String) :
    e.constructorsAssign field = d.constructorsAssign field := by
  rw [constructorsAssign_eq, same.constructors.isEmpty_eq, same.constructors.all_eq,
    constructorsAssign_eq]

theorem isFieldInitialized (same : d.SameOutline e) (field : String) :
    e.isFieldInitialized field = d.isFieldInitialized field :=
  isFieldInitialized_congr (same.hasInitializer field) (same.constructorsAssign field)

theorem takesInitializers (same : d.SameOutline e) :
    e.takesInitializers = d.takesInitializers := by
  rw [TypeDecl.takesInitializers, same.kind, same.isEmpty_constructors,
    TypeDecl.takesInitializers]

/-! ## Planning -/

theorem planField_eq (same : d.SameOutline e) {f g : Field} (outline : g.outline = f.outline)
    (plan : Plan) : e.planField s g plan = d.planField s f plan := by
  obtain ⟨name, typeName, -⟩ : g.name = f.name ∧ g.typeName = f.typeName ∧ _ := by
    simpa [Field.outline] using outline
  have asked : plan.addInit g = plan.addInit f := by
    rw [Plan.addInit, name, typeName, Plan.addInit]
  rw [planField, same.takesInitializers, same.isFieldInitialized, same.name, name, typeName, asked,
    planField]

/-- **One step.** Properties with the same outline lead from one plan to the same plan. -/
theorem planProperty_eq (same : d.SameOutline e) {p q : Property} (outline : q.outline = p.outline)
    (plan : Plan) : e.planProperty s plan q = d.planProperty s plan p := by
  obtain ⟨name, backing⟩ : q.name = p.name ∧ q.backingFieldName? = p.backingFieldName? := by
    simpa [Property.outline] using outline
  rw [planProperty, planProperty, backing, name, same.name]
  cases p.backingFieldName? with
  | none => rfl
  | some field =>
      have found := same.getField? field
      cases declared : d.getField? field with
      | none =>
          rw [declared, Option.map_none, Option.map_eq_none_iff] at found
          simp only [found, declared]
      | some f =>
          rw [declared, Option.map_some, Option.map_eq_some_iff] at found
          obtain ⟨g, found, outline⟩ := found
          have named : g.name = f.name := congrArg Prod.fst outline
          simp only [found, declared, named, same.planField_eq outline]

/-- **The whole walk.** -/
theorem foldlM_planProperty_eq (same : d.SameOutline e) {ps qs : List Property}
    (outline : qs.map (·.outline) = ps.map (·.outline)) (plan : Plan) :
    qs.foldlM (e.planProperty s) plan = ps.foldlM (d.planProperty s) plan := by
  induction ps generalizing qs plan with
  | nil =>
      rw [List.map_nil, List.map_eq_nil_iff] at outline
      rw [outline]
      rfl
  | cons p ps ih =>
      rw [List.map_cons, List.map_eq_cons_iff] at outline
      obtain ⟨q, qs, rfl, first, others⟩ := outline
      rw [List.foldlM_cons, List.foldlM_cons, same.planProperty_eq first]
      -- Both walks go on from the same plan, if there is one, and with the same events behind them.
      exact congrArg _ (funext fun plan => ih others plan)

theorem plan_eq (same : d.SameOutline e) (s : Settings) : e.plan s = d.plan s := by
  simp only [plan, same.takesInitializers, same.name, same.kind,
    same.foldlM_planProperty_eq same.properties]

end SameOutline

end TypeDecl

/-! ## Changes that are not read -/

/-- The second list is the first one with one change that the outline does not show. -/
inductive Unread : List Member → List Member → Prop
  | within {ms ns : List Member} (before after : List Member) :
    Unread ms ns → Unread (before ++ ms ++ after) (before ++ ns ++ after)
  | method (m : Method) : Unread [] [.method m]
  | verbatim (text : String) : Unread [] [.verbatim text]
  /-- Members of different kinds change places, and so do constructors. -/
  | swap (m n : Member) : (m.label = n.label → m.isConstructor = true) → Unread [m, n] [n, m]
  | initializer (f : Field) (v w : Expr) :
    Unread [.field { f with initializer := some v }] [.field { f with initializer := some w }]
  | propertyType (p : Property) (typeName : TypeName) :
    Unread [.property p] [.property { p with typeName }]
  | setter (p : Property) (setter : List Stmt) : Unread [.property p] [.property { p with setter }]
  /-- The first statement of the getter stays. -/
  | getter (p : Property) (first : Stmt) (rest rest' : List Stmt) :
    Unread [.property { p with getter := first :: rest }]
      [.property { p with getter := first :: rest' }]
  | parameters (c : Constructor) (parameters : List Parameter) :
    Unread [.constructor c] [.constructor { c with parameters }]
  | value (c : Constructor) (before after : List Stmt) (target v w : Expr) :
    Unread [.constructor { c with body := before ++ .assign target v :: after }]
      [.constructor { c with body := before ++ .assign target w :: after }]
  | order (c : Constructor) (body : List Stmt) : c.body.Perm body →
    Unread [.constructor c] [.constructor { c with body }]

namespace TypeDecl

variable {d : TypeDecl}

/-- What stands around the members adds the same to both outlines. -/
theorem SameOutline.within {ms ns : List Member}
    (same : SameOutline { d with members := ms } { d with members := ns })
    (before after : List Member) :
    SameOutline { d with members := before ++ ms ++ after }
      { d with members := before ++ ns ++ after } := by
  refine ⟨rfl, rfl, ?_, ?_, ?_⟩
  · have inner := same.fields
    simp only [TypeDecl.fields, membersOf, List.filterMap_append, List.map_append] at inner ⊢
    rw [inner]
  · have inner := same.properties
    simp only [TypeDecl.properties, membersOf, List.filterMap_append, List.map_append] at inner ⊢
    rw [inner]
  · have inner := same.constructors
    simp only [TypeDecl.constructors, membersOf, List.filterMap_append, List.map_append] at inner ⊢
    exact (inner.append_left _).append_right _

/-- Constructors that assign the same fields are not told apart. -/
theorem sameOutline_constructor {b c : Constructor} (same : c.assignedFields = b.assignedFields) :
    SameOutline { d with members := [.constructor b] } { d with members := [.constructor c] } :=
  ⟨rfl, rfl, rfl, rfl, .of_eq (congrArg ([·]) same)⟩

theorem sameOutline_of_unread {ms ns : List Member} (change : Unread ms ns) :
    SameOutline { d with members := ms } { d with members := ns } := by
  induction change with
  | within before after _ ih => exact ih.within before after
  | swap m n apart =>
      -- Fields keep their order among themselves, and properties do.
      cases m <;> cases n
      case field.field => cases apart rfl
      case property.property => cases apart rfl
      case constructor.constructor b c => exact ⟨rfl, rfl, rfl, rfl, .swap _ _ _⟩
      all_goals exact ⟨rfl, rfl, rfl, rfl, .refl _⟩
  | value c before after target v w =>
      refine sameOutline_constructor ?_
      simp only [Constructor.assignedFields, List.filterMap_append, List.filterMap_cons,
        Stmt.assignedField?]
  | order c body order =>
      exact sameOutline_constructor (List.toFinset_eq_of_perm _ _ (order.symm.filterMap _))
  | method _ | verbatim _ | initializer _ _ _ | propertyType _ _ | setter _ _ | getter _ _ _ _
  | parameters _ _ => exact ⟨rfl, rfl, rfl, rfl, .refl _⟩

theorem sameOutline_of_changes {ms ns : List Member} (changes : Relation.EqvGen Unread ms ns) :
    SameOutline { d with members := ms } { d with members := ns } := by
  induction changes with
  | rel ms ns change => exact sameOutline_of_unread change
  | refl ms => exact .refl _
  | symm ms ns _ ih => exact ih.symm
  | trans ms ns os _ _ first second => exact first.trans second

/-- **What planning reads.** Planning goes the same way for declarations with the same outline, with
the same plan or the same failure and the same events. So it goes the same way after any changes, to
and fro, that are not read. -/
theorem plan_reads_outline (s : Settings) (d : TypeDecl) :
    (∀ e, d.SameOutline e → e.plan s = d.plan s) ∧
      ∀ members, Relation.EqvGen Unread d.members members →
        plan s { d with members } = d.plan s :=
  ⟨fun _ same => same.plan_eq s, fun _ changes => (sameOutline_of_changes changes).plan_eq s⟩

/-- A class whose constructors assign different fields. -/
def account : TypeDecl where
  name := "Account"
  members :=
    [.field ⟨"_entries", "List<Entry>", none⟩, .field ⟨"_limit", "int", some (.literal (.int 5))⟩,
     .property (.auto "Entries" "List<Entry>" "_entries"), .method { name := "Close" },
     .constructor
       { body := [.assignField "_limit" (.argument "limit"), .assignField "_owner" .this] },
     .constructor
       { parameters := [⟨"entries", "List<Entry>"⟩]
         body := [.assignField "_entries" (.argument "entries")] }]

/-- Another class with the outline of `account`. -/
def accountAgain : TypeDecl where
  name := "Account"
  members :=
    [.verbatim "#region Account",
     .constructor { body := [.verbatim "Check();", .assignField "_entries" (.literal .null)] },
     .property ⟨"Entries", "IEnumerable<Entry>", [.retField "_entries", .ret none], []⟩,
     .field ⟨"_entries", "List<Entry>", none⟩,
     .constructor
       { parameters := [⟨"owner", "Owner"⟩]
         body := [.assignField "_owner" (.argument "owner"), .assignField "_limit" .this,
           .assignField "_owner" .this] },
     .field ⟨"_limit", "int", some (.argument "standard")⟩]

theorem account_plan_reads_outline :
    account.SameOutline accountAgain ∧ accountAgain.plan {} = account.plan {} ∧
      account.plan {} =
        ⟨.ok
          { typeName := "Account"
            bindings := [⟨"Entries", "_entries"⟩]
            inits := [⟨"_entries", "List<Entry>"⟩] },
          [.needsInitializer "Account" "_entries" "List<Entry>"]⟩ ∧
      Relation.EqvGen Unread account.members (account.members.eraseIdx 3) ∧
      plan {} { account with members := account.members.eraseIdx 3 } = account.plan {} := by
  have same : account.SameOutline accountAgain := ⟨rfl, rfl, rfl, rfl, by decide⟩
  have closed : Relation.EqvGen Unread account.members (account.members.eraseIdx 3) :=
    .symm _ _ (.rel _ _ (.within (account.members.take 3) (account.members.drop 4)
      (.method { name := "Close" })))
  obtain ⟨alike, changed⟩ := plan_reads_outline {} account
  exact ⟨same, alike _ same, rfl, closed, changed _ closed⟩

end TypeDecl

end Prologue
