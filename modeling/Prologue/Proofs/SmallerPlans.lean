import Mathlib.Logic.Relation
import Prologue.Proofs.Atomicity

/-!
# Smaller and larger plans

One plan lies within another if both are for the same type, bind and skip the same properties, and
the first asks for some of what the second asks for, in the same order. A plan asks for the first
occurrences of what is missing for the properties, and first occurrences pass through a filter. So
one plan lies within another as soon as what is missing for a property in one way of planning is
what is missing in the other way, filtered by a test of it alone: `TypeDecl.planFor_within`.

* `TypeDecl.plan_shrinks` says that a declaration that initializes more has a smaller plan.
  `InitializingEdit` lists the edits, and `TypeDecl.InitializesMore` is what planning sees of any
  number of them.
* `TypeDecl.plan_grows` says that more collection types make a larger plan. Here a field without a
  name would matter, so the declaration must have no defect.
-/

namespace Prologue

/-- The plans are for the same type and agree on the properties, and the first asks for some of what
the second asks for, in the same order. -/
structure Plan.Within (p q : Plan) : Prop where
  typeName : p.typeName = q.typeName
  bindings : p.bindings = q.bindings
  skipped : p.skipped = q.skipped
  inits : p.inits.Sublist q.inits

/-- Both answers are failures, and the same one, or the first plan lies within the second. -/
inductive AnswersWithin : Except Failure Plan → Except Failure Plan → Prop
  | failed (e : Failure) : AnswersWithin (.error e) (.error e)
  | planned {p q : Plan} : p.Within q → AnswersWithin (.ok p) (.ok q)

/-! ## First occurrences -/

/-- First occurrences pass through a filter. -/
theorem eraseDups_filter {α : Type} [DecidableEq α] (keep : α → Bool) (xs : List α) :
    (xs.filter keep).eraseDups = xs.eraseDups.filter keep := by
  induction xs using List.reverseRecOn with
  | nil => rfl
  | append_singleton xs x ih =>
      rw [List.filter_append, TypeDecl.eraseDups_concat]
      cases kept : keep x with
      | false =>
          rw [List.filter_singleton, kept, cond_false, List.append_nil, ih]
          split
          · rfl
          · simp [kept]
      | true =>
          rw [List.filter_singleton, kept, cond_true, TypeDecl.eraseDups_concat, ih]
          by_cases occurs : x ∈ xs
          · rw [if_pos occurs, if_pos (List.mem_filter.2 ⟨occurs, kept⟩)]
          · have fresh : x ∉ xs.filter keep := fun listed => occurs (List.mem_filter.1 listed).1
            rw [if_neg occurs, if_neg fresh]
            simp [kept]

/-- One of two tests of an item is the other one and a further test. -/
theorem ite_some_eq_filter {α : Type} {keep : α → Bool} {narrow wide : Bool} {a : α}
    (same : narrow = (wide && keep a)) :
    (if narrow then some a else none) = (if wide then some a else none).filter keep := by
  subst same
  cases wide with
  | false => rfl
  | true => rw [Bool.true_and, if_pos rfl, Option.filter_some]

namespace TypeDecl

variable {s t : Settings} {d e : TypeDecl}

/-- Where a test of what is missing decides what still is, the plan lies within the other one. -/
theorem planFor_within (keep : FieldInit → Bool) (name : e.name = d.name) {ps : List Property}
    (lacking : ∀ p ∈ ps, e.lacking? t p = (d.lacking? s p).filter keep) :
    (e.planFor t ps).Within (d.planFor s ps) := by
  have kept : (e.planFor t ps).inits = (d.planFor s ps).inits.filter keep := by
    rw [planFor, planFor, List.filterMap_congr lacking, ← List.filter_filterMap, eraseDups_filter]
  refine ⟨name, rfl, rfl, ?_⟩
  rw [kept]
  exact List.filter_sublist

/-- Ways of planning that object alike either fail alike, or one plan lies within the other. -/
theorem answersWithin (keep : FieldInit → Bool) (name : e.name = d.name)
    (properties : e.properties = d.properties)
    (objection : ∀ p ∈ d.properties, e.objection? t p = d.objection? s p)
    (lacking : ∀ p ∈ d.properties, e.lacking? t p = (d.lacking? s p).filter keep) :
    AnswersWithin (e.plan t).answer (d.plan s).answer := by
  have stopped : d.properties.findSome? (e.objection? t) =
      d.properties.findSome? (d.objection? s) := by
    rw [← List.head?_filterMap, ← List.head?_filterMap, List.filterMap_congr objection]
  rw [answer_plan, answer_plan, properties, stopped]
  cases d.properties.findSome? (d.objection? s) with
  | some failure => exact .failed failure
  | none => exact .planned (planFor_within keep name lacking)

end TypeDecl

/-! ## Edits that initialize more -/

/-- The second list is the first one with one edit that initializes more: a statement more anywhere
in the body of a constructor, an inline initializer of a field, or a constructor less where another
one is left. -/
inductive InitializingEdit : List Member → List Member → Prop
  | statement (before after : List Member) (c : Constructor) (front back : List Stmt)
    (statement : Stmt) :
    InitializingEdit (before ++ .constructor { c with body := front ++ back } :: after)
      (before ++ .constructor { c with body := front ++ statement :: back } :: after)
  | initializer (before after : List Member) (f : Field) (value : Expr) :
    InitializingEdit (before ++ .field f :: after)
      (before ++ .field { f with initializer := some value } :: after)
  | deletion (before after : List Member) (c other : Constructor) :
    .constructor other ∈ before ++ after →
    InitializingEdit (before ++ .constructor c :: after) (before ++ after)

/-- The name and the type of a field. -/
def Field.signature (f : Field) : String × TypeName := (f.name, f.typeName)

namespace TypeDecl

/-- What planning sees of the edits: the second declaration differs from the first one in fields
that have a value on every construction path of the second only. -/
structure InitializesMore (d e : TypeDecl) : Prop where
  name : e.name = d.name
  kind : e.kind = d.kind
  fields : e.fields.map (·.signature) = d.fields.map (·.signature)
  properties : e.properties = d.properties
  constructors : e.constructors.isEmpty = d.constructors.isEmpty
  inline : ∀ field, d.hasInitializer field = true → e.hasInitializer field = true
  assigned : ∀ field, d.constructorsAssign field = true → e.constructorsAssign field = true

variable {s t : Settings} {d e : TypeDecl}

namespace InitializesMore

theorem refl (d : TypeDecl) : d.InitializesMore d :=
  ⟨rfl, rfl, rfl, rfl, rfl, fun _ => id, fun _ => id⟩

theorem trans {f : TypeDecl} (first : d.InitializesMore e) (second : e.InitializesMore f) :
    d.InitializesMore f :=
  ⟨second.name.trans first.name, second.kind.trans first.kind, second.fields.trans first.fields,
    second.properties.trans first.properties, second.constructors.trans first.constructors,
    fun field inline => second.inline field (first.inline field inline),
    fun field assigned => second.assigned field (first.assigned field assigned)⟩

/-! ### Questions about the two declarations -/

theorem takesInitializers (more : d.InitializesMore e) :
    e.takesInitializers = d.takesInitializers := by
  rw [TypeDecl.takesInitializers, more.kind, more.constructors, TypeDecl.takesInitializers]

theorem getField? (more : d.InitializesMore e) (field : String) :
    (e.getField? field).map (·.signature) = (d.getField? field).map (·.signature) := by
  have found (d : TypeDecl) : (d.getField? field).map (·.signature) =
      (d.fields.map (·.signature)).find? (·.1 == field) := by
    rw [List.find?_map]
    rfl
  rw [found, more.fields, found]

/-- A field that the second declaration leaves without a value has none in the first. -/
theorem leavesUnset (more : d.InitializesMore e) {field : String}
    (unset : e.leavesUnset field = true) : d.leavesUnset field = true := by
  have named : field ≠ "" := by
    intro unnamed
    subst unnamed
    cases unset
  rw [leavesUnset_of_ne named, Bool.not_eq_true', Bool.or_eq_false_iff] at unset ⊢
  refine ⟨?_, ?_⟩
  · exact Bool.eq_false_iff.2 fun inline => Bool.eq_false_iff.1 unset.1 (more.inline field inline)
  · exact Bool.eq_false_iff.2 fun all => Bool.eq_false_iff.1 unset.2 (more.assigned field all)

theorem callsFor_eq (more : d.InitializesMore e) {f g : Field} (same : g.typeName = f.typeName) :
    e.callsFor s g = d.callsFor s f := by
  rw [callsFor, more.takesInitializers, same, callsFor]

/-- The fields of one name are declared in both declarations or in none, and with one type. -/
theorem declared (more : d.InitializesMore e) (field : String) :
    (e.getField? field = none ∧ d.getField? field = none) ∨
      ∃ f g, d.getField? field = some f ∧ e.getField? field = some g ∧ g.name = f.name ∧
        g.typeName = f.typeName := by
  have alike := more.getField? field
  cases first : d.getField? field with
  | none =>
      rw [first, Option.map_none, Option.map_eq_none_iff] at alike
      exact Or.inl ⟨alike, rfl⟩
  | some f =>
      rw [first, Option.map_some, Option.map_eq_some_iff] at alike
      obtain ⟨g, second, signature⟩ := alike
      obtain ⟨name, typeName⟩ := Prod.mk.inj signature
      exact Or.inr ⟨f, g, rfl, second, name, typeName⟩

/-! ### Planning -/

theorem objection?_eq (more : d.InitializesMore e) (p : Property) :
    e.objection? s p = d.objection? s p := by
  unfold objection?
  cases p.backingFieldName? with
  | none => rfl
  | some field =>
      rcases more.declared field with ⟨second, first⟩ | ⟨f, g, first, second, name, typeName⟩
      · simp only [first, second, more.name]
      · simp only [first, second, name, more.callsFor_eq typeName]

/-- What is still missing for a property was missing before. -/
theorem lacking?_eq (more : d.InitializesMore e) (p : Property) :
    e.lacking? s p = (d.lacking? s p).filter fun i => e.leavesUnset i.field := by
  unfold lacking? Property.backingField?
  cases p.backingFieldName? with
  | none => rfl
  | some field =>
      rcases more.declared field with ⟨second, first⟩ | ⟨f, g, first, second, name, typeName⟩
      · simp only [first, second, Option.bind_some, Option.bind_none, Option.filter_none]
      · simp only [first, second, Option.bind_some, name, typeName, more.callsFor_eq typeName]
        refine ite_some_eq_filter ?_
        cases unset : e.leavesUnset f.name with
        | false => rw [Bool.and_false, Bool.and_false]
        | true => rw [more.leavesUnset unset, Bool.and_true, Bool.and_true]

theorem answersWithin (more : d.InitializesMore e) (s : Settings) :
    AnswersWithin (e.plan s).answer (d.plan s).answer :=
  TypeDecl.answersWithin (fun i => e.leavesUnset i.field) more.name more.properties
    (fun p _ => more.objection?_eq p) fun p _ => more.lacking?_eq p

end InitializesMore

/-! ### One edit -/

theorem membersOf_append_cons (α : Type) [MemberKind α] (before after : List Member) (m : Member) :
    membersOf α { d with members := before ++ m :: after } =
      membersOf α { d with members := before } ++
        ((MemberKind.ofMember? m).toList ++ membersOf α { d with members := after }) := by
  cases h : MemberKind.ofMember? (α := α) m <;> simp [membersOf, h]

/-- Where a member takes the place of another one, the members of a third kind stay. -/
theorem membersOf_replaced (α : Type) [MemberKind α] {before after : List Member} {m n : Member}
    (same : MemberKind.ofMember? (α := α) n = MemberKind.ofMember? m) :
    membersOf α { d with members := before ++ n :: after } =
      membersOf α { d with members := before ++ m :: after } := by
  rw [membersOf_append_cons, same, ← membersOf_append_cons]

theorem hasInitializer_congr {d e : TypeDecl} (fields : e.fields = d.fields) (field : String) :
    e.hasInitializer field = d.hasInitializer field := by
  rw [hasInitializer, getField?, fields, ← getField?, ← hasInitializer]

theorem constructorsAssign_congr {d e : TypeDecl} (constructors : e.constructors = d.constructors)
    (field : String) : e.constructorsAssign field = d.constructorsAssign field := by
  rw [constructorsAssign, constructors, ← constructorsAssign]

namespace InitializesMore

variable {before after : List Member}

/-- A constructor that assigns more. -/
theorem of_assigns {b c : Constructor}
    (more : ∀ field, b.assigns field = true → c.assigns field = true) :
    InitializesMore { d with members := before ++ .constructor b :: after }
      { d with members := before ++ .constructor c :: after } := by
  have listed (c : Constructor) : TypeDecl.constructors
      { d with members := before ++ .constructor c :: after } =
        TypeDecl.constructors { d with members := before } ++
          c :: TypeDecl.constructors { d with members := after } :=
    membersOf_append_cons Constructor before after (.constructor c)
  have fields : TypeDecl.fields { d with members := before ++ .constructor c :: after } =
      TypeDecl.fields { d with members := before ++ .constructor b :: after } :=
    membersOf_replaced Field rfl
  have properties : TypeDecl.properties { d with members := before ++ .constructor c :: after } =
      TypeDecl.properties { d with members := before ++ .constructor b :: after } :=
    membersOf_replaced Property rfl
  refine ⟨rfl, rfl, ?_, properties, ?_, fun field => ?_, fun field => ?_⟩
  · rw [fields]
  · have some (c : Constructor) : (TypeDecl.constructors
        { d with members := before ++ .constructor c :: after }).isEmpty = false := by
      simp [listed]
    rw [some, some]
  · rw [hasInitializer_congr fields]
    exact id
  · simp only [constructorsAssign, listed, List.all_append, List.all_cons, Bool.and_eq_true]
    intro all
    obtain ⟨-, first, here, rest⟩ := all
    exact ⟨by simp, first, more field here, rest⟩

/-- A field with an inline initializer. -/
theorem of_initializer (f : Field) (value : Expr) :
    InitializesMore { d with members := before ++ .field f :: after }
      { d with members := before ++ .field { f with initializer := some value } :: after } := by
  have listed (f : Field) : TypeDecl.fields
      { d with members := before ++ .field f :: after } =
        TypeDecl.fields { d with members := before } ++
          f :: TypeDecl.fields { d with members := after } :=
    membersOf_append_cons Field before after (.field f)
  have constructors : TypeDecl.constructors
      { d with members := before ++ .field { f with initializer := some value } :: after } =
      TypeDecl.constructors { d with members := before ++ .field f :: after } :=
    membersOf_replaced Constructor rfl
  have properties : TypeDecl.properties
      { d with members := before ++ .field { f with initializer := some value } :: after } =
      TypeDecl.properties { d with members := before ++ .field f :: after } :=
    membersOf_replaced Property rfl
  refine ⟨rfl, rfl, ?_, properties, ?_, fun field => ?_, fun field => ?_⟩
  · rw [listed, listed, List.map_append, List.map_append]
    rfl
  · rw [constructors]
  · simp only [hasInitializer, TypeDecl.getField?, listed, List.find?_append, List.find?_cons]
    cases List.find? (·.name == field) (TypeDecl.fields { d with members := before }) with
    | some g => exact id
    | none => cases f.name == field <;> simp
  · rw [constructorsAssign_congr constructors]
    exact id

/-- A constructor less, with another one left. -/
theorem of_deletion (c : Constructor) {other : Constructor}
    (left : .constructor other ∈ before ++ after) :
    InitializesMore { d with members := before ++ .constructor c :: after }
      { d with members := before ++ after } := by
  have whole (α : Type) [MemberKind α] : membersOf α { d with members := before ++ after } =
      membersOf α { d with members := before } ++ membersOf α { d with members := after } :=
    List.filterMap_append
  have fields : TypeDecl.fields { d with members := before ++ after } =
      TypeDecl.fields { d with members := before ++ .constructor c :: after } :=
    (whole Field).trans (membersOf_append_cons Field before after (.constructor c)).symm
  have properties : TypeDecl.properties { d with members := before ++ after } =
      TypeDecl.properties { d with members := before ++ .constructor c :: after } :=
    (whole Property).trans (membersOf_append_cons Property before after (.constructor c)).symm
  have nonempty : TypeDecl.constructors { d with members := before ++ after } ≠ [] :=
    List.ne_nil_of_mem (mem_membersOf.2 left)
  have sublist : (TypeDecl.constructors { d with members := before ++ after }).Sublist
      (TypeDecl.constructors { d with members := before ++ .constructor c :: after }) :=
    List.Sublist.filterMap _ ((List.sublist_cons_self _ _).append_left before)
  refine ⟨rfl, rfl, ?_, properties, ?_, fun field => ?_, fun field => ?_⟩
  · rw [fields]
  · rw [List.isEmpty_eq_false_iff.2 nonempty, List.isEmpty_eq_false_iff.2]
    intro none
    exact nonempty (List.sublist_nil.1 (none ▸ sublist))
  · rw [hasInitializer_congr fields]
    exact id
  · simp only [constructorsAssign, Bool.and_eq_true, List.all_eq_true]
    intro all
    obtain ⟨-, all⟩ := all
    exact ⟨by simpa using nonempty, fun b listed => all b (sublist.subset listed)⟩

theorem of_edit {ms ns : List Member} (edit : InitializingEdit ms ns) :
    InitializesMore { d with members := ms } { d with members := ns } := by
  cases edit with
  | statement before after c front back statement =>
      refine of_assigns fun field assigned => ?_
      obtain ⟨value, listed⟩ := Constructor.assigns_iff.1 assigned
      refine Constructor.assigns_iff.2 ⟨value, ?_⟩
      exact ((List.sublist_cons_self statement back).append_left front).subset listed
  | initializer before after f value => exact of_initializer f value
  | deletion before after c other left => exact of_deletion c left

theorem of_edits {ms ns : List Member} (edits : Relation.ReflTransGen InitializingEdit ms ns) :
    InitializesMore { d with members := ms } { d with members := ns } := by
  induction edits with
  | refl => exact .refl _
  | tail _ edit ih => exact ih.trans (.of_edit edit)

end InitializesMore

/-- **More initialization, a smaller plan.** After any edits that initialize more, planning fails
exactly as it did before, or the plan lies within the plan that was made before. -/
theorem plan_shrinks {s : Settings} {d : TypeDecl} {members : List Member}
    (edits : Relation.ReflTransGen InitializingEdit d.members members) :
    AnswersWithin (plan s { d with members }).answer (d.plan s).answer :=
  (InitializesMore.of_edits edits).answersWithin s

/-- A class whose plan asks for three fields and skips a property. -/
def library : TypeDecl where
  name := "Library"
  members :=
    [.field ⟨"_books", "List<Book>", none⟩, .field ⟨"_loans", "List<Loan>", none⟩,
     .field ⟨"_shelves", "List<Shelf>", none⟩, .constructor {},
     .constructor { body := [.assignField "_books" (.argument "books")] },
     .property (.auto "Books" "List<Book>" "_books"),
     .property (.auto "Loans" "List<Loan>" "_loans"), .property ⟨"Count", "int", [], []⟩,
     .property (.auto "Shelves" "List<Shelf>" "_shelves")]

/-- `library` without its first constructor, and with an initializer and an assignment more. -/
def stockedLibrary : TypeDecl where
  name := "Library"
  members :=
    [.field ⟨"_books", "List<Book>", none⟩,
     .field ⟨"_loans", "List<Loan>", some (.createEmpty "List<Loan>")⟩,
     .field ⟨"_shelves", "List<Shelf>", none⟩,
     .constructor
       { body := [.assignField "_books" (.argument "books"), .assignField "_books" .this] },
     .property (.auto "Books" "List<Book>" "_books"),
     .property (.auto "Loans" "List<Loan>" "_loans"), .property ⟨"Count", "int", [], []⟩,
     .property (.auto "Shelves" "List<Shelf>" "_shelves")]

theorem stockedLibrary_plan_shrinks :
    Relation.ReflTransGen InitializingEdit library.members stockedLibrary.members ∧
      AnswersWithin (stockedLibrary.plan {}).answer (library.plan {}).answer ∧
      (∃ p, (library.plan {}).answer = .ok p ∧
        p.inits.map (·.field) = ["_books", "_loans", "_shelves"]) ∧
      ∃ p, (stockedLibrary.plan {}).answer = .ok p ∧ p.inits.map (·.field) = ["_shelves"] := by
  have deleted : InitializingEdit library.members (library.members.eraseIdx 3) :=
    .deletion (library.members.take 3) (library.members.drop 4) {}
      { body := [.assignField "_books" (.argument "books")] } (by decide)
  have given : InitializingEdit (library.members.eraseIdx 3)
      (stockedLibrary.members.set 3
        (.constructor { body := [.assignField "_books" (.argument "books")] })) :=
    .initializer (library.members.take 1) ((library.members.eraseIdx 3).drop 2)
      ⟨"_loans", "List<Loan>", none⟩ _
  have inserted : InitializingEdit (stockedLibrary.members.set 3
      (.constructor { body := [.assignField "_books" (.argument "books")] }))
      stockedLibrary.members :=
    .statement (stockedLibrary.members.take 3) (stockedLibrary.members.drop 4) {}
      [.assignField "_books" (.argument "books")] [] (.assignField "_books" .this)
  have edits : Relation.ReflTransGen InitializingEdit library.members stockedLibrary.members :=
    .tail (.tail (.tail .refl deleted) given) inserted
  exact ⟨edits, plan_shrinks edits, ⟨_, rfl, rfl⟩, ⟨_, rfl, rfl⟩⟩

/-! ## More collection types -/

/-- Planning asks the settings for nothing but the types that call for a created value. -/
theorem plan_congr_settings (same : ∀ name, t.needsInitialization name = s.needsInitialization name)
    (d : TypeDecl) : d.plan t = d.plan s := by
  have field : d.planField t = d.planField s := by
    funext f plan
    rw [planField, same, planField]
  have property : d.planProperty t = d.planProperty s := by
    funext plan p
    rw [planProperty, field, planProperty]
  rw [plan, property, plan]

theorem needsInitialization_mono (listedFirst : s.initializeAll = false)
    (listedSecond : t.initializeAll = false) (fewer : s.collectionTypes ⊆ t.collectionTypes)
    {name : TypeName} (needs : s.needsInitialization name = true) :
    t.needsInitialization name = true := by
  simp only [Settings.needsInitialization, listedFirst, listedSecond, Bool.false_eq_true, if_false,
    List.contains_iff_mem] at needs ⊢
  exact fewer needs

/-- What is missing under the first settings is what is missing under the second ones and of a type
that the first ones call for. -/
theorem lacking?_of_needs (wider : ∀ {name}, s.needsInitialization name = true →
      t.needsInitialization name = true) (p : Property) :
    d.lacking? s p = (d.lacking? t p).filter fun i => s.needsInitialization i.typeName := by
  unfold lacking? callsFor
  cases p.backingField? d with
  | none => rfl
  | some f =>
      refine ite_some_eq_filter ?_
      cases needs : s.needsInitialization f.typeName with
      | false => rw [Bool.and_false, Bool.false_and, Bool.and_false]
      | true => rw [wider needs, Bool.and_true, Bool.and_true]

/-- **More collection types, a larger plan.** For a declaration without defect planning fails alike
under both settings, or the plan under the first ones lies within the plan under the second ones.
Lists of the same names give the same plan, and the same events on the way. -/
theorem plan_grows {s t : Settings} {d : TypeDecl} (sound : d.defect? = none)
    (listedFirst : s.initializeAll = false) (listedSecond : t.initializeAll = false)
    (fewer : s.collectionTypes ⊆ t.collectionTypes) :
    AnswersWithin (d.plan s).answer (d.plan t).answer ∧
      (t.collectionTypes ⊆ s.collectionTypes → d.plan t = d.plan s) := by
  have fine := defect?_eq_none_iff.1 sound
  have wider {name : TypeName} (needs : s.needsInitialization name = true) :
      t.needsInitialization name = true :=
    needsInitialization_mono listedFirst listedSecond fewer needs
  refine ⟨?_, fun back => ?_⟩
  · refine answersWithin (fun i => s.needsInitialization i.typeName) rfl rfl ?_ ?_
    · intro p _
      refine Option.ext fun e => ?_
      rw [fine.objection?_eq_some_iff, fine.objection?_eq_some_iff]
    · exact fun p _ => lacking?_of_needs wider p
  · refine plan_congr_settings (fun name => ?_) d
    rw [Bool.eq_iff_iff]
    exact ⟨needsInitialization_mono listedSecond listedFirst back, wider⟩

/-- A class with fields of two collection types and one of no collection type. -/
def depot : TypeDecl where
  name := "Depot"
  members :=
    [.field ⟨"_crates", "List<Crate>", none⟩, .field ⟨"_parts", "Bag<Part>", none⟩,
     .field ⟨"_bays", "int[]", none⟩, .property (.auto "Crates" "List<Crate>" "_crates"),
     .property (.auto "Bays" "int[]" "_bays"), .property (.auto "Parts" "Bag<Part>" "_parts"),
     .property ⟨"Size", "int", [], []⟩]

/-- The settings of a project with two collection types of its own. -/
def twoCollections : Settings where
  collectionTypes := ["Bag", "List", "Bag"]
  indent := "\t"

theorem depot_plan_grows :
    AnswersWithin (depot.plan { collectionTypes := ["Bag"] }).answer
        (depot.plan twoCollections).answer ∧
      (∃ p, (depot.plan { collectionTypes := ["Bag"] }).answer = .ok p ∧
        p.inits.map (·.field) = ["_parts"]) ∧
      (∃ p, (depot.plan twoCollections).answer = .ok p ∧
        p.inits.map (·.field) = ["_crates", "_parts"]) ∧
      depot.plan { collectionTypes := ["List", "Bag"] } = depot.plan twoCollections := by
  have sound : depot.defect? = none := by decide
  obtain ⟨within, -⟩ :=
    plan_grows (s := { collectionTypes := ["Bag"] }) (t := twoCollections) sound rfl rfl (by decide)
  obtain ⟨-, same⟩ :=
    plan_grows (s := twoCollections) (t := { collectionTypes := ["List", "Bag"] }) sound rfl rfl
      (by decide)
  exact ⟨within, ⟨_, rfl, rfl⟩, ⟨_, rfl, rfl⟩, same (by decide)⟩

end TypeDecl

end Prologue
