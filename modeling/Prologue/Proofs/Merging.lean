import Mathlib.Data.List.TakeWhile
import Prologue.Merge

/-!
# What merging makes of a declaration

`Plan.mergeInto` goes through the members one by one and may fail at any of them. This module says
what it leaves behind without the passage.

* `Constructor.missing inits c` are the assignments that the constructor `c` lacks, and
  `Constructor.completed inits c` is the constructor with them in front of its body.
* `TypeDecl.mapConstructors f d` changes the constructors and no other member.
* `TypeDecl.merged inits d` is the declaration with every constructor completed, and
  `Plan.mergeInto_eq` says that a plan that can be carried out leaves exactly this behind.
* `Plan.mergeInto_cases` tells all ways that a merge can go, also those that fail.
* `TypeDecl.Receives` is the relation between two declarations that differ by statements put in
  front of constructor bodies.
-/

namespace Prologue

/-! ## One constructor -/

namespace Constructor

/-- The assignments of the list that the body lacks, in order. -/
def missing (inits : List FieldInit) (c : Constructor) : List FieldInit :=
  inits.filter fun i => !c.assigns i.field

/-- The constructor with the assignments that it lacks in front of its body. -/
def completed (inits : List FieldInit) (c : Constructor) : Constructor :=
  c.precededBy ((c.missing inits).map (·.toStmt))

variable {c : Constructor} {inits : List FieldInit}

theorem prologue_eq (named : ∀ i ∈ inits, i.field ≠ "") :
    c.prologue inits = .ok ((c.missing inits).map (·.toStmt)) := by
  induction inits with
  | nil => rfl
  | cons i inits ih =>
      have rest := ih fun j listed => named j (List.mem_cons_of_mem _ listed)
      have first : c.assignsField i.field = .ok (c.assigns i.field) :=
        if_neg (named i List.mem_cons_self)
      rw [prologue, first, rest]
      cases assigned : c.assigns i.field <;> simp [missing, assigned] <;> rfl

/-- A constructor asks about every field of the list, so one without a name is found wherever it
stands. -/
theorem prologue_eq_error (c : Constructor) (unnamed : ∃ i ∈ inits, i.field = "") :
    c.prologue inits = .error .emptyFieldName := by
  induction inits with
  | nil =>
      obtain ⟨i, listed, -⟩ := unnamed
      cases listed
  | cons i inits ih =>
      by_cases first : i.field = ""
      · rw [prologue, assignsField, if_pos first]
        rfl
      · have later : ∃ j ∈ inits, j.field = "" := by simpa [first] using unnamed
        rw [prologue, assignsField, if_neg first, ih later]
        rfl

theorem mem_missing {i : FieldInit} :
    i ∈ c.missing inits ↔ i ∈ inits ∧ c.assigns i.field = false := by
  simp [missing]

theorem assigns_precededBy (statements : List Stmt) (field : String) :
    (c.precededBy statements).assigns field =
      (statements.any (·.assignedField? == some field) || c.assigns field) :=
  List.any_append

/-- A completed constructor assigns what it has assigned before and every field of the list. -/
theorem assigns_completed (field : String) :
    (c.completed inits).assigns field = (c.assigns field || inits.any (·.field == field)) := by
  rw [completed, assigns_precededBy, List.any_map, missing, List.any_filter]
  cases assigned : c.assigns field with
  | true => rw [Bool.or_true, Bool.true_or]
  | false =>
      rw [Bool.or_false, Bool.false_or]
      congr 1
      funext i
      by_cases same : i.field = field
      · simp [same, assigned, FieldInit.toStmt]
      · simp [same, FieldInit.toStmt]

theorem missing_length_le (c : Constructor) (inits : List FieldInit) :
    (c.missing inits).length ≤ inits.length :=
  List.length_filter_le _ _

end Constructor

/-! ## All constructors of a declaration -/

/-- Changes a constructor and no other member. -/
def Member.mapConstructor (f : Constructor → Constructor) : Member → Member
  | constructor c => constructor (f c)
  | m => m

namespace TypeDecl

/-- Changes the constructors and no other member. -/
def mapConstructors (f : Constructor → Constructor) (d : TypeDecl) : TypeDecl :=
  { d with members := d.members.map (·.mapConstructor f) }

/-- The declaration with statements in front of the body of every constructor. -/
def prepend (prologue : Constructor → List Stmt) (d : TypeDecl) : TypeDecl :=
  d.mapConstructors fun c => c.precededBy (prologue c)

variable {d : TypeDecl} {f : Constructor → Constructor}

@[simp] theorem name_mapConstructors : (d.mapConstructors f).name = d.name := rfl

@[simp] theorem kind_mapConstructors : (d.mapConstructors f).kind = d.kind := rfl

@[simp] theorem constructors_mapConstructors :
    (d.mapConstructors f).constructors = d.constructors.map f := by
  simp only [constructors, membersOf, mapConstructors, List.filterMap_map, List.map_filterMap]
  congr 1
  funext m
  cases m <;> rfl

theorem membersOf_mapConstructors {α : Type} [MemberKind α]
    (other : ∀ c, MemberKind.ofMember? (α := α) (.constructor c) = none) :
    (d.mapConstructors f).membersOf α = d.membersOf α := by
  simp only [membersOf, mapConstructors, List.filterMap_map]
  congr 1
  funext m
  cases m with
  | constructor c => exact (other (f c)).trans (other c).symm
  | _ => rfl

@[simp] theorem fields_mapConstructors : (d.mapConstructors f).fields = d.fields :=
  membersOf_mapConstructors fun _ => rfl

@[simp] theorem properties_mapConstructors : (d.mapConstructors f).properties = d.properties :=
  membersOf_mapConstructors fun _ => rfl

@[simp] theorem takesInitializers_mapConstructors :
    (d.mapConstructors f).takesInitializers = d.takesInitializers := by
  rw [takesInitializers, kind_mapConstructors, constructors_mapConstructors, List.isEmpty_map,
    takesInitializers]

theorem mapConstructors_mapConstructors (g : Constructor → Constructor) :
    (d.mapConstructors f).mapConstructors g = d.mapConstructors (g ∘ f) := by
  simp only [mapConstructors, List.map_map]
  congr 2
  funext m
  cases m <;> rfl

/-! ## A constructor for a class -/

end TypeDecl

/-- The place after the last field: what stands before it ends with a field or is empty, and what
stands after it has no field. -/
theorem exists_afterLastField (ms : List Member) :
    ∃ before after, ms = before ++ after ∧ (∀ m ∈ before.getLast?, m.isField = true) ∧
      (∀ m ∈ after, m.isField = false) ∧
      ∀ m, insertAfterLastField m ms = before ++ m :: after := by
  refine ⟨_, _, ?_, fun m last => ?_, fun m listed => ?_, fun m => rfl⟩
  · rw [← List.reverse_append, List.takeWhile_append_dropWhile, List.reverse_reverse]
  · have stopped := List.head?_dropWhile_not (!·.isField) ms.reverse
    rw [List.getLast?_reverse, Option.mem_def] at last
    rw [last] at stopped
    simpa using stopped
  · simpa using List.mem_takeWhile_imp (List.mem_reverse.1 listed)

namespace TypeDecl

variable {d : TypeDecl}

@[simp] theorem name_ensureConstructor : d.ensureConstructor.name = d.name := by
  unfold ensureConstructor
  split <;> rfl

@[simp] theorem kind_ensureConstructor : d.ensureConstructor.kind = d.kind := by
  unfold ensureConstructor
  split <;> rfl

theorem membersOf_ensureConstructor {α : Type} [MemberKind α]
    (other : ∀ c, MemberKind.ofMember? (α := α) (.constructor c) = none) :
    d.ensureConstructor.membersOf α = d.membersOf α := by
  unfold ensureConstructor
  split
  · obtain ⟨before, after, whole, -, -, inserted⟩ := exists_afterLastField d.members
    simp only [membersOf, inserted]
    rw [whole, List.filterMap_append, List.filterMap_append, List.filterMap_cons_none (other {})]
  · rfl

@[simp] theorem fields_ensureConstructor : d.ensureConstructor.fields = d.fields :=
  membersOf_ensureConstructor fun _ => rfl

@[simp] theorem properties_ensureConstructor : d.ensureConstructor.properties = d.properties :=
  membersOf_ensureConstructor fun _ => rfl

theorem lacksConstructor_iff :
    d.lacksConstructor = true ↔ d.kind = .classType ∧ d.constructors = [] := by
  simp [lacksConstructor]

/-- A class without a constructor gets one that does nothing. -/
theorem constructors_ensureConstructor :
    d.ensureConstructor.constructors = if d.lacksConstructor then [{}] else d.constructors := by
  unfold ensureConstructor
  split
  · next lacks =>
      obtain ⟨before, after, whole, -, -, inserted⟩ := exists_afterLastField d.members
      have none := (lacksConstructor_iff.1 lacks).2
      rw [constructors, membersOf, whole, List.filterMap_append, List.append_eq_nil_iff] at none
      simp only [constructors, membersOf, inserted, List.filterMap_append, List.filterMap_cons,
        none.1, none.2]
      rfl
  · rfl

theorem constructors_ensureConstructor_ne_nil (takes : d.takesInitializers = true) :
    d.ensureConstructor.constructors ≠ [] := by
  rw [constructors_ensureConstructor]
  split
  · exact List.cons_ne_nil _ _
  · next has =>
      intro none
      cases kind : d.kind <;> simp_all [takesInitializers, lacksConstructor]

theorem ensureConstructor_of_not_lacks (has : d.lacksConstructor = false) :
    d.ensureConstructor = d := by
  rw [ensureConstructor, has, if_neg Bool.false_ne_true]

theorem ensureConstructor_eq_self (declared : d.constructors ≠ []) :
    d.ensureConstructor = d :=
  ensureConstructor_of_not_lacks (by simp [lacksConstructor, declared])

@[simp] theorem takesInitializers_ensureConstructor :
    d.ensureConstructor.takesInitializers = d.takesInitializers := by
  cases lacks : d.lacksConstructor with
  | true => simp [takesInitializers, (lacksConstructor_iff.1 lacks).1]
  | false => rw [ensureConstructor_of_not_lacks lacks]

@[simp] theorem lacksConstructor_ensureConstructor :
    d.ensureConstructor.lacksConstructor = false := by
  cases lacks : d.lacksConstructor with
  | true =>
      rw [lacksConstructor, constructors_ensureConstructor, lacks, if_pos rfl]
      exact Bool.and_false _
  | false => rw [ensureConstructor_of_not_lacks lacks, lacks]

/-- A class is given no second constructor. -/
@[simp] theorem ensureConstructor_ensureConstructor :
    d.ensureConstructor.ensureConstructor = d.ensureConstructor :=
  ensureConstructor_of_not_lacks lacksConstructor_ensureConstructor

/-! ## The whole declaration -/

/-- The declaration with every constructor completed, after a class has been given one. -/
def merged (inits : List FieldInit) (d : TypeDecl) : TypeDecl :=
  d.ensureConstructor.mapConstructors (Constructor.completed inits)

/-- The number of assignments that the constructors lack. -/
def missingCount (inits : List FieldInit) (d : TypeDecl) : Nat :=
  (d.ensureConstructor.constructors.flatMap (·.missing inits)).length

variable {inits : List FieldInit}

@[simp] theorem name_merged : (d.merged inits).name = d.name :=
  name_mapConstructors.trans name_ensureConstructor

@[simp] theorem kind_merged : (d.merged inits).kind = d.kind :=
  kind_mapConstructors.trans kind_ensureConstructor

@[simp] theorem fields_merged : (d.merged inits).fields = d.fields :=
  fields_mapConstructors.trans fields_ensureConstructor

@[simp] theorem properties_merged : (d.merged inits).properties = d.properties :=
  properties_mapConstructors.trans properties_ensureConstructor

theorem constructors_merged :
    (d.merged inits).constructors =
      d.ensureConstructor.constructors.map (Constructor.completed inits) :=
  constructors_mapConstructors

@[simp] theorem takesInitializers_merged :
    (d.merged inits).takesInitializers = d.takesInitializers :=
  takesInitializers_mapConstructors.trans takesInitializers_ensureConstructor

theorem constructors_merged_ne_nil (takes : d.takesInitializers = true) :
    (d.merged inits).constructors ≠ [] := by
  rw [constructors_merged, ne_eq, List.map_eq_nil_iff]
  exact constructors_ensureConstructor_ne_nil takes

theorem missingCount_nil : d.missingCount [] = 0 :=
  congrArg List.length (List.flatMap_eq_nil_iff.2 fun _ _ => rfl)

/-- The relation of a declaration to what is left after statements have been put into it: nothing
at all, or the statements `prologue c` in front of the body of every constructor `c`. -/
inductive Receives (d : TypeDecl) : (Constructor → List Stmt) → TypeDecl → Prop
  | nothing : Receives d (fun _ => []) d
  | prologues (prologue : Constructor → List Stmt) :
    Receives d prologue (d.ensureConstructor.prepend prologue)

end TypeDecl

theorem Member.merge_eq {inits : List FieldInit} (named : ∀ i ∈ inits, i.field ≠ "")
    (m : Member) :
    m.merge inits = .ok (m.mapConstructor (Constructor.completed inits),
      ((MemberKind.ofMember? (α := Constructor) m).map
        fun c => (c.missing inits).length).getD 0) := by
  cases m with
  | constructor c =>
      rw [merge, c.prologue_eq named]
      simp only [bind, Except.bind, List.length_map]
      rfl
  | _ => rfl

theorem mergeMembers_eq {inits : List FieldInit} (named : ∀ i ∈ inits, i.field ≠ "")
    (ms : List Member) :
    mergeMembers inits ms =
      ⟨.ok ((ms.filterMap (MemberKind.ofMember? (α := Constructor))).flatMap
          (·.missing inits)).length,
        ms.map (·.mapConstructor (Constructor.completed inits)), []⟩ := by
  induction ms with
  | nil => rfl
  | cons m ms ih =>
      rw [mergeMembers, m.merge_eq named, ih, List.filterMap_cons]
      cases MemberKind.ofMember? (α := Constructor) m <;> simp [Except.map]

/-- The first constructor asks about every field already, so none has been changed when a field
without a name is found. -/
theorem mergeMembers_eq_error {inits : List FieldInit} (unnamed : ∃ i ∈ inits, i.field = "")
    {ms : List Member} {c : Constructor} (listed : .constructor c ∈ ms) :
    mergeMembers inits ms = ⟨.error (.lookup .emptyFieldName), ms, []⟩ := by
  induction ms with
  | nil => cases listed
  | cons m ms ih =>
      cases m with
      | constructor other =>
          rw [mergeMembers, Member.merge, other.prologue_eq_error unnamed]
          rfl
      | _ =>
          have later : .constructor c ∈ ms := by simpa using listed
          rw [mergeMembers, ih later]
          rfl

theorem Plan.isEmpty_iff {p : Plan} : p.isEmpty = true ↔ p.inits = [] := List.isEmpty_iff

/-- **What merging leaves behind.** A plan for the type that asks for something, all of it with a
name, completes the constructors of a type that takes assignments. -/
theorem Plan.mergeInto_eq {p : Plan} {d : TypeDecl} (own : p.typeName = d.name)
    (asks : p.inits ≠ []) (takes : d.takesInitializers = true)
    (named : ∀ i ∈ p.inits, i.field ≠ "") :
    p.mergeInto d =
      ⟨.ok (d.missingCount p.inits), d.merged p.inits,
        (if d.lacksConstructor then [.synthesizedConstructor d.name] else []) ++
          [.inserted d.name (d.missingCount p.inits)]⟩ := by
  simp only [mergeInto, own, ne_eq, not_true, if_false, isEmpty_iff, asks, takes,
    mergeMembers_eq named, Bool.not_true, Bool.false_eq_true]
  rfl

/-- A field without a name is noticed only when the class has been given its constructor. -/
theorem Plan.mergeInto_of_unnamed {p : Plan} {d : TypeDecl} (own : p.typeName = d.name)
    (takes : d.takesInitializers = true) (unnamed : ∃ i ∈ p.inits, i.field = "") :
    p.mergeInto d =
      ⟨.error (.lookup .emptyFieldName), d.ensureConstructor,
        if d.lacksConstructor then [.synthesizedConstructor d.name] else []⟩ := by
  have asks : p.inits ≠ [] := by
    obtain ⟨i, listed, -⟩ := unnamed
    exact List.ne_nil_of_mem listed
  obtain ⟨c, declared⟩ :=
    List.exists_mem_of_ne_nil _ (TypeDecl.constructors_ensureConstructor_ne_nil takes)
  have stopped := mergeMembers_eq_error unnamed (TypeDecl.mem_membersOf.1 declared)
  simp only [mergeInto, own, ne_eq, not_true, if_false, isEmpty_iff, asks, takes, stopped,
    Bool.not_true, Bool.false_eq_true]

theorem Plan.mergeInto_of_inits_eq_nil {p : Plan} {d : TypeDecl} (own : p.typeName = d.name)
    (asksNothing : p.inits = []) : p.mergeInto d = ⟨.ok 0, d, []⟩ := by
  simp only [mergeInto, own, ne_eq, not_true, if_false, isEmpty_iff, asksNothing, if_true]

/-- A plan for the type is carried out if it asks for named fields only, and for nothing where no
assignment can be made. -/
theorem Plan.mergeInto_of_named {p : Plan} {d : TypeDecl} (own : p.typeName = d.name)
    (takes : p.inits ≠ [] → d.takesInitializers = true) (named : ∀ i ∈ p.inits, i.field ≠ "") :
    (p.mergeInto d).answer = .ok (d.missingCount p.inits) ∧
      (p.mergeInto d).after = if p.inits = [] then d else d.merged p.inits := by
  by_cases asks : p.inits = []
  · rw [mergeInto_of_inits_eq_nil own asks, asks, TypeDecl.missingCount_nil]
    exact ⟨rfl, rfl⟩
  · rw [mergeInto_eq own asks (takes asks) named, if_neg asks]
    exact ⟨rfl, rfl⟩

theorem Plan.mergeInto_of_foreign {p : Plan} {d : TypeDecl} (foreign : p.typeName ≠ d.name) :
    p.mergeInto d = ⟨.error (.refused (.foreignPlan p.typeName d.name)), d, []⟩ := by
  rw [mergeInto, if_pos foreign]

theorem Plan.mergeInto_of_noConstructorBody {p : Plan} {d : TypeDecl} (own : p.typeName = d.name)
    (asks : p.inits ≠ []) (takes : d.takesInitializers = false) :
    p.mergeInto d = ⟨.error (.refused (.noConstructorBody d.kind d.name)), d, []⟩ := by
  simp only [mergeInto, own, ne_eq, not_true, if_false, isEmpty_iff, asks, takes, Bool.not_false,
    if_true]

/-- **The ways of a merge.** The plan is refused, or asks for nothing, or asks for a field without a
name, or completes the constructors. Only the last two change anything. -/
theorem Plan.mergeInto_cases (p : Plan) (d : TypeDecl) :
    ((p.typeName ≠ d.name ∨ p.inits ≠ [] ∧ d.takesInitializers = false) ∧
        (∃ refusal, (p.mergeInto d).answer = .error (.refused refusal)) ∧
        (p.mergeInto d).after = d) ∨
      (p.typeName = d.name ∧ p.inits = [] ∧ (p.mergeInto d).answer = .ok 0 ∧
        (p.mergeInto d).after = d) ∨
      (p.typeName = d.name ∧ d.takesInitializers = true ∧ (∃ i ∈ p.inits, i.field = "") ∧
        (p.mergeInto d).answer = .error (.lookup .emptyFieldName) ∧
        (p.mergeInto d).after = d.ensureConstructor) ∨
      p.typeName = d.name ∧ p.inits ≠ [] ∧ d.takesInitializers = true ∧
        (∀ i ∈ p.inits, i.field ≠ "") ∧
        (p.mergeInto d).answer = .ok (d.missingCount p.inits) ∧
        (p.mergeInto d).after = d.merged p.inits := by
  by_cases own : p.typeName = d.name
  · by_cases asks : p.inits = []
    · refine Or.inr (Or.inl ⟨own, asks, ?_⟩)
      rw [mergeInto_of_inits_eq_nil own asks]
      exact ⟨rfl, rfl⟩
    · cases takes : d.takesInitializers with
      | false =>
          refine Or.inl ⟨Or.inr ⟨asks, rfl⟩, ?_⟩
          rw [mergeInto_of_noConstructorBody own asks takes]
          exact ⟨⟨_, rfl⟩, rfl⟩
      | true =>
          by_cases unnamed : ∃ i ∈ p.inits, i.field = ""
          · refine Or.inr (Or.inr (Or.inl ⟨own, rfl, unnamed, ?_⟩))
            rw [mergeInto_of_unnamed own takes unnamed]
            exact ⟨rfl, rfl⟩
          · have named : ∀ i ∈ p.inits, i.field ≠ "" := fun i listed empty =>
              unnamed ⟨i, listed, empty⟩
            refine Or.inr (Or.inr (Or.inr ⟨own, asks, rfl, named, ?_⟩))
            rw [mergeInto_eq own asks takes named]
            exact ⟨rfl, rfl⟩
  · refine Or.inl ⟨Or.inl own, ?_⟩
    rw [mergeInto_of_foreign own]
    exact ⟨⟨_, rfl⟩, rfl⟩

/-- A merge has an answer if the plan is made for a type of this name and asks for nothing, or for
named fields of a type that takes assignments. -/
theorem Plan.exists_answer_mergeInto_iff {p : Plan} {d : TypeDecl} :
    (∃ count, (p.mergeInto d).answer = .ok count) ↔
      p.typeName = d.name ∧
        (p.inits = [] ∨ d.takesInitializers = true ∧ ∀ i ∈ p.inits, i.field ≠ "") := by
  rcases p.mergeInto_cases d with
    ⟨foreign | ⟨asks, takes⟩, ⟨refusal, answer⟩, -⟩ | ⟨own, asksNothing, answer, -⟩ |
      ⟨-, -, ⟨i, listed, unnamed⟩, answer, -⟩ | ⟨own, -, takes, named, answer, -⟩
  · simp [answer, foreign]
  · simp [answer, asks, takes]
  · simp [answer, own, asksNothing]
  · have asks := List.ne_nil_of_mem listed
    have refuted : ¬∀ j ∈ p.inits, j.field ≠ "" := fun named => named i listed unnamed
    simp only [answer, asks, refuted, and_false, or_self, iff_false, not_exists]
    exact fun count same => nomatch same
  · exact iff_of_true ⟨_, answer⟩ ⟨own, Or.inr ⟨takes, named⟩⟩

end Prologue
