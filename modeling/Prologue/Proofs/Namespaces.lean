import Mathlib.Data.List.Forall2
import Prologue.Proofs.ConstructionPaths
import Prologue.Proofs.Outline
import Prologue.Proofs.TypeNames

/-!
# Namespaces in front of type names

A namespace in front of a type name is cut off with its last dot, whatever stands in it, as long as
it has no `<`, which would start the type arguments too early. Blanks in it do not matter either,
because the dot behind it is not blank: the text is trimmed in the namespace and in the name on
their own. So the classes of a name are those of the name with a namespace.

* `Text.trim_append_cons` is this fact about trimming.
* `TypeName.Qualifies` relates a name to the name with a namespace, and `Member.Qualifies` a member
  to the member with such types.
* `TypeDecl.Requalifies.planProperty_qualifies` carries the relation through one step of planning,
  and `TypeDecl.Requalifies.foldlM_planProperty_qualifies` through the whole walk.
* `TypeDecl.classes_ignore_namespace` puts the names and the plans together.
-/

namespace Prologue

/-! ## Texts with a character in between -/

namespace Text

variable {c : Char} (front behind : List Char)

theorem trimStart_append_cons (solid : isBlank c = false) :
    trimStart (front ++ c :: behind) = trimStart front ++ c :: behind := by
  induction front with
  | nil => rw [List.nil_append, trimStart_cons, solid, if_neg Bool.false_ne_true]; rfl
  | cons b front ih =>
      rw [List.cons_append, trimStart_cons, trimStart_cons]
      split
      · exact ih
      · rfl

theorem trimEnd_append_cons (solid : isBlank c = false) :
    trimEnd (front ++ c :: behind) = front ++ c :: trimEnd behind := by
  rw [trimEnd, List.reverse_append, List.reverse_cons, List.append_assoc, List.singleton_append,
    trimStart_append_cons _ _ solid, List.reverse_append, List.reverse_cons, List.reverse_reverse,
    List.append_assoc, List.singleton_append, trimEnd]

/-- A text with a character that is not blank is trimmed in front of it and behind it. -/
theorem trim_append_cons (solid : isBlank c = false) :
    trim (front ++ c :: behind) = trimStart front ++ c :: trimEnd behind := by
  rw [trim, trimStart_append_cons front behind solid, trimEnd_append_cons _ _ solid]

theorem trimStart_eq_self {cs : List Char} (solid : ∀ c ∈ cs.head?, isBlank c = false) :
    trimStart cs = cs := by
  cases cs with
  | nil => rfl
  | cons c cs => rw [trimStart_cons, solid c rfl, if_neg Bool.false_ne_true]

end Text

/-! ## Names with a namespace -/

namespace TypeName

open Text

/-- The second name is the first one with a namespace and a dot in front. The namespace is any text
without the character that starts type arguments, and the first name does not start with a blank
character. -/
inductive Qualifies : TypeName → TypeName → Prop
  | behind (space name : String) : '<' ∉ space.toList →
    (∀ c ∈ name.toList.head?, isBlank c = false) → Qualifies name (space ++ "." ++ name)

theorem afterLastDot_append_cons (front behind : List Char) :
    afterLastDot (front ++ '.' :: behind) = afterLastDot behind := by
  rw [afterLastDot, List.reverse_append, List.reverse_cons, List.append_assoc,
    List.singleton_append, List.takeWhile_append]
  split
  · next whole =>
      have kept := (List.takeWhile_prefix (· != '.')).eq_of_length whole
      rw [List.takeWhile_cons_of_neg (by decide), List.append_nil, afterLastDot, kept]
  · rfl

theorem withoutArguments_append_cons {space : List Char} (plain : '<' ∉ space)
    (name : List Char) :
    withoutArguments (space ++ '.' :: name) = space ++ '.' :: withoutArguments name := by
  have kept : ∀ c ∈ space, (c != '<') = true := by
    intro c listed
    rw [bne_iff_ne]
    rintro rfl
    exact plain listed
  rw [withoutArguments, List.takeWhile_append_of_pos kept, List.takeWhile_cons_of_pos (by decide),
    withoutArguments]

theorem baseOf_append_cons {space name : List Char} (plain : '<' ∉ space)
    (solid : ∀ c ∈ name.head?, isBlank c = false) :
    baseOf (space ++ '.' :: name) = baseOf name := by
  -- The name without its arguments does not start with a blank either.
  have kept : trimStart (withoutArguments name) = withoutArguments name := by
    rw [← withoutArguments_trimStart, trimStart_eq_self solid]
  rw [baseOf, withoutArguments_append_cons plain, trim_append_cons _ _ (by decide),
    afterLastDot_append_cons, baseOf, trim, kept]

theorem endsNullableOrArray_append_cons (front behind : List Char) :
    endsNullableOrArray (front ++ '.' :: behind) = endsNullableOrArray behind := by
  cases behind with
  | nil => simp [endsNullableOrArray]
  | cons c behind => simp [endsNullableOrArray, List.getLast?_append, List.getLast?_cons]

variable {name qualified : TypeName}

theorem Qualifies.base_eq (qualifies : Qualifies name qualified) :
    qualified.base = name.base := by
  cases qualifies with
  | behind space name plain solid =>
      have whole : (space ++ "." ++ name).toList = space.toList ++ '.' :: name.toList := by simp
      rw [base, whole, baseOf_append_cons plain solid, base]

theorem Qualifies.isMarked_eq (qualifies : Qualifies name qualified) :
    qualified.isMarked = name.isMarked := by
  cases qualifies with
  | behind space name _ solid =>
      have whole : (space ++ "." ++ name).toList = space.toList ++ '.' :: name.toList := by simp
      rw [isMarked, whole, trim_append_cons _ _ (by decide), endsNullableOrArray_append_cons,
        isMarked, trim, trimStart_eq_self solid]

theorem Qualifies.isScalar_eq (qualifies : Qualifies name qualified) :
    qualified.isScalar = name.isScalar := by
  rw [TypeName.isScalar_eq, qualifies.isMarked_eq, qualifies.base_eq, TypeName.isScalar_eq]

end TypeName

theorem Settings.needsInitialization_of_qualifies (s : Settings) {name qualified : TypeName}
    (qualifies : TypeName.Qualifies name qualified) :
    s.needsInitialization qualified = s.needsInitialization name := by
  rw [needsInitialization, qualifies.isScalar_eq, qualifies.base_eq, needsInitialization]

/-! ## Planning under names with a namespace -/

/-- The types are the same, or the second one is the first one with a namespace. -/
def TypeName.SameButNamespace (name other : TypeName) : Prop :=
  other = name ∨ Qualifies name other

/-- The fields are the same but for a namespace of the type. -/
structure Field.Qualifies (f g : Field) : Prop where
  name : g.name = f.name
  initializer : g.initializer = f.initializer
  typeName : TypeName.SameButNamespace f.typeName g.typeName

/-- The second member is the first one, or is a field or a property that has a namespace in front of
its type. -/
inductive Member.Qualifies : Member → Member → Prop
  | same (m : Member) : Qualifies m m
  | field (f : Field) {typeName : TypeName} : TypeName.Qualifies f.typeName typeName →
    Qualifies (.field f) (.field { f with typeName })
  | property (p : Property) {typeName : TypeName} : TypeName.Qualifies p.typeName typeName →
    Qualifies (.property p) (.property { p with typeName })

/-- The plans are the same but for namespaces of the types under which they ask for the fields. -/
structure Plan.Qualifies (p q : Plan) : Prop where
  typeName : q.typeName = p.typeName
  bindings : q.bindings = p.bindings
  skipped : q.skipped = p.skipped
  inits : List.Forall₂ (fun i j : FieldInit => j.field = i.field ∧
    TypeName.SameButNamespace i.typeName j.typeName) p.inits q.inits

/-- Both answers are failures, and the same one, or they are plans for the same fields. -/
inductive AnswersQualify : Except Failure Plan → Except Failure Plan → Prop
  | failed (e : Failure) : AnswersQualify (.error e) (.error e)
  | planned {p q : Plan} : p.Qualifies q → AnswersQualify (.ok p) (.ok q)

theorem Settings.needsInitialization_of_sameButNamespace (s : Settings) {name other : TypeName}
    (same : TypeName.SameButNamespace name other) :
    s.needsInitialization other = s.needsInitialization name := by
  rcases same with rfl | qualifies
  · rfl
  · exact s.needsInitialization_of_qualifies qualifies

theorem Plan.Qualifies.fields {p q : Plan} (same : p.Qualifies q) :
    q.inits.map (·.field) = p.inits.map (·.field) := by
  refine (List.forall₂_eq_eq_eq ▸ List.rel_map ?_ same.inits).symm
  exact fun i j alike => alike.1.symm

theorem Plan.Qualifies.assigns {p q : Plan} (same : p.Qualifies q) (field : String) :
    q.assigns field = p.assigns field := by
  have read (p : Plan) : p.assigns field = (p.inits.map (·.field)).any (· == field) := by
    rw [Plan.assigns, List.any_map]
    rfl
  rw [read, same.fields, read]

namespace TypeDecl

/-- What planning reads of two declarations that differ in the namespaces of types. -/
structure Requalifies (d e : TypeDecl) : Prop where
  name : e.name = d.name
  kind : e.kind = d.kind
  fields : List.Forall₂ Field.Qualifies d.fields e.fields
  properties : List.Forall₂ (fun p q : Property => q.outline = p.outline) d.properties e.properties
  constructors : e.constructors = d.constructors

variable {s : Settings} {d e : TypeDecl}

theorem requalifies_of_members {members : List Member}
    (qualifies : List.Forall₂ Member.Qualifies d.members members) :
    Requalifies d { d with members } := by
  refine ⟨rfl, rfl, List.rel_filterMap ?_ qualifies, List.rel_filterMap ?_ qualifies, ?_⟩
  · intro m n same
    cases same with
    | same m => exact rel_self (fun _ => ⟨rfl, rfl, Or.inl rfl⟩) _
    | field f same => exact .some ⟨rfl, rfl, Or.inr same⟩
    | property p same => exact .none
  · intro m n same
    cases same with
    | same m =>
        refine rel_self ?_ _
        exact fun _ => rfl
    | field f same => exact .none
    | property p same => exact .some rfl
  · have alike : List.Forall₂ (· = ·) d.constructors (constructors { d with members }) := by
      refine List.rel_filterMap ?_ qualifies
      intro m n same
      cases same with
      | same m => exact rel_self (fun _ => rfl) _
      | field f same => exact .none
      | property p same => exact .none
    exact (List.forall₂_eq_eq_eq ▸ alike).symm

namespace Requalifies

theorem takesInitializers (same : Requalifies d e) :
    e.takesInitializers = d.takesInitializers := by
  rw [TypeDecl.takesInitializers, same.kind, same.constructors, TypeDecl.takesInitializers]

theorem getField? (same : Requalifies d e) (field : String) :
    Option.Rel Field.Qualifies (d.getField? field) (e.getField? field) := by
  have found {fs gs : List Field} (fields : List.Forall₂ Field.Qualifies fs gs) :
      Option.Rel Field.Qualifies (fs.find? (·.name == field)) (gs.find? (·.name == field)) := by
    induction fields with
    | nil => exact .none
    | @cons f g fs gs first _ ih =>
        rw [List.find?_cons, List.find?_cons, first.name]
        cases f.name == field with
        | true => exact .some first
        | false => exact ih
  exact found same.fields

theorem hasInitializer (same : Requalifies d e) (field : String) :
    e.hasInitializer field = d.hasInitializer field := by
  have found := same.getField? field
  rw [TypeDecl.hasInitializer, TypeDecl.hasInitializer]
  generalize d.getField? field = f, e.getField? field = g at found ⊢
  cases found with
  | none => rfl
  | some alike => rw [Option.any_some, Option.any_some, alike.initializer]

theorem isFieldInitialized (same : Requalifies d e) (field : String) :
    e.isFieldInitialized field = d.isFieldInitialized field := by
  refine isFieldInitialized_congr (same.hasInitializer field) ?_
  rw [constructorsAssign, same.constructors, constructorsAssign]

/-! ### One property and all of them -/

theorem planField_qualifies (same : Requalifies d e) {f g : Field} (field : f.Qualifies g)
    {p q : Plan} (plan : p.Qualifies q) :
    AnswersQualify (d.planField s f p).answer (e.planField s g q).answer := by
  have calls : e.callsFor s g = d.callsFor s f := by
    rw [callsFor, same.takesInitializers,
      s.needsInitialization_of_sameButNamespace field.typeName, callsFor]
  rw [answer_planField, answer_planField, calls, plan.assigns, field.name,
    same.isFieldInitialized]
  split
  · exact .planned plan
  · cases d.isFieldInitialized f.name with
    | error question => exact .failed _
    | ok initialized =>
        cases initialized with
        | true => exact .planned plan
        | false =>
            refine .planned ⟨plan.typeName, plan.bindings, plan.skipped, ?_⟩
            exact List.rel_append plan.inits (.cons ⟨field.name, field.typeName⟩ .nil)

/-- **One step.** -/
theorem planProperty_qualifies (same : Requalifies d e) {a b : Property}
    (outline : b.outline = a.outline) {p q : Plan} (plan : p.Qualifies q) :
    AnswersQualify (d.planProperty s p a).answer (e.planProperty s q b).answer := by
  obtain ⟨name, backing⟩ : b.name = a.name ∧ b.backingFieldName? = a.backingFieldName? := by
    simpa [Property.outline] using outline
  rw [TypeDecl.planProperty, TypeDecl.planProperty, backing, name, same.name]
  cases a.backingFieldName? with
  | none =>
      refine .planned ⟨plan.typeName, plan.bindings, ?_, plan.inits⟩
      exact congrArg (· ++ [a.name]) plan.skipped
  | some field =>
      have found := same.getField? field
      dsimp only
      generalize d.getField? field = f, e.getField? field = g at found ⊢
      cases found with
      | none => exact .failed _
      | @some f g alike =>
          refine same.planField_qualifies alike ⟨plan.typeName, ?_, plan.skipped, plan.inits⟩
          rw [Plan.addBinding, Plan.addBinding, plan.bindings, alike.name]

/-- **The whole walk.** -/
theorem foldlM_planProperty_qualifies (same : Requalifies d e) {as bs : List Property}
    (outline : List.Forall₂ (fun a b : Property => b.outline = a.outline) as bs) {p q : Plan}
    (plan : p.Qualifies q) :
    AnswersQualify (as.foldlM (d.planProperty s) p).answer
      (bs.foldlM (e.planProperty s) q).answer := by
  induction outline generalizing p q with
  | nil => exact .planned plan
  | @cons a b as bs first _ ih =>
      have step := same.planProperty_qualifies (s := s) first plan
      rw [List.foldlM_cons, List.foldlM_cons, Logged.answer_bind, Logged.answer_bind]
      generalize (d.planProperty s p a).answer = x, (e.planProperty s q b).answer = y at step ⊢
      cases step with
      | failed failure => exact .failed failure
      | planned plan => exact ih plan

theorem plan_qualifies (same : Requalifies d e) (s : Settings) :
    AnswersQualify (d.plan s).answer (e.plan s).answer := by
  have start : Plan.Qualifies { typeName := d.name } { typeName := e.name } :=
    ⟨same.name, rfl, rfl, .nil⟩
  rw [plan_eq_foldlM, plan_eq_foldlM]
  exact same.foldlM_planProperty_qualifies same.properties start

end Requalifies

/-- **Namespaces do not matter.** A type name with a namespace in front has the base of the name
alone, is scalar if that is, and calls for a created value if that does. So planning for a
declaration with namespaces in front of the types of fields and properties fails as it does without
them, or asks for the same fields, under types that differ in the namespace only. -/
theorem classes_ignore_namespace (s : Settings) :
    (∀ space name : String, '<' ∉ space.toList →
      (∀ c ∈ name.toList.head?, Text.isBlank c = false) →
        TypeName.base (space ++ "." ++ name) = TypeName.base name ∧
        TypeName.isScalar (space ++ "." ++ name) = TypeName.isScalar name ∧
        s.needsInitialization (space ++ "." ++ name) = s.needsInitialization name) ∧
    ∀ (d : TypeDecl) (members : List Member), List.Forall₂ Member.Qualifies d.members members →
      AnswersQualify (d.plan s).answer (plan s { d with members }).answer := by
  refine ⟨fun space name plain solid => ?_, fun d members qualifies => ?_⟩
  · have qualifies := TypeName.Qualifies.behind space name plain solid
    exact ⟨qualifies.base_eq, qualifies.isScalar_eq, s.needsInitialization_of_qualifies qualifies⟩
  · exact (requalifies_of_members qualifies).plan_qualifies s

/-- A class that plans for a list, with a nullable field beside it. -/
def atlas : TypeDecl where
  name := "Atlas"
  members :=
    [.field ⟨"_maps", "List<Geo.Map>", none⟩, .field ⟨"_scale", "int? ", none⟩,
     .property (.auto "Maps" "List<Geo.Map>" "_maps"), .property (.auto "Scale" "int? " "_scale"),
     .constructor { body := [.assignField "_scale" (.argument "scale")] }]

/-- The members of `atlas` with a namespace in front of each type. One of the namespaces has blanks
in it. -/
def qualifiedAtlas : List Member :=
  [.field ⟨"_maps", "System.Collections.Generic.List<Geo.Map>", none⟩,
   .field ⟨"_scale", " global:: System.int? ", none⟩,
   .property (.auto "Maps" "System.Collections.Generic.List<Geo.Map>" "_maps"),
   .property (.auto "Scale" " global:: System.int? " "_scale"),
   .constructor { body := [.assignField "_scale" (.argument "scale")] }]

theorem atlas_ignores_namespace :
    TypeName.base "System.Collections.Generic.List<Geo.Map>" = TypeName.base "List<Geo.Map>" ∧
      TypeName.base "System.Collections.Generic.List<Geo.Map>" = "List" ∧
      TypeName.isScalar " global:: System.int? " = TypeName.isScalar "int? " ∧
      TypeName.isScalar " global:: System.int? " = true ∧
      List.Forall₂ Member.Qualifies atlas.members qualifiedAtlas ∧
      AnswersQualify (atlas.plan {}).answer
        (plan {} { atlas with members := qualifiedAtlas }).answer ∧
      (∃ p, (atlas.plan {}).answer = .ok p ∧ p.inits = [⟨"_maps", "List<Geo.Map>"⟩]) ∧
      ∃ p, (plan {} { atlas with members := qualifiedAtlas }).answer = .ok p ∧
        p.inits = [⟨"_maps", "System.Collections.Generic.List<Geo.Map>"⟩] := by
  obtain ⟨names, plans⟩ := classes_ignore_namespace {}
  have listSolid : ∀ c ∈ "List<Geo.Map>".toList.head?, Text.isBlank c = false := by
    rintro _ ⟨⟩
    rfl
  have scaleSolid : ∀ c ∈ "int? ".toList.head?, Text.isBlank c = false := by
    rintro _ ⟨⟩
    rfl
  have list : TypeName.Qualifies "List<Geo.Map>" "System.Collections.Generic.List<Geo.Map>" :=
    .behind "System.Collections.Generic" _ (by decide) listSolid
  have scale : TypeName.Qualifies "int? " " global:: System.int? " :=
    .behind " global:: System" _ (by decide) scaleSolid
  have members : List.Forall₂ Member.Qualifies atlas.members qualifiedAtlas :=
    .cons (.field _ list) <| .cons (.field _ scale) <| .cons (.property _ list) <|
      .cons (.property _ scale) <| .cons (.same _) .nil
  have bases := names "System.Collections.Generic" "List<Geo.Map>" (by decide) listSolid
  have scalars := names " global:: System" "int? " (by decide) scaleSolid
  exact ⟨bases.1, by decide, scalars.2.1, by decide, members, plans atlas _ members,
    ⟨_, rfl, rfl⟩, _, rfl, rfl⟩

end TypeDecl

end Prologue
