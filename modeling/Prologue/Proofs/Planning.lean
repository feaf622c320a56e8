import Mathlib.Data.List.Induction
import Mathlib.Data.List.Nodup
import Prologue.Plan

/-!
# What planning answers

`TypeDecl.plan` walks over the properties, fills three lists on the way and may stop at any
property. This module says what it answers without the walk.

* `TypeDecl.objection? s d p` is the failure that the property `p` causes. It depends on the
  declaration and the settings, never on the part of the plan that is made already.
* `TypeDecl.planFor s d ps` is the plan for the properties `ps`: each of its lists is read off `ps`.
* `TypeDecl.answer_planProperty` is one step of the walk, from the plan for some properties to the
  plan for one more, and `TypeDecl.answer_plan` is the whole walk.
-/

namespace Prologue

/-! ## What a property asks of a plan -/

/-- The getter starts by returning the field. -/
def Property.Returns (p : Property) (field : String) : Prop :=
  ∃ rest, p.getter = .retField field :: rest

theorem Property.returns_iff {p : Property} {field : String} :
    p.Returns field ↔ p.backingFieldName? = some field :=
  Property.backingFieldName?_eq_some_iff.symm

/-- The pair of a property and the field that its getter returns. -/
def Property.binding? (p : Property) : Option Binding :=
  p.backingFieldName?.map (⟨p.name, ·⟩)

namespace TypeDecl

/-- Whether some construction path leaves the field without a value. Nothing is said about a field
without a name. -/
def leavesUnset (d : TypeDecl) (field : String) : Bool :=
  match d.isFieldInitialized field with
  | .ok initialized => !initialized
  | .error _ => false

/-- Whether the type can assign the field and the type of the field calls for a created value. -/
def callsFor (s : Settings) (d : TypeDecl) (f : Field) : Bool :=
  d.takesInitializers && s.needsInitialization f.typeName

/-- The failure that the property causes: its getter returns a field that is not declared, or one
without a name about which a question has to be asked. -/
def objection? (s : Settings) (d : TypeDecl) (p : Property) : Option Failure :=
  match p.backingFieldName? with
  | none => none
  | some name =>
    match d.getField? name with
    | none => some (.undeclaredField d.name p.name name)
    | some f => if d.callsFor s f && f.name == "" then some (.lookup .emptyFieldName) else none

/-- The assignment that is missing for the property: that of its backing field, if the field is
called for and some construction path leaves it without a value. -/
def lacking? (s : Settings) (d : TypeDecl) (p : Property) : Option FieldInit :=
  (p.backingField? d).bind fun f =>
    if d.callsFor s f && d.leavesUnset f.name then some ⟨f.name, f.typeName⟩ else none

/-- The plan for the properties. -/
def planFor (s : Settings) (d : TypeDecl) (ps : List Property) : Plan where
  typeName := d.name
  bindings := ps.filterMap (·.binding?)
  inits := (ps.filterMap (d.lacking? s)).eraseDups
  skipped := (ps.filter (·.backingFieldName?.isNone)).map (·.name)

variable {s : Settings} {d : TypeDecl}

/-- The getter starts by returning a field that the type does not declare. -/
def Dangles (d : TypeDecl) (p : Property) (field : String) : Prop :=
  p.Returns field ∧ ∀ f ∈ d.fields, f.name ≠ field

theorem objection?_eq_some_iff {p : Property} {e : Failure} :
    d.objection? s p = some e ↔
      (∃ field, d.Dangles p field ∧ e = .undeclaredField d.name p.name field) ∨
      ∃ f, p.Returns "" ∧ d.getField? "" = some f ∧ d.callsFor s f = true ∧
        e = .lookup .emptyFieldName := by
  refine ⟨?_, ?_⟩
  · intro objects
    unfold objection? at objects
    split at objects
    · cases objects
    · next name backing =>
        have returns := Property.returns_iff.2 backing
        split at objects
        · next undeclared =>
            cases objects
            exact Or.inl ⟨name, ⟨returns, getField?_eq_none_iff.1 undeclared⟩, rfl⟩
        · next f declared =>
            obtain ⟨asked, same⟩ := Option.ite_none_right_eq_some.1 objects
            obtain ⟨calls, unnamed⟩ := Bool.and_eq_true_iff.1 asked
            cases same
            obtain rfl := (name_of_getField? declared).symm.trans (beq_iff_eq.1 unnamed)
            exact Or.inr ⟨f, returns, declared, calls, rfl⟩
  · intro reason
    rcases reason with ⟨field, ⟨returns, undeclared⟩, rfl⟩ | ⟨f, returns, found, calls, rfl⟩
    · simp only [objection?, Property.returns_iff.1 returns, getField?_eq_none_iff.2 undeclared]
    · simp [objection?, Property.returns_iff.1 returns, found, calls, name_of_getField? found]

theorem leavesUnset_iff {field : String} :
    d.leavesUnset field = true ↔ d.isFieldInitialized field = .ok false := by
  unfold leavesUnset
  split <;> simp_all

theorem leavesUnset_of_ne {field : String} (named : field ≠ "") :
    d.leavesUnset field = !(d.hasInitializer field || d.constructorsAssign field) := by
  rw [leavesUnset, isFieldInitialized_of_ne named]

theorem lacking?_eq_some_iff {p : Property} {i : FieldInit} :
    d.lacking? s p = some i ↔
      ∃ f, p.Returns f.name ∧ d.getField? f.name = some f ∧ i = ⟨f.name, f.typeName⟩ ∧
        d.callsFor s f = true ∧ d.isFieldInitialized f.name = .ok false := by
  simp only [lacking?, Property.backingField?, Option.bind_eq_some_iff,
    Option.ite_none_right_eq_some, Bool.and_eq_true, leavesUnset_iff,
    Property.returns_iff, Option.some.injEq]
  refine ⟨?_, ?_⟩
  · intro lacking
    rcases lacking with ⟨f, ⟨name, backing, declared⟩, ⟨calls, unset⟩, rfl⟩
    obtain rfl := name_of_getField? declared
    exact ⟨f, backing, declared, rfl, calls, unset⟩
  · intro asked
    rcases asked with ⟨f, backing, declared, rfl, calls, unset⟩
    exact ⟨f, ⟨f.name, backing, declared⟩, ⟨calls, unset⟩, rfl⟩

theorem lacking?_of_backed {p : Property} {f : Field} (backing : p.backingFieldName? = some f.name)
    (declared : d.getField? f.name = some f) :
    d.lacking? s p =
      if d.callsFor s f && d.leavesUnset f.name then some ⟨f.name, f.typeName⟩ else none := by
  simp only [lacking?, Property.backingField?, backing, declared, Option.bind_some]

theorem mem_inits_planFor {ps : List Property} {i : FieldInit} :
    i ∈ (d.planFor s ps).inits ↔ ∃ p ∈ ps, d.lacking? s p = some i := by
  simp [planFor, List.mem_eraseDups]

/-- A plan asks for a field under the type that the field is first declared with. -/
theorem getField?_of_mem_inits {ps : List Property} {i : FieldInit}
    (planned : i ∈ (d.planFor s ps).inits) :
    ∃ f, d.getField? i.field = some f ∧ f.name = i.field ∧ f.typeName = i.typeName := by
  obtain ⟨p, -, lacking⟩ := mem_inits_planFor.1 planned
  obtain ⟨f, -, declared, rfl, -⟩ := lacking?_eq_some_iff.1 lacking
  exact ⟨f, declared, rfl, rfl⟩

theorem field_ne_empty_of_mem_inits {ps : List Property} {i : FieldInit}
    (planned : i ∈ (d.planFor s ps).inits) : i.field ≠ "" := by
  obtain ⟨p, -, lacking⟩ := mem_inits_planFor.1 planned
  obtain ⟨f, -, -, rfl, -, unset⟩ := lacking?_eq_some_iff.1 lacking
  intro unnamed
  cases (congrArg d.isFieldInitialized unnamed).symm.trans unset

theorem assigns_planFor_empty (s : Settings) (d : TypeDecl) (ps : List Property) :
    (d.planFor s ps).assigns "" = false := by
  simp only [Plan.assigns, List.any_eq_false, beq_iff_eq]
  exact fun i planned => field_ne_empty_of_mem_inits planned

/-- A field is looked for in a plan by its name, which decides the type. -/
theorem assigns_planFor_iff (s : Settings) (ps : List Property) {f : Field}
    (declared : d.getField? f.name = some f) :
    (d.planFor s ps).assigns f.name = true ↔
      (⟨f.name, f.typeName⟩ : FieldInit) ∈ (d.planFor s ps).inits := by
  simp only [Plan.assigns, List.any_eq_true, beq_iff_eq]
  refine ⟨fun assigned => ?_, fun planned => ⟨_, planned, rfl⟩⟩
  rcases assigned with ⟨⟨field, typeName⟩, planned, rfl⟩
  rcases getField?_of_mem_inits planned with ⟨g, found, -, rfl⟩
  cases declared.symm.trans found
  exact planned

/-! ## One more property -/

theorem answer_planField (f : Field) (plan : Plan) :
    (d.planField s f plan).answer =
      if !d.callsFor s f || plan.assigns f.name then .ok plan
      else match d.isFieldInitialized f.name with
        | .error e => .error (.lookup e)
        | .ok true => .ok plan
        | .ok false => .ok (plan.addInit f) := by
  rw [planField, callsFor, Bool.not_and]
  split
  · rfl
  · cases d.isFieldInitialized f.name with
    | error e => rfl
    | ok initialized => cases initialized <;> rfl

/-- An item at the end of a list is a first occurrence exactly if it does not occur before. -/
theorem eraseDups_concat {α : Type} [DecidableEq α] (xs : List α) (x : α) :
    (xs ++ [x]).eraseDups = if x ∈ xs then xs.eraseDups else xs.eraseDups ++ [x] := by
  rw [List.eraseDups_append]
  split <;> simp_all [List.removeAll, List.eraseDups_cons]

theorem nodup_eraseDups {α : Type} [DecidableEq α] (xs : List α) : xs.eraseDups.Nodup := by
  induction xs using List.reverseRecOn with
  | nil => exact List.nodup_nil
  | append_singleton xs x ih =>
      rw [eraseDups_concat]
      split
      · exact ih
      · next fresh =>
          refine List.nodup_append.2 ⟨ih, List.nodup_singleton x, fun y earlier z last => ?_⟩
          obtain rfl := List.mem_singleton.1 last
          exact fun same => fresh (same ▸ List.mem_eraseDups.1 earlier)

theorem planFor_concat_of_unbacked {p : Property} (done : List Property)
    (unbacked : p.backingFieldName? = none) :
    d.planFor s (done ++ [p]) = (d.planFor s done).addSkipped p.name := by
  simp [planFor, Plan.addSkipped, Property.binding?, lacking?, Property.backingField?, unbacked]

/-- The backing field of a property is asked for exactly if it is missing and not asked for yet. -/
theorem planFor_concat_of_backed {p : Property} {f : Field} (done : List Property)
    (backing : p.backingFieldName? = some f.name) (declared : d.getField? f.name = some f) :
    d.planFor s (done ++ [p]) =
      if (d.callsFor s f && d.leavesUnset f.name) && !(d.planFor s done).assigns f.name then
        ((d.planFor s done).addBinding p.name f.name).addInit f
      else (d.planFor s done).addBinding p.name f.name := by
  have lacking := lacking?_of_backed (s := s) backing declared
  have bound : p.binding? = some ⟨p.name, f.name⟩ := by rw [Property.binding?, backing]; rfl
  cases missing : d.callsFor s f && d.leavesUnset f.name with
  | false =>
      rw [missing] at lacking
      simp [planFor, Plan.addBinding, lacking, bound, backing]
  | true =>
      rw [missing, if_pos rfl] at lacking
      have asked := assigns_planFor_iff s done declared
      simp only [planFor, List.mem_eraseDups] at asked
      cases assigned : (d.planFor s done).assigns f.name <;>
        simp_all [planFor, Plan.addBinding, Plan.addInit, eraseDups_concat]

/-- **One step.** From the plan for some properties a property leads to the plan for one more, or
to its objection. -/
theorem answer_planProperty (done : List Property) (p : Property) :
    (d.planProperty s (d.planFor s done) p).answer =
      match d.objection? s p with
      | some e => .error e
      | none => .ok (d.planFor s (done ++ [p])) := by
  cases backing : p.backingFieldName? with
  | none =>
      simp only [planProperty, objection?, backing, planFor_concat_of_unbacked done backing]
      rfl
  | some name =>
      cases declared : d.getField? name with
      | none =>
          simp only [planProperty, objection?, backing, declared]
          rfl
      | some f =>
          obtain rfl := name_of_getField? declared
          have kept : ((d.planFor s done).addBinding p.name f.name).assigns f.name =
              (d.planFor s done).assigns f.name := rfl
          simp only [planProperty, objection?, backing, declared, answer_planField,
            planFor_concat_of_backed done backing declared, kept]
          cases d.callsFor s f with
          | false => rfl
          | true =>
              -- The field is called for, so a question about it is asked unless it is planned for
              -- already. Only the question about a field without a name has no answer.
              by_cases unnamed : f.name = ""
              · have fresh := assigns_planFor_empty s d done
                simp [unnamed, fresh]
              · rw [isFieldInitialized_of_ne unnamed, leavesUnset_of_ne unnamed]
                cases d.hasInitializer f.name || d.constructorsAssign f.name <;>
                  cases (d.planFor s done).assigns f.name <;> simp [unnamed]

/-! ## The whole walk -/

/-- **The whole walk.** It stops at the first property that has an objection, and otherwise ends
with the plan for all properties. -/
theorem answer_foldlM_planProperty (done ps : List Property) :
    (ps.foldlM (d.planProperty s) (d.planFor s done)).answer =
      match ps.findSome? (d.objection? s) with
      | some e => .error e
      | none => .ok (d.planFor s (done ++ ps)) := by
  induction ps generalizing done with
  | nil => rw [List.append_nil]; rfl
  | cons p ps ih =>
      -- The accumulator is the plan for `done`, whatever `done` is, so the step applies.
      rw [List.foldlM_cons, Logged.answer_bind, answer_planProperty, List.findSome?_cons]
      cases d.objection? s p with
      | some e => rfl
      | none =>
          refine (ih (done ++ [p])).trans ?_
          rw [List.append_assoc, List.singleton_append]

/-- Planning is the walk, with an event in front if no assignment can be made. -/
theorem plan_eq_foldlM (s : Settings) (d : TypeDecl) :
    d.plan s =
      ⟨(d.properties.foldlM (d.planProperty s) { typeName := d.name }).answer,
        (if d.takesInitializers then [] else [.noConstructorBody d.name d.kind]) ++
          (d.properties.foldlM (d.planProperty s) { typeName := d.name }).log⟩ := by
  unfold plan
  cases d.takesInitializers <;> rfl

theorem answer_plan :
    (d.plan s).answer =
      match d.properties.findSome? (d.objection? s) with
      | some e => .error e
      | none => .ok (d.planFor s d.properties) := by
  rw [plan_eq_foldlM]
  exact answer_foldlM_planProperty [] d.properties

theorem answer_plan_eq_ok_iff {p : Plan} :
    (d.plan s).answer = .ok p ↔
      (∀ q ∈ d.properties, d.objection? s q = none) ∧ p = d.planFor s d.properties := by
  rw [answer_plan, ← List.findSome?_eq_none_iff]
  cases d.properties.findSome? (d.objection? s) <;> simp [eq_comm]

theorem answer_plan_eq_error_iff {e : Failure} :
    (d.plan s).answer = .error e ↔ d.properties.findSome? (d.objection? s) = some e := by
  rw [answer_plan]
  cases d.properties.findSome? (d.objection? s) <;> simp

/-- **What is planned.** A field is asked for exactly if a property returns it, the type takes
assignments, the type of the field calls for a created value, and the field has a name and lacks a
value on some construction path. -/
theorem mem_inits_iff {p : Plan} (planned : (d.plan s).answer = .ok p) {i : FieldInit} :
    i ∈ p.inits ↔
      ∃ q ∈ d.properties, ∃ f, q.Returns f.name ∧ d.getField? f.name = some f ∧
        i = ⟨f.name, f.typeName⟩ ∧ d.callsFor s f = true ∧
        d.isFieldInitialized f.name = .ok false := by
  obtain ⟨-, rfl⟩ := answer_plan_eq_ok_iff.1 planned
  simp only [mem_inits_planFor, lacking?_eq_some_iff]

end TypeDecl

end Prologue
