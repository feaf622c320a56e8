import Prologue.Proofs.Atomicity
import Prologue.Proofs.TypeNames

/-!
# Created values of scalar types

A scalar type has a value without being created. With `initializeAll` planning passes the scalar
types over, but the collection types are looked for by base name alone, and the mark of a nullable
type or of an array type does not belong to the base. So `List<int>[]` counts as a `List` and is
created, although it is scalar.

* `TypeDecl.AsksForMarked` says of which fields this is true.
* `TypeDecl.createsNoScalar_iff` says that under the standard collection types they are the only
  fields that are given a created value of a scalar type.
-/

namespace Prologue

theorem FieldInit.toStmt_eq_iff {i : FieldInit} {field : String} {typeName : TypeName} :
    i.toStmt = .assignField field (.createEmpty typeName) ↔ i = ⟨field, typeName⟩ := by
  cases i
  simp [toStmt, Stmt.assignField, Expr.createEmpty]

namespace TypeDecl

variable {s : Settings} {d : TypeDecl}

/-- A property returns a field that lacks a value on some construction path of a type that takes
assignments, and the type of the field has the base of a collection type and the mark of a nullable
type or of an array type. -/
def AsksForMarked (s : Settings) (d : TypeDecl) : Prop :=
  d.takesInitializers = true ∧ ∃ p ∈ d.properties, ∃ f, p.Returns f.name ∧
    d.getField? f.name = some f ∧ d.isFieldInitialized f.name = .ok false ∧
    s.collectionTypes.contains f.typeName.base = true ∧ f.typeName.isMarked = true

/-- A plan asks for a value of a scalar type exactly if it asks for a marked collection. -/
theorem exists_isScalar_of_planned_iff
    (standard : s.collectionTypes = ({} : Settings).collectionTypes) {p : Plan}
    (planned : (d.plan s).answer = .ok p) :
    (∃ i ∈ p.inits, i.typeName.isScalar = true) ↔ s.initializeAll = false ∧ d.AsksForMarked s := by
  refine ⟨?_, ?_⟩
  · intro created
    rcases created with ⟨i, asked, scalar⟩
    obtain ⟨q, listed, f, returns, found, rfl, calls, unset⟩ := (mem_inits_iff planned).1 asked
    obtain ⟨takes, needs⟩ := Bool.and_eq_true_iff.1 calls
    rw [Settings.isScalar_of_needsInitialization standard needs, Bool.and_eq_true_iff,
      Bool.not_eq_true'] at scalar
    obtain ⟨off, marked⟩ := scalar
    have created : s.collectionTypes.contains f.typeName.base = true := by
      rwa [Settings.needsInitialization, off, if_neg Bool.false_ne_true] at needs
    exact ⟨off, takes, q, listed, f, returns, found, unset, created, marked⟩
  · intro condition
    rcases condition with ⟨off, takes, q, listed, f, returns, found, unset, created, marked⟩
    have needs : s.needsInitialization f.typeName = true := by
      rwa [Settings.needsInitialization, off, if_neg Bool.false_ne_true]
    have calls : d.callsFor s f = true := Bool.and_eq_true_iff.2 ⟨takes, needs⟩
    refine ⟨_, (mem_inits_iff planned).2 ⟨q, listed, f, returns, found, rfl, calls, unset⟩, ?_⟩
    rw [Settings.isScalar_of_needsInitialization standard needs, off, marked]
    rfl

/-- The type of a value that a completion creates is the type of an assignment that is planned. -/
theorem exists_put_of_planned_iff {p : Plan} {prologue : Constructor → List Stmt}
    (put : ∀ statement, (∃ c ∈ d.ensureConstructor.constructors, statement ∈ prologue c) ↔
      ∃ i ∈ p.inits, statement = i.toStmt) {P : TypeName → Prop} :
    (∃ c ∈ d.ensureConstructor.constructors, ∃ field T,
        Stmt.assignField field (.createEmpty T) ∈ prologue c ∧ P T) ↔
      ∃ i ∈ p.inits, P i.typeName := by
  refine ⟨?_, ?_⟩
  · intro created
    rcases created with ⟨c, listed, field, T, inserted, holds⟩
    obtain ⟨i, asked, same⟩ := (put _).1 ⟨c, listed, inserted⟩
    obtain rfl := FieldInit.toStmt_eq_iff.1 same.symm
    exact ⟨_, asked, holds⟩
  · intro planned
    rcases planned with ⟨i, asked, holds⟩
    obtain ⟨c, listed, inserted⟩ := (put i.toStmt).2 ⟨i, asked, rfl⟩
    exact ⟨c, listed, i.field, i.typeName, inserted, holds⟩

/-- **When no scalar type is created.** Under the standard collection types neither a plan nor a
completion creates a value of a scalar type, unless `initializeAll` is off and a marked collection
is asked for; then both do. -/
theorem createsNoScalar_iff {s : Settings} {d : TypeDecl}
    (standard : s.collectionTypes = ({} : Settings).collectionTypes) :
    (∀ p, (d.plan s).answer = .ok p →
      ((∀ i ∈ p.inits, i.typeName.isScalar = false) ↔
        s.initializeAll = true ∨ ¬d.AsksForMarked s)) ∧
    ∀ text, (d.complete s).answer = .ok text →
      ∃ prologue, d.Receives prologue (d.complete s).after ∧
        ((∀ c ∈ d.ensureConstructor.constructors, ∀ field T,
            Stmt.assignField field (.createEmpty T) ∈ prologue c → T.isScalar = false) ↔
          s.initializeAll = true ∨ ¬d.AsksForMarked s) := by
  have whenPlanned (p : Plan) (planned : (d.plan s).answer = .ok p) :
      (∀ i ∈ p.inits, i.typeName.isScalar = false) ↔
        s.initializeAll = true ∨ ¬d.AsksForMarked s := by
    have created := exists_isScalar_of_planned_iff standard planned
    rw [← not_iff_not, not_or, not_not, Bool.not_eq_true, ← created]
    simp
  refine ⟨whenPlanned, fun text done => ?_⟩
  rcases complete_cases s d with
    ⟨defect, -, answer, -⟩ | ⟨e, -, -, answer, -⟩ | ⟨p, -, planned, -, after⟩
  · cases answer.symm.trans done
  · cases answer.symm.trans done
  obtain ⟨prologue, received, -, put⟩ := receives_of_planned planned
  rw [after]
  refine ⟨prologue, received, ?_⟩
  rw [← whenPlanned p planned, ← not_iff_not]
  have same := exists_put_of_planned_iff put (P := fun T => T.isScalar = true)
  simpa using same

/-- A class with a property for an array of lists. -/
def batches : TypeDecl where
  name := "Batches"
  members :=
    [.field ⟨"_items", "List<int>[]", none⟩, .property (.auto "Items" "List<int>[]" "_items"),
     .field ⟨"_owner", "Owner", none⟩, .property (.auto "Owner" "Owner" "_owner")]

theorem batches_createsNoScalar_of_initializeAll :
    ∃ p, (batches.plan { initializeAll := true }).answer = .ok p ∧
      p.inits = [⟨"_owner", "Owner"⟩] ∧ ∀ i ∈ p.inits, i.typeName.isScalar = false := by
  have planned : (batches.plan { initializeAll := true }).answer =
      .ok ⟨"Batches", [⟨"Items", "_items"⟩, ⟨"Owner", "_owner"⟩], [⟨"_owner", "Owner"⟩], []⟩ := rfl
  have standard : ({ initializeAll := true } : Settings).collectionTypes =
      ({} : Settings).collectionTypes := rfl
  have rule := (createsNoScalar_iff (d := batches) standard).1 _ planned
  exact ⟨_, planned, rfl, rule.2 (Or.inl rfl)⟩

/-- Scalar types are created under the standard settings: a `List<int>[]` is planned for
`batches`. -/
theorem not_forall_createsNoScalar :
    ¬∀ (s : Settings) (d : TypeDecl) (p : Plan),
      s.collectionTypes = ({} : Settings).collectionTypes → (d.plan s).answer = .ok p →
        ∀ i ∈ p.inits, i.typeName.isScalar = false := by
  intro rule
  have planned : (batches.plan {}).answer =
      .ok ⟨"Batches", [⟨"Items", "_items"⟩, ⟨"Owner", "_owner"⟩], [⟨"_items", "List<int>[]"⟩],
        []⟩ := rfl
  have claimed := rule {} batches _ rfl planned ⟨"_items", "List<int>[]"⟩ List.mem_cons_self
  have scalar : TypeName.isScalar "List<int>[]" = true := by decide
  cases scalar.symm.trans claimed

end TypeDecl

end Prologue
