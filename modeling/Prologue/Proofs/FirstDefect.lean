import Mathlib.Data.List.Perm.Basic
import Prologue.Proofs.WellFormed

/-!
# Which defect is reported

A declaration has a defect exactly if it breaks one of five rules, and the defect that is reported
is that of the first rule in their order that is broken, at the first place where it is.

* `Rule.Broken` says of each rule what breaks it and how that is reported. `Rule.finding?` is the
  search for it, and `Rule.broken_iff` connects the two.
* `TypeDecl.FollowsRules` says what a declaration without a defect has, in terms of its fields,
  properties and methods.
* `TypeDecl.verdict_exact` puts these together. It also says that the order of the members does not
  matter to whether there is a defect, and what a member may not share with the other members.
-/

namespace Prologue

/-! ## First places -/

/-- The first item of the list with the property. -/
def FirstSuch {α : Type} (P : α → Prop) (xs : List α) (x : α) : Prop :=
  ∃ before after, xs = before ++ x :: after ∧ P x ∧ ∀ y ∈ before, ¬P y

/-- The first item of the list with the name of an earlier one. -/
def FirstRepeated {α : Type} (name : α → String) (xs : List α) (x : α) : Prop :=
  ∃ before after, xs = before ++ x :: after ∧ (∃ y ∈ before, name y = name x) ∧
    before.Pairwise (name · ≠ name ·)

theorem find?_eq_some_iff_firstSuch {α : Type} {test : α → Bool} {P : α → Prop}
    (decides : ∀ x, test x = true ↔ P x) {xs : List α} {x : α} :
    xs.find? test = some x ↔ FirstSuch P xs x := by
  simp only [List.find?_eq_some_iff_append, FirstSuch, Bool.not_eq_true', ← Bool.not_eq_true,
    decides]
  refine ⟨?_, ?_⟩
  · intro found
    obtain ⟨holds, before, after, split, others⟩ := found
    exact ⟨before, after, split, holds, others⟩
  · intro first
    obtain ⟨before, after, split, holds, others⟩ := first
    exact ⟨holds, before, after, split, others⟩

theorem firstRepeat?_eq_some_iff {names : List String} {n : String} :
    firstRepeat? names = some n ↔
      ∃ before after, names = before ++ n :: after ∧ n ∈ before ∧ before.Nodup := by
  suffices h : ∀ seen, firstRepeat?.go seen names = some n ↔
      ∃ before after, names = before ++ n :: after ∧ (n ∈ before ∨ n ∈ seen) ∧ before.Nodup ∧
        ∀ m ∈ before, m ∉ seen by
    simp [firstRepeat?, h []]
  intro seen
  induction names generalizing seen with
  | nil => simp [firstRepeat?.go]
  | cons m ms ih =>
      rw [firstRepeat?.go]
      by_cases repeats : m ∈ seen
      · rw [if_pos repeats, Option.some.injEq]
        refine ⟨?_, ?_⟩
        · intro same
          subst same
          exact ⟨[], ms, rfl, Or.inr repeats, .nil, List.forall_mem_nil _⟩
        · intro found
          obtain ⟨before, after, split, -, -, fresh⟩ := found
          cases before with
          | nil => exact (List.cons.inj split).1
          | cons b before =>
              obtain rfl := (List.cons.inj split).1
              exact absurd repeats (fresh m List.mem_cons_self)
      · rw [if_neg repeats, ih (m :: seen)]
        refine ⟨?_, ?_⟩
        · intro found
          obtain ⟨before, after, rfl, occurs, distinct, fresh⟩ := found
          simp only [List.mem_cons, not_or] at occurs fresh
          refine ⟨m :: before, after, rfl, ?_, ?_, ?_⟩
          · rw [List.mem_cons, or_assoc]
            exact or_left_comm.1 occurs
          · exact List.nodup_cons.2 ⟨fun listed => (fresh m listed).1 rfl, distinct⟩
          · exact List.forall_mem_cons.2 ⟨repeats, fun k listed => (fresh k listed).2⟩
        · intro found
          obtain ⟨before, after, split, occurs, distinct, fresh⟩ := found
          cases before with
          | nil =>
              obtain rfl := (List.cons.inj split).1
              exact absurd occurs (by simp [repeats])
          | cons b before =>
              obtain ⟨rfl, rfl⟩ := List.cons.inj split
              obtain ⟨first, others⟩ := List.nodup_cons.1 distinct
              refine ⟨before, after, rfl, ?_, others, fun k listed => ?_⟩
              · rw [List.mem_cons, or_assoc] at occurs
                rw [List.mem_cons]
                exact or_left_comm.1 occurs
              · rw [List.mem_cons, not_or]
                exact ⟨fun same => first (same ▸ listed), fresh k (List.mem_cons_of_mem _ listed)⟩

theorem firstRepeat?_map_eq_some_iff {α : Type} (name : α → String) {xs : List α} {n : String} :
    firstRepeat? (xs.map name) = some n ↔ ∃ x, FirstRepeated name xs x ∧ name x = n := by
  rw [firstRepeat?_eq_some_iff]
  refine ⟨?_, ?_⟩
  · intro found
    obtain ⟨before, after, split, occurs, distinct⟩ := found
    obtain ⟨front, back, rfl, rfl, others⟩ := List.map_eq_append_iff.1 split
    obtain ⟨x, rest, rfl, rfl, -⟩ := List.map_eq_cons_iff.1 others
    exact ⟨x, ⟨front, rest, rfl, List.mem_map.1 occurs, List.pairwise_map.1 distinct⟩, rfl⟩
  · intro first
    obtain ⟨x, ⟨before, after, rfl, occurs, distinct⟩, rfl⟩ := first
    exact ⟨before.map name, after.map name, List.map_append, List.mem_map.2 occurs,
      List.pairwise_map.2 distinct⟩

/-! ## The rules -/

/-- A type of the kind cannot have the member. -/
inductive TypeKind.Forbids : TypeKind → Member → Prop
  | interfaceField (f : Field) : Forbids .interfaceType (.field f)
  | interfaceConstructor (c : Constructor) : Forbids .interfaceType (.constructor c)
  | enumMember (m : Member) : (∀ text, m ≠ .verbatim text) → Forbids .enumType m

/-- A rule for declarations. -/
inductive Rule where
  | typeNamed
  | membersAllowed
  | membersNamed
  | fieldsDistinct
  | propertiesDistinct
deriving DecidableEq, Repr

namespace Rule

/-- The rules in the order in which they are gone through. -/
def inOrder : List Rule :=
  [typeNamed, membersAllowed, membersNamed, fieldsDistinct, propertiesDistinct]

/-- The declaration breaks the rule, which is reported as the defect. -/
inductive Broken (d : TypeDecl) : Rule → Defect → Prop
  | typeNamed : d.name = "" → Broken d typeNamed (.emptyName "type" "<anonymous>")
  | membersAllowed (m : Member) : FirstSuch d.kind.Forbids d.members m →
    Broken d membersAllowed (.unsupported m.label d.kind.keyword d.name)
  | membersNamed (m : Member) : FirstSuch (·.name? = some "") d.members m →
    Broken d membersNamed (.emptyName m.label d.name)
  | fieldsDistinct (f : Field) : FirstRepeated (·.name) d.fields f →
    Broken d fieldsDistinct (.duplicate "field" f.name d.name)
  | propertiesDistinct (p : Property) : FirstRepeated (·.name) d.properties p →
    Broken d propertiesDistinct (.duplicate "property" p.name d.name)

/-- What is found to break the rule. -/
def finding? (d : TypeDecl) : Rule → Option Defect
  | typeNamed => d.anonymous?
  | membersAllowed => d.unsupported?
  | membersNamed => d.unnamed?
  | fieldsDistinct => d.repeatedField?
  | propertiesDistinct => d.repeatedProperty?

end Rule

/-- The first rule that is broken is reported as the defect. -/
def TypeDecl.Reports (d : TypeDecl) (e : Defect) : Prop :=
  ∃ before rule after, Rule.inOrder = before ++ rule :: after ∧ rule.Broken d e ∧
    ∀ earlier ∈ before, ∀ other, ¬earlier.Broken d other

/-- What a declaration without a defect has. -/
structure TypeDecl.FollowsRules (d : TypeDecl) : Prop where
  named : d.name ≠ ""
  interfaces : d.kind = .interfaceType → d.fields = [] ∧ d.constructors = []
  enumerations : d.kind = .enumType → ∀ m ∈ d.members, ∃ text, m = .verbatim text
  fieldsNamed : ∀ f ∈ d.fields, f.name ≠ ""
  propertiesNamed : ∀ p ∈ d.properties, p.name ≠ ""
  methodsNamed : ∀ m ∈ d.methods, m.name ≠ ""
  fieldsDistinct : d.fields.Pairwise (·.name ≠ ·.name)
  propertiesDistinct : d.properties.Pairwise (·.name ≠ ·.name)

/-- A declaration without a defect has none with the member either. The name of a field must be new
among the fields and that of a property among the properties, and no other name matters. -/
structure TypeDecl.Admits (d : TypeDecl) (m : Member) : Prop where
  allowed : ¬d.kind.Forbids m
  named : m.name? ≠ some ""
  newField : ∀ f, m = .field f → ∀ g ∈ d.fields, g.name ≠ f.name
  newProperty : ∀ p, m = .property p → ∀ q ∈ d.properties, q.name ≠ p.name

theorem TypeKind.forbids_iff {kind : TypeKind} {m : Member} :
    kind.Forbids m ↔ kind.allows m = false := by
  refine ⟨?_, ?_⟩
  · intro forbids
    cases forbids with
    | interfaceField f => rfl
    | interfaceConstructor c => rfl
    | enumMember m other =>
        cases m with
        | verbatim text => exact absurd rfl (other text)
        | _ => rfl
  · intro refused
    cases kind with
    | classType => cases refused
    | structType => cases refused
    | interfaceType =>
        cases m with
        | field f => exact .interfaceField f
        | constructor c => exact .interfaceConstructor c
        | _ => cases refused
    | enumType =>
        refine .enumMember m fun text same => ?_
        subst same
        cases refused

theorem TypeKind.not_forbids_iff {kind : TypeKind} {m : Member} :
    ¬kind.Forbids m ↔ kind.allows m = true := by
  rw [forbids_iff, Bool.not_eq_false]

/-! ## The defect that is reported -/

namespace Rule

variable {d : TypeDecl}

theorem broken_iff {rule : Rule} {e : Defect} :
    rule.Broken d e ↔ rule.finding? d = some e := by
  cases rule with
  | typeNamed =>
      simp only [finding?, TypeDecl.anonymous?, Option.ite_none_right_eq_some, Option.some.injEq]
      refine ⟨?_, ?_⟩
      · intro broken
        cases broken with
        | typeNamed unnamed => exact ⟨unnamed, rfl⟩
      · intro broken
        obtain ⟨unnamed, rfl⟩ := broken
        exact .typeNamed unnamed
  | membersAllowed =>
      have decides (m : Member) : (!d.kind.allows m) = true ↔ d.kind.Forbids m := by
        rw [TypeKind.forbids_iff, Bool.not_eq_true']
      simp only [finding?, TypeDecl.unsupported?, Option.map_eq_some_iff,
        find?_eq_some_iff_firstSuch decides]
      refine ⟨?_, ?_⟩
      · intro broken
        cases broken with
        | membersAllowed m first => exact ⟨m, first, rfl⟩
      · intro broken
        obtain ⟨m, first, rfl⟩ := broken
        exact .membersAllowed m first
  | membersNamed =>
      have decides (m : Member) : (m.name? == some "") = true ↔ m.name? = some "" := beq_iff_eq
      simp only [finding?, TypeDecl.unnamed?, Option.map_eq_some_iff,
        find?_eq_some_iff_firstSuch decides]
      refine ⟨?_, ?_⟩
      · intro broken
        cases broken with
        | membersNamed m first => exact ⟨m, first, rfl⟩
      · intro broken
        obtain ⟨m, first, rfl⟩ := broken
        exact .membersNamed m first
  | fieldsDistinct =>
      simp only [finding?, TypeDecl.repeatedField?, Option.map_eq_some_iff,
        firstRepeat?_map_eq_some_iff]
      refine ⟨?_, ?_⟩
      · intro broken
        cases broken with
        | fieldsDistinct f first => exact ⟨f.name, ⟨f, first, rfl⟩, rfl⟩
      · intro broken
        obtain ⟨_, ⟨f, first, rfl⟩, rfl⟩ := broken
        exact .fieldsDistinct f first
  | propertiesDistinct =>
      simp only [finding?, TypeDecl.repeatedProperty?, Option.map_eq_some_iff,
        firstRepeat?_map_eq_some_iff]
      refine ⟨?_, ?_⟩
      · intro broken
        cases broken with
        | propertiesDistinct p first => exact ⟨p.name, ⟨p, first, rfl⟩, rfl⟩
      · intro broken
        obtain ⟨_, ⟨p, first, rfl⟩, rfl⟩ := broken
        exact .propertiesDistinct p first

theorem finding?_eq_none_iff {rule : Rule} :
    rule.finding? d = none ↔ ∀ e, ¬rule.Broken d e := by
  simp only [Option.eq_none_iff_forall_ne_some, broken_iff, ne_eq]

end Rule

namespace TypeDecl

variable {d : TypeDecl}

theorem defect?_eq_findSome? (d : TypeDecl) :
    d.defect? = Rule.inOrder.findSome? (·.finding? d) := by
  simp only [defect?, Rule.inOrder, List.findSome?_cons, Rule.finding?, List.findSome?_nil]
  cases d.anonymous? <;> cases d.unsupported? <;> cases d.unnamed? <;> cases d.repeatedField? <;>
    cases d.repeatedProperty? <;> rfl

theorem defect?_eq_some_iff {e : Defect} : d.defect? = some e ↔ d.Reports e := by
  simp only [defect?_eq_findSome?, List.findSome?_eq_some_iff, Rule.finding?_eq_none_iff,
    ← Rule.broken_iff, Reports]

/-! ## The declarations without a defect -/

theorem forall_not_forbids_iff :
    (∀ m ∈ d.members, ¬d.kind.Forbids m) ↔
      (d.kind = .interfaceType → d.fields = [] ∧ d.constructors = []) ∧
        (d.kind = .enumType → ∀ m ∈ d.members, ∃ text, m = .verbatim text) := by
  refine ⟨?_, ?_⟩
  · intro allowed
    refine ⟨fun kind => ⟨?_, ?_⟩, fun kind m listed => ?_⟩
    · refine List.eq_nil_iff_forall_not_mem.2 fun f listed => ?_
      exact allowed (.field f) (mem_membersOf.1 listed) (kind ▸ .interfaceField f)
    · refine List.eq_nil_iff_forall_not_mem.2 fun c listed => ?_
      exact allowed (.constructor c) (mem_membersOf.1 listed) (kind ▸ .interfaceConstructor c)
    · by_contra other
      exact allowed m listed (kind ▸ .enumMember m (not_exists.1 other))
  · intro rules m listed forbids
    obtain ⟨interfaces, enumerations⟩ := rules
    generalize kind : d.kind = k at forbids
    cases forbids with
    | interfaceField f =>
        have declared : f ∈ d.fields := mem_membersOf.2 listed
        rw [(interfaces kind).1] at declared
        cases declared
    | interfaceConstructor c =>
        have declared : c ∈ d.constructors := mem_membersOf.2 listed
        rw [(interfaces kind).2] at declared
        cases declared
    | enumMember m other =>
        obtain ⟨text, verbatim⟩ := enumerations kind m listed
        exact other text verbatim

theorem forall_named_iff :
    (∀ m ∈ d.members, m.name? ≠ some "") ↔
      (∀ f ∈ d.fields, f.name ≠ "") ∧ (∀ p ∈ d.properties, p.name ≠ "") ∧
        ∀ m ∈ d.methods, m.name ≠ "" := by
  refine ⟨?_, ?_⟩
  · intro named
    refine ⟨fun f listed unnamed => ?_, fun p listed unnamed => ?_, fun m listed unnamed => ?_⟩
    · exact named (.field f) (mem_membersOf.1 listed) (congrArg some unnamed)
    · exact named (.property p) (mem_membersOf.1 listed) (congrArg some unnamed)
    · exact named (.method m) (mem_membersOf.1 listed) (congrArg some unnamed)
  · intro named m listed unnamed
    obtain ⟨fields, properties, methods⟩ := named
    cases m with
    | field f => exact fields f (mem_membersOf.2 listed) (Option.some.inj unnamed)
    | property p => exact properties p (mem_membersOf.2 listed) (Option.some.inj unnamed)
    | method m => exact methods m (mem_membersOf.2 listed) (Option.some.inj unnamed)
    | constructor c => cases unnamed
    | verbatim text => cases unnamed

theorem wellFormed_iff_followsRules : d.WellFormed ↔ d.FollowsRules := by
  refine ⟨?_, ?_⟩
  · intro fine
    obtain ⟨interfaces, enumerations⟩ := forall_not_forbids_iff.1 fun m listed =>
      TypeKind.not_forbids_iff.2 (fine.allowed m listed)
    obtain ⟨fields, properties, methods⟩ := forall_named_iff.1 fine.membersNamed
    exact ⟨fine.named, interfaces, enumerations, fields, properties, methods,
      List.pairwise_map.1 fine.fieldsDistinct, List.pairwise_map.1 fine.propertiesDistinct⟩
  · intro rules
    refine ⟨rules.named, fun m listed => TypeKind.not_forbids_iff.1 ?_, ?_, ?_, ?_⟩
    · exact forall_not_forbids_iff.2 ⟨rules.interfaces, rules.enumerations⟩ m listed
    · exact forall_named_iff.2 ⟨rules.fieldsNamed, rules.propertiesNamed, rules.methodsNamed⟩
    · exact List.pairwise_map.2 rules.fieldsDistinct
    · exact List.pairwise_map.2 rules.propertiesDistinct

/-! ## Other orders, and one member more -/

theorem WellFormed.perm (fine : d.WellFormed) {members : List Member}
    (order : members.Perm d.members) : WellFormed { d with members } := by
  have fields : (fields { d with members }).Perm d.fields := order.filterMap _
  have properties : (properties { d with members }).Perm d.properties := order.filterMap _
  refine ⟨fine.named, fun m listed => ?_, fun m listed => ?_, ?_, ?_⟩
  · exact fine.allowed m (order.subset listed)
  · exact fine.membersNamed m (order.subset listed)
  · exact (fields.map _).nodup_iff.2 fine.fieldsDistinct
  · exact (properties.map _).nodup_iff.2 fine.propertiesDistinct

theorem wellFormed_perm_iff {members : List Member} (order : members.Perm d.members) :
    WellFormed { d with members } ↔ d.WellFormed :=
  ⟨fun fine => fine.perm order.symm, fun fine => fine.perm order⟩

/-- Where a member comes in front, its name must be new among the members of its kind. -/
theorem nodup_names_cons {α : Type} [MemberKind α] (name : α → String) (m : Member)
    (ms : List Member) :
    ((membersOf α { d with members := m :: ms }).map name).Nodup ↔
      ((membersOf α { d with members := ms }).map name).Nodup ∧
        ∀ a, m = MemberKind.toMember a →
          ∀ b ∈ membersOf α { d with members := ms }, name b ≠ name a := by
  cases kind : MemberKind.ofMember? (α := α) m with
  | none =>
      have other (a : α) : m ≠ MemberKind.toMember a := by
        rw [ne_eq, ← MemberKind.ofMember?_eq_some_iff, kind]
        exact nofun
      simp [membersOf, kind, other]
  | some a =>
      have same (b : α) : m = MemberKind.toMember b ↔ a = b := by
        rw [← MemberKind.ofMember?_eq_some_iff, kind, Option.some.injEq]
      have whole : membersOf α { d with members := m :: ms } =
          a :: membersOf α { d with members := ms } := List.filterMap_cons_some kind
      simp only [whole, same, forall_eq', List.map_cons, List.nodup_cons, List.mem_map, not_exists,
        not_and]
      exact And.comm

theorem wellFormed_cons_iff {m : Member} {ms : List Member} :
    WellFormed { d with members := m :: ms } ↔
      WellFormed { d with members := ms } ∧ Admits { d with members := ms } m := by
  refine ⟨?_, ?_⟩
  · intro fine
    obtain ⟨fields, newField⟩ := (nodup_names_cons Field.name m ms).1 fine.fieldsDistinct
    obtain ⟨properties, newProperty⟩ :=
      (nodup_names_cons Property.name m ms).1 fine.propertiesDistinct
    obtain ⟨here, allowed⟩ := List.forall_mem_cons.1 fine.allowed
    obtain ⟨first, named⟩ := List.forall_mem_cons.1 fine.membersNamed
    exact ⟨⟨fine.named, allowed, named, fields, properties⟩,
      ⟨TypeKind.not_forbids_iff.2 here, first, newField, newProperty⟩⟩
  · intro both
    obtain ⟨fine, admits⟩ := both
    refine ⟨fine.named, ?_, ?_, ?_, ?_⟩
    · exact List.forall_mem_cons.2 ⟨TypeKind.not_forbids_iff.1 admits.allowed, fine.allowed⟩
    · exact List.forall_mem_cons.2 ⟨admits.named, fine.membersNamed⟩
    · exact (nodup_names_cons Field.name m ms).2 ⟨fine.fieldsDistinct, admits.newField⟩
    · exact (nodup_names_cons Property.name m ms).2 ⟨fine.propertiesDistinct, admits.newProperty⟩

/-- **The verdict.** A declaration has no defect exactly if it follows the rules, and otherwise
the first rule that it breaks is reported. The order of the members does not matter to whether there
is a defect. A member more makes no defect exactly if its type can have it, it has a name where its
kind has names, and no field has its name if it is a field, and no property if it is a property. -/
theorem verdict_exact (d : TypeDecl) :
    (d.defect? = none ↔ d.FollowsRules) ∧
      (∀ e, d.defect? = some e ↔ d.Reports e) ∧
      (∀ members, members.Perm d.members →
        (defect? { d with members } = none ↔ d.defect? = none)) ∧
      ∀ before m after, d.members = before ++ after →
        (defect? { d with members := before ++ m :: after } = none ↔
          d.defect? = none ∧ d.Admits m) := by
  refine ⟨?_, fun e => defect?_eq_some_iff, fun members order => ?_,
    fun before m after split => ?_⟩
  · rw [defect?_eq_none_iff, wellFormed_iff_followsRules]
  · rw [defect?_eq_none_iff, defect?_eq_none_iff, wellFormed_perm_iff order]
  · have front : (before ++ m :: after).Perm (m :: d.members) := split ▸ List.perm_middle
    rw [defect?_eq_none_iff, defect?_eq_none_iff,
      wellFormed_perm_iff (d := { d with members := m :: d.members }) front, wellFormed_cons_iff]

/-- A structure that breaks three rules, the last one first. -/
def tangle : TypeDecl where
  name := "Tangle"
  kind := .structType
  members :=
    [.property ⟨"Ends", "int", [], []⟩, .property ⟨"Ends", "int", [], []⟩, .method { name := "" },
     .field ⟨"_ends", "int", none⟩, .field ⟨"_ends", "int", none⟩]

/-- A class in which a field and a property have one name. -/
def nameTag : TypeDecl where
  name := "NameTag"
  members := [.field ⟨"Name", "string", none⟩, .property ⟨"Name", "string", [], []⟩]

theorem tangle_verdict_exact :
    tangle.defect? = some (.emptyName "method" "Tangle") ∧
      defect? { nameTag with members := nameTag.members.reverse } = none ∧
      defect? { nameTag with
        members :=
          nameTag.members.take 1 ++ .method { name := "Name" } :: nameTag.members.drop 1 } =
        none := by
  have sound : nameTag.defect? = none := by decide
  have broken : Rule.membersNamed.Broken tangle (.emptyName "method" "Tangle") :=
    .membersNamed (.method { name := "" })
      ⟨tangle.members.take 2, tangle.members.drop 3, rfl, rfl, by decide⟩
  have reports : tangle.Reports (.emptyName "method" "Tangle") := by
    refine ⟨[.typeNamed, .membersAllowed], .membersNamed, [.fieldsDistinct, .propertiesDistinct],
      rfl, broken, ?_⟩
    simp only [← Rule.finding?_eq_none_iff]
    decide
  have admits : nameTag.Admits (.method { name := "Name" }) :=
    ⟨nofun, by decide, nofun, nofun⟩
  refine ⟨((verdict_exact tangle).2.1 _).2 reports, ?_, ?_⟩
  · exact ((verdict_exact nameTag).2.2.1 _ (List.reverse_perm _)).2 sound
  · exact ((verdict_exact nameTag).2.2.2 _ _ _ rfl).2 ⟨sound, admits⟩

end TypeDecl

end Prologue
