/-
What it means for a value to conform to a node, said without failures, and
that a check finds nothing wrong with exactly the values that conform.

`Conforms` is a derivation of acceptance: every rule names what one form of
node asks for. A check instead gathers failures and goes on, past a bad key, a
missing field or a repeated item, so for each container the list of what was
found is shown to be empty only if nothing was passed over
(`ArrayRule.failures_eq_nil_iff`, `HashRule.failures_eq_nil_iff`,
`RecordRule.failures_eq_nil_iff`).
-/
import RecordSchema.Proofs.Leaf.Accept
import RecordSchema.Proofs.Node.Shape

namespace RecordSchema

/-- A field of a record is set: present, not null, and none of the texts that leave it unset. -/
def RecordRule.IsSet (record : Members Json) (name : String) : Prop :=
  ∃ v, Members.get? record name = some v ∧ v.isNull = false ∧ ∀ s ∈ unsetTexts, v ≠ .string s

/-- A value is of the form a node describes. -/
inductive Node.Conforms : Node → Json → Prop where
  /-- Null, where it stands for an absent value. -/
  | absent {n} (optional : n.isOptional = true) : Conforms n .null
  | leaf {l v} (checked : l.check v = .ok ()) : Conforms (.leaf l) v
  | array {rule child items} (each : ∀ v ∈ items, Conforms child v)
      (distinct : rule.mode = .unique → items.Pairwise fun v w => v.same w = false)
      (least : ∀ lo, rule.minimum = some lo → lo ≤ items.length)
      (most : ∀ hi, rule.maximum = some hi → items.length ≤ hi) :
      Conforms (.array rule child) (.array items)
  | hash {rule child members} (keys : ∀ e ∈ members, rule.key.check (.string e.1) = .ok ())
      (each : ∀ e ∈ members, Conforms child e.2) : Conforms (.hash rule child) (.object members)
  | options {alternatives n v} (mem : n ∈ alternatives) (conforms : Conforms n v) :
      Conforms (.options alternatives) v
  | record {rule fields members} (declared : ∀ key ∈ Members.keys members, key ∈ Members.keys fields)
      (absent : ∀ e ∈ fields, (∀ v, Members.get? members e.1 = some v → v.isNull = true) →
        e.2.isOptional = true)
      (each : ∀ e ∈ fields, ∀ v, Members.get? members e.1 = some v → v.isNull = false → Conforms e.2 v)
      (needs : ∀ e ∈ fields, ∀ v, Members.get? members e.1 = some v → v.isNull = false →
        ∀ others, Members.get? rule.requires e.1 = some others →
          ∀ other ∈ others, RecordRule.IsSet members other) :
      Conforms (.record rule fields) (.object members)

/-- A check passes exactly the values of a property, at every path. -/
def Checker.Decides (check : Checker) (P : Json → Prop) : Prop := ∀ v path, check v path = [] ↔ P v

/-! ## Lists -/

namespace ArrayRule

/-- Nothing is wrong with items if each one passes and, in unique mode, none repeats one of those
seen before or of the items themselves. -/
theorem itemFailures_eq_nil_iff {child : Checker} {P : Json → Prop} (hc : child.Decides P)
    (mode : ArrayMode) (path : Path) (items : List Json) : ∀ (i : Nat) (seen : List (Nat × Json)),
    itemFailures mode child path i seen items = [] ↔
      (∀ v ∈ items, P v) ∧ (mode = .unique → (∀ e ∈ seen, ∀ v ∈ items, e.2.same v = false) ∧
        items.Pairwise fun v w => v.same w = false) := by
  induction items with
  | nil => simp [itemFailures]
  | cons v vs ih =>
    intro i seen
    rw [itemFailures]
    split
    · next f fs hf =>
      have hv : ¬ P v := fun hp => by simp [(hc v (path.index i)).2 hp] at hf
      simp [hv]
    · next hv =>
      have hv := (hc _ _).1 hv
      split
      · next hmode =>
        split
        · next first w hfind =>
          have hmem := List.mem_of_find?_eq_some hfind
          have hsame := List.find?_some hfind
          simp only [reduceCtorEq, false_iff]
          rintro ⟨-, h⟩
          simp [(h hmode).1 _ hmem v (by simp)] at hsame
        · next hfind =>
          rw [List.find?_eq_none] at hfind
          rw [ih]
          simp only [hmode, hv, List.forall_mem_cons, List.forall_mem_append, List.pairwise_cons,
            true_and, forall_const, Bool.not_eq_true, List.not_mem_nil, false_implies,
            implies_true, and_true] at hfind ⊢
          exact ⟨fun ⟨h1, ⟨h2, h3⟩, h4⟩ => ⟨h1, fun e he => ⟨hfind e he, h2 e he⟩, h3, h4⟩,
            fun ⟨h1, h2, h3, h4⟩ => ⟨h1, ⟨fun e he => (h2 e he).2, h3⟩, h4⟩⟩
      · next hmode => rw [ih]; simp [hmode, hv]

theorem countFailures_eq_nil_iff (rule : ArrayRule) (count : Nat) (path : Path) :
    rule.countFailures count path = [] ↔
      (∀ lo, rule.minimum = some lo → lo ≤ count) ∧ (∀ hi, rule.maximum = some hi → count ≤ hi) := by
  rw [countFailures, List.append_eq_nil_iff]
  refine and_congr ?_ ?_
  · cases rule.minimum <;> simp
  · cases rule.maximum <;> simp

theorem failures_eq_nil_iff (rule : ArrayRule) {child : Checker} {P : Json → Prop}
    (hc : child.Decides P) (v : Json) (path : Path) :
    rule.failures child v path = [] ↔ (v = .null ∧ rule.annotations.optional = true) ∨
      ∃ items, v = .array items ∧ (∀ w ∈ items, P w) ∧
        (rule.mode = .unique → items.Pairwise fun v w => v.same w = false) ∧
        (∀ lo, rule.minimum = some lo → lo ≤ items.length) ∧
        (∀ hi, rule.maximum = some hi → items.length ≤ hi) := by
  unfold failures
  split
  · next h => simp [Json.absent_iff.1 h]
  · next h =>
    rw [Json.absent_iff] at h
    cases v with
    | array items =>
      rw [List.append_eq_nil_iff, itemFailures_eq_nil_iff hc, countFailures_eq_nil_iff]
      simp [and_assoc]
    | _ => simp_all

end ArrayRule

/-! ## Hashes -/

theorem HashRule.failures_eq_nil_iff (rule : HashRule) {child : Checker} {P : Json → Prop}
    (hc : child.Decides P) (v : Json) (path : Path) :
    rule.failures child v path = [] ↔ (v = .null ∧ rule.annotations.optional = true) ∨
      ∃ members, v = .object members ∧ (∀ e ∈ members, rule.key.check (.string e.1) = .ok ()) ∧
        ∀ e ∈ members, P e.2 := by
  have hentry : ∀ key w, rule.entryFailures child path key w = [] ↔
      rule.key.check (.string key) = .ok () ∧ P w := by
    intro key w
    rw [entryFailures, ← Leaf.accepts_string_iff]
    split
    · next h => simp [h, hc w (path.field key)]
    · next h => simp [h]
  unfold failures
  split
  · next h => simp [Json.absent_iff.1 h]
  · next h =>
    rw [Json.absent_iff] at h
    cases v with
    | object members =>
      simp only [List.flatMap_eq_nil_iff, hentry]
      simp [forall_and]
    | _ => simp_all

/-! ## Records -/

namespace RecordRule

theorem isUnset_eq_false_iff {record : Members Json} {name : String} :
    isUnset (Members.get? record name) = false ↔ IsSet record name := by
  rw [IsSet]
  cases Members.get? record name with
  | none => simp [isUnset]
  | some v => cases v <;> simp [isUnset, Json.isNull, List.forall_mem_ne]

theorem present?_eq_some_iff {record : Members Json} {name : String} {v : Json} :
    present? record name = some v ↔ Members.get? record name = some v ∧ v.isNull = false := by
  simp [present?, Option.filter_eq_some_iff]

theorem present?_eq_none_iff {record : Members Json} {name : String} :
    present? record name = none ↔ ∀ v, Members.get? record name = some v → v.isNull = true := by
  simp [present?, Option.filter_eq_none_iff]

theorem needFailures_eq_nil_iff (rule : RecordRule) (record : Members Json) (name : String) (path : Path) :
    rule.needFailures record name path = [] ↔
      ∀ others, Members.get? rule.requires name = some others → ∀ other ∈ others, IsSet record other := by
  simp only [needFailures, List.map_eq_nil_iff, List.filter_eq_nil_iff, Bool.not_eq_true,
    isUnset_eq_false_iff]
  cases Members.get? rule.requires name <;> simp

theorem fieldFailures_eq_nil_iff (rule : RecordRule) {check : FieldCheck} {P : Json → Prop}
    (hc : check.failures.Decides P) (record : Members Json) (path : Path) (name : String) :
    rule.fieldFailures record path name check = [] ↔
      ((∀ v, Members.get? record name = some v → v.isNull = true) → check.optional = true) ∧
      (∀ v, Members.get? record name = some v → v.isNull = false → P v) ∧
      (∀ v, Members.get? record name = some v → v.isNull = false →
        ∀ others, Members.get? rule.requires name = some others →
          ∀ other ∈ others, IsSet record other) := by
  rw [fieldFailures]
  split
  · next h =>
    rw [present?_eq_none_iff] at h
    split
    · next ho => simp_all
    · next ho => simp_all
  · next v h =>
    rw [present?_eq_some_iff] at h
    split
    · next hv => simp [h, needFailures_eq_nil_iff, (hc v _).1 hv]
    · next fs hne =>
      have hv : ¬ P v := fun hp => hne ((hc v _).2 hp)
      simp [h, hv]
      exact hne

theorem undeclaredFailures_eq_nil_iff (names : List String) (record : Members Json) (path : Path) :
    undeclaredFailures names record path = [] ↔ ∀ key ∈ Members.keys record, key ∈ names := by
  simp [undeclaredFailures]

theorem failures_eq_nil_iff (rule : RecordRule) {checks : List (String × FieldCheck)}
    {P : String × FieldCheck → Json → Prop} (hc : ∀ c ∈ checks, c.2.failures.Decides (P c)) (v : Json)
    (path : Path) :
    rule.failures checks v path = [] ↔ (v = .null ∧ rule.annotations.optional = true) ∨
      ∃ record, v = .object record ∧ (∀ key ∈ Members.keys record, key ∈ Members.keys checks) ∧
        (∀ c ∈ checks, (∀ w, Members.get? record c.1 = some w → w.isNull = true) →
          c.2.optional = true) ∧
        (∀ c ∈ checks, ∀ w, Members.get? record c.1 = some w → w.isNull = false → P c w) ∧
        (∀ c ∈ checks, ∀ w, Members.get? record c.1 = some w → w.isNull = false →
          ∀ others, Members.get? rule.requires c.1 = some others →
            ∀ other ∈ others, IsSet record other) := by
  unfold failures
  split
  · next h => simp [Json.absent_iff.1 h]
  · next h =>
    rw [Json.absent_iff] at h
    cases v with
    | object record =>
      rw [List.append_eq_nil_iff, undeclaredFailures_eq_nil_iff, List.flatMap_eq_nil_iff,
        forall₂_congr fun c hmem => fieldFailures_eq_nil_iff rule (hc c hmem) record path c.1]
      simp only [forall_and, reduceCtorEq, false_and, Json.object.injEq, false_or, exists_eq_left']
      exact and_comm
    | _ => simp_all

end RecordRule

/-! ## Nodes -/

namespace Node

theorem decides_leaf (l : Leaf) : Checker.Decides (leaf l).failures (Conforms (leaf l)) := by
  intro v path
  rw [failures, Leaf.failures_eq_nil_iff]
  constructor
  · rintro (⟨rfl, h⟩ | h)
    · exact .absent h
    · exact .leaf h
  · intro h
    cases h with
    | absent h => exact .inl ⟨rfl, h⟩
    | leaf h => exact .inr h

theorem decides_array (rule : ArrayRule) {child : Node}
    (ih : Checker.Decides child.failures (Conforms child)) :
    Checker.Decides (array rule child).failures (Conforms (array rule child)) := by
  intro v path
  rw [failures, ArrayRule.failures_eq_nil_iff rule ih]
  constructor
  · rintro (⟨rfl, h⟩ | ⟨items, rfl, each, distinct, least, most⟩)
    · exact .absent h
    · exact .array each distinct least most
  · intro h
    cases h with
    | absent h => exact .inl ⟨rfl, h⟩
    | array each distinct least most => exact .inr ⟨_, rfl, each, distinct, least, most⟩

theorem decides_hash (rule : HashRule) {child : Node}
    (ih : Checker.Decides child.failures (Conforms child)) :
    Checker.Decides (hash rule child).failures (Conforms (hash rule child)) := by
  intro v path
  rw [failures, HashRule.failures_eq_nil_iff rule ih]
  constructor
  · rintro (⟨rfl, h⟩ | ⟨members, rfl, keys, each⟩)
    · exact .absent h
    · exact .hash keys each
  · intro h
    cases h with
    | absent h => exact .inl ⟨rfl, h⟩
    | hash keys each => exact .inr ⟨_, rfl, keys, each⟩

theorem any_checkers_iff {alternatives : List Node}
    (ih : ∀ n ∈ alternatives, Checker.Decides n.failures (Conforms n)) (v : Json) (path : Path) :
    ((checkers alternatives).any fun check => (check v path).isEmpty) = true ↔
      ∃ n ∈ alternatives, Conforms n v := by
  rw [checkers_eq, List.any_map, List.any_eq_true]
  exact exists_congr fun n => and_congr_right fun hn => by simp [← ih n hn v path]

theorem decides_options {alternatives : List Node}
    (ih : ∀ n ∈ alternatives, Checker.Decides n.failures (Conforms n)) :
    Checker.Decides (options alternatives).failures (Conforms (options alternatives)) := by
  intro v path
  unfold failures
  split
  · next h =>
    obtain ⟨rfl, h⟩ := Json.absent_iff.1 h
    simpa using Conforms.absent (n := .options alternatives) h
  · next h =>
    rw [Json.absent_iff] at h
    split
    · next hm =>
      obtain ⟨n, hn, hv⟩ := (any_checkers_iff ih v path).1 hm
      simpa using Conforms.options hn hv
    · next hm =>
      simp only [reduceCtorEq, false_iff]
      intro hv
      cases hv with
      | absent ho => exact h ⟨rfl, ho⟩
      | options hn hv => exact hm ((any_checkers_iff ih v path).2 ⟨_, hn, hv⟩)

theorem decides_record (rule : RecordRule) {fields : List (String × Node)}
    (ih : ∀ e ∈ fields, Checker.Decides e.2.failures (Conforms e.2)) :
    Checker.Decides (record rule fields).failures (Conforms (record rule fields)) := by
  intro v path
  have hc :
      ∀ c ∈ fieldChecks fields, Checker.Decides c.2.failures fun w => c.2.failures w .root = [] := by
    rw [fieldChecks_eq, List.forall_mem_map]
    exact fun e he w path => (ih e he w path).trans (ih e he w .root).symm
  rw [failures, RecordRule.failures_eq_nil_iff rule hc, keys_fieldChecks]
  simp only [fieldChecks_eq, List.forall_mem_map]
  constructor
  · rintro (⟨rfl, h⟩ | ⟨record, rfl, declared, absent, each, needs⟩)
    · exact .absent h
    · exact .record declared absent (fun e he w hw hn => (ih e he w .root).1 (each e he w hw hn)) needs
  · intro h
    cases h with
    | absent h => exact .inl ⟨rfl, h⟩
    | record declared absent each needs =>
      exact .inr ⟨_, rfl, declared, absent,
        fun e he w hw hn => (ih e he w .root).2 (each e he w hw hn), needs⟩

theorem decides_conforms (n : Node) : Checker.Decides n.failures (Conforms n) := by
  induction n with
  | leaf l => exact decides_leaf l
  | array rule child ih => exact decides_array rule ih
  | hash rule child ih => exact decides_hash rule ih
  | options alternatives ih => exact decides_options ih
  | record rule fields ih => exact decides_record rule ih

/-- **A check passes exactly the values that conform**, at whatever path it starts. -/
theorem failures_eq_nil_iff_conforms (n : Node) (v : Json) (path : Path) :
    n.failures v path = [] ↔ n.Conforms v :=
  decides_conforms n v path

end Node

end RecordSchema
