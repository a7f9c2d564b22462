/-
What holds of every node that can be made: its annotations, leaves, counts and
fields go together (`Coherent`), whatever fragment it is compiled from and
however it is changed afterwards (`Reachable.coherent`).

Compiling looks at a member of a fragment together with the node of its
value, so the induction over fragments is carried by what holds of a list of
such members (`Member.Sound`), which selecting some of them keeps.
-/
import RecordSchema.Proofs.Json.Parser
import RecordSchema.Proofs.Leaf.Coherent
import RecordSchema.Proofs.Node.Setters
import RecordSchema.Proofs.Node.Shape

namespace RecordSchema

/-! ## Rules -/

structure ArrayRule.Coherent (rule : ArrayRule) : Prop where
  annotations : rule.annotations.Coherent
  minimum : ∀ n, rule.minimum = some n → n < Number.int64Bound
  maximum : ∀ n, rule.maximum = some n → n < Number.int64Bound
  ordered : ArrayRule.inverted rule.minimum rule.maximum = false

structure HashRule.Coherent (rule : HashRule) : Prop where
  annotations : rule.annotations.Coherent
  key : rule.key.Coherent

/-- The rule of a record goes together with the names of its fields. -/
structure RecordRule.Coherent (rule : RecordRule) (names : List String) : Prop where
  annotations : rule.annotations.Coherent
  isField : ∀ name ∈ names, Name.isField name = true
  nodup : names.Nodup
  known : RecordRule.unknownField? names rule.requires = none

namespace ArrayRule

theorem countOr_eq_ok {directive : String} {given : Option Json} {old new : Option Nat}
    (h : countOr directive given old = .ok new) :
    new = old ∨ ∃ n, new = some n ∧ n < Number.int64Bound := by
  unfold countOr at h
  split at h
  · cases h; exact .inl rfl
  · obtain ⟨n, hn, rfl⟩ := Except.map_eq_ok_iff.1 h
    unfold countOf at hn
    split at hn
    · split at hn
      · next hbounds => cases hn; exact .inr ⟨_, rfl, by omega⟩
      · cases hn
    · cases hn

theorem setBounds_eq_ok {rule rule' : ArrayRule} {minimum maximum : Option Json}
    (h : rule.setBounds minimum maximum = .ok rule') :
    ∃ lo hi, countOr "__minimum__" minimum rule.minimum = .ok lo ∧
      countOr "__maximum__" maximum rule.maximum = .ok hi ∧ inverted lo hi = false ∧
        rule' = { rule with minimum := lo, maximum := hi } := by
  rw [setBounds, Change.changed, perform_assignBounds, Change.outcome_settle] at h
  split at h
  · cases h
  · next lo hlo =>
    split at h
    · cases h
    · next hi hhi =>
      split at h
      · cases h
      · next hinv => cases h; exact ⟨lo, hi, hlo, hhi, by simpa using hinv, rfl⟩

theorem Coherent.setBounds {rule rule' : ArrayRule} (h : rule.Coherent) {minimum maximum : Option Json}
    (hs : rule.setBounds minimum maximum = .ok rule') : rule'.Coherent := by
  obtain ⟨lo, hi, hlo, hhi, hinv, rfl⟩ := setBounds_eq_ok hs
  refine ⟨h.annotations, fun n hn => ?_, fun n hn => ?_, hinv⟩
  · rcases countOr_eq_ok hlo with rfl | ⟨m, rfl, hm⟩
    · exact h.minimum n hn
    · cases hn; exact hm
  · rcases countOr_eq_ok hhi with rfl | ⟨m, rfl, hm⟩
    · exact h.maximum n hn
    · cases hn; exact hm

end ArrayRule

theorem ArraySettings.coherent_rule {s : ArraySettings} {a : Annotations} (ha : a.Coherent)
    {rule : ArrayRule}
    (h : s.rule a = .ok rule) : rule.Coherent := by
  have hplain : ArrayRule.Coherent ⟨a, s.mode, none, none⟩ := ⟨ha, by simp, by simp, rfl⟩
  exact hplain.setBounds h

theorem ArraySettings.coherent_annotations (s : ArraySettings) {m : Members Json}
    (hn : (Members.keys m).Nodup) :
    (s.annotations m).Coherent := by
  have h := Annotations.coherent_ofMembers hn
  unfold ArraySettings.annotations
  dsimp only
  split
  · exact h
  · exact ⟨h.free, h.nodup⟩

theorem HashRule.coherent_keyOf {v : Json} (hv : v.WellFormed) {l : Leaf} (h : HashRule.keyOf v = .ok l) :
    l.Coherent := by
  unfold HashRule.keyOf at h
  split at h
  · exact Leaf.coherent_ofKindName h
  · exact Leaf.coherent_ofKindName h
  · exact Leaf.coherent_ofMembers hv.nodup_keys hv.member h
  · cases h

namespace Node

/-- The parts of the node itself go together; of the nodes below it nothing is said. -/
def Coherent : Node → Prop
  | leaf l => l.Coherent
  | array rule _ => rule.Coherent
  | hash rule _ => rule.Coherent
  | options alternatives => alternatives ≠ []
  | record rule fields => rule.Coherent (Members.keys fields)

end Node

/-! ## Members -/

/-- Members of one object, each with what its value is compiled to. -/
structure Member.Sound (ms : Members Member) : Prop where
  nodup : (Members.keys ms).Nodup
  wellFormed : ∀ e ∈ ms, e.2.value.WellFormed
  coherent : ∀ e ∈ ms, ∀ n, e.2.node = .ok n → n.Everywhere Node.Coherent

namespace Member

variable {ms : Members Member}

theorem Sound.filter (h : Sound ms) (p : String × Member → Bool) : Sound (ms.filter p) where
  nodup := h.nodup.sublist (List.filter_sublist.map _)
  wellFormed e he := h.wellFormed e (List.mem_filter.1 he).1
  coherent e he := h.coherent e (List.mem_filter.1 he).1

theorem Sound.nodup_values (h : Sound ms) : (Members.keys (values ms)).Nodup := by
  rw [values, Members.keys_mapValues]
  exact h.nodup

theorem Sound.wellFormed_values (h : Sound ms) : ∀ e ∈ values ms, e.2.WellFormed := by
  intro e he
  obtain ⟨e', he', rfl⟩ := List.mem_map.1 he
  exact h.wellFormed e' he'

end Member

/-! ## Compiling -/

namespace Node

theorem fieldsOf_eq_ok {ms : List (String × Member)} {fields : List (String × Node)}
    (h : fieldsOf ms = .ok fields) : Members.keys fields = Members.keys ms ∧
      (∀ name ∈ Members.keys fields, Name.isField name = true) ∧
        ∀ e ∈ fields, ∃ e' ∈ ms, e'.2.node = .ok e.2 := by
  induction ms generalizing fields with
  | nil => cases h; simp [Members.keys]
  | cons e' rest ih =>
    obtain ⟨name, m⟩ := e'
    rw [fieldsOf] at h
    split at h
    · cases h
    · split at h
      · cases h
      · next hname =>
        split at h
        · cases h
        · next n hn =>
          obtain ⟨fields, hfields, rfl⟩ := Except.map_eq_ok_iff.1 h
          obtain ⟨hkeys, hisField, hnodes⟩ := ih hfields
          refine ⟨congrArg (name :: ·) hkeys, List.forall_mem_cons.2 ⟨by simpa using hname, hisField⟩,
            List.forall_mem_cons.2 ⟨⟨_, List.mem_cons_self .., hn⟩, fun e he => ?_⟩⟩
          obtain ⟨e', he', hn'⟩ := hnodes e he
          exact ⟨e', List.mem_cons_of_mem _ he', hn'⟩

variable {ms : Members Member} {n : Node}

theorem coherent_recordOf (hm : Member.Sound ms) {rule : RecordRule} {fields : List (String × Node)}
    (h : recordOf ms = .ok (rule, fields)) : (record rule fields).Everywhere Coherent := by
  simp only [recordOf, Except.bind_eq_ok_iff] at h
  obtain ⟨requires, -, fields', hfields, h⟩ := h
  split at h
  · cases h
  · next hknown =>
    cases h
    have hrest : Member.Sound (ms.remove "__require__") := hm.filter _
    have hstrip : Member.Sound (Annotations.strip (ms.remove "__require__")) := hrest.filter _
    obtain ⟨hkeys, hisField, hnodes⟩ := fieldsOf_eq_ok hfields
    refine everywhere_record.2 ⟨⟨Annotations.coherent_ofMembers hrest.nodup_values, hisField, ?_, hknown⟩,
      fun e he => ?_⟩
    · rw [hkeys]
      exact hstrip.nodup
    · obtain ⟨e', he', hn⟩ := hnodes e he
      exact hstrip.coherent e' he' _ hn

theorem coherent_bodyOf (hm : Member.Sound ms) (h : bodyOf ms = .ok n) : n.Everywhere Coherent := by
  unfold bodyOf at h
  split at h
  · next hget =>
    split at h
    · cases h
    · exact hm.coherent _ (Members.mem_of_get? hget) n h
  · next hget =>
    split at h
    · cases h
    · exact hm.coherent _ (Members.mem_of_get? hget) n h
  · obtain ⟨l, hl, rfl⟩ := Except.map_eq_ok_iff.1 h
    exact everywhere_leaf.2 (Leaf.coherent_ofMembers hm.nodup_values hm.wellFormed_values hl)
  · obtain ⟨⟨rule, fields⟩, hrecord, rfl⟩ := Except.map_eq_ok_iff.1 h
    exact coherent_recordOf hm hrecord

theorem coherent_hashOrBodyOf (hm : Member.Sound ms) (h : hashOrBodyOf ms = .ok n) :
    n.Everywhere Coherent := by
  unfold hashOrBodyOf at h
  split at h
  · next m hget =>
    have hrest : Member.Sound (ms.remove "__hash__") := hm.filter _
    simp only [hashOf, Except.bind_eq_ok_iff] at h
    obtain ⟨key, hkey, h⟩ := h
    split at h
    · cases h
    · obtain ⟨child, hchild, h⟩ := Except.bind_eq_ok_iff.1 h
      cases h
      have hkey := HashRule.coherent_keyOf (hm.wellFormed _ (Members.mem_of_get? hget)) hkey
      exact everywhere_hash.2 ⟨⟨Annotations.coherent_ofMembers hrest.nodup_values, hkey⟩,
        coherent_bodyOf (hrest.filter _) hchild⟩
  · exact coherent_bodyOf hm h

theorem coherent_ofMembers (hm : Member.Sound ms) (h : ofMembers ms = .ok n) : n.Everywhere Coherent := by
  unfold ofMembers at h
  split at h
  · next m hget =>
    have hrest : Member.Sound (ms.remove "__array__") := hm.filter _
    simp only [arrayOf, Except.bind_eq_ok_iff] at h
    obtain ⟨settings, -, h⟩ := h
    split at h
    · cases h
    · obtain ⟨child, hchild, h⟩ := Except.bind_eq_ok_iff.1 h
      obtain ⟨rule, hrule, h⟩ := Except.bind_eq_ok_iff.1 h
      cases h
      have hannotations := settings.coherent_annotations hrest.nodup_values
      exact everywhere_array.2 ⟨ArraySettings.coherent_rule hannotations hrule,
        coherent_hashOrBodyOf (hrest.filter _) hchild⟩
  · exact coherent_hashOrBodyOf hm h

theorem alternativesOf_eq_ok {i : Nat} {xs : List (Except BuildError Node)} {ns : List Node}
    (h : alternativesOf i xs = .ok ns) : ns.map .ok = xs := by
  induction xs generalizing i ns with
  | nil => cases h; rfl
  | cons x xs ih =>
    cases x with
    | error e => cases h
    | ok n =>
      obtain ⟨ns, hns, rfl⟩ := Except.map_eq_ok_iff.1 h
      rw [List.map_cons, ih hns]

/-- The members of an object are sound as soon as the nodes of its values are coherent. -/
theorem sound_membersOf {members : Members Json} (hv : (Json.object members).WellFormed)
    (hc : ∀ e ∈ members, ∀ n, ofFragment e.2 = .ok n → n.Everywhere Coherent) :
    Member.Sound (membersOf members) := by
  rw [membersOf_eq]
  refine ⟨?_, ?_, ?_⟩
  · rw [Members.keys_mapValues]
    exact hv.nodup_keys
  · rintro _ hmem
    obtain ⟨e, he, rfl⟩ := List.mem_map.1 hmem
    exact hv.member e he
  · rintro _ hmem n hn
    obtain ⟨e, he, rfl⟩ := List.mem_map.1 hmem
    exact hc e he n hn

/-- **Every node that a fragment describes is coherent at every level.** -/
theorem coherent_ofFragment (v : Json) :
    v.WellFormed → ∀ n, ofFragment v = .ok n → n.Everywhere Coherent := by
  induction v with
  | null => intro _ n h; cases h
  | bool b => intro _ n h; cases h
  | number x => intro _ n h; cases h
  | string name =>
    intro _ n h
    obtain ⟨l, hl, rfl⟩ := Except.map_eq_ok_iff.1 h
    exact everywhere_leaf.2 (Leaf.coherent_ofKindName hl)
  | array items ih =>
    intro hv n h
    rw [ofFragment, nodesOf_eq] at h
    cases items with
    | nil => cases h
    | cons v vs =>
      obtain ⟨ns, hns, rfl⟩ := Except.map_eq_ok_iff.1 h
      have hns := alternativesOf_eq_ok hns
      refine everywhere_options.2 ⟨?_, fun n hn => ?_⟩
      · rintro rfl
        cases hns
      · have hmem : .ok n ∈ (v :: vs).map ofFragment := by
          rw [List.map_cons, ← hns]
          exact List.mem_map_of_mem hn
        obtain ⟨u, hu, hok⟩ := List.mem_map.1 hmem
        exact ih u hu (hv.item u hu) n hok
  | object members ih =>
    intro hv n h
    rw [ofFragment] at h
    exact coherent_ofMembers (sound_membersOf hv fun e he => ih e he (hv.member e he)) h

/-! ## Changes -/

theorem coherent_setSpecial? {n n' : Node} (hn : n.Everywhere Coherent) {name : String} {value : Json}
    (h : n.setSpecial? name value = some (.ok n')) : n'.Everywhere Coherent := by
  cases n with
  | leaf l =>
    obtain ⟨a, ha, rfl⟩ := Change.outcome_performIn_eq_ok_iff.1 (Option.some.inj h)
    have hl : l.Coherent := everywhere_leaf.1 hn
    exact everywhere_leaf.2 (hl.withAnnotations (hl.annotations.setSpecial ha))
  | array rule child =>
    obtain ⟨a, ha, rfl⟩ := Change.outcome_performIn_eq_ok_iff.1 (Option.some.inj h)
    obtain ⟨hrule, hchild⟩ := everywhere_array.1 hn
    have hrule : rule.Coherent := hrule
    exact everywhere_array.2
      ⟨⟨hrule.annotations.setSpecial ha, hrule.minimum, hrule.maximum, hrule.ordered⟩, hchild⟩
  | hash rule child =>
    obtain ⟨a, ha, rfl⟩ := Change.outcome_performIn_eq_ok_iff.1 (Option.some.inj h)
    obtain ⟨hrule, hchild⟩ := everywhere_hash.1 hn
    have hrule : rule.Coherent := hrule
    exact everywhere_hash.2 ⟨⟨hrule.annotations.setSpecial ha, hrule.key⟩, hchild⟩
  | options alternatives => cases h
  | record rule fields =>
    obtain ⟨a, ha, rfl⟩ := Change.outcome_performIn_eq_ok_iff.1 (Option.some.inj h)
    obtain ⟨hrule, hfields⟩ := everywhere_record.1 hn
    have hrule : rule.Coherent (Members.keys fields) := hrule
    exact everywhere_record.2
      ⟨⟨hrule.annotations.setSpecial ha, hrule.isField, hrule.nodup, hrule.known⟩, hfields⟩

theorem coherent_setBounds? {n n' : Node} (hn : n.Everywhere Coherent) {minimum maximum : Option Json}
    (hmin : ∀ v, minimum = some v → v.WellFormed) (hmax : ∀ v, maximum = some v → v.WellFormed)
    (h : n.setBounds? minimum maximum = some (.ok n')) : n'.Everywhere Coherent := by
  cases n with
  | leaf l =>
    obtain ⟨l', hl', rfl⟩ := Change.outcome_performIn_eq_ok_iff.1 (Option.some.inj h)
    have hl : l.Coherent := everywhere_leaf.1 hn
    exact everywhere_leaf.2 (hl.setBounds hmin hmax hl')
  | array rule child =>
    obtain ⟨rule', hrule', rfl⟩ := Change.outcome_performIn_eq_ok_iff.1 (Option.some.inj h)
    obtain ⟨hrule, hchild⟩ := everywhere_array.1 hn
    have hrule : rule.Coherent := hrule
    exact everywhere_array.2 ⟨hrule.setBounds hrule', hchild⟩
  | _ => cases h

theorem coherent_setOptions? {n n' : Node} (hn : n.Everywhere Coherent) {allowed : Json}
    (hv : allowed.WellFormed) (h : n.setOptions? allowed = some (.ok n')) : n'.Everywhere Coherent := by
  cases n with
  | leaf l =>
    obtain ⟨l', hl', rfl⟩ := Change.outcome_performIn_eq_ok_iff.1 (Option.some.inj h)
    have hl : l.Coherent := everywhere_leaf.1 hn
    exact everywhere_leaf.2 (hl.setOptions hv hl')
  | _ => cases h

theorem coherent_setPattern? {n n' : Node} (hn : n.Everywhere Coherent) {text : String}
    (h : n.setPattern? text = some (.ok n')) : n'.Everywhere Coherent := by
  cases n with
  | leaf l =>
    obtain ⟨l', hl', rfl⟩ := Change.outcome_performIn_eq_ok_iff.1 (Option.some.inj h)
    have hl : l.Coherent := everywhere_leaf.1 hn
    exact everywhere_leaf.2 (hl.setPattern hl')
  | _ => cases h

/-- Nodes that can be made: compiled from a fragment, then changed by setters that succeed. -/
inductive Reachable : Node → Prop where
  | compiled {v n} (hv : v.WellFormed) (h : ofFragment v = .ok n) : Reachable n
  | setSpecial {n n' name value} (hn : Reachable n) (h : n.setSpecial? name value = some (.ok n')) :
      Reachable n'
  | setBounds {n n' minimum maximum} (hn : Reachable n) (hmin : ∀ v, minimum = some v → v.WellFormed)
      (hmax : ∀ v, maximum = some v → v.WellFormed) (h : n.setBounds? minimum maximum = some (.ok n')) :
      Reachable n'
  | setOptions {n n' allowed} (hn : Reachable n) (hv : allowed.WellFormed)
      (h : n.setOptions? allowed = some (.ok n')) : Reachable n'
  | setPattern {n n' text} (hn : Reachable n) (h : n.setPattern? text = some (.ok n')) : Reachable n'

/-- A node given as JSON text is compiled from a fragment that is well-formed. -/
theorem reachable_of_ofText {text : String} {n : Node} (h : ofText text = .ok n) : n.Reachable := by
  unfold ofText at h
  split at h
  · next v hv => exact .compiled (Json.wellFormed_of_parse? hv) h
  · cases h

/-- **Every node that can be made is coherent at every level.** -/
theorem Reachable.coherent {n : Node} (h : n.Reachable) : n.Everywhere Coherent := by
  induction h with
  | compiled hv h => exact coherent_ofFragment _ hv _ h
  | setSpecial _ h ih => exact coherent_setSpecial? ih h
  | setBounds _ hmin hmax h ih => exact coherent_setBounds? ih hmin hmax h
  | setOptions _ hv h ih => exact coherent_setOptions? ih hv h
  | setPattern _ h ih => exact coherent_setPattern? ih h

end Node

end RecordSchema
