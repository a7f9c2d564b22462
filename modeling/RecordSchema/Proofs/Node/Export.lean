/-
A coherent node without infinite numbers compiles from its own fragment to
itself, at every level (`ofFragment_toFragment`).

The keys of a fragment fall into three groups that exclude each other: the
container's own (`__array__`, `__hash__`), its annotations, and those of its
child. `childMembers_spec` says that the child is compiled from its group
alone, whether it is merged or nested; each container then takes its keys out
and passes on the rest.
-/
import RecordSchema.Proofs.Leaf.Export
import RecordSchema.Proofs.Node.Coherent

namespace RecordSchema

namespace Node

/-- No option and no bound of the node itself is infinite. -/
def HasFiniteFloats : Node → Prop
  | leaf l => l.FiniteFloats
  | hash rule _ => rule.key.FiniteFloats
  | _ => True

/-- The node is compiled from its own fragment. -/
def Restored (n : Node) : Prop := ofFragment n.toFragment = .ok n

/-! ## Members with their nodes -/

theorem values_membersOf (es : List (String × Json)) : Member.values (membersOf es) = es := by
  rw [membersOf_eq, Member.values, Members.mapValues, Members.mapValues, List.map_map]
  exact List.map_id' es

theorem get?_membersOf (es : List (String × Json)) (key : String) :
    Members.get? (membersOf es) key = (Members.get? es key).map fun v => ⟨v, ofFragment v⟩ := by
  rw [membersOf_eq, Members.get?_mapValues]

theorem filter_membersOf (p : String → Bool) (es : List (String × Json)) :
    (membersOf es).filter (fun e => p e.1) = membersOf (es.filter fun e => p e.1) := by
  rw [membersOf_eq, membersOf_eq, Members.mapValues, Members.mapValues, List.filter_map]
  rfl

theorem remove_membersOf (es : List (String × Json)) (key : String) :
    Members.remove (membersOf es) key = membersOf (Members.remove es key) := filter_membersOf (· != key) es

theorem strip_membersOf (es : List (String × Json)) :
    Annotations.strip (membersOf es) = membersOf (Annotations.strip es) :=
  filter_membersOf (fun key => !Annotations.isOwnKey key) es

theorem isEmpty_membersOf {es : List (String × Json)} (h : es ≠ []) : (membersOf es).isEmpty = false := by
  obtain ⟨e, es, rfl⟩ := List.exists_cons_of_ne_nil h
  rfl

theorem remove_eq_self {α : Type} {m : Members α} {key : String} (h : ∀ e ∈ m, e.1 ≠ key) :
    Members.remove m key = m := by
  rw [Members.remove, List.filter_eq_self]
  exact fun e he => by simp [h e he]

theorem remove_cons_self {α : Type} {m : Members α} {key : String} {v : α} (h : ∀ e ∈ m, e.1 ≠ key) :
    Members.remove ((key, v) :: m) key = m :=
  (List.filter_cons_of_neg (by simp)).trans (remove_eq_self h)

theorem get?_eq_none {α : Type} {m : Members α} {key : String} (h : ∀ e ∈ m, e.1 ≠ key) :
    Members.get? m key = none := by
  rw [Members.get?_eq_none_iff]
  intro hmem
  obtain ⟨e, he, hkey⟩ := List.mem_map.1 hmem
  exact h e he hkey

/-- Without the key of a list, an object is compiled as a hash or less. -/
theorem ofFragment_object {es : List (String × Json)} (h : ∀ e ∈ es, e.1 ≠ "__array__") :
    ofFragment (.object es) = hashOrBodyOf (membersOf es) := by
  rw [ofFragment, ofMembers, get?_membersOf, get?_eq_none h]
  rfl

theorem hashOrBodyOf_membersOf {es : List (String × Json)} (h : ∀ e ∈ es, e.1 ≠ "__hash__") :
    hashOrBodyOf (membersOf es) = bodyOf (membersOf es) := by
  rw [hashOrBodyOf, get?_membersOf, get?_eq_none h]
  rfl

/-- No annotation has the key of a container. -/
theorem ne_of_mem_annotations {a : Annotations} (h : a.Coherent) {key : String}
    (hd : Name.isDirective key = true) (hne : key ≠ "__optional__") : ∀ e ∈ a.members, e.1 ≠ key := by
  rintro e he rfl
  have hget := Annotations.get?_members_of_isDirective h hd hne
  exact Members.get?_eq_none_iff.1 hget (List.mem_map_of_mem he)

/-! ## Leaves -/

theorem ne_of_mem_members {l : Leaf} (h : l.annotations.Coherent) {key : String}
    (hd : Name.isDirective key = true) (hne : key ≠ "__optional__") (hown : key ∉ Leaf.ownKeys) :
    ∀ e ∈ l.members, e.1 ≠ key := by
  intro e he
  rcases List.mem_append.1 he with he | he
  · exact ne_of_mem_annotations h hd hne e he
  · rintro rfl
    exact hown (Leaf.keys_bodyMembers l e he)

theorem bodyOf_leaf {l : Leaf} (h : l.Coherent) (hf : l.FiniteFloats) :
    bodyOf (membersOf l.members) = .ok (leaf l) := by
  rw [bodyOf, get?_membersOf, Leaf.get?_members h.annotations (by decide), (Leaf.get?_bodyMembers l).1]
  simp only [Option.map_some, values_membersOf, Leaf.ofMembers_members h hf]
  rfl

theorem restored_leaf {l : Leaf} (h : l.Coherent) (hf : l.FiniteFloats) :
    Restored (leaf l) := by
  have harray : ∀ e ∈ l.members, e.1 ≠ "__array__" :=
    ne_of_mem_members h.annotations (by decide) (by decide) (by decide)
  have hhash : ∀ e ∈ l.members, e.1 ≠ "__hash__" :=
    ne_of_mem_members h.annotations (by decide) (by decide) (by decide)
  rw [Restored, toFragment, Leaf.toFragment, ofFragment_object harray, hashOrBodyOf_membersOf hhash,
    bodyOf_leaf h hf]

/-! ## Records -/

theorem neededNames_neededJson (names : List String) :
    RecordRule.neededNames (RecordRule.neededJson names) = .ok names := by
  have hmap : ∀ names : List String, (names.map Json.string).mapM RecordRule.neededName = .ok names := by
    intro names
    induction names with
    | nil => rfl
    | cons name names ih => rw [List.map_cons, List.mapM_cons, ih]; rfl
  unfold RecordRule.neededJson
  split
  · rfl
  · exact hmap names

theorem requiresOf_requireMembers (rule : RecordRule) :
    RecordRule.requiresOf (Members.get? rule.requireMembers "__require__") = .ok rule.requires := by
  have hmap : ∀ requires : Members (List String),
      (requires.map fun e => (e.1, RecordRule.neededJson e.2)).mapM
        (fun e => (RecordRule.neededNames e.2).map (e.1, ·)) = .ok requires := by
    intro requires
    induction requires with
    | nil => rfl
    | cons e requires ih =>
      rw [List.map_cons, List.mapM_cons, ih, neededNames_neededJson]
      rfl
  unfold RecordRule.requireMembers
  split
  · next h => rw [List.isEmpty_iff.1 h]; rfl
  · exact hmap rule.requires

theorem fieldsOf_fieldMembers {fields : List (String × Node)}
    (hname : ∀ name ∈ Members.keys fields, Name.isField name = true)
    (hnode : ∀ e ∈ fields, e.2.Restored) :
    fieldsOf (membersOf (fieldMembers fields)) = .ok fields := by
  induction fields with
  | nil => rfl
  | cons e fields ih =>
    obtain ⟨name, n⟩ := e
    rw [List.forall_mem_cons] at hnode
    obtain ⟨hfield, hname⟩ := List.forall_mem_cons.1 hname
    have hn : ofFragment n.toFragment = .ok n := hnode.1
    rw [fieldMembers, membersOf, fieldsOf, Name.isDirective_of_isField hfield, hfield, hn, ih hname hnode.2]
    rfl

section

variable {rule : RecordRule} {fields : List (String × Node)}

theorem isField_of_mem_fieldMembers (h : rule.Coherent (Members.keys fields)) :
    ∀ e ∈ fieldMembers fields, Name.isField e.1 = true := by
  rw [fieldMembers_eq]
  intro e he
  obtain ⟨e', he', rfl⟩ := List.mem_map.1 he
  exact h.isField e'.1 (List.mem_map_of_mem he')

theorem ne_of_mem_fieldMembers (h : rule.Coherent (Members.keys fields)) {key : String}
    (hd : Name.isDirective key = true) : ∀ e ∈ fieldMembers fields, e.1 ≠ key := by
  rintro e he rfl
  have hfield := isField_of_mem_fieldMembers h e he
  rw [Name.isField_of_isDirective hd] at hfield
  cases hfield

theorem isOwnKey_fieldMembers (h : rule.Coherent (Members.keys fields)) :
    ∀ e ∈ fieldMembers fields, Annotations.isOwnKey e.1 = false := by
  intro e he
  exact Annotations.isOwnKey_eq_false_iff.2 ⟨ne_of_mem_fieldMembers h (by decide) e he,
    Name.specialOf?_of_isField (isField_of_mem_fieldMembers h e he)⟩

/-- A record writes no directive but the flag and the table of needs. -/
theorem ne_of_mem_record (h : rule.Coherent (Members.keys fields)) {key : String}
    (hd : Name.isDirective key = true) (hflag : key ≠ "__optional__") (hrequire : key ≠ "__require__") :
    ∀ e ∈ rule.members ++ fieldMembers fields, e.1 ≠ key := by
  have hannotations := ne_of_mem_annotations h.annotations hd hflag
  intro e he
  simp only [RecordRule.members, List.mem_append] at he
  rcases he with ((he | he) | he) | he
  · exact hannotations e (List.mem_append_left _ he)
  · rw [RecordRule.requireMembers] at he
    split at he
    · cases he
    · rw [List.mem_singleton.1 he]; exact hrequire.symm
  · exact hannotations e (List.mem_append_right _ he)
  · exact ne_of_mem_fieldMembers h hd e he

/-- The members of a record in which the table of needs is left out. -/
theorem remove_require (h : rule.Coherent (Members.keys fields)) :
    Members.remove (rule.members ++ fieldMembers fields) "__require__" =
      rule.annotations.members ++ fieldMembers fields := by
  have hannotations : ∀ e ∈ rule.annotations.members, e.1 ≠ "__require__" :=
    ne_of_mem_annotations h.annotations (by decide) (by decide)
  have hfields : ∀ e ∈ fieldMembers fields, e.1 ≠ "__require__" := ne_of_mem_fieldMembers h (by decide)
  have hrequire : Members.remove rule.requireMembers "__require__" = [] := by
    unfold RecordRule.requireMembers
    split <;> rfl
  have happend : ∀ m m' : Members Json, Members.remove (m ++ m') "__require__" =
      Members.remove m "__require__" ++ Members.remove m' "__require__" := fun _ _ => List.filter_append ..
  have hoptional := remove_eq_self fun e he => hannotations e (List.mem_append_left _ he)
  have hspecial := remove_eq_self fun e he => hannotations e (List.mem_append_right _ he)
  rw [RecordRule.members, happend, happend, happend, hrequire, hoptional, hspecial, remove_eq_self hfields,
    List.append_nil]
  rfl

theorem get?_require (h : rule.Coherent (Members.keys fields)) :
    Members.get? (rule.members ++ fieldMembers fields) "__require__" =
      Members.get? rule.requireMembers "__require__" := by
  have hannotations : ∀ e ∈ rule.annotations.members, e.1 ≠ "__require__" :=
    ne_of_mem_annotations h.annotations (by decide) (by decide)
  have hfields : Members.get? (fieldMembers fields) "__require__" = none :=
    get?_eq_none (ne_of_mem_fieldMembers h (by decide))
  have hoptional := get?_eq_none fun e he => hannotations e (List.mem_append_left _ he)
  have hspecial := get?_eq_none fun e he => hannotations e (List.mem_append_right _ he)
  rw [RecordRule.members, Members.get?_append, Members.get?_append, Members.get?_append, hoptional,
    hspecial, hfields, Option.none_or, Option.or_none, Option.or_none]

/-- A record is compiled from its members to itself, if its fields are from theirs. -/
theorem recordOf_members (h : rule.Coherent (Members.keys fields))
    (hnode : ∀ e ∈ fields, e.2.Restored) :
    recordOf (membersOf (rule.members ++ fieldMembers fields)) = .ok (rule, fields) := by
  have hown := isOwnKey_fieldMembers h
  have hstrip :
      Annotations.strip (rule.annotations.members ++ fieldMembers fields) = fieldMembers fields := by
    rw [Annotations.strip_append,
      Annotations.strip_eq_nil (Annotations.isOwnKey_of_mem_members h.annotations),
      Annotations.strip_eq_self hown, List.nil_append]
  have hknown := h.known
  simp only [recordOf, values_membersOf, remove_membersOf, strip_membersOf, get?_require h,
    remove_require h, hstrip, Annotations.ofMembers_append h.annotations hown, Except.bind_eq_ok_iff]
  refine ⟨_, requiresOf_requireMembers rule, _, fieldsOf_fieldMembers h.isField hnode, ?_⟩
  rw [Members.keys] at hknown
  rw [hknown]

theorem bodyOf_record (h : rule.Coherent (Members.keys fields))
    (hnode : ∀ e ∈ fields, e.2.Restored) :
    bodyOf (membersOf (rule.members ++ fieldMembers fields)) = .ok (record rule fields) := by
  have htype : ∀ e ∈ rule.members ++ fieldMembers fields, e.1 ≠ "__type__" :=
    ne_of_mem_record h (by decide) (by decide) (by decide)
  rw [bodyOf, get?_membersOf, get?_eq_none htype, Option.map_none]
  simp only [recordOf_members h hnode]
  rfl

theorem restored_record (h : rule.Coherent (Members.keys fields))
    (hnode : ∀ e ∈ fields, e.2.Restored) :
    Restored (record rule fields) := by
  have harray : ∀ e ∈ rule.members ++ fieldMembers fields, e.1 ≠ "__array__" :=
    ne_of_mem_record h (by decide) (by decide) (by decide)
  have hhash : ∀ e ∈ rule.members ++ fieldMembers fields, e.1 ≠ "__hash__" :=
    ne_of_mem_record h (by decide) (by decide) (by decide)
  rw [Restored, toFragment, ofFragment_object harray, hashOrBodyOf_membersOf hhash, bodyOf_record h hnode]

end

/-! ## Children -/

/-- Members among which a container finds those of its child. -/
structure ChildMembers (child : Node) (es : List (String × Json)) : Prop where
  isOwnKey : ∀ e ∈ es, Annotations.isOwnKey e.1 = false
  array : ∀ e ∈ es, e.1 ≠ "__array__"
  hash : ∀ e ∈ es, e.1 ≠ "__hash__"
  ne_nil : es ≠ []
  body : bodyOf (membersOf es) = .ok child

theorem childMembers_nested {child : Node} {fragment : Json}
    (hf : (∃ m, fragment = .object m) ∨ ∃ items, fragment = .array items)
    (hc : ofFragment fragment = .ok child) : ChildMembers child [("__type__", fragment)] := by
  have hkey :
      Annotations.isOwnKey "__type__" = false ∧ "__type__" ≠ "__array__" ∧ "__type__" ≠ "__hash__" := by
    decide
  refine ⟨List.forall_mem_singleton.2 hkey.1, List.forall_mem_singleton.2 hkey.2.1,
    List.forall_mem_singleton.2 hkey.2.2, List.cons_ne_nil _ _, ?_⟩
  · rcases hf with ⟨m, rfl⟩ | ⟨items, rfl⟩
    · exact hc
    · exact hc

theorem childMembers_leaf {l : Leaf} (h : l.Coherent) (hf : l.FiniteFloats)
    (hp : l.annotations.isPlain = true) :
    ChildMembers (leaf l) l.members := by
  have hmembers : l.members = l.bodyMembers := by
    rw [Leaf.members, Annotations.eq_plain_of_isPlain hp]
    rfl
  refine ⟨?_, ne_of_mem_members h.annotations (by decide) (by decide) (by decide),
    ne_of_mem_members h.annotations (by decide) (by decide) (by decide), ?_, bodyOf_leaf h hf⟩
  · rw [hmembers]
    exact Leaf.isOwnKey_bodyMembers l
  · rw [hmembers]
    exact List.cons_ne_nil _ _

theorem childMembers_record {rule : RecordRule} {fields : List (String × Node)}
    (h : rule.Coherent (Members.keys fields)) (hp : rule.annotations.isPlain = true)
    (hnode : ∀ e ∈ fields, e.2.Restored)
    (hne : rule.members ++ fieldMembers fields ≠ []) :
    ChildMembers (record rule fields) (rule.members ++ fieldMembers fields) := by
  refine ⟨?_, ne_of_mem_record h (by decide) (by decide) (by decide),
    ne_of_mem_record h (by decide) (by decide) (by decide), hne, bodyOf_record h hnode⟩
  have hmembers : rule.members = rule.requireMembers := by
    rw [RecordRule.members, Annotations.eq_plain_of_isPlain hp]
    exact List.append_nil _
  rw [hmembers, List.forall_mem_append]
  refine ⟨?_, isOwnKey_fieldMembers h⟩
  unfold RecordRule.requireMembers
  split
  · simp
  · have hkey : Annotations.isOwnKey "__require__" = false := by decide
    exact List.forall_mem_singleton.2 hkey

/-- **The child of a container is compiled from its own group of members**, merged or nested. -/
theorem childMembers_spec {child : Node} (hn : child.Everywhere Coherent)
    (hf : child.Everywhere HasFiniteFloats)
    (hall : child.Everywhere Restored) :
    ChildMembers child (childMembers child.mergeable child.toFragment) := by
  have hc : ofFragment child.toFragment = .ok child := hall.self
  cases child with
  | leaf l =>
    have hl : l.Coherent := everywhere_leaf.1 hn
    change ChildMembers _ (childMembers l.annotations.isPlain _)
    cases hp : l.annotations.isPlain with
    | false => exact childMembers_nested (.inl ⟨_, rfl⟩) hc
    | true =>
      have hleaf := childMembers_leaf hl (everywhere_leaf.1 hf) hp
      obtain ⟨e, es, hes⟩ := List.exists_cons_of_ne_nil hleaf.ne_nil
      rw [toFragment, Leaf.toFragment, hes, childMembers, ← hes]
      exact hleaf
  | record rule fields =>
    have hrule : rule.Coherent (Members.keys fields) := (everywhere_record.1 hn).1
    have hfields : ∀ e ∈ fields, e.2.Restored := fun e he => ((everywhere_record.1 hall).2 e he).self
    change ChildMembers _ (childMembers rule.annotations.isPlain _)
    cases hp : rule.annotations.isPlain with
    | false => exact childMembers_nested (.inl ⟨_, rfl⟩) hc
    | true =>
      cases hes : rule.members ++ fieldMembers fields with
      | nil =>
        rw [toFragment, hes] at hc ⊢
        exact childMembers_nested (.inl ⟨_, rfl⟩) hc
      | cons e es =>
        have hrecord := childMembers_record hrule hp hfields (by rw [hes]; exact List.cons_ne_nil _ _)
        rw [toFragment, hes, childMembers, ← hes]
        exact hrecord
  | array rule child => exact childMembers_nested (.inl ⟨_, rfl⟩) hc
  | hash rule child => exact childMembers_nested (.inl ⟨_, rfl⟩) hc
  | options alternatives => exact childMembers_nested (.inr ⟨_, rfl⟩) hc

/-- Annotations are told from the members of a child. -/
theorem strip_child {a : Annotations} (ha : a.Coherent) {child : Node} {es : List (String × Json)}
    (hc : ChildMembers child es) : Annotations.strip (a.members ++ es) = es := by
  rw [Annotations.strip_append, Annotations.strip_eq_nil (Annotations.isOwnKey_of_mem_members ha),
    Annotations.strip_eq_self hc.isOwnKey, List.nil_append]

end Node

/-! ## Lists -/

namespace ArrayRule

theorem ofJson_name (mode : ArrayMode) :
    ArrayMode.ofJson (.string mode.name) = mode := by cases mode <;> rfl

/-- What the settings in a list's fragment are read as. -/
def readSettings (rule : ArrayRule) : ArraySettings where
  mode := rule.mode
  minimum := rule.minimum.map fun n : Nat => .ofInt n
  maximum := rule.maximum.map fun n : Nat => .ofInt n
  optional := none

theorem ofJson_settings (rule : ArrayRule) : ArraySettings.ofJson rule.settings = .ok rule.readSettings := by
  obtain ⟨annotations, mode, minimum, maximum⟩ := rule
  cases minimum <;> cases maximum <;>
    simp [settings, ArraySettings.ofJson, ArraySettings.ofMembers, ArraySettings.set, ArraySettings.initial,
      readSettings, ofJson_name]

/-- A list without a flag among its settings takes the annotations of its fragment. -/
theorem annotations_settings {a : Annotations} (ha : a.Coherent) {es : List (String × Json)}
    (hes : ∀ e ∈ es, Annotations.isOwnKey e.1 = false) {s : ArraySettings} (hs : s.optional = none) :
    s.annotations (a.members ++ es) = a := by
  rw [ArraySettings.annotations, Annotations.ofMembers_append ha hes, hs]
  split
  · rfl
  · next hhas =>
    have hoptional : a.optional = false := by
      rw [← Bool.not_eq_true]
      intro ho
      rw [Members.has, Members.get?_append, Annotations.get?_optional ha, if_pos ho] at hhas
      exact hhas rfl
    obtain ⟨optional, specials⟩ := a
    rw [show optional = false from hoptional]
    rfl

theorem countOf_natCast {directive : String} {n : Nat} (h : n < Number.int64Bound) :
    countOf directive (.number (.int n)) = .ok n := by
  have hbounds : 0 ≤ (n : Int) ∧ (n : Int) < Number.int64Bound := ⟨Int.natCast_nonneg n, Int.ofNat_lt.2 h⟩
  have hread : Kind.int.integer? (.number (.int n)) = some (n : Int) := rfl
  rw [countOf, hread]
  simp only [if_pos hbounds, Int.toNat_natCast]

theorem countOr_ofInt (directive : String) {count : Option Nat}
    (h : ∀ n, count = some n → n < Number.int64Bound) :
    countOr directive ((count.map fun n : Nat => Json.ofInt n).filter fun v => !v.isNull) none =
      .ok count := by
  cases count with
  | none => rfl
  | some n =>
    have hlt : (n : Int) < Number.int64Bound := Int.ofNat_lt.2 (h n rfl)
    have hbounds : Number.int64Bound < Number.uint64Bound := by decide
    have hjson : Json.ofInt n = .number (.int n) := Json.ofInt_eq ⟨by omega, by omega⟩
    have hgiven : ((some n).map fun n : Nat => Json.ofInt n).filter (fun v => !v.isNull) =
        some (.number (.int n)) := by
      rw [Option.map_some, hjson]
      rfl
    rw [hgiven, countOr, countOf_natCast (h n rfl)]
    rfl

theorem rule_settings {rule : ArrayRule} (h : rule.Coherent) :
    rule.readSettings.rule rule.annotations = .ok rule := by
  have hlo := countOr_ofInt "__minimum__" h.minimum
  have hhi := countOr_ofInt "__maximum__" h.maximum
  simp only [ArraySettings.rule, readSettings, setBounds, Change.changed, perform_assignBounds, hlo, hhi, h.ordered,
    Bool.false_eq_true, if_false, Change.outcome_settle]

end ArrayRule

namespace Node

theorem ofFragment_array {rule : ArrayRule} (h : rule.Coherent) {child : Node} {es : List (String × Json)}
    (hc : ChildMembers child es) : ofFragment (.object (rule.members ++ es)) = .ok (array rule child) := by
  have hkeys : ∀ e ∈ rule.annotations.members ++ es, e.1 ≠ "__array__" :=
    List.forall_mem_append.2 ⟨ne_of_mem_annotations h.annotations (by decide) (by decide), hc.array⟩
  have hremove : Members.remove (rule.members ++ es) "__array__" = rule.annotations.members ++ es :=
    remove_cons_self hkeys
  have hget : Members.get? (rule.members ++ es) "__array__" = some rule.settings := by
    simp [ArrayRule.members, Members.get?_cons]
  rw [ofFragment, ofMembers, get?_membersOf, hget, Option.map_some]
  simp only [arrayOf, remove_membersOf, hremove, strip_membersOf, strip_child h.annotations hc,
    values_membersOf, isEmpty_membersOf hc.ne_nil, hashOrBodyOf_membersOf hc.hash, Bool.false_eq_true,
    if_false, Except.bind_eq_ok_iff]
  refine ⟨_, rule.ofJson_settings, child, hc.body, rule, ?_, rfl⟩
  rw [ArrayRule.annotations_settings h.annotations hc.isOwnKey rfl]
  exact ArrayRule.rule_settings h

end Node

/-! ## Hashes -/

theorem HashRule.keyOf_keyJson {rule : HashRule} (h : rule.key.Coherent) (hf : rule.key.FiniteFloats) :
    HashRule.keyOf rule.keyJson = .ok rule.key := by
  unfold HashRule.keyJson
  split
  · next hp =>
    rw [HashRule.keyOf, Leaf.ofKindName, Kind.ofName?_name]
    exact congrArg Except.ok (Leaf.eq_bare_of_isPlain hp).symm
  · exact Leaf.ofMembers_members h hf

namespace Node

theorem ofFragment_hash {rule : HashRule} (h : rule.Coherent) (hf : rule.key.FiniteFloats) {child : Node}
    {es : List (String × Json)} (hc : ChildMembers child es) :
    ofFragment (.object (rule.members ++ es)) = .ok (hash rule child) := by
  have hkeys : ∀ e ∈ rule.annotations.members ++ es, e.1 ≠ "__hash__" :=
    List.forall_mem_append.2 ⟨ne_of_mem_annotations h.annotations (by decide) (by decide), hc.hash⟩
  have hremove : Members.remove (rule.members ++ es) "__hash__" = rule.annotations.members ++ es :=
    remove_cons_self hkeys
  have hget : Members.get? (rule.members ++ es) "__hash__" = some rule.keyJson := by
    simp [HashRule.members, Members.get?_cons]
  have harray : ∀ e ∈ rule.members ++ es, e.1 ≠ "__array__" := by
    have hkey : "__hash__" ≠ "__array__" := by decide
    have hannotations := ne_of_mem_annotations h.annotations (by decide : Name.isDirective "__array__" = true)
    exact List.forall_mem_append.2 ⟨List.forall_mem_cons.2 ⟨hkey, hannotations (by decide)⟩, hc.array⟩
  rw [ofFragment_object harray, hashOrBodyOf, get?_membersOf, hget, Option.map_some]
  simp only [hashOf, remove_membersOf, hremove, strip_membersOf, strip_child h.annotations hc,
    values_membersOf, isEmpty_membersOf hc.ne_nil, Bool.false_eq_true, if_false, Except.bind_eq_ok_iff]
  refine ⟨_, HashRule.keyOf_keyJson h.key hf, child, hc.body, ?_⟩
  rw [Annotations.ofMembers_append h.annotations hc.isOwnKey]
  rfl

/-! ## Choices -/

theorem alternativesOf_ok (ns : List Node) (i : Nat) : alternativesOf i (ns.map .ok) = .ok ns := by
  induction ns generalizing i with
  | nil => rfl
  | cons n ns ih => rw [List.map_cons, alternativesOf, ih]; rfl

theorem restored_options {alternatives : List Node} (hne : alternatives ≠ [])
    (hnode : ∀ n ∈ alternatives, n.Restored) :
    Restored (options alternatives) := by
  have hmap : (alternatives.map toFragment).map ofFragment = alternatives.map .ok := by
    rw [List.map_map]
    exact List.map_congr_left hnode
  rw [Restored, toFragment, toFragments_eq, ofFragment, nodesOf_eq, hmap]
  obtain ⟨n, ns, rfl⟩ := List.exists_cons_of_ne_nil hne
  rw [List.map_cons, optionsOf, ← List.map_cons, alternativesOf_ok]
  rfl

/-! ## Nodes -/

theorem restored_everywhere (n : Node) (hn : n.Everywhere Coherent) (hf : n.Everywhere HasFiniteFloats) :
    n.Everywhere Restored := by
  induction n with
  | leaf l => exact everywhere_leaf.2 (restored_leaf (everywhere_leaf.1 hn) (everywhere_leaf.1 hf))
  | array rule child ih =>
    rw [everywhere_array] at hn hf ⊢
    have hall := ih hn.2 hf.2
    exact ⟨ofFragment_array hn.1 (childMembers_spec hn.2 hf.2 hall), hall⟩
  | hash rule child ih =>
    rw [everywhere_hash] at hn hf ⊢
    have hall := ih hn.2 hf.2
    exact ⟨ofFragment_hash hn.1 hf.1 (childMembers_spec hn.2 hf.2 hall), hall⟩
  | options alternatives ih =>
    rw [everywhere_options] at hn hf ⊢
    have hall := fun n hmem => ih n hmem (hn.2 n hmem) (hf.2 n hmem)
    exact ⟨restored_options hn.1 fun n hmem => (hall n hmem).self, hall⟩
  | record rule fields ih =>
    rw [everywhere_record] at hn hf ⊢
    have hall := fun e he => ih e he (hn.2 e he) (hf.2 e he)
    exact ⟨restored_record hn.1 fun e he => (hall e he).self, hall⟩

end Node

end RecordSchema
