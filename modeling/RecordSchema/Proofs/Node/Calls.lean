/-
Nodes and trees under change: whatever is set on a node or on one below it,
with whatever outcome, every node stays well-formed, as it was compiled.

A call is made at a place, the positions of the nodes that lead to it; one that
its node does not know leaves the node as it was (`Node.after`), and so does
one that is refused (`Node.after_of_perform?_eq_error`). The invariant that carries a history of calls is
`Node.Coherent`, and `Node.WellFormed` is what it means for those who read a
node: which names can stand in it, and which counts.
-/
import RecordSchema.Proofs.Tree

namespace RecordSchema

/-! ## Well-formed rules -/

/-- No special value is under a name that makes a directive of its key. -/
def Annotations.WellFormed (a : Annotations) : Prop :=
  ∀ e ∈ a.specials, Name.isDirective (Name.wrap e.1) = false

structure ArrayRule.WellFormed (rule : ArrayRule) : Prop where
  annotations : rule.annotations.WellFormed
  ordered : ∀ lo hi, rule.minimum = some lo → rule.maximum = some hi → lo ≤ hi
  minimum : ∀ n, rule.minimum = some n → n < Number.int64Bound
  maximum : ∀ n, rule.maximum = some n → n < Number.int64Bound

structure HashRule.WellFormed (rule : HashRule) : Prop where
  annotations : rule.annotations.WellFormed
  key : rule.key.annotations.WellFormed

/-- The rule of a record, with the names of its fields. -/
structure RecordRule.WellFormed (rule : RecordRule) (names : List String) : Prop where
  annotations : rule.annotations.WellFormed
  isField : ∀ name ∈ names, Name.isField name = true
  /-- No field is under the key of a directive, or one of the form of a special key. -/
  unreserved : ∀ name ∈ names, Name.isDirective name = false ∧ Name.unwrap? name = none
  known : ∀ e ∈ rule.requires, e.1 ∈ names ∧ ∀ name ∈ e.2, name ∈ names

theorem Annotations.Coherent.wellFormed {a : Annotations} (h : a.Coherent) : a.WellFormed :=
  fun e he => Name.isDirective_wrap (h.free e he)

theorem ArrayRule.Coherent.wellFormed {rule : ArrayRule} (h : rule.Coherent) : rule.WellFormed := by
  refine ⟨h.annotations.wellFormed, fun lo hi hlo hhi => ?_, h.minimum, h.maximum⟩
  have hordered := h.ordered
  rw [hlo, hhi, ArrayRule.inverted, decide_eq_false_iff_not] at hordered
  exact Nat.le_of_not_lt hordered

theorem RecordRule.Coherent.wellFormed {rule : RecordRule} {names : List String} (h : rule.Coherent names) :
    rule.WellFormed names := by
  have hknown : ∀ key needed, (key, needed) ∈ rule.requires →
      key ∈ names ∧ ∀ name ∈ needed, name ∈ names := by
    simpa [RecordRule.unknownField?] using h.known
  refine ⟨h.annotations.wellFormed, h.isField, fun name hname => ?_, fun e he => ?_⟩
  · have hfield := h.isField name hname
    exact ⟨Name.isDirective_of_isField hfield, Name.unwrap?_of_isField hfield⟩
  · exact hknown e.1 e.2 he

namespace Node

/-- What is said of the node itself is well-formed; of the nodes below it nothing is said. -/
def WellFormed : Node → Prop
  | leaf l => l.annotations.WellFormed
  | array rule _ => rule.WellFormed
  | hash rule _ => rule.WellFormed
  | options alternatives => alternatives ≠ []
  | record rule fields => rule.WellFormed (Members.keys fields)

theorem Coherent.wellFormed {n : Node} (h : n.Coherent) : n.WellFormed := by
  cases n with
  | leaf l => exact Annotations.Coherent.wellFormed (Leaf.Coherent.annotations h)
  | array rule child => exact ArrayRule.Coherent.wellFormed h
  | hash rule child =>
    have hrule : rule.Coherent := h
    exact ⟨hrule.annotations.wellFormed, hrule.key.annotations.wellFormed⟩
  | options alternatives => exact h
  | record rule fields => exact RecordRule.Coherent.wellFormed h

/-! ## Calls -/

/-- A call of one of the setters that nodes of several forms have. -/
inductive Call where
  | special (name : String) (value : Json)
  | bounds (minimum maximum : Option Json)

/-- What the call makes of a node, or why it is refused; `none` for a node that does not know it. -/
def Call.run (n : Node) : Call → Option (Except BuildError Node)
  | special name value => n.setSpecial? name value
  | bounds minimum maximum => n.setBounds? minimum maximum

/-- The call is made with values of JSON. -/
def Call.WellFormed : Call → Prop
  | special _ value => value.WellFormed
  | bounds minimum maximum =>
    (∀ v, minimum = some v → v.WellFormed) ∧ ∀ v, maximum = some v → v.WellFormed

/-- What the call leaves of a node, with its result; `none` for a node that does not know it. -/
def Call.perform? (n : Node) : Call → Option (Node × Except BuildError Unit)
  | special name value => n.assignSpecial? name value
  | bounds minimum maximum => n.assignBounds? minimum maximum

/-- The node that a call leaves behind, refused or not. -/
def after (n : Node) (c : Call) : Node :=
  match c.perform? n with
  | some (n', _) => n'
  | none => n

/-- Changes the `i`-th of the nodes right below a node, if there is one. -/
def modifyChild (f : Node → Node) (i : Nat) : Node → Node
  | leaf l => leaf l
  | array rule child => array rule (if i = 0 then f child else child)
  | hash rule child => hash rule (if i = 0 then f child else child)
  | options alternatives => options (alternatives.modify i f)
  | record rule fields => record rule (fields.modify i fun e => (e.1, f e.2))

/-- Changes the node at a place, if there is one. -/
def modifyAt (f : Node → Node) : List Nat → Node → Node
  | [] => f
  | i :: place => modifyChild (modifyAt f place) i

/-- The node that calls leave behind, made one after the other, each at its place. -/
def afterAll (n : Node) (calls : List (List Nat × Call)) : Node :=
  calls.foldl (fun n c => modifyAt (·.after c.2) c.1 n) n

/-! ## Histories -/

theorem mem_of_mem_modify {α : Type} {f : α → α} {i : Nat} {l : List α} {a : α} (h : a ∈ l.modify i f) :
    a ∈ l ∨ ∃ b ∈ l, f b = a := by
  obtain ⟨j, hj⟩ := List.mem_iff_getElem?.1 h
  rw [List.getElem?_modify] at hj
  obtain ⟨b, hb, hab⟩ := Option.map_eq_some_iff.1 hj
  have hmem : b ∈ l := List.mem_iff_getElem?.2 ⟨j, hb⟩
  split at hab
  · exact .inr ⟨b, hmem, hab⟩
  · exact .inl (hab ▸ hmem)

theorem Call.run_eq_map (n : Node) (c : Call) : c.run n = (c.perform? n).map Change.outcome := by
  cases c <;> rfl

theorem after_of_perform?_eq_error {n n' : Node} {c : Call} {e : BuildError}
    (h : c.perform? n = some (n', .error e)) : n.after c = n := by
  rw [after, h]
  cases c with
  | special name value => exact fst_of_assignSpecial? h rfl
  | bounds minimum maximum => exact fst_of_assignBounds? h rfl

theorem Everywhere.coherent_after {n : Node} (h : n.Everywhere Coherent) {c : Call} (hc : c.WellFormed) :
    (n.after c).Everywhere Coherent := by
  cases hp : c.perform? n with
  | none =>
    rw [after, hp]
    exact h
  | some p =>
    obtain ⟨n', e | ⟨⟩⟩ := p
    · rw [after_of_perform?_eq_error hp]
      exact h
    · rw [after, hp]
      have hrun : c.run n = some (.ok n') := by rw [c.run_eq_map, hp]; rfl
      cases c with
      | special name value => exact coherent_setSpecial? h hrun
      | bounds minimum maximum => exact coherent_setBounds? h hc.1 hc.2 hrun

section

variable {f : Node → Node} (hf : ∀ n : Node, n.Everywhere Coherent → (f n).Everywhere Coherent)

include hf

/-- What is said of a node itself does not turn on the nodes below it, only on their number and names. -/
theorem Everywhere.coherent_modifyChild (i : Nat) {n : Node} (h : n.Everywhere Coherent) :
    (n.modifyChild f i).Everywhere Coherent := by
  cases n with
  | leaf l => exact h
  | array rule child =>
    obtain ⟨hrule, hchild⟩ := everywhere_array.1 h
    refine everywhere_array.2 ⟨hrule, ?_⟩
    split
    · exact hf child hchild
    · exact hchild
  | hash rule child =>
    obtain ⟨hrule, hchild⟩ := everywhere_hash.1 h
    refine everywhere_hash.2 ⟨hrule, ?_⟩
    split
    · exact hf child hchild
    · exact hchild
  | options alternatives =>
    obtain ⟨hne, halternatives⟩ := everywhere_options.1 h
    refine everywhere_options.2 ⟨?_, fun n hn => ?_⟩
    · exact mt List.modify_eq_nil_iff.1 hne
    · rcases mem_of_mem_modify hn with hn | ⟨m, hm, rfl⟩
      · exact halternatives n hn
      · exact hf m (halternatives m hm)
  | record rule fields =>
    obtain ⟨hrule, hfields⟩ := everywhere_record.1 h
    refine everywhere_record.2 ⟨?_, fun e he => ?_⟩
    · show rule.Coherent (Members.keys _)
      rw [Members.keys_modify]
      exact hrule
    · rcases mem_of_mem_modify he with he | ⟨e', he', rfl⟩
      · exact hfields e he
      · exact hf e'.2 (hfields e' he')

theorem Everywhere.coherent_modifyAt (place : List Nat) {n : Node} (h : n.Everywhere Coherent) :
    (n.modifyAt f place).Everywhere Coherent := by
  induction place generalizing n with
  | nil => exact hf n h
  | cons i place ih => exact h.coherent_modifyChild (fun _ => ih) i

end

theorem Everywhere.coherent_afterAll {calls : List (List Nat × Call)} (hcalls : ∀ c ∈ calls, c.2.WellFormed)
    {n : Node} (h : n.Everywhere Coherent) : (n.afterAll calls).Everywhere Coherent := by
  induction calls generalizing n with
  | nil => exact h
  | cons c calls ih =>
    rw [List.forall_mem_cons] at hcalls
    exact ih hcalls.2 (h.coherent_modifyAt (fun _ hn => hn.coherent_after hcalls.1) c.1)

theorem Everywhere.wellFormed {n : Node} (h : n.Everywhere Coherent) : n.Everywhere WellFormed :=
  fun m hm => (h m hm).wellFormed

/-- **Every node is well-formed**, at whatever depth it is in what a fragment is compiled to, and it stays so
whatever calls are made on any of the nodes. The same goes for the nodes of a tree; no call reaches the
tree's name, which is that of a field. -/
theorem everywhere_wellFormed_afterAll {v : Json} (hv : v.WellFormed) {calls : List (List Nat × Call)}
    (hcalls : ∀ c ∈ calls, c.2.WellFormed) :
    (∀ n, ofFragment v = .ok n → (n.afterAll calls).Everywhere WellFormed) ∧
      ∀ fallback t, Tree.compile fallback v = .ok t →
        Name.isField t.name = true ∧ (t.body.afterAll calls).Everywhere WellFormed := by
  refine ⟨fun n hn => ?_, fun fallback t ht => ?_⟩
  · exact ((coherent_ofFragment v hv n hn).coherent_afterAll hcalls).wellFormed
  · have hcoherent := Tree.coherent_compile hv ht
    exact ⟨hcoherent.isField, (hcoherent.body.coherent_afterAll hcalls).wellFormed⟩

/-- A list in a record is given a least count, and refuses a lower greatest one and the name of a directive. -/
theorem everywhere_wellFormed_afterAll_refused :
    let v : Json := .object [("tags", .object [("__array__", .string "unique"), ("__type__", .string "string")]),
      ("on", .string "bool"), ("__require__", .object [("tags", .string "on")])]
    let calls : List (List Nat × Call) := [([0], .bounds (some (.number (.int 2))) none),
      ([0], .bounds none (some (.string "1"))), ([0], .special "type" (.bool true))]
    let tags (minimum : Option Nat) : Node := array ⟨.plain, .unique, minimum, none⟩ (leaf (.bare .string))
    let fields (minimum : Option Nat) := [("tags", tags minimum), ("on", leaf (.bare .bool))]
    let rule : RecordRule := ⟨.plain, [("tags", ["on"])]⟩
    v.WellFormed ∧ (∀ c ∈ calls, c.2.WellFormed) ∧ ofFragment v = .ok (record rule (fields none)) ∧
      (record rule (fields none)).afterAll calls = record rule (fields (some 2)) ∧
      (record rule (fields (some 2))).Everywhere WellFormed ∧
      Tree.compile (some "flags") v = .ok ⟨"flags", rule, fields none⟩ ∧ Name.isField "flags" = true := by
  intro v calls tags fields rule
  have hv : v.WellFormed := by decide
  have hcalls : ∀ c ∈ calls, c.2.WellFormed := by
    simp only [calls, List.forall_mem_cons, List.not_mem_nil, false_implies, implies_true, and_true]
    exact ⟨⟨by rintro v ⟨⟩; decide, nofun⟩, ⟨nofun, by rintro v ⟨⟩; decide⟩, by rw [Call.WellFormed]; decide⟩
  have hnode : ofFragment v = .ok (record rule (fields none)) := by rfl
  have hafter : (record rule (fields none)).afterAll calls = record rule (fields (some 2)) := by rfl
  have htree : Tree.compile (some "flags") v = .ok ⟨"flags", rule, fields none⟩ := by rfl
  obtain ⟨hnodes, htrees⟩ := everywhere_wellFormed_afterAll hv hcalls
  exact ⟨hv, hcalls, hnode, hafter, hafter ▸ hnodes _ hnode, htree, (htrees _ _ htree).1⟩

end Node

end RecordSchema
