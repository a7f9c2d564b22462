/-
Nodes as trees: induction over them, all the nodes within one, and the
mutually recursive functions of the library in terms of lists.

`induct` follows the five forms of a node, with the hypothesis for each
option of a choice and each field of a record.
-/
import RecordSchema.Node.Clean
import RecordSchema.Node.Compile
import RecordSchema.Node.Export

namespace RecordSchema

namespace Node

@[elab_as_elim, induction_eliminator]
theorem induct {P : Node → Prop} (leaf : ∀ l, P (leaf l))
    (array : ∀ rule child, P child → P (array rule child))
    (hash : ∀ rule child, P child → P (hash rule child))
    (options : ∀ alternatives, (∀ n ∈ alternatives, P n) → P (options alternatives))
    (record : ∀ rule fields, (∀ e ∈ fields, P e.2) → P (record rule fields)) (n : Node) : P n :=
  @Node.rec P (fun ns => ∀ n ∈ ns, P n) (fun fields => ∀ e ∈ fields, P e.2) (fun e => P e.2)
    leaf array hash options record (by simp) (fun _ _ hn hns => List.forall_mem_cons.2 ⟨hn, hns⟩)
    (by simp) (fun _ _ he hes => List.forall_mem_cons.2 ⟨he, hes⟩) (fun _ _ hn => hn) n

/-! ## The functions on lists of nodes -/

theorem checkers_eq (ns : List Node) : checkers ns = ns.map failures := by
  induction ns with
  | nil => rfl
  | cons n ns ih => simp [checkers, ih]

theorem fieldChecks_eq (fields : List (String × Node)) :
    fieldChecks fields = fields.map fun e => (e.1, ⟨e.2.isOptional, e.2.failures⟩) := by
  induction fields with
  | nil => rfl
  | cons e fields ih => simp [fieldChecks, ih]

theorem cleaners_eq (ns : List Node) : cleaners ns = ns.map fun n => (n.failures, n.clean) := by
  induction ns with
  | nil => rfl
  | cons n ns ih => simp [cleaners, ih]

theorem fieldCleaners_eq (fields : List (String × Node)) :
    fieldCleaners fields = Members.mapValues clean fields := by
  induction fields with
  | nil => rfl
  | cons e fields ih => simp [fieldCleaners, ih, Members.mapValues]

theorem keys_fieldChecks (fields : List (String × Node)) :
    Members.keys (fieldChecks fields) = Members.keys fields := by
  simp [Members.keys, fieldChecks_eq, Function.comp_def]

theorem keys_fieldCleaners (fields : List (String × Node)) :
    Members.keys (fieldCleaners fields) = Members.keys fields := by
  simp [Members.keys, fieldCleaners_eq, Members.mapValues, Function.comp_def]

theorem toFragments_eq (ns : List Node) : toFragments ns = ns.map toFragment := by
  induction ns with
  | nil => rfl
  | cons n ns ih => simp [toFragments, ih]

theorem fieldMembers_eq (fields : List (String × Node)) :
    fieldMembers fields = Members.mapValues toFragment fields := by
  induction fields with
  | nil => rfl
  | cons e fields ih => simp [fieldMembers, ih, Members.mapValues]

theorem nodesOf_eq (vs : List Json) : nodesOf vs = vs.map ofFragment := by
  induction vs with
  | nil => rfl
  | cons v vs ih => simp [nodesOf, ih]

theorem membersOf_eq (m : List (String × Json)) :
    membersOf m = Members.mapValues (fun v => ⟨v, ofFragment v⟩) m := by
  induction m with
  | nil => rfl
  | cons e m ih => simp [membersOf, ih, Members.mapValues]

/-! ## Nodes within a node -/

mutual

/-- The node itself and all the nodes below it. -/
def parts : Node → List Node
  | leaf l => [leaf l]
  | array rule child => array rule child :: parts child
  | hash rule child => hash rule child :: parts child
  | options alternatives => options alternatives :: optionParts alternatives
  | record rule fields => record rule fields :: fieldParts fields

def optionParts : List Node → List Node
  | [] => []
  | n :: ns => parts n ++ optionParts ns

def fieldParts : List (String × Node) → List Node
  | [] => []
  | (_, n) :: fields => parts n ++ fieldParts fields

end

theorem optionParts_eq (ns : List Node) : optionParts ns = ns.flatMap parts := by
  induction ns with
  | nil => rfl
  | cons n ns ih => simp [optionParts, ih]

theorem fieldParts_eq (fields : List (String × Node)) :
    fieldParts fields = fields.flatMap fun e => parts e.2 := by
  induction fields with
  | nil => rfl
  | cons e fields ih => simp [fieldParts, ih]

/-- Something holds of every node within a node. -/
def Everywhere (P : Node → Prop) (n : Node) : Prop := ∀ m ∈ n.parts, P m

section

variable {P : Node → Prop}

@[simp] theorem everywhere_leaf {l : Leaf} : Everywhere P (leaf l) ↔ P (leaf l) := by
  simp [Everywhere, parts]

@[simp] theorem everywhere_array {rule : ArrayRule} {child : Node} :
    Everywhere P (array rule child) ↔ P (array rule child) ∧ Everywhere P child := by
  simp [Everywhere, parts]

@[simp] theorem everywhere_hash {rule : HashRule} {child : Node} :
    Everywhere P (hash rule child) ↔ P (hash rule child) ∧ Everywhere P child := by
  simp [Everywhere, parts]

@[simp] theorem everywhere_options {ns : List Node} :
    Everywhere P (options ns) ↔ P (options ns) ∧ ∀ n ∈ ns, Everywhere P n := by
  simp only [Everywhere, parts, optionParts_eq, List.forall_mem_cons, List.mem_flatMap]
  exact and_congr_right fun _ => ⟨fun h n hn m hm => h m ⟨n, hn, hm⟩, fun h m ⟨n, hn, hm⟩ => h n hn m hm⟩

@[simp] theorem everywhere_record {rule : RecordRule} {fields : List (String × Node)} :
    Everywhere P (record rule fields) ↔ P (record rule fields) ∧ ∀ e ∈ fields, Everywhere P e.2 := by
  simp only [Everywhere, parts, fieldParts_eq, List.forall_mem_cons, List.mem_flatMap]
  exact and_congr_right fun _ => ⟨fun h e he m hm => h m ⟨e, he, hm⟩, fun h m ⟨e, he, hm⟩ => h e he m hm⟩

theorem Everywhere.self {n : Node} (h : Everywhere P n) : P n := by
  cases n with
  | leaf l => exact everywhere_leaf.1 h
  | array rule child => exact (everywhere_array.1 h).1
  | hash rule child => exact (everywhere_hash.1 h).1
  | options alternatives => exact (everywhere_options.1 h).1
  | record rule fields => exact (everywhere_record.1 h).1

end

end Node

end RecordSchema
