/-
What is reported of a value is relative to where the value stands: checking or
cleaning it at `p ++ r` gives what it gives at `r`, with every path put below
`p`.

A walk extends the path on its way down and writes it into what it reports,
and decides nothing by it. So each container carries one equation over from
its children (`Checker.Relative`, `Cleaner.Relative`); a choice of options, which
looks only at whether its options find anything wrong, decides the same at
both places.
-/
import RecordSchema.Proofs.Except
import RecordSchema.Proofs.Node.Shape
import RecordSchema.Tree
import Mathlib.Data.List.Find

namespace RecordSchema

/-! ## Below a path -/

/-- The reason with the path that it names put below `p`. -/
def Reason.below (p : Path) : Reason → Reason
  | .duplicateOf first => .duplicateOf (p ++ first)
  | reason => reason

/-- The failure with every path in it put below `p`. -/
def Failure.below (p : Path) (f : Failure) : Failure := ⟨p ++ f.path, f.reason.below p, f.got⟩

/-- The error with its path put below `p`. -/
def CleanError.below (p : Path) (e : CleanError) : CleanError := ⟨p ++ e.path, e.cause⟩

/-- A check finds the same wherever the value stands, at paths that go with it. -/
def Checker.Relative (check : Checker) : Prop :=
  ∀ v p r, check v (p ++ r) = (check v r).map (Failure.below p)

/-- Cleaning makes the same of a value wherever it stands, and fails at paths that go with it. -/
def Cleaner.Relative (clean : Cleaner) : Prop :=
  ∀ v p r, clean v (p ++ r) = (clean v r).mapError (CleanError.below p)

theorem Checker.Relative.isEmpty {check : Checker} (h : check.Relative) (v : Json) (p r : Path) :
    (check v (p ++ r)).isEmpty = (check v r).isEmpty := by
  rw [h, List.isEmpty_map]

/-! ## Leaves -/

namespace Leaf

theorem accept_ne_duplicateOf (l : Leaf) (v : Json) (first : Path) :
    l.accept v ≠ .error (.duplicateOf first) := by
  obtain ⟨annotations, kind, pattern, options, minimum, maximum⟩ := l
  cases kind <;> simp only [accept, acceptText, acceptInteger, acceptDecimal, acceptDecimalText, acceptFloat,
    acceptJson, acceptString] <;> grind

theorem checkScalar_ne_duplicateOf (l : Leaf) (s : Scalar) (first : Path) :
    l.checkScalar s ≠ .error (.duplicateOf first) := by
  simp only [checkScalar, checkBounds]
  grind

/-- The reasons of a leaf name no path. -/
theorem below_of_check_eq_error {l : Leaf} {v : Json} {reason : Reason} (h : l.check v = .error reason)
    (p : Path) : reason.below p = reason := by
  cases reason with
  | duplicateOf first =>
    unfold check at h
    split at h
    · next hr => cases h; exact absurd hr (l.accept_ne_duplicateOf v first)
    · cases h
    · next s _ => exact absurd h (l.checkScalar_ne_duplicateOf s first)
  | _ => rfl

theorem failures_relative (l : Leaf) : Checker.Relative l.failures := by
  intro v p r
  unfold failures
  split
  · rfl
  · split
    · rfl
    · next reason h => simp [Failure.below, below_of_check_eq_error h]

theorem clean_relative (l : Leaf) : Cleaner.Relative l.clean := by
  intro v p r
  unfold clean
  split
  · rfl
  · split <;> rfl

end Leaf

/-! ## Lists -/

namespace ArrayRule

variable {check : Checker} {clean : Cleaner}

theorem itemFailures_append (hc : check.Relative) (mode : ArrayMode) (p r : Path) (items : List Json) :
    ∀ i seen, itemFailures mode check (p ++ r) i seen items =
      (itemFailures mode check r i seen items).map (Failure.below p) := by
  induction items with
  | nil => intro i seen; rfl
  | cons v vs ih =>
    intro i seen
    rw [itemFailures, itemFailures, Path.append_index, hc]
    cases check v (r.index i) with
    | cons f fs => simp [ih]
    | nil =>
      simp only [List.map_nil]
      split
      · split
        · next first _ _ =>
          simp [ih, Failure.below, Reason.below, Path.append_index]
        · exact ih _ _
      · exact ih _ _

theorem countFailures_append (rule : ArrayRule) (count : Nat) (p r : Path) :
    rule.countFailures count (p ++ r) = (rule.countFailures count r).map (Failure.below p) := by
  rw [countFailures, countFailures, List.map_append]
  congr 1
  · cases rule.minimum with
    | none => rfl
    | some lo => dsimp only; split <;> rfl
  · cases rule.maximum with
    | none => rfl
    | some hi => dsimp only; split <;> rfl

theorem failures_relative (rule : ArrayRule) (hc : check.Relative) :
    Checker.Relative (rule.failures check) := by
  intro v p r
  unfold failures
  split
  · rfl
  · cases v with
    | array items =>
      dsimp only
      rw [itemFailures_append hc, countFailures_append, List.map_append]
    | _ => rfl

theorem cleanItems_append (hc : clean.Relative) (p r : Path) (items : List Json) :
    ∀ i, cleanItems clean (p ++ r) i items = (cleanItems clean r i items).mapError (CleanError.below p) := by
  induction items with
  | nil => intro i; rfl
  | cons v vs ih =>
    intro i
    rw [cleanItems, cleanItems, Path.append_index, hc]
    cases clean v (r.index i) with
    | error e => rfl
    | ok w =>
      change (cleanItems clean (p ++ r) (i + 1) vs).map _ = ((cleanItems clean r (i + 1) vs).map _).mapError _
      rw [ih, Except.map_mapError]

theorem clean_relative (rule : ArrayRule) (hc : clean.Relative) : Cleaner.Relative (rule.clean clean) := by
  intro v p r
  unfold ArrayRule.clean
  split
  · rfl
  · cases v with
    | array items =>
      dsimp only
      rw [cleanItems_append hc, Except.map_mapError]
    | _ => rfl

end ArrayRule

/-! ## Hashes -/

namespace HashRule

variable {check : Checker} {clean : Cleaner}

theorem entryFailures_append (rule : HashRule) (hc : check.Relative) (p r : Path) (key : String) (v : Json) :
    rule.entryFailures check (p ++ r) key v = (rule.entryFailures check r key v).map (Failure.below p) := by
  unfold entryFailures
  rw [Path.append_field]
  split
  · exact hc v p _
  · rfl

theorem failures_relative (rule : HashRule) (hc : check.Relative) :
    Checker.Relative (rule.failures check) := by
  intro v p r
  unfold failures
  split
  · rfl
  · cases v with
    | object members =>
      simp only [entryFailures_append rule hc, List.map_flatMap]
    | _ => rfl

theorem cleanKey_append (rule : HashRule) (key : String) (p r : Path) :
    rule.cleanKey key (p ++ r) = (rule.cleanKey key r).mapError (CleanError.below p) := by
  unfold cleanKey
  rw [rule.key.clean_relative, Except.map_mapError]

theorem cleanEntries_append (rule : HashRule) (hc : clean.Relative) (p r : Path)
    (members : List (String × Json)) : ∀ done, rule.cleanEntries clean (p ++ r) done members =
      (rule.cleanEntries clean r done members).mapError (CleanError.below p) := by
  induction members with
  | nil => intro done; rfl
  | cons e rest ih =>
    intro done
    obtain ⟨key, v⟩ := e
    rw [cleanEntries, cleanEntries, Path.append_field, cleanKey_append, hc]
    cases rule.cleanKey key (r.field key) with
    | error e => rfl
    | ok key' =>
      cases clean v (r.field key) with
      | error e => rfl
      | ok w => exact ih _

theorem clean_relative (rule : HashRule) (hc : clean.Relative) : Cleaner.Relative (rule.clean clean) := by
  intro v p r
  unfold HashRule.clean
  split
  · rfl
  · cases v with
    | object members =>
      dsimp only
      rw [cleanEntries_append rule hc, Except.map_mapError]
    | _ => rfl

end HashRule

/-! ## Records -/

namespace RecordRule

theorem needFailures_append (rule : RecordRule) (record : Members Json) (name : String) (p r : Path) :
    rule.needFailures record name (p ++ r) =
      (rule.needFailures record name r).map (Failure.below p) := by
  rw [needFailures, needFailures, List.map_map]
  rfl

theorem fieldFailures_append (rule : RecordRule) {check : FieldCheck} (hc : check.failures.Relative)
    (record : Members Json) (name : String) (p r : Path) :
    rule.fieldFailures record (p ++ r) name check =
      (rule.fieldFailures record r name check).map (Failure.below p) := by
  unfold fieldFailures
  rw [Path.append_field]
  split
  · split <;> rfl
  · next v _ =>
    rw [hc]
    cases check.failures v (r.field name) with
    | nil => exact needFailures_append ..
    | cons f fs => rfl

theorem undeclaredFailures_append (names : List String) (record : Members Json) (p r : Path) :
    undeclaredFailures names record (p ++ r) =
      (undeclaredFailures names record r).map (Failure.below p) := by
  rw [undeclaredFailures, undeclaredFailures, List.map_map]
  refine List.map_congr_left fun key _ => ?_
  rw [Path.append_field]
  rfl

theorem failures_relative (rule : RecordRule) {checks : List (String × FieldCheck)}
    (hc : ∀ c ∈ checks, c.2.failures.Relative) : Checker.Relative (rule.failures checks) := by
  intro v p r
  unfold failures
  split
  · rfl
  · cases v with
    | object record =>
      dsimp only
      rw [List.map_append, undeclaredFailures_append, List.map_flatMap, List.flatMap_def, List.flatMap_def,
        List.map_congr_left fun c h => fieldFailures_append rule (hc c h) record c.1 p r]
    | _ => rfl

theorem cleanFields_append {cleaners : List (String × Cleaner)} (hc : ∀ c ∈ cleaners, c.2.Relative)
    (record : Members Json) (p r : Path) :
    cleanFields record (p ++ r) cleaners =
      (cleanFields record r cleaners).mapError (CleanError.below p) := by
  induction cleaners with
  | nil => rfl
  | cons c rest ih =>
    obtain ⟨name, cleaner⟩ := c
    rw [List.forall_mem_cons] at hc
    rw [cleanFields, cleanFields]
    split
    · exact ih hc.2
    · next v _ =>
      have hv := hc.1 v p (r.field name)
      rw [Path.append_field]
      dsimp only at hv ⊢
      rw [hv]
      cases cleaner v (r.field name) with
      | error e => rfl
      | ok w =>
        change (cleanFields record (p ++ r) rest).map _ = ((cleanFields record r rest).map _).mapError _
        rw [ih hc.2, Except.map_mapError]

theorem clean_relative (rule : RecordRule) {cleaners : List (String × Cleaner)}
    (hc : ∀ c ∈ cleaners, c.2.Relative) : Cleaner.Relative (rule.clean cleaners) := by
  intro v p r
  unfold RecordRule.clean
  split
  · rfl
  · cases v with
    | object record =>
      dsimp only
      split
      · rfl
      · rw [cleanFields_append hc, Except.map_mapError]
    | _ => rfl

end RecordRule

/-! ## Nodes -/

namespace Node

theorem failures_relative_options {alternatives : List Node}
    (ih : ∀ n ∈ alternatives, Checker.Relative n.failures) :
    Checker.Relative (options alternatives).failures := by
  intro v p r
  unfold failures
  have hany : ((checkers alternatives).any fun check => (check v (p ++ r)).isEmpty) =
      (checkers alternatives).any fun check => (check v r).isEmpty := by
    rw [checkers_eq, List.any_map, List.any_map, Bool.eq_iff_iff, List.any_eq_true, List.any_eq_true]
    exact exists_congr fun n => and_congr_right fun hn => by simp [(ih n hn).isEmpty]
  rw [hany]
  split
  · rfl
  · split <;> rfl

theorem clean_relative_options {alternatives : List Node}
    (hf : ∀ n ∈ alternatives, Checker.Relative n.failures)
    (hc : ∀ n ∈ alternatives, Cleaner.Relative n.clean) :
    Cleaner.Relative (options alternatives).clean := by
  intro v p r
  unfold clean
  split
  · rfl
  · rw [cleaners_eq, List.find?_map, List.find?_map]
    have hfind : alternatives.find? (fun n => (n.failures v (p ++ r)).isEmpty) =
        alternatives.find? fun n => (n.failures v r).isEmpty :=
      List.find?_congr fun n hn => (hf n hn).isEmpty v p r
    simp only [Function.comp_def, hfind]
    cases h : alternatives.find? fun n => (n.failures v r).isEmpty with
    | none => rfl
    | some n => exact hc n (List.mem_of_find?_eq_some h) v p r

theorem failures_relative (n : Node) : Checker.Relative n.failures := by
  induction n with
  | leaf l => exact l.failures_relative
  | array rule child ih => exact rule.failures_relative ih
  | hash rule child ih => exact rule.failures_relative ih
  | options alternatives ih => exact failures_relative_options ih
  | record rule fields ih =>
    refine rule.failures_relative ?_
    rw [fieldChecks_eq, List.forall_mem_map]
    exact ih

/-- The path of the item that is repeated moves with that of the one that repeats it. -/
example :
    (array ⟨.plain, .unique, none, none⟩ (leaf (.bare .any))).failures (.array [.null, .null]) (.ofField "a") =
      [⟨⟨[.field "a", .index 1]⟩, .duplicateOf ⟨[.field "a", .index 0]⟩, none⟩] := by rfl

/-- Whether a node accepts a value does not depend on where the value stands. -/
theorem isEmpty_failures (n : Node) (v : Json) (path : Path) : (n.failures v path).isEmpty = n.accepts v := by
  rw [accepts, ← n.failures_relative.isEmpty v path .root, Path.append_root]

theorem accepts_iff {n : Node} {v : Json} (path : Path) : n.accepts v = true ↔ n.failures v path = [] := by
  rw [← isEmpty_failures n v path, List.isEmpty_iff]

theorem clean_relative (n : Node) : Cleaner.Relative n.clean := by
  induction n with
  | leaf l => exact l.clean_relative
  | array rule child ih => exact rule.clean_relative ih
  | hash rule child ih => exact rule.clean_relative ih
  | options alternatives ih =>
    exact clean_relative_options (fun n _ => n.failures_relative) ih
  | record rule fields ih =>
    refine rule.clean_relative ?_
    rw [fieldCleaners_eq, Members.mapValues, List.forall_mem_map]
    exact ih

theorem clean_eq_ok_iff (n : Node) (v w : Json) (path : Path) :
    n.clean v path = .ok w ↔ n.clean v .root = .ok w := by
  rw [← Path.append_root path, n.clean_relative, Except.mapError_eq_ok_iff]

end Node

/-! ## Trees -/

namespace Tree

/-- **Where a value stands only goes in front of what is reported of it**: the same failures in the
same order, or the same output or error, every path put below the path that is added. So the name of a
tree goes in front of what is reported without it. -/
theorem reports_relative :
    (∀ (n : Node) (v : Json) (p r : Path),
      (n.failures v (p ++ r) = [] ↔ n.failures v r = []) ∧
        n.failures v (p ++ r) = (n.failures v r).map (Failure.below p) ∧
        n.clean v (p ++ r) = (n.clean v r).mapError (CleanError.below p)) ∧
      ∀ (t : Tree) (v : Json),
        t.failuresWithName v true = (t.failuresWithName v false).map (Failure.below (.ofField t.name)) ∧
          t.clean v = (t.body.clean v .root).mapError (CleanError.below (.ofField t.name)) := by
  constructor
  · intro n v p r
    have hfailures := n.failures_relative v p r
    refine ⟨?_, hfailures, n.clean_relative v p r⟩
    rw [hfailures, List.map_eq_nil_iff]
  · intro t v
    have hname : t.base true = .ofField t.name ++ .root := (Path.append_root _).symm
    constructor
    · rw [failuresWithName, hname]
      exact t.body.failures_relative v _ _
    · rw [clean, hname]
      exact t.body.clean_relative v _ _

end Tree

end RecordSchema
