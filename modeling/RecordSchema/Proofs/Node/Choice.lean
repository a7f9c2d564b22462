/-
A choice of options is decided by the first option that accepts the value
(`firstAccepting?`), null included.

Null is let through before any option is asked where it stands for an absent
value in all of them. Each of them would then have let it through and kept it
as it is (`Node.clean_null`), so that the early answer is the one the search
gives (`failures_options`, `clean_options`). What a list of options does under
nesting, one more option or another order is then what the search does in it.
-/
import RecordSchema.Proofs.Node.Relative
import RecordSchema.Proofs.Node.Stable

namespace RecordSchema

namespace Node

variable {ns inner : List Node}

/-! ## The search -/

/-- The first of some nodes that accepts a value. -/
def firstAccepting? (ns : List Node) (v : Json) : Option Node := ns.find? (·.accepts v)

theorem firstAccepting?_append (ns ms : List Node) (v : Json) :
    firstAccepting? (ns ++ ms) v = (firstAccepting? ns v).or (firstAccepting? ms v) :=
  List.find?_append

theorem isSome_firstAccepting? (ns : List Node) (v : Json) :
    (firstAccepting? ns v).isSome = ns.any (·.accepts v) := by
  rw [firstAccepting?, List.isSome_find?]

/-- Null stays as it is where it stands for an absent value. -/
theorem clean_null {n : Node} (ho : n.isOptional = true) (path : Path) : n.clean .null path = .ok .null := by
  cases n with
  | leaf l => exact if_pos (Json.absent_iff.2 ⟨rfl, ho⟩)
  | array rule child => exact ArrayRule.clean_null ho _ path
  | hash rule child => exact HashRule.clean_null ho _ path
  | options alternatives => exact if_pos (Json.absent_iff.2 ⟨rfl, ho⟩)
  | record rule fields => exact RecordRule.clean_null ho _ path

/-- Where null stands for an absent value in every option, the search finds one that keeps it. -/
theorem firstAccepting?_null (hn : ns ≠ []) (ho : allOptional ns = true) :
    ∃ n, firstAccepting? ns .null = some n ∧ n.isOptional = true := by
  cases ns with
  | nil => exact absurd rfl hn
  | cons n ns =>
    have hn : n.isOptional = true := (Bool.and_eq_true_iff.1 ho).1
    have haccepts : n.accepts .null = true :=
      (accepts_iff .root).2 ((decides_conforms n .null .root).2 (.absent hn))
    exact ⟨n, List.find?_cons_of_pos haccepts, hn⟩

/-- What is wrong with a value by a choice of options is told by the search alone. -/
theorem failures_options (hn : ns ≠ []) (v : Json) (path : Path) :
    (options ns).failures v path =
      if (firstAccepting? ns v).isSome then [] else [⟨path, .noValidOption, none⟩] := by
  unfold failures
  split
  · next hnull =>
    obtain ⟨rfl, ho⟩ := Json.absent_iff.1 hnull
    obtain ⟨n, hfirst, -⟩ := firstAccepting?_null hn ho
    rw [hfirst]
    rfl
  · simp only [checkers_eq, List.any_map, Function.comp_def, isEmpty_failures, isSome_firstAccepting?]

/-- A choice cleans by the option that the search finds. -/
theorem clean_options (hn : ns ≠ []) (v : Json) (path : Path) :
    (options ns).clean v path =
      match firstAccepting? ns v with
      | some n => n.clean v path
      | none => .error ⟨path, .noValidOption⟩ := by
  rw [clean]
  dsimp only
  by_cases hnull : (v.isNull && allOptional ns) = true
  · obtain ⟨rfl, ho⟩ := Json.absent_iff.1 hnull
    obtain ⟨n, hfirst, hn⟩ := firstAccepting?_null hn ho
    rw [if_pos hnull, hfirst]
    exact (clean_null hn path).symm
  · rw [if_neg hnull, cleaners_eq, List.find?_map]
    simp only [Function.comp_def, isEmpty_failures, firstAccepting?]
    cases ns.find? (·.accepts v) <;> rfl

theorem clean_options_eq_ok_iff (hn : ns ≠ []) {v w : Json} {path : Path} :
    (options ns).clean v path = .ok w ↔ ∃ n, firstAccepting? ns v = some n ∧ n.clean v path = .ok w := by
  rw [clean_options hn]
  cases firstAccepting? ns v <;> simp

theorem accepts_options (hn : ns ≠ []) (v : Json) :
    (options ns).accepts v = (firstAccepting? ns v).isSome := by
  rw [accepts, failures_options hn]
  cases firstAccepting? ns v <;> rfl

/-! ## Nesting, one more option, another order -/

/-- The search in a list that holds a choice finds the choice where it would find one of its options. -/
theorem firstAccepting?_nested (hi : inner ≠ []) (before after : List Node) (v : Json) :
    firstAccepting? (before ++ options inner :: after) v =
      (firstAccepting? before v).or
        (((firstAccepting? inner v).map fun _ => options inner).or (firstAccepting? after v)) := by
  rw [firstAccepting?_append]
  congr 1
  have haccepts := accepts_options hi v
  cases hfirst : firstAccepting? inner v with
  | none =>
    rw [hfirst] at haccepts
    exact List.find?_cons_of_neg (by simp [haccepts])
  | some n =>
    rw [hfirst] at haccepts
    exact List.find?_cons_of_pos haccepts

/-- A choice within a choice may give way to its own options. -/
theorem options_flatten (hi : inner ≠ []) (before after : List Node) (v : Json) (path : Path) :
    (options (before ++ options inner :: after)).failures v path =
        (options (before ++ inner ++ after)).failures v path ∧
      (options (before ++ options inner :: after)).clean v path =
        (options (before ++ inner ++ after)).clean v path := by
  have hn : before ++ options inner :: after ≠ [] := by simp
  have hn' : before ++ inner ++ after ≠ [] := by simp [hi]
  rw [failures_options hn, failures_options hn', clean_options hn, clean_options hn',
    firstAccepting?_nested hi, List.append_assoc, firstAccepting?_append, firstAccepting?_append]
  cases firstAccepting? before v with
  | some n => exact ⟨rfl, rfl⟩
  | none =>
    cases hfirst : firstAccepting? inner v with
    | none => exact ⟨rfl, rfl⟩
    | some n =>
      -- the choice is found, and does what its option does
      refine ⟨rfl, ?_⟩
      have hclean := clean_options hi v path
      rw [hfirst] at hclean
      exact hclean

/-- One more option at the end is not asked where one before it accepts. -/
theorem options_append (hn : ns ≠ []) (n : Node) {v : Json} {p : Path} (h : (options ns).failures v p = []) :
    (options (ns ++ [n])).failures v p = [] ∧
      ∀ q, (options (ns ++ [n])).clean v q = (options ns).clean v q := by
  have hn' : ns ++ [n] ≠ [] := by simp
  obtain ⟨m, hfirst⟩ : ∃ m, firstAccepting? ns v = some m := by
    rw [← Option.isSome_iff_exists, ← accepts_options hn]
    exact (accepts_iff p).2 h
  have hfirst' : firstAccepting? (ns ++ [n]) v = some m := by
    rw [firstAccepting?_append, hfirst]
    rfl
  refine ⟨?_, fun q => ?_⟩
  · rw [failures_options hn', hfirst']
    rfl
  · rw [clean_options hn', clean_options hn, hfirst, hfirst']

/-- In another order some option accepts just the same. -/
theorem failures_options_perm {ms : List Node} (h : ns.Perm ms) (hn : ns ≠ []) (v : Json) (path : Path) :
    (options ms).failures v path = (options ns).failures v path := by
  have hm : ms ≠ [] := fun he => hn (List.perm_nil.1 (he ▸ h))
  rw [failures_options hm, failures_options hn, isSome_firstAccepting?, isSome_firstAccepting?, h.any_eq]

/-- **The laws of a choice of options.** A choice that is one of its options may give way to its own options in
place: the same is found wrong with every value, and it is cleaned to the same or with the same error. With
one more option at the end, what was accepted still is, and is cleaned as before. In another order, the same
values are accepted. -/
theorem options_laws (h : (options ns).Reachable) :
    (∀ before inner after, ns = before ++ options inner :: after → ∀ v path,
      (options (before ++ inner ++ after)).failures v path = (options ns).failures v path ∧
        (options (before ++ inner ++ after)).clean v path = (options ns).clean v path) ∧
      (∀ n v p, (options ns).failures v p = [] → (options (ns ++ [n])).failures v p = [] ∧
        ∀ q, (options (ns ++ [n])).clean v q = (options ns).clean v q) ∧
      ∀ ms, ns.Perm ms → ∀ v path, (options ms).failures v path = [] ↔ (options ns).failures v path = [] := by
  obtain ⟨hn, hoptions⟩ := everywhere_options.1 h.coherent
  refine ⟨fun before inner after he v path => ?_, fun n v p => options_append hn n, fun ms hm v path => ?_⟩
  · subst he
    have hi : inner ≠ [] := (hoptions (options inner) (by simp)).self
    obtain ⟨hfailures, hclean⟩ := options_flatten hi before after v path
    exact ⟨hfailures.symm, hclean.symm⟩
  · rw [failures_options_perm hm hn]

/-- Null is absent in one option of the inner choice only, which keeps it once the inner choice is gone. -/
theorem options_laws_null :
    let s := leaf (.bare .string)
    let u := leaf { Leaf.bare .uint with annotations := ⟨true, []⟩ }
    let b := leaf (.bare .bool)
    ofFragment (.array [.string "string", .array [.object [("__type__", .string "uint"),
        ("__optional__", .bool true)], .string "bool"]]) = .ok (options [s, options [u, b]]) ∧
      (options [s, u, b]).failures .null .root = [] ∧ (options [s, u, b]).clean .null .root = .ok .null := by
  intro s u b
  have hcompile : ofFragment (.array [.string "string", .array [.object [("__type__", .string "uint"),
      ("__optional__", .bool true)], .string "bool"]]) = .ok (options [s, options [u, b]]) := by rfl
  obtain ⟨hfailures, hclean⟩ := (options_laws (.compiled (by decide) hcompile)).1 [s] [u, b] [] rfl .null .root
  exact ⟨hcompile, hfailures.trans (by rfl), hclean.trans (by rfl)⟩

end Node

end RecordSchema
