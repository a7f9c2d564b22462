/-
What can not be cleaned does not pass, and not by chance: where cleaning
stops, the check has found something wrong at, above or below the same place.

The two walks go through a value in different orders. Cleaning stops at the
first part that has no canonical form; a check goes on, but passes over the
value under a bad key. `Refuses` relates the two for one value, and each form
of node carries it over from its children.
-/
import RecordSchema.Node.Clean
import RecordSchema.Proofs.Except
import RecordSchema.Proofs.Members
import RecordSchema.Proofs.Leaf.Clean
import RecordSchema.Proofs.Node.Conforms

namespace RecordSchema

namespace Path

/-- `q` is `p` or goes on from it. -/
def Above (p q : Path) : Prop := p.segments <+: q.segments

/-- One of two paths goes on from the other. -/
def Comparable (p q : Path) : Prop := Above p q ∨ Above q p

theorem above_refl (p : Path) : Above p p := List.prefix_refl _

theorem above_push (p : Path) (s : Segment) : Above p (p.push s) := List.prefix_append ..

theorem Above.trans {p q r : Path} (h₁ : Above p q) (h₂ : Above q r) :
    Above p r := List.IsPrefix.trans h₁ h₂

end Path

/-- Where cleaning a value stops, below the path it started at, the check finds something wrong at a
path that is comparable. -/
def Refuses (check : Checker) (clean : Cleaner) (v : Json) : Prop :=
  ∀ path e, clean v path = .error e → path.Above e.path ∧ ∃ f ∈ check v path, f.path.Comparable e.path

/-- An error at the path itself, where the check fails there. -/
theorem refuses_here {path : Path} {fs : Failures} {e : CleanError} (he : e.path = path)
    (hf : ∃ f ∈ fs, path.Above f.path) : path.Above e.path ∧ ∃ f ∈ fs, f.path.Comparable e.path := by
  obtain ⟨f, hmem, hf⟩ := hf
  subst he
  exact ⟨Path.above_refl _, f, hmem, .inr hf⟩

theorem Leaf.refuses (l : Leaf) {v : Json} (hv : v.WellFormed) (ht : v.FiniteTexts) :
    Refuses l.failures l.clean v := by
  intro path e h
  have hne := check_ne_ok_of_clean_error hv ht h
  refine refuses_here (clean_error_path h) ?_
  rw [failures] at hne ⊢
  split at hne
  · exact absurd rfl hne
  · split at hne
    · exact absurd rfl hne
    · next hnull _ _ _ => simp [hnull, Path.above_refl]

/-! ## Lists -/

namespace ArrayRule

variable {check : Checker} {clean : Cleaner}

/-- The failures of a list are those of its first item and those of the rest, for some items seen. -/
theorem itemFailures_cons (mode : ArrayMode) (check : Checker) (path : Path) (i : Nat)
    (seen : List (Nat × Json)) (v : Json) (vs : List Json) :
    check v (path.index i) ⊆ itemFailures mode check path i seen (v :: vs) ∧
      ∃ seen', itemFailures mode check path (i + 1) seen' vs ⊆
        itemFailures mode check path i seen (v :: vs) := by
  rw [itemFailures]
  split
  · next hf => exact ⟨hf ▸ List.subset_append_left .., seen, List.subset_append_right ..⟩
  · next hf =>
    refine ⟨hf ▸ List.nil_subset _, ?_⟩
    split
    · split
      · exact ⟨seen, List.subset_cons_self ..⟩
      · exact ⟨_, List.Subset.refl _⟩
    · exact ⟨seen, List.Subset.refl _⟩

theorem cleanItems_refuses (mode : ArrayMode) {path : Path} {items : List Json}
    (hc : ∀ v ∈ items, Refuses check clean v) : ∀ i seen e, cleanItems clean path i items = .error e →
      path.Above e.path ∧ ∃ f ∈ itemFailures mode check path i seen items, f.path.Comparable e.path := by
  induction items with
  | nil => intro i seen e h; cases h
  | cons v vs ih =>
    intro i seen e h
    rw [List.forall_mem_cons] at hc
    obtain ⟨hitem, seen', hrest⟩ := itemFailures_cons mode check path i seen v vs
    rw [cleanItems] at h
    split at h
    · next he =>
      cases h
      obtain ⟨habove, f, hf, hcomp⟩ := hc.1 _ _ he
      exact ⟨(Path.above_push _ _).trans habove, f, hitem hf, hcomp⟩
    · rw [Except.map_eq_error_iff] at h
      obtain ⟨habove, f, hf, hcomp⟩ := ih hc.2 (i + 1) seen' e h
      exact ⟨habove, f, hrest hf, hcomp⟩

theorem refuses (rule : ArrayRule) {v : Json}
    (hc : ∀ items, v = .array items → ∀ w ∈ items, Refuses check clean w) :
    Refuses (rule.failures check) (rule.clean clean) v := by
  intro path e h
  unfold ArrayRule.clean at h
  unfold ArrayRule.failures
  split at h
  · cases h
  · next hnull =>
    rw [if_neg hnull]
    cases v with
    | array items =>
      rw [Except.map_eq_error_iff] at h
      obtain ⟨habove, f, hf, hcomp⟩ := cleanItems_refuses rule.mode (hc items rfl) 0 [] e h
      exact ⟨habove, f, List.mem_append_left _ hf, hcomp⟩
    | _ => cases h; exact refuses_here rfl ⟨_, List.mem_singleton_self _, Path.above_refl _⟩

end ArrayRule

/-! ## Hashes -/

namespace HashRule

variable {check : Checker} {clean : Cleaner}

/-- An error of an entry, in its key or in its value. -/
theorem entryFailures_of_error (rule : HashRule) {path : Path} {key : String} {v : Json} {e : CleanError}
    (ht : (Json.string key).FiniteTexts) (hc : Refuses check clean v)
    (h : rule.cleanKey key (path.field key) = .error e ∨ clean v (path.field key) = .error e) :
    path.Above e.path ∧ ∃ f ∈ rule.entryFailures check path key v, f.path.Comparable e.path := by
  have hkey : rule.cleanKey key (path.field key) = .error e → rule.key.accepts (.string key) = false := by
    intro h
    rw [cleanKey, Except.map_eq_error_iff] at h
    have hne := Leaf.check_ne_ok_of_clean_error (Json.wellFormed_string key) ht h
    rw [← Bool.not_eq_true, Leaf.accepts_string_iff]
    intro hok
    exact hne ((Leaf.failures_eq_nil_iff ..).2 (.inr hok))
  have habove : (path.field key).Above e.path ∧
      (rule.key.accepts (.string key) = true →
        ∃ f ∈ check v (path.field key), f.path.Comparable e.path) := by
    rcases h with h | h
    · refine ⟨?_, fun hok => absurd hok (by simp [hkey h])⟩
      rw [cleanKey, Except.map_eq_error_iff] at h
      rw [Leaf.clean_error_path h]
      exact Path.above_refl _
    · exact ⟨(hc _ _ h).1, fun _ => (hc _ _ h).2⟩
  refine ⟨(Path.above_push _ _).trans habove.1, ?_⟩
  rw [entryFailures]
  split
  · next hok => exact habove.2 hok
  · exact ⟨_, List.mem_singleton_self _, .inl habove.1⟩

theorem cleanEntries_refuses (rule : HashRule) {path : Path} {members : List (String × Json)}
    (ht : ∀ e ∈ members, (Json.string e.1).FiniteTexts)
    (hc : ∀ e ∈ members, Refuses check clean e.2) :
    ∀ done e, rule.cleanEntries clean path done members = .error e → path.Above e.path ∧
      ∃ f ∈ members.flatMap fun m => rule.entryFailures check path m.1 m.2, f.path.Comparable e.path := by
  induction members with
  | nil => intro done e h; cases h
  | cons m rest ih =>
    intro done e h
    rw [List.forall_mem_cons] at ht hc
    obtain ⟨key, v⟩ := m
    rw [List.flatMap_cons]
    simp only [cleanEntries] at h
    split at h
    · next he =>
      cases h
      obtain ⟨habove, f, hf, hcomp⟩ := entryFailures_of_error rule ht.1 hc.1 (.inl he)
      exact ⟨habove, f, List.mem_append_left _ hf, hcomp⟩
    · split at h
      · next he =>
        cases h
        obtain ⟨habove, f, hf, hcomp⟩ := entryFailures_of_error rule ht.1 hc.1 (.inr he)
        exact ⟨habove, f, List.mem_append_left _ hf, hcomp⟩
      · obtain ⟨habove, f, hf, hcomp⟩ := ih ht.2 hc.2 _ e h
        exact ⟨habove, f, List.mem_append_right _ hf, hcomp⟩

theorem refuses (rule : HashRule) {v : Json}
    (ht : ∀ members, v = .object members → ∀ e ∈ members, (Json.string e.1).FiniteTexts)
    (hc : ∀ members, v = .object members → ∀ e ∈ members, Refuses check clean e.2) :
    Refuses (rule.failures check) (rule.clean clean) v := by
  intro path e h
  unfold HashRule.clean at h
  unfold HashRule.failures
  split at h
  · cases h
  · next hnull =>
    rw [if_neg hnull]
    cases v with
    | object members =>
      rw [Except.map_eq_error_iff] at h
      exact cleanEntries_refuses rule (ht members rfl) (hc members rfl) [] e h
    | _ => cases h; exact refuses_here rfl ⟨_, List.mem_singleton_self _, Path.above_refl _⟩

end HashRule

/-! ## Records -/

namespace RecordRule

/-- An error in a field, where the checks and the cleaners of the fields are given side by side. -/
theorem cleanFields_refuses (rule : RecordRule) {record : Members Json} {path : Path}
    {fields : List (String × FieldCheck × Cleaner)}
    (hc : ∀ c ∈ fields, ∀ v, present? record c.1 = some v → Refuses c.2.1.failures c.2.2 v) :
    ∀ e, cleanFields record path (fields.map fun c => (c.1, c.2.2)) = .error e → path.Above e.path ∧
      ∃ f ∈ fields.flatMap fun c => rule.fieldFailures record path c.1 c.2.1, f.path.Comparable e.path := by
  induction fields with
  | nil => intro e h; cases h
  | cons c rest ih =>
    intro e h
    rw [List.forall_mem_cons] at hc
    have hrest : cleanFields record path (rest.map fun c => (c.1, c.2.2)) = .error e → path.Above e.path ∧
        ∃ f ∈ (c :: rest).flatMap fun c => rule.fieldFailures record path c.1 c.2.1,
          f.path.Comparable e.path := by
      intro h
      obtain ⟨habove, f, hf, hcomp⟩ := ih hc.2 e h
      exact ⟨habove, f, List.mem_append_right _ hf, hcomp⟩
    rw [List.map_cons, cleanFields] at h
    split at h
    · exact hrest h
    · next v hv =>
      split at h
      · next he =>
        cases h
        obtain ⟨habove, f, hf, hcomp⟩ := hc.1 v hv _ _ he
        refine ⟨(Path.above_push _ _).trans habove, f, List.mem_append_left _ ?_, hcomp⟩
        simp only [fieldFailures, hv]
        split
        · next hnil => simp [hnil] at hf
        · exact hf
      · rw [Except.map_eq_error_iff] at h
        exact hrest h

theorem refuses (rule : RecordRule) {fields : List (String × FieldCheck × Cleaner)} {v : Json}
    (hc : ∀ record, v = .object record → ∀ c ∈ fields, ∀ w, present? record c.1 = some w →
      Refuses c.2.1.failures c.2.2 w) :
    Refuses (rule.failures (fields.map fun c => (c.1, c.2.1)))
      (rule.clean (fields.map fun c => (c.1, c.2.2))) v := by
  intro path e h
  unfold RecordRule.clean at h
  unfold RecordRule.failures
  split at h
  · cases h
  · next hnull =>
    rw [if_neg hnull]
    cases v with
    | object record =>
      dsimp only at h ⊢
      split at h
      · next key hkey =>
        cases h
        have hmem := List.mem_of_find?_eq_some hkey
        have hnot := List.find?_some hkey
        refine refuses_here rfl
          ⟨⟨path.field key, .undeclared, none⟩, List.mem_append_right _ ?_, Path.above_push _ _⟩
        refine List.mem_map_of_mem (List.mem_filter.2 ⟨hmem, ?_⟩)
        simpa [Function.comp_def] using hnot
      · rw [Except.map_eq_error_iff] at h
        obtain ⟨habove, f, hf, hcomp⟩ := cleanFields_refuses rule (hc record rfl) e h
        refine ⟨habove, f, List.mem_append_left _ ?_, hcomp⟩
        rwa [List.flatMap_map]
    | _ => cases h; exact refuses_here rfl ⟨_, List.mem_singleton_self _, Path.above_refl _⟩

end RecordRule

/-! ## Nodes -/

namespace Node

/-- A choice cleans by an option that accepts, so an error there would be one on an accepted value. -/
theorem refuses_options {alternatives : List Node} {v : Json}
    (hc : ∀ n ∈ alternatives, Refuses n.failures n.clean v) :
    Refuses (options alternatives).failures (options alternatives).clean v := by
  intro path e h
  unfold clean at h
  unfold failures
  split at h
  · cases h
  · next hnull =>
    rw [if_neg hnull]
    rw [checkers_eq, List.any_map]
    rw [cleaners_eq, List.find?_map] at h
    cases hfind : alternatives.find? fun n => (n.failures v path).isEmpty with
    | some n =>
      simp only [Function.comp_def, hfind, Option.map_some] at h
      have hmem := List.mem_of_find?_eq_some hfind
      have hnil := List.find?_some hfind
      obtain ⟨-, f, hf, -⟩ := hc n hmem path e h
      rw [List.isEmpty_iff] at hnil
      simp [hnil] at hf
    | none =>
      simp only [Function.comp_def, hfind, Option.map_none] at h
      cases h
      rw [List.find?_eq_none] at hfind
      rw [if_neg (by simpa using hfind)]
      exact refuses_here rfl ⟨_, List.mem_singleton_self _, Path.above_refl _⟩

theorem refuses (n : Node) :
    ∀ v, v.WellFormed → v.FiniteTexts → Refuses n.failures n.clean v := by
  induction n with
  | leaf l => exact fun v hv ht => l.refuses hv ht
  | array rule child ih =>
    intro v hv ht
    rw [failures, clean]
    refine rule.refuses ?_
    rintro items rfl w hw
    exact ih w (hv.item w hw) (ht.item w hw)
  | hash rule child ih =>
    intro v hv ht
    rw [failures, clean]
    refine rule.refuses ?_ ?_
    · rintro members rfl
      exact ht.key
    · rintro members rfl e he
      exact ih e.2 (hv.member e he) (ht.member e he)
  | options alternatives ih =>
    exact fun v hv ht => refuses_options fun n hn => ih n hn v hv ht
  | record rule fields ih =>
    intro v hv ht
    have hchecks : fieldChecks fields =
        (fields.map fun e => (e.1, (⟨e.2.isOptional, e.2.failures⟩ : FieldCheck), e.2.clean)).map
          fun c => (c.1, c.2.1) := by simp [fieldChecks_eq, Function.comp_def]
    have hcleaners : fieldCleaners fields =
        (fields.map fun e => (e.1, (⟨e.2.isOptional, e.2.failures⟩ : FieldCheck), e.2.clean)).map
          fun c => (c.1, c.2.2) := by simp [fieldCleaners_eq, Members.mapValues, Function.comp_def]
    rw [failures, clean, hchecks, hcleaners]
    refine rule.refuses ?_
    rintro record rfl c hc w hw
    obtain ⟨e, he, rfl⟩ := List.mem_map.1 hc
    have hmem := Members.mem_of_get? (RecordRule.present?_eq_some_iff.1 hw).1
    exact ih e he w (hv.member _ hmem) (ht.member _ hmem)

/-- **Where cleaning stops, the check faults a comparable place**, and a value that passes can be
cleaned. -/
theorem clean_error_faulted (n : Node) (v : Json) (path : Path) (hv : v.WellFormed) (ht : v.FiniteTexts) :
    (∀ e, n.clean v path = .error e → ∃ f ∈ n.failures v path, f.path.Comparable e.path) ∧
      (n.failures v path = [] → ∃ w, n.clean v path = .ok w) := by
  refine ⟨fun e he => (n.refuses v hv ht path e he).2, fun hnil => ?_⟩
  cases h : n.clean v path with
  | ok w => exact ⟨w, rfl⟩
  | error e =>
    obtain ⟨-, f, hf, -⟩ := n.refuses v hv ht path e h
    simp [hnil] at hf

/-- A bad key stops cleaning and is faulted. -/
theorem clean_error_faulted_at_key :
    (hash ⟨.plain, .bare .int⟩ (leaf (.bare .bool))).clean (.object [("x", .bool true)]) .root =
        .error ⟨.ofField "x", .unconvertible .int "\"x\""⟩ ∧
      ∃ f ∈ (hash ⟨.plain, .bare .int⟩ (leaf (.bare .bool))).failures (.object [("x", .bool true)]) .root,
        f.path.Comparable (.ofField "x") := by
  have hclean :
      (hash ⟨.plain, .bare .int⟩ (leaf (.bare .bool))).clean (.object [("x", .bool true)]) .root =
      .error ⟨.ofField "x", .unconvertible .int "\"x\""⟩ := by rfl
  have hfinite : Extended.ofText? "x" = none := by decide
  have ht : (Json.object [("x", .bool true)]).FiniteTexts := by
    simp [Json.FiniteTexts, Json.ownTexts, Members.keys, Json.FiniteText, hfinite]
  exact ⟨hclean, (clean_error_faulted _ _ _ (by decide) ht).1 _ hclean⟩

end Node

end RecordSchema
