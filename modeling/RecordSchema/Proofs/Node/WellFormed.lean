/-
What a value of JSON is cleaned to is one: its integers are within the 64-bit
ranges and its objects repeat no key (`wellFormed_clean`). For records the
cleaning of the fields is read off in both directions: the names of the
cleaned fields are among those declared, and each comes from a field that was
there.
-/
import RecordSchema.Proofs.Node.Idempotent

namespace RecordSchema

/-! ## Leaves -/

namespace Json

theorem wellFormed_ofInt (n : Int) : (ofInt n).WellFormed := by
  unfold ofInt
  split
  · next h => exact everywhere_number.2 h
  · exact everywhere_null.2 trivial

end Json

namespace Kind

theorem wellFormed_clean? {kind : Kind} {v w : Json} (hv : v.WellFormed) (h : kind.clean? v = some w) :
    w.WellFormed := by
  cases kind with
  | any => cases h; exact hv
  | base64 | ip | md5 | string | uuid | date | datetime | time | decimal =>
    obtain ⟨s, -, rfl⟩ := Option.map_eq_some_iff.1 h
    exact Json.wellFormed_string s
  | bool => cases h; exact Json.everywhere_bool.2 trivial
  | float =>
    obtain ⟨x, rfl⟩ := cleanFloat?_eq_some h
    exact Json.everywhere_number.2 trivial
  | int | timestamp | uint =>
    obtain ⟨n, rfl, -⟩ := cleanInteger?_eq_some h
    exact Json.wellFormed_ofInt n
  | json =>
    cases h
    obtain ⟨s, hs⟩ := cleanJson_eq v
    rw [hs]
    exact Json.wellFormed_string s
  | price =>
    obtain ⟨d, -, rfl⟩ := cleanPrice?_eq_some_iff.1 h
    exact Json.wellFormed_string _

end Kind

/-! ## Records -/

namespace RecordRule

variable {record : Members Json} {path : Path} {cleaners : List (String × Cleaner)} {ws : List (String × Json)}

/-- Cleaned fields stand in the order of declaration, under the names of some of the fields. -/
theorem keys_cleanFields (h : cleanFields record path cleaners = .ok ws) :
    (Members.keys ws).Sublist (Members.keys cleaners) := by
  induction cleaners generalizing ws with
  | nil => cases h; exact .slnil
  | cons c rest ih =>
    simp only [cleanFields] at h
    split at h
    · exact (ih h).cons _
    · split at h
      · cases h
      · obtain ⟨ws', hws', rfl⟩ := Except.map_eq_ok_iff.1 h
        exact (ih hws').cons_cons _

/-- Each cleaned field is made by the cleaning of its name of what the record has there. -/
theorem mem_cleanFields (h : cleanFields record path cleaners = .ok ws) :
    ∀ e ∈ ws, ∃ c ∈ cleaners, ∃ v p, present? record c.1 = some v ∧ c.2 v p = .ok e.2 := by
  induction cleaners generalizing ws with
  | nil => cases h; simp
  | cons c rest ih =>
    obtain ⟨name, cleaner⟩ := c
    have hrest : ∀ {ws'}, cleanFields record path rest = .ok ws' → ∀ e ∈ ws', ∃ c ∈ (name, cleaner) :: rest,
        ∃ v p, present? record c.1 = some v ∧ c.2 v p = .ok e.2 := by
      intro ws' hws' e he
      obtain ⟨c, hc, hclean⟩ := ih hws' e he
      exact ⟨c, List.mem_cons_of_mem _ hc, hclean⟩
    simp only [cleanFields] at h
    split at h
    · exact hrest h
    · next v hv =>
      split at h
      · cases h
      · next w hw =>
        obtain ⟨ws', hws', rfl⟩ := Except.map_eq_ok_iff.1 h
        exact List.forall_mem_cons.2 ⟨⟨_, List.mem_cons_self .., v, _, hv, hw⟩, hrest hws'⟩

end RecordRule

/-! ## Nodes -/

namespace Node

/-- **What a value of JSON is cleaned to is one.** -/
theorem wellFormed_clean (n : Node) (hn : n.Everywhere Coherent) {v w : Json} {path : Path}
    (hv : v.WellFormed) (h : n.clean v path = .ok w) : w.WellFormed := by
  induction n generalizing v w path with
  | leaf l =>
    rcases Leaf.clean_eq_ok h with ⟨rfl, -, rfl⟩ | h
    · exact hv
    · exact Kind.wellFormed_clean? hv h
  | array rule child ih =>
    rw [everywhere_array] at hn
    rcases ArrayRule.clean_eq_ok h with ⟨rfl, -, rfl⟩ | ⟨items, ws, rfl, hws, rfl⟩
    · exact hv
    · refine Json.everywhere_array.2 ⟨trivial, fun w hw => ?_⟩
      obtain ⟨v, hmem, p, hclean⟩ := (ArrayRule.cleanItems_eq_ok hws).2 w hw
      exact ih hn.2 (hv.item v hmem) hclean
  | hash rule child ih =>
    rw [everywhere_hash] at hn
    rcases HashRule.clean_eq_ok h with ⟨rfl, -, rfl⟩ | ⟨members, m, rfl, hm, rfl⟩
    · exact hv
    · refine Json.everywhere_object.2
        ⟨HashRule.nodup_cleanEntries (by simp [Members.keys]) hm, fun e he => ?_⟩
      obtain ⟨e', hmem, -, p, hclean⟩ := (HashRule.cleanEntries_eq_ok hm e he).resolve_left (by simp)
      exact ih hn.2 (hv.member e' hmem) hclean
  | options alternatives ih =>
    rw [everywhere_options] at hn
    rcases clean_options_eq_ok h with ⟨rfl, -, rfl⟩ | ⟨n, hmem, -, hclean⟩
    · exact hv
    · exact ih n hmem (hn.2 n hmem) hv hclean
  | record rule fields ih =>
    rw [everywhere_record] at hn
    have hrule : rule.Coherent (Members.keys fields) := hn.1
    rw [clean, fieldCleaners_eq] at h
    rcases RecordRule.clean_eq_ok h with ⟨rfl, -, rfl⟩ | ⟨record, ws, rfl, hws, rfl⟩
    · exact hv
    · have hkeys := RecordRule.keys_cleanFields hws
      rw [Members.keys_mapValues] at hkeys
      refine Json.everywhere_object.2 ⟨hkeys.nodup hrule.nodup, fun e he => ?_⟩
      obtain ⟨c, hc, v, p, hfound, hclean⟩ := RecordRule.mem_cleanFields hws e he
      obtain ⟨f, hf, rfl⟩ := List.mem_map.1 hc
      have hmem := Members.mem_of_get? (RecordRule.present?_eq_some_iff.1 hfound).1
      exact ih f hf (hn.2 f hf) (hv.member _ hmem) hclean

end Node

end RecordSchema
