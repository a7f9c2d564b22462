/-
Needs over any number of steps. A record's check looks only at the fields that
a field needs directly, and only where the field itself is present and
accepted; that a needed field is set means more than that it is present. In a
record that passes the two fit together: a field that is set is present, so its
own needs were looked at in turn, and so along every chain, closed or not
(`RecordRule.isSet_of_transGen`).

Cleaning keeps fields set. No kind makes one of the unset texts, or null, of a
value it accepts, unless that value was one itself (`Leaf.isFilled_clean?`);
what the kind of JSON texts prints needs to be no more than looked at for that.
-/
import RecordSchema.Proofs.Node.WellFormed
import RecordSchema.Proofs.Number.Notation
import Mathlib.Logic.Relation

namespace RecordSchema

/-! ## Printed texts -/

/-- A text is set if it has a character that stands in none of the unset texts. -/
theorem RecordRule.not_mem_unsetTexts {s : String} {c : Char} (hc : c ∈ s.toList)
    (h : c ∉ ['0', '-', ':', ' ']) : s ∉ unsetTexts := by
  have hall : ∀ t ∈ unsetTexts, ∀ d ∈ t.toList, d ∈ ['0', '-', ':', ' '] := by simp [unsetTexts]
  exact fun hs => h (hall s hs c hc)

namespace Json

/-- No value is printed as one of the unset texts. -/
theorem text_not_mem_unsetTexts (v : Json) : v.text ∉ RecordRule.unsetTexts := by
  cases v with
  | null => decide
  | bool b => cases b <;> decide
  | number n =>
    cases n with
    | int n =>
      have hfits : ∀ t ∈ RecordRule.unsetTexts, Kind.int.fits t = false := by decide
      intro h
      have hn := hfits _ h
      rw [text, Number.text, Kind.fits_ofInt] at hn
      cases hn
    | float x =>
      obtain ⟨c, hc, hmark⟩ := x.exists_mark_mem_text
      exact RecordRule.not_mem_unsetTexts hc (by rcases hmark with rfl | rfl <;> decide)
  | string s => exact RecordRule.not_mem_unsetTexts (c := '"') (by simp [text, quote]) (by decide)
  | array items => exact RecordRule.not_mem_unsetTexts (c := '[') (by simp [text]) (by decide)
  | object members => exact RecordRule.not_mem_unsetTexts (c := '\x7b') (by simp [text]) (by decide)

end Json

/-! ## Cleaned values -/

theorem Json.IsFilled.cleanJson {v : Json} (h : v.IsFilled) : (Kind.cleanJson v).IsFilled := by
  unfold Kind.cleanJson
  split
  · exact h
  · refine ⟨rfl, fun s hs hv => ?_⟩
    rw [Json.string.injEq] at hv
    exact v.text_not_mem_unsetTexts (hv ▸ hs)

/-- What a leaf accepts and sets a field is cleaned to what sets it. -/
theorem Leaf.isFilled_clean? {l : Leaf} {v w : Json} (hv : v.WellFormed) (h : l.check v = .ok ())
    (hw : l.kind.clean? v = some w) (hf : v.IsFilled) : w.IsFilled := by
  by_cases hk : l.kind = .json
  · rw [hk] at hw
    cases hw
    exact hf.cleanJson
  · exact (Node.kept_leaf hv (fun hjson => absurd hjson hk) h hw).isFilled hf

namespace Json

theorem isFilled_array (items : List Json) : (array items).IsFilled := ⟨rfl, nofun⟩

theorem isFilled_object (members : List (String × Json)) : (object members).IsFilled := ⟨rfl, nofun⟩

theorem not_isFilled_null : ¬ null.IsFilled := fun h => by cases h.1

end Json

namespace Node

/-- Cleaning keeps a field set that the value sets, whatever the node. -/
theorem isFilled_clean (n : Node) {v w : Json} {path : Path} (hv : v.WellFormed) (hc : n.Conforms v)
    (hw : n.clean v path = .ok w) (hf : v.IsFilled) : w.IsFilled := by
  induction n with
  | leaf l =>
    rcases Leaf.clean_eq_ok hw with ⟨rfl, -, -⟩ | hw
    · exact absurd hf Json.not_isFilled_null
    · cases hc with
      | absent => exact absurd hf Json.not_isFilled_null
      | leaf hcheck => exact Leaf.isFilled_clean? hv hcheck hw hf
  | array rule child _ =>
    rcases ArrayRule.clean_eq_ok hw with ⟨rfl, -, -⟩ | ⟨_, ws, -, -, rfl⟩
    · exact absurd hf Json.not_isFilled_null
    · exact Json.isFilled_array ws
  | hash rule child _ =>
    rcases HashRule.clean_eq_ok hw with ⟨rfl, -, -⟩ | ⟨_, m, -, -, rfl⟩
    · exact absurd hf Json.not_isFilled_null
    · exact Json.isFilled_object m
  | options alternatives ih =>
    rcases clean_options_eq_ok hw with ⟨rfl, -, -⟩ | ⟨n, hmem, hnil, hw⟩
    · exact absurd hf Json.not_isFilled_null
    · exact ih n hmem ((decides_conforms n v path).1 hnil) hw
  | record rule fields _ =>
    rw [clean] at hw
    rcases RecordRule.clean_eq_ok hw with ⟨rfl, -, -⟩ | ⟨_, ws, -, -, rfl⟩
    · exact absurd hf Json.not_isFilled_null
    · exact Json.isFilled_object ws

end Node

/-! ## Chains of needs -/

namespace RecordRule

/-- One field is among the needs of another. -/
def Needs (rule : RecordRule) (name other : String) : Prop :=
  ∃ others, Members.get? rule.requires name = some others ∧ other ∈ others

variable {rule : RecordRule} {fields : List (String × Node)} {members : List (String × Json)}

/-- A present field is declared, so its needs were looked at. -/
theorem isSet_of_needs (h : (Node.record rule fields).Conforms (.object members)) {name other : String}
    {v : Json} (hv : Members.get? members name = some v) (hnull : v.isNull = false)
    (hneeds : rule.Needs name other) : IsSet members other := by
  obtain ⟨others, hothers, hother⟩ := hneeds
  cases h with
  | record declared _ _ needs =>
    obtain ⟨e, he, rfl⟩ := List.mem_map.1 (declared name (Members.mem_keys_of_get? hv))
    exact needs e he v hv hnull others hothers other hother

/-- What is set is present, so the needs of a field that is needed were looked at as well. -/
theorem isSet_of_transGen (h : (Node.record rule fields).Conforms (.object members)) {name other : String}
    {v : Json} (hv : Members.get? members name = some v) (hnull : v.isNull = false)
    (hneeds : Relation.TransGen rule.Needs name other) : IsSet members other := by
  induction hneeds with
  | single hstep => exact isSet_of_needs h hv hnull hstep
  | tail _ hstep ih =>
    obtain ⟨u, hu, hset, -⟩ := ih
    exact isSet_of_needs h hu hset hstep

end RecordRule

namespace Node

variable {rule : RecordRule} {fields : List (String × Node)} {members : List (String × Json)}

/-- A field that is set in a record is set in the cleaned record. -/
theorem isSet_clean (hn : (Members.keys fields).Nodup) (hv : (Json.object members).WellFormed)
    (hc : (record rule fields).Conforms (.object members)) {path : Path} {ws : List (String × Json)}
    (hws : RecordRule.cleanFields members path (Members.mapValues clean fields) = .ok ws) {name : String}
    (hset : RecordRule.IsSet members name) : RecordRule.IsSet ws name := by
  obtain ⟨v, hfound, hfilled⟩ := hset
  cases hc with
  | record declared _ each =>
    obtain ⟨e, he, rfl⟩ := List.mem_map.1 (declared name (Members.mem_keys_of_get? hfound))
    obtain ⟨-, hfields⟩ := RecordRule.cleanFields_eq_ok (by rwa [Members.keys_mapValues]) hws
    obtain ⟨w, hw, p, hclean⟩ := (hfields (e.1, e.2.clean) (List.mem_map_of_mem he)).2 v
      (RecordRule.present?_eq_some_iff.2 ⟨hfound, hfilled.1⟩)
    exact ⟨w, hw, e.2.isFilled_clean (hv.member _ (Members.mem_of_get? hfound))
      (each e he v hfound hfilled.1) hclean hfilled⟩

/-- **Whatever a present field needs, over however many steps, is set** in a record that passes, and still is
in the cleaned record. -/
theorem isSet_of_reached (hn : (record rule fields).Reachable) (hv : (Json.object members).WellFormed)
    {p : Path} (h : (record rule fields).failures (.object members) p = []) {name other : String} {v : Json}
    (hfound : Members.get? members name = some v) (hnull : v.isNull = false)
    (hneeds : Relation.TransGen rule.Needs name other) :
    RecordRule.IsSet members other ∧ ∀ q w, (record rule fields).clean (.object members) q = .ok w →
      ∃ ws, w = .object ws ∧ RecordRule.IsSet ws other := by
  have hrule : rule.Coherent (Members.keys fields) := (everywhere_record.1 hn.coherent).1
  have hconforms := (decides_conforms _ _ p).1 h
  have hset := RecordRule.isSet_of_transGen hconforms hfound hnull hneeds
  refine ⟨hset, fun q w hw => ?_⟩
  rw [clean, fieldCleaners_eq] at hw
  obtain ⟨ws, hws, rfl⟩ := RecordRule.clean_object_eq_ok hw
  exact ⟨ws, rfl, isSet_clean hrule.nodup hv hconforms hws hset⟩

/-- Two fields that need each other, and a third that only the second needs. -/
theorem isSet_of_reached_cycle :
    let v : Json := .object [("__require__", .object [("a", .string "b"), ("b", .array [.string "a", .string "c"])]),
      ("a", .string "int"), ("b", .string "json"), ("c", .string "price")]
    let rule : RecordRule := ⟨.plain, [("a", ["b"]), ("b", ["a", "c"])]⟩
    let fields := [("a", leaf (.bare .int)), ("b", leaf (.bare .json)), ("c", leaf (.bare .price))]
    let members : List (String × Json) := [("c", .string "0"), ("b", .number (.int 0)), ("a", .number (.int 1))]
    let ws : List (String × Json) := [("a", .number (.int 1)), ("b", .string "0"), ("c", .string "0.00")]
    ofFragment v = .ok (record rule fields) ∧ (record rule fields).failures (.object members) .root = [] ∧
      (record rule fields).clean (.object members) .root = .ok (.object ws) ∧
      Relation.TransGen rule.Needs "a" "c" ∧ RecordRule.IsSet members "c" ∧ RecordRule.IsSet ws "c" := by
  intro v rule fields members ws
  have hcompile : ofFragment v = .ok (record rule fields) := by rfl
  have hpasses : (record rule fields).failures (.object members) .root = [] := by rfl
  have hclean : (record rule fields).clean (.object members) .root = .ok (.object ws) := by rfl
  have hfirst : rule.Needs "a" "b" := ⟨["b"], rfl, by decide⟩
  have hsecond : rule.Needs "b" "c" := ⟨["a", "c"], rfl, by decide⟩
  have hneeds : Relation.TransGen rule.Needs "a" "c" := .tail (.single hfirst) hsecond
  obtain ⟨hset, hcleaned⟩ := isSet_of_reached (.compiled (by decide) hcompile) (by decide) hpasses
    (v := .number (.int 1)) rfl rfl hneeds
  obtain ⟨_, hws, hset'⟩ := hcleaned .root _ hclean
  cases hws
  exact ⟨hcompile, hpasses, hclean, hneeds, hset, hset'⟩

end Node

end RecordSchema
