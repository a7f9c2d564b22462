/-
How many entries a cleaned hash has. Its keys are cleaned like its values, and
the entries are put one by one into the cleaned hash, where an entry takes the
place of one that is there under the same key. So entries are lost exactly
when two keys have one canonical form (`clean_hash_length`). The kinds whose keys
are kept as they are never lose one, every other kind may
(`keyOf?_injective_iff`).
-/
import Mathlib.Data.List.Forall2
import Mathlib.Data.List.Nodup
import RecordSchema.Proofs.Node.Stable

namespace RecordSchema

/-! ## Keys -/

namespace Kind

variable {kind : Kind} {key key' : String}

/-- The canonical form of a key, if it has one. -/
def keyOf? (kind : Kind) (key : String) : Option String := (kind.clean? (.string key)).map Leaf.keyText

/-- Whether every text is its own canonical form. -/
def keepsTexts : Kind → Bool
  | bool | float | int | price | timestamp | uint => false
  | _ => true

theorem keyOf?_of_keepsTexts (h : kind.keepsTexts = true) : kind.keyOf? key = some key := by
  cases kind <;> cases h <;> rfl

/-- The two texts stand for one value. -/
theorem keyOf?_merges (h : kind.keepsTexts = false) :
    ∃ key key', key ≠ key' ∧ kind.keyOf? key = kind.keyOf? key' ∧ (kind.keyOf? key).isSome = true := by
  cases kind with
  | bool => exact ⟨"1", "true", by decide, by decide, by decide⟩
  | float => exact ⟨"1", "1.0", by decide, by decide +kernel, by decide +kernel⟩
  | int | timestamp | uint => exact ⟨"1", "0x1", by decide, by decide, by decide⟩
  | price => exact ⟨"1", "1.0", by decide, by decide, by decide⟩
  | _ => cases h

/-- **Only the kinds that keep texts as they are tell all keys apart.** -/
theorem keyOf?_injective_iff : kind.keepsTexts = true ↔
    ∀ key key', kind.keyOf? key = kind.keyOf? key' → (kind.keyOf? key).isSome = true → key = key' := by
  constructor
  · intro hk key key' h _
    rw [keyOf?_of_keepsTexts hk, keyOf?_of_keepsTexts hk] at h
    exact Option.some.inj h
  · intro h
    rw [← Bool.not_eq_false]
    intro hk
    obtain ⟨key, key', hne, hsame, hsome⟩ := keyOf?_merges hk
    exact hne (h key key' hsame hsome)

end Kind

/-! ## Entries -/

namespace HashRule

variable {rule : HashRule} {clean : Cleaner} {path : Path} {members : List (String × Json)}
  {done m : Members Json}

/-- Each entry is put in under the canonical form of its key, with that of its value. -/
theorem cleanEntries_eq_insertAll (h : rule.cleanEntries clean path done members = .ok m) :
    ∃ es : List (String × Json), m = done.insertAll es ∧ members.Forall₂
      (fun e e' => rule.key.kind.keyOf? e.1 = some e'.1 ∧ clean e.2 (path.field e.1) = .ok e'.2) es := by
  induction members generalizing done with
  | nil => cases h; exact ⟨[], rfl, .nil⟩
  | cons e rest ih =>
    obtain ⟨key, v⟩ := e
    simp only [cleanEntries] at h
    split at h
    · cases h
    · next key' hkey =>
      split at h
      · cases h
      · next w hw =>
        obtain ⟨es, rfl, hes⟩ := ih h
        obtain ⟨u, hu, rfl⟩ := cleanKey_eq_ok hkey
        exact ⟨(Leaf.keyText u, w) :: es, rfl, .cons ⟨by rw [Kind.keyOf?, hu]; rfl, hw⟩ hes⟩

end HashRule

namespace Node

/-- **What becomes of the entries of a hash.** They are cleaned one by one and put in a new hash, where none
is lost exactly when no two keys have one canonical form; under a kind that keeps texts as they are, none
ever is. -/
theorem clean_hash_length {rule : HashRule} {child : Node} {members : List (String × Json)} {path : Path}
    {w : Json} (h : (hash rule child).clean (.object members) path = .ok w) :
    ∃ es : List (String × Json), w = .object (Members.ofPairs es) ∧ members.Forall₂
        (fun e e' => rule.key.kind.keyOf? e.1 = some e'.1 ∧ child.clean e.2 (path.field e.1) = .ok e'.2) es ∧
      (Members.ofPairs es).length ≤ members.length ∧
      ((Members.ofPairs es).length = members.length ↔
        (members.map fun e => rule.key.kind.keyOf? e.1).Nodup) ∧
      (rule.key.kind.keepsTexts = true → (Members.keys members).Nodup →
        (Members.ofPairs es).length = members.length) := by
  obtain ⟨hnull, -⟩ | ⟨_, m, hv, hm, rfl⟩ := HashRule.clean_eq_ok h
  · cases hnull
  cases hv
  obtain ⟨es, rfl, hes⟩ := HashRule.cleanEntries_eq_insertAll hm
  have hlength : members.length = es.length := hes.length_eq
  have hkeys : (members.map fun e => rule.key.kind.keyOf? e.1) = (Members.keys es).map some := by
    rw [Members.keys, List.map_map, ← List.forall₂_eq_eq_eq, List.forall₂_map_left_iff,
      List.forall₂_map_right_iff]
    exact hes.imp fun e e' h => h.1
  have hiff : (Members.ofPairs es).length = members.length ↔
      (members.map fun e => rule.key.kind.keyOf? e.1).Nodup := by
    rw [hlength, Members.length_ofPairs_eq_iff, hkeys, List.nodup_map_iff fun _ _ => Option.some.inj]
  refine ⟨es, rfl, hes, hlength ▸ Members.length_ofPairs_le es, hiff, fun hk hn => hiff.2 ?_⟩
  have hself : (members.map fun e => rule.key.kind.keyOf? e.1) = (Members.keys members).map some := by
    simp [Members.keys, Kind.keyOf?_of_keepsTexts hk]
  rw [hself, List.nodup_map_iff fun _ _ => Option.some.inj]
  exact hn

/-- Two keys for two truth values. -/
theorem clean_hash_length_flags :
    let rule : HashRule := ⟨.plain, .bare .bool⟩
    let members : List (String × Json) := [("yes", .string "a"), ("no", .string "b")]
    let w : Json := .object [("true", .string "a"), ("false", .string "b")]
    (hash rule (leaf (.bare .any))).clean (.object members) .root = .ok w ∧
      ∃ es : List (String × Json), w = .object (Members.ofPairs es) ∧ (Members.ofPairs es).length = 2 := by
  intro rule members w
  have hclean : (hash rule (leaf (.bare .any))).clean (.object members) .root = .ok w := by rfl
  obtain ⟨es, hw, -, -, hiff, -⟩ := clean_hash_length hclean
  exact ⟨hclean, es, hw, hiff.2 (by decide)⟩

/-- Two keys for one truth value: the later entry takes the place of the earlier, even in a value that
passes. -/
theorem clean_hash_loses_entry :
    ¬ ∀ (n : Node) (members : List (String × Json)) (w : Json), n.Reachable →
      (Json.object members).WellFormed → n.failures (.object members) .root = [] →
        n.clean (.object members) .root = .ok w → ∃ m, w = .object m ∧ m.length = members.length := by
  intro h
  have hcompile : ofFragment (.object [("__hash__", .string "bool"), ("__type__", .string "any")]) =
      .ok (hash ⟨.plain, .bare .bool⟩ (leaf (.bare .any))) := by rfl
  obtain ⟨m, hm, hlength⟩ := h _ [("yes", .string "a"), ("true", .string "b")] (.object [("true", .string "b")])
    (.compiled (by decide) hcompile) (by decide) (by rfl) (by rfl)
  cases hm
  cases hlength

end Node

end RecordSchema
