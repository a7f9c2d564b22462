/-
Laws of association lists: lookup against membership, and under the
operations that select and change members.
-/
import RecordSchema.Members

namespace RecordSchema

namespace Members

variable {α β : Type} {m : Members α} {key : String} {v : α}

theorem mem_of_get? (h : get? m key = some v) : (key, v) ∈ m := by
  induction m with
  | nil => cases h
  | cons e m ih =>
    obtain ⟨k, w⟩ := e
    rw [get?_cons] at h
    split at h
    · next hk => cases h; subst hk; exact List.mem_cons_self ..
    · exact List.mem_cons_of_mem _ (ih h)

theorem mem_keys_of_get? (h : get? m key = some v) : key ∈ keys m := List.mem_map_of_mem (mem_of_get? h)

/-- In a list that repeats no key every member is the one that is found. -/
theorem get?_of_mem (hn : (keys m).Nodup) (h : (key, v) ∈ m) : get? m key = some v := by
  induction m with
  | nil => cases h
  | cons e m ih =>
    obtain ⟨k, w⟩ := e
    obtain ⟨hk, hn⟩ := List.nodup_cons.1 hn
    rw [get?_cons]
    rcases List.mem_cons.1 h with h | h
    · cases h
      exact if_pos rfl
    · have hkey : key ∈ keys m := List.mem_map_of_mem h
      have hne : k ≠ key := by
        rintro rfl
        exact hk hkey
      rw [if_neg hne]
      exact ih hn h

theorem get?_eq_none_iff : get? m key = none ↔ key ∉ keys m := by
  induction m with
  | nil => simp [keys]
  | cons e m ih =>
    obtain ⟨k, w⟩ := e
    rw [get?_cons]
    by_cases hk : k = key
    · simp [hk, keys]
    · rw [if_neg hk, ih]
      simp [keys, Ne.symm hk]

/-- Where no key is repeated, the order of the members does not matter. -/
theorem get?_perm {m' : Members α} (hn : (keys m).Nodup) (h : m.Perm m') (key : String) :
    get? m key = get? m' key := by
  cases hget : get? m' key with
  | none =>
    rw [get?_eq_none_iff] at hget ⊢
    exact mt (h.map (·.1)).mem_iff.1 hget
  | some v => exact get?_of_mem hn (h.mem_iff.2 (mem_of_get? hget))

/-- The members under a key, of which there is at most one where no key is repeated. -/
theorem filter_key_eq (hn : (keys m).Nodup) (key : String) :
    (m.filter fun e => e.1 = key) = ((get? m key).map fun v => (key, v)).toList := by
  induction m with
  | nil => rfl
  | cons e m ih =>
    obtain ⟨k, w⟩ := e
    obtain ⟨hk, hn⟩ := List.nodup_cons.1 hn
    rw [get?_cons, List.filter_cons, ih hn]
    by_cases hkey : k = key
    · subst hkey
      simp [get?_eq_none_iff.2 hk]
    · simp [hkey]

theorem get?_mapValues (f : α → β) (m : Members α) (key : String) :
    get? (mapValues f m) key = (get? m key).map f := by
  induction m with
  | nil => rfl
  | cons e m ih =>
    obtain ⟨k, w⟩ := e
    change get? ((k, f w) :: mapValues f m) key = _
    rw [get?_cons, get?_cons, ih]
    split <;> rfl

theorem keys_mapValues (f : α → β) (m : Members α) : keys (mapValues f m) = keys m := by
  simp [keys, mapValues, Function.comp_def]

theorem keys_modify (f : α → α) (i : Nat) (m : List (String × α)) :
    keys (m.modify i fun e => (e.1, f e.2)) = keys m := by
  refine List.ext_getElem? fun j => ?_
  simp only [keys, List.getElem?_map, List.getElem?_modify]
  cases m[j]? with
  | none => rfl
  | some e =>
    show some (if i = j then (e.1, f e.2) else e).1 = some e.1
    split <;> rfl

theorem get?_append (m m' : Members α) (key : String) :
    get? (m ++ m') key = (get? m key).or (get? m' key) := by
  induction m with
  | nil => rfl
  | cons e m ih =>
    obtain ⟨k, w⟩ := e
    rw [List.cons_append, get?_cons, get?_cons, ih]
    split <;> rfl

theorem mem_insert {k : String} {e : String × α} (h : e ∈ insert m k v) : e = (k, v) ∨ e ∈ m := by
  induction m with
  | nil => simpa [insert] using h
  | cons e' m ih =>
    obtain ⟨k', w⟩ := e'
    rw [insert] at h
    split at h
    · next hk =>
      subst hk
      rcases List.mem_cons.1 h with h | h
      · exact .inl h
      · exact .inr (List.mem_cons_of_mem _ h)
    · rcases List.mem_cons.1 h with h | h
      · exact .inr (h ▸ List.mem_cons_self ..)
      · exact (ih h).imp_right (List.mem_cons_of_mem _)

/-- A new key comes last. -/
theorem insert_of_not_mem (h : key ∉ keys m) : insert m key v = m ++ [(key, v)] := by
  induction m with
  | nil => rfl
  | cons e m ih =>
    obtain ⟨k, w⟩ := e
    obtain ⟨hne, hm⟩ := not_or.1 (mt List.mem_cons.2 h)
    rw [insert, if_neg (Ne.symm hne), ih hm, List.cons_append]

/-- Members under keys of their own are put in as they stand. -/
theorem insertAll_of_nodup {es : List (String × α)} (h : (keys (m ++ es)).Nodup) : insertAll m es = m ++ es := by
  induction es generalizing m with
  | nil => exact (List.append_nil m).symm
  | cons e es ih =>
    have hnew : e.1 ∉ keys m := by
      intro hmem
      simp only [keys, List.map_append, List.map_cons] at h hmem
      exact (List.nodup_append.1 h).2.2 e.1 hmem e.1 (List.mem_cons_self ..) rfl
    rw [List.append_cons] at h ⊢
    show insertAll (insert m e.1 e.2) es = _
    rw [insert_of_not_mem hnew, ih h]

theorem ofPairs_of_nodup {es : List (String × α)} (h : (keys es).Nodup) : ofPairs es = es :=
  insertAll_of_nodup (m := []) h

theorem length_insert_of_not_mem (h : key ∉ keys m) : (insert m key v).length = m.length + 1 := by
  rw [insert_of_not_mem h, List.length_append, List.length_singleton]

theorem length_insert_of_mem (h : key ∈ keys m) : (insert m key v).length = m.length := by
  induction m with
  | nil => cases h
  | cons e m ih =>
    obtain ⟨k, w⟩ := e
    rw [insert]
    split
    · rfl
    · next hne =>
      rcases List.mem_cons.1 h with rfl | h
      · exact absurd rfl hne
      · rw [List.length_cons, List.length_cons, ih h]

theorem length_insertAll_le (m : Members α) (es : List (String × α)) :
    (insertAll m es).length ≤ m.length + es.length := by
  induction es generalizing m with
  | nil => exact Nat.le_refl _
  | cons e es ih =>
    have hrest : (insertAll (insert m e.1 e.2) es).length ≤ (insert m e.1 e.2).length + es.length := ih _
    have hinsert : (insert m e.1 e.2).length ≤ m.length + 1 := by
      by_cases hmem : e.1 ∈ keys m
      · rw [length_insert_of_mem hmem]; omega
      · exact Nat.le_of_eq (length_insert_of_not_mem hmem)
    show (insertAll (insert m e.1 e.2) es).length ≤ _
    rw [List.length_cons]
    omega

/-- As many members are added as are put in, unless a key comes twice or is there already. -/
theorem length_insertAll_eq_iff {es : List (String × α)} :
    (insertAll m es).length = m.length + es.length ↔ (keys es).Nodup ∧ ∀ key ∈ keys es, key ∉ keys m := by
  induction es generalizing m with
  | nil => simp [insertAll, keys]
  | cons e es ih =>
    obtain ⟨k, w⟩ := e
    show (insertAll (insert m k w) es).length = m.length + (es.length + 1) ↔
      (k :: keys es).Nodup ∧ ∀ key ∈ k :: keys es, key ∉ keys m
    by_cases hmem : k ∈ keys m
    · have hle := length_insertAll_le (insert m k w) es
      rw [length_insert_of_mem hmem] at hle
      refine iff_of_false (by omega) fun h => h.2 k (List.mem_cons_self ..) hmem
    · have hlen := length_insert_of_not_mem (v := w) hmem
      rw [show m.length + (es.length + 1) = (insert m k w).length + es.length by omega, ih, List.nodup_cons,
        List.forall_mem_cons]
      simp only [mem_keys_insert, not_or]
      constructor
      · rintro ⟨hn, hnew⟩
        exact ⟨⟨fun hk => (hnew k hk).1 rfl, hn⟩, hmem, fun key hkey => (hnew key hkey).2⟩
      · rintro ⟨⟨hk, hn⟩, -, hnew⟩
        exact ⟨hn, fun key hkey => ⟨fun heq => hk (heq ▸ hkey), hnew key hkey⟩⟩

theorem length_ofPairs_le (es : List (String × α)) : (ofPairs es).length ≤ es.length := by
  simpa [ofPairs] using length_insertAll_le [] es

theorem length_ofPairs_eq_iff {es : List (String × α)} : (ofPairs es).length = es.length ↔ (keys es).Nodup := by
  simpa [ofPairs, keys] using @length_insertAll_eq_iff _ [] es

theorem mem_insertAll {es : List (String × α)} {e : String × α} (h : e ∈ insertAll m es) :
    e ∈ es ∨ e ∈ m := by
  induction es generalizing m with
  | nil => exact .inr h
  | cons e' es ih =>
    rcases ih h with h | h
    · exact .inl (List.mem_cons_of_mem _ h)
    · rcases mem_insert h with rfl | h
      · exact .inl (List.mem_cons_self ..)
      · exact .inr h

theorem mem_ofPairs {es : List (String × α)} {e : String × α} (h : e ∈ ofPairs es) : e ∈ es :=
  (mem_insertAll h).resolve_right (by simp)

end Members

end RecordSchema
