/-
What is read from JSON text is well-formed: a number becomes an integer only
in the 64-bit ranges, and members are put together without repeating a key.

The readers of items and members are given the reader of one value, so that
each is shown to keep what that reader yields, and the induction is on how
deep values nest.
-/
import RecordSchema.Proofs.Json.Float
import RecordSchema.Proofs.Json.Parts

namespace RecordSchema

namespace Json

/-- All that a reader of values yields is well-formed. -/
def ReadsWellFormed (value : List Char → Option (Json × List Char)) : Prop :=
  ∀ cs v rest, value cs = some (v, rest) → v.WellFormed

theorem wellFormed_of_numberOf {negative : Bool} {whole : List Char} {fraction : Option (List Char)}
    {exponent : Option Int} {n : Number} (h : numberOf negative whole fraction exponent = some n) :
    (number n).WellFormed := by
  have hlt : (takeWord 0 (digitValues whole)).1 < Number.uint64Bound := takeWord_lt (by decide) _
  cases n with
  | float x => exact everywhere_number.2 trivial
  | int k =>
    unfold numberOf at h
    dsimp only at h
    refine everywhere_number.2 ?_
    split at h
    · split at h
      · cases h
        exact ⟨by omega, by omega⟩
      · split at h
        · next hdigits =>
          cases h
          exact ⟨by omega, by omega⟩
        · simp at h
    · simp at h

theorem exists_of_number? {cs rest : List Char} {n : Number} (h : number? cs = some (n, rest)) :
    ∃ negative whole fraction exponent, numberOf negative whole fraction exponent = some n := by
  unfold number? at h
  split at h
  split at h
  · cases h
  · split at h
    · cases h
    · split at h
      · cases h
      · obtain ⟨m, hm, h⟩ := Option.map_eq_some_iff.1 h
        cases h
        exact ⟨_, _, _, _, hm⟩

theorem readsWellFormed_scalar? : ReadsWellFormed scalar? := by
  intro cs v rest h
  unfold scalar? at h
  split at h
  · cases h; exact everywhere_null.2 trivial
  · cases h; exact everywhere_bool.2 trivial
  · cases h; exact everywhere_bool.2 trivial
  · obtain ⟨⟨s, cs⟩, -, h⟩ := Option.map_eq_some_iff.1 h
    cases h
    exact wellFormed_string s
  · obtain ⟨⟨n, cs⟩, hn, h⟩ := Option.map_eq_some_iff.1 h
    cases h
    obtain ⟨negative, whole, fraction, exponent, hn⟩ := exists_of_number? hn
    exact wellFormed_of_numberOf hn

theorem wellFormed_of_items? {item : List Char → Option (Json × List Char)} (hi : ReadsWellFormed item)
    {fuel : Nat} {done vs : List Json} {cs rest : List Char} (hd : ∀ v ∈ done, v.WellFormed)
    (h : items? item fuel done cs = some (vs, rest)) : ∀ v ∈ vs, v.WellFormed := by
  induction fuel generalizing done cs with
  | zero => cases h
  | succ fuel ih =>
    rw [items?] at h
    split at h
    · cases h
    · next v cs' hv =>
      have hd' : ∀ u ∈ v :: done, u.WellFormed := List.forall_mem_cons.2 ⟨hi _ _ _ hv, hd⟩
      split at h
      · exact ih hd' h
      · cases h
        exact fun u hu => hd' u (List.mem_reverse.1 hu)
      · cases h

theorem wellFormed_of_members? {value : List Char → Option (Json × List Char)} (hv : ReadsWellFormed value)
    {fuel : Nat} {done ms : List (String × Json)} {cs rest : List Char} (hd : ∀ e ∈ done, e.2.WellFormed)
    (h : members? value fuel done cs = some (ms, rest)) : ∀ e ∈ ms, e.2.WellFormed := by
  induction fuel generalizing done cs with
  | zero => cases h
  | succ fuel ih =>
    rw [members?] at h
    split at h
    · split at h
      · cases h
      · next key cs' hkey =>
        split at h
        · split at h
          · cases h
          · next v cs' hread =>
            have hd' : ∀ e ∈ (key, v) :: done, e.2.WellFormed :=
              List.forall_mem_cons.2 ⟨hv _ _ _ hread, hd⟩
            split at h
            · exact ih hd' h
            · cases h
              exact fun e he => hd' e (List.mem_reverse.1 he)
            · cases h
        · cases h
    · cases h

theorem readsWellFormed_value? (depth : Nat) : ReadsWellFormed (value? depth) := by
  induction depth with
  | zero => exact readsWellFormed_scalar?
  | succ depth ih =>
    intro cs v rest h
    unfold value? at h
    split at h
    · split at h
      · cases h
        exact everywhere_array.2 ⟨trivial, by simp⟩
      · obtain ⟨⟨vs, cs⟩, hvs, h⟩ := Option.map_eq_some_iff.1 h
        cases h
        exact everywhere_array.2 ⟨trivial, wellFormed_of_items? ih (by simp) hvs⟩
    · split at h
      · cases h
        exact everywhere_object.2 ⟨List.nodup_nil, by simp⟩
      · obtain ⟨⟨ms, cs⟩, hms, h⟩ := Option.map_eq_some_iff.1 h
        cases h
        exact wellFormed_ofMembers (wellFormed_of_members? ih (by simp) hms)
    · exact readsWellFormed_scalar? _ _ _ h

/-- **Whatever a JSON text writes is well-formed.** -/
theorem wellFormed_of_parse? {s : String} {v : Json} (h : parse? s = some v) : v.WellFormed := by
  unfold parse? at h
  split at h
  · next u cs hread =>
    split at h
    · cases h
      exact readsWellFormed_value? _ _ _ _ hread
    · cases h
  · cases h

end Json

end RecordSchema
