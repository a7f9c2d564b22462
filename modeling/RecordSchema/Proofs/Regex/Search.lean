/-
The search decides what matching means: `fits_iff`.

One character is taken at a time (`matches_cons_iff`). For a repetition this
rests on dropping the empty repetitions in front of the first that takes a
character (`iterates_cons`), and on putting as many back as a count asks for
(`iterates_pad`): a repetition that can be empty in one place can be empty
there any number of times.
-/
import Mathlib.Logic.Basic
import RecordSchema.Proofs.Regex.Language
import RecordSchema.Regex.Search

namespace RecordSchema

namespace Regex

variable {before text after : List Char} {r s : Regex}

/-! ## The empty text -/

theorem iterates_replicate_nil (h : Matches r before [] after) (n : Nat) :
    Iterates r n before [] after := by
  induction n with
  | zero => rfl
  | succ n ih => exact ⟨[], [], rfl, h, ih⟩

theorem matches_nil_of_iterates {n : Nat} (h : Iterates r (n + 1) before [] after) :
    Matches r before [] after := by
  obtain ⟨x, y, hxy, hr, -⟩ := h
  obtain ⟨rfl, rfl⟩ := List.append_eq_nil_iff.1 hxy.symm
  exact hr

theorem matchesEmpty_iff :
    matchesEmpty before.head? after.head? r = true ↔ Matches r before [] after := by
  induction r generalizing before after with
  | empty => simp [matchesEmpty, matches_empty_iff]
  | one set => simp [matchesEmpty, matches_one_iff]
  | look a => simp [matchesEmpty, matches_look_iff]
  | seq r s ihr ihs =>
    simp only [matchesEmpty, Bool.and_eq_true, ihr, ihs, matches_seq_iff]
    constructor
    · rintro ⟨hr, hs⟩
      exact ⟨[], [], rfl, hr, hs⟩
    · rintro ⟨x, y, hxy, hr, hs⟩
      obtain ⟨rfl, rfl⟩ := List.append_eq_nil_iff.1 hxy.symm
      exact ⟨hr, hs⟩
  | alt r s ihr ihs => simp [matchesEmpty, ihr, ihs, matches_alt_iff]
  | «repeat» r count ih =>
    simp only [matchesEmpty, Bool.or_eq_true, beq_iff_eq, ih, matches_repeat_iff]
    constructor
    · rintro (h | h)
      · exact ⟨0, Count.allows_zero_iff.2 h, rfl⟩
      · exact ⟨count.least, ⟨Nat.le_refl _, count.ordered⟩, iterates_replicate_nil h _⟩
    · rintro ⟨n, ha, hi⟩
      cases n with
      | zero => exact .inl (Count.allows_zero_iff.1 ha)
      | succ n => exact .inr (matches_nil_of_iterates hi)

/-- Whether the empty text matches depends on no more than the next character. -/
theorem matchesEmpty_cons_iff {c : Char} {cs : List Char} :
    matchesEmpty before.head? (some c) r = true ↔ Matches r before [] (c :: cs ++ after) :=
  @matchesEmpty_iff before (c :: cs ++ after) r

/-! ## One character -/

theorem matches_andThen_iff :
    Matches (andThen r s) before text after ↔ Matches (.seq r s) before text after := by
  unfold andThen
  split
  · rw [matches_seq_iff]
    constructor
    · intro h
      exact ⟨[], text, rfl, .empty, h⟩
    · rintro ⟨x, y, rfl, hx, hy⟩
      obtain rfl := matches_empty_iff.1 hx
      exact hy
  · rfl

/-- The repetitions before the first that takes a character are empty, and can be left out. -/
theorem iterates_cons {c : Char} {cs : List Char} {n : Nat} (h : Iterates r n before (c :: cs) after) :
    ∃ x y k, cs = x ++ y ∧ Matches r before (c :: x) (y ++ after) ∧
      Iterates r k (x.reverse ++ c :: before) y after ∧ k + 1 ≤ n ∧
      (k + 1 = n ∨ Matches r before [] (c :: cs ++ after)) := by
  induction n with
  | zero => simp [Iterates] at h
  | succ n ih =>
    obtain ⟨x, y, hxy, hr, hi⟩ := h
    cases x with
    | nil =>
      obtain rfl : c :: cs = y := hxy
      obtain ⟨x, y, k, rfl, hx, hy, hk, -⟩ := ih hi
      exact ⟨x, y, k, rfl, hx, hy, by omega, .inr hr⟩
    | cons d x =>
      obtain ⟨rfl, rfl⟩ := List.cons.inj hxy
      exact ⟨x, y, n, rfl, hr, by simpa using hi, Nat.le_refl _, .inl rfl⟩

/-- Empty repetitions can be put in front. -/
theorem iterates_pad {n : Nat} (he : Matches r before [] (text ++ after))
    (h : Iterates r n before text after)
    (k : Nat) : Iterates r (k + n) before text after := by
  induction k with
  | zero => simpa using h
  | succ k ih =>
    rw [Nat.add_right_comm]
    exact ⟨[], text, rfl, he, ih⟩

theorem matches_repeat_cons_iff {c : Char} {cs : List Char} {count : Count}
    (ih : ∀ {x after}, Matches r before (c :: x) after ↔
      ∃ r' ∈ step before.head? c r, Matches r' (c :: before) x after) :
    Matches (.repeat r count) before (c :: cs) after ↔
      ∃ r' ∈ step before.head? c (.repeat r count), Matches r' (c :: before) cs after := by
  rw [matches_repeat_iff, step]
  cases hn : count.next? with
  | none =>
    simp only [List.not_mem_nil, false_and, exists_false, iff_false]
    rintro ⟨n, ha, hi⟩
    cases n with
    | zero => simp [Iterates] at hi
    | succ n => exact Count.not_allows_of_next? hn n ha
  | some rest =>
    simp only [List.mem_map, exists_exists_and_eq_and, matches_andThen_iff, matches_seq_iff,
      matches_repeat_iff]
    constructor
    · rintro ⟨n, ha, hi⟩
      obtain ⟨x, y, k, rfl, hx, hy, hk, hor⟩ := iterates_cons hi
      obtain ⟨r', hr', hx⟩ := ih.1 hx
      refine ⟨r', hr', x, y, rfl, hx, k, ?_, by simpa using hy⟩
      split
      · rw [Count.allows_fromZero_iff]
        intro m hm
        have hle := ((Count.allows_of_next? hn (n - 1)).2 (by rwa [Nat.sub_add_cancel (by omega)])).2 m hm
        omega
      · next hne =>
        obtain rfl := hor.resolve_right fun he => hne (matchesEmpty_cons_iff.2 he)
        exact (Count.allows_of_next? hn k).2 ha
    · rintro ⟨r', hr', x, y, rfl, hx, k, ha, hy⟩
      have hone : Iterates r (k + 1) before (c :: (x ++ y)) after :=
        ⟨c :: x, y, rfl, ih.2 ⟨r', hr', hx⟩, by simpa using hy⟩
      split at ha
      · next he =>
        rw [Count.allows_fromZero_iff] at ha
        -- As many empty repetitions as the lower bound still asks for.
        have hpad : rest.Allows (max k rest.least - k + k) := by
          refine ⟨by omega, fun m hm => ?_⟩
          have hk := ha m hm
          have hleast := rest.ordered m hm
          omega
        exact ⟨_, (Count.allows_of_next? hn _).1 hpad, iterates_pad (matchesEmpty_cons_iff.1 he) hone _⟩
      · exact ⟨k + 1, (Count.allows_of_next? hn k).1 ha, hone⟩

/-- What is left to match after one character. -/
theorem matches_cons_iff {c : Char} {cs : List Char} :
    Matches r before (c :: cs) after ↔ ∃ r' ∈ step before.head? c r, Matches r' (c :: before) cs after := by
  induction r generalizing before cs after with
  | empty => simp [step, matches_empty_iff]
  | one set =>
    simp only [step, matches_one_iff]
    split
    · next h =>
      simp only [List.mem_singleton, exists_eq_left, matches_empty_iff]
      constructor
      · rintro ⟨d, hd, -⟩; exact (List.cons.inj hd).2
      · rintro rfl; exact ⟨c, rfl, h⟩
    · next h =>
      simp only [List.not_mem_nil, false_and, exists_false, iff_false]
      rintro ⟨d, hd, hs⟩
      obtain ⟨rfl, -⟩ := List.cons.inj hd
      exact h hs
  | look a => simp [step, matches_look_iff]
  | seq r s ihr ihs =>
    simp only [step, List.mem_append, List.mem_map, or_and_right, exists_or, exists_exists_and_eq_and,
      matches_andThen_iff, matches_seq_iff]
    constructor
    · rintro ⟨x, y, hxy, hx, hy⟩
      cases x with
      | nil =>
        obtain rfl : c :: cs = y := hxy
        obtain ⟨s', hs', hy⟩ := ihs.1 hy
        exact .inr ⟨s', by rwa [if_pos (matchesEmpty_cons_iff.2 hx)], hy⟩
      | cons d x =>
        obtain ⟨rfl, rfl⟩ := List.cons.inj hxy
        obtain ⟨r', hr', hx⟩ := ihr.1 hx
        exact .inl ⟨r', hr', x, y, rfl, hx, by simpa using hy⟩
    · rintro (⟨r', hr', x, y, rfl, hx, hy⟩ | ⟨s', hs', hy⟩)
      · exact ⟨c :: x, y, rfl, ihr.2 ⟨r', hr', hx⟩, by simpa using hy⟩
      · split at hs'
        · next he => exact ⟨[], c :: cs, rfl, matchesEmpty_cons_iff.1 he, ihs.2 ⟨s', hs', hy⟩⟩
        · simp at hs'
  | alt r s ihr ihs => simp [step, matches_alt_iff, ihr, ihs, or_and_right, exists_or]
  | «repeat» r count ih => exact matches_repeat_cons_iff ih

/-! ## Threads -/

theorem fitsAny_iff (threads : List Regex) (before text : List Char) :
    fitsAny before.head? threads text = true ↔ ∃ r ∈ threads, Matches r before text [] := by
  induction text generalizing threads before with
  | nil =>
    simp only [fitsAny, List.any_eq_true]
    exact exists_congr fun r => and_congr_right fun _ => @matchesEmpty_iff before [] r
  | cons c cs ih =>
    rw [fitsAny, show some c = (c :: before).head? from rfl, ih]
    simp only [stepAll, List.mem_eraseDups, List.mem_flatMap, matches_cons_iff]
    constructor
    · rintro ⟨r', ⟨r, hr, hr'⟩, hm⟩; exact ⟨r, hr, r', hr', hm⟩
    · rintro ⟨r, hr, r', hr', hm⟩; exact ⟨r', ⟨r, hr, hr'⟩, hm⟩

/-- The search finds that a whole text matches exactly if it does. -/
theorem fits_iff (r : Regex) (text : String) : r.fits text = true ↔ r.Fits text.toList := by
  rw [fits, show (none : Option Char) = ([] : List Char).head? from rfl, fitsAny_iff]
  simp [Fits]

end Regex

end RecordSchema
