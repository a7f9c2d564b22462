/-
What each form of regular expression matches, and repetition as a count of
matches one after another (`matches_repeat_iff`).

A repetition of single characters matches the texts of its characters with a
length that the count allows (`matches_repeat_one_iff`).
-/
import RecordSchema.Regex.Basic

namespace RecordSchema

namespace Regex

/-! ## Counts -/

namespace Count

/-- A number of repetitions is within the count. -/
def Allows (c : Count) (n : Nat) : Prop := c.least ≤ n ∧ ∀ m, c.most = some m → n ≤ m

theorem allows_zero_iff {c : Count} : c.Allows 0 ↔ c.least = 0 := by simp [Allows]

theorem allows_of_next? {c c' : Count} (h : c.next? = some c') (n : Nat) :
    c'.Allows n ↔ c.Allows (n + 1) := by
  obtain ⟨least, most, hc⟩ := c
  cases most with
  | none => simp only [next?, Option.some.injEq] at h; subst h; simp [Allows]
  | some m =>
    cases m with
    | zero => simp [next?] at h
    | succ m => simp only [next?, Option.some.injEq] at h; subst h; simp [Allows]

theorem not_allows_of_next? {c : Count} (h : c.next? = none) (n : Nat) : ¬ c.Allows (n + 1) := by
  obtain ⟨least, most, hc⟩ := c
  match most with
  | none => simp [next?] at h
  | some (m + 1) => simp [next?] at h
  | some 0 => simp [Allows]

theorem allows_fromZero_iff {c : Count} {n : Nat} :
    c.fromZero.Allows n ↔ ∀ m, c.most = some m → n ≤ m := by
  simp [Allows, fromZero]

theorem allows_atLeast_iff {m n : Nat} : (atLeast m).Allows n ↔ m ≤ n := by simp [Allows, atLeast]

theorem allows_exactly_iff {m n : Nat} : (exactly m).Allows n ↔ n = m := by
  simp only [Allows, exactly, Option.some.injEq, forall_eq']
  omega

theorem allows_optional_iff {n : Nat} : Count.optional.Allows n ↔ n = 0 ∨ n = 1 := by
  simp only [Allows, Count.optional, Option.some.injEq, forall_eq']
  omega

end Count

/-! ## Forms -/

section

variable {before text after : List Char} {r s : Regex}

theorem matches_empty_iff : Matches .empty before text after ↔ text = [] := by
  constructor
  · intro h; cases h; rfl
  · rintro rfl; exact .empty

theorem matches_one_iff {set : CharSet} :
    Matches (.one set) before text after ↔ ∃ c, text = [c] ∧ set.contains c.toNat = true := by
  constructor
  · intro h; cases h with | one h => exact ⟨_, rfl, h⟩
  · rintro ⟨c, rfl, h⟩; exact .one h

theorem matches_look_iff {a : Assertion} :
    Matches (.look a) before text after ↔ text = [] ∧ a.holds before.head? after.head? = true := by
  constructor
  · intro h; cases h with | look h => exact ⟨rfl, h⟩
  · rintro ⟨rfl, h⟩; exact .look h

theorem matches_seq_iff :
    Matches (.seq r s) before text after ↔
      ∃ x y, text = x ++ y ∧ Matches r before x (y ++ after) ∧ Matches s (x.reverse ++ before) y after := by
  constructor
  · intro h; cases h with | seq hr hs => exact ⟨_, _, rfl, hr, hs⟩
  · rintro ⟨x, y, rfl, hr, hs⟩; exact .seq hr hs

theorem matches_alt_iff :
    Matches (.alt r s) before text after ↔ Matches r before text after ∨ Matches s before text after := by
  constructor
  · intro h
    cases h with
    | left h => exact .inl h
    | right h => exact .inr h
  · rintro (h | h)
    · exact .left h
    · exact .right h

end

/-! ## Repetition -/

/-- `n` matches one after another. -/
def Iterates (r : Regex) : Nat → List Char → List Char → List Char → Prop
  | 0, _, text, _ => text = []
  | n + 1, before, text, after =>
    ∃ x y, text = x ++ y ∧ Matches r before x (y ++ after) ∧ Iterates r n (x.reverse ++ before) y after

section

variable {before text after : List Char} {r : Regex} {count : Count}

theorem iterates_of_matches (h : Matches (.repeat r count) before text after) :
    ∃ n, count.Allows n ∧ Iterates r n before text after := by
  generalize he : Regex.repeat r count = s at h
  induction h generalizing count with
  | stop h => cases he; exact ⟨0, Count.allows_zero_iff.2 h, rfl⟩
  | more hn hr _ _ ih =>
    cases he
    obtain ⟨n, ha, hi⟩ := ih rfl
    exact ⟨n + 1, (Count.allows_of_next? hn n).1 ha, _, _, rfl, hr, hi⟩
  | _ => cases he

theorem matches_of_iterates {n : Nat} (ha : count.Allows n) (hi : Iterates r n before text after) :
    Matches (.repeat r count) before text after := by
  induction n generalizing count before text with
  | zero =>
    obtain rfl : text = [] := hi
    exact .stop (Count.allows_zero_iff.1 ha)
  | succ n ih =>
    obtain ⟨x, y, rfl, hr, hi⟩ := hi
    cases hn : count.next? with
    | none => exact absurd ha (Count.not_allows_of_next? hn n)
    | some c => exact .more hn hr (ih ((Count.allows_of_next? hn n).2 ha) hi)

theorem matches_repeat_iff :
    Matches (.repeat r count) before text after ↔ ∃ n, count.Allows n ∧ Iterates r n before text after :=
  ⟨iterates_of_matches, fun ⟨_, ha, hi⟩ => matches_of_iterates ha hi⟩

theorem iterates_one_iff {set : CharSet} {n : Nat} :
    Iterates (.one set) n before text after ↔
      text.length = n ∧ ∀ c ∈ text, set.contains c.toNat = true := by
  induction n generalizing before text with
  | zero =>
    simp only [Iterates, List.length_eq_zero_iff]
    constructor
    · rintro rfl; simp
    · exact And.left
  | succ n ih =>
    simp only [Iterates, matches_one_iff, ih]
    constructor
    · rintro ⟨x, y, rfl, ⟨c, rfl, hc⟩, rfl, hy⟩
      simp [hc]
      exact hy
    · rintro ⟨hlen, hall⟩
      match text with
      | c :: cs =>
        rw [List.forall_mem_cons] at hall
        exact ⟨[c], cs, rfl, ⟨c, rfl, hall.1⟩, by simpa using hlen, hall.2⟩

theorem matches_repeat_one_iff {set : CharSet} :
    Matches (.repeat (.one set) count) before text after ↔
      count.Allows text.length ∧ ∀ c ∈ text, set.contains c.toNat = true := by
  simp only [matches_repeat_iff, iterates_one_iff]
  constructor
  · rintro ⟨n, ha, rfl, h⟩; exact ⟨ha, h⟩
  · rintro ⟨ha, h⟩; exact ⟨_, ha, rfl, h⟩

theorem matches_times_iff {n : Nat} : Matches (times n r) before text after ↔ Iterates r n before text after := by
  simp [times, matches_repeat_iff, Count.allows_exactly_iff]

theorem matches_optional_iff :
    Matches (optional r) before text after ↔ text = [] ∨ Matches r before text after := by
  simp only [optional, matches_repeat_iff, Count.allows_optional_iff]
  constructor
  · rintro ⟨n, rfl | rfl, hi⟩
    · exact .inl hi
    · obtain ⟨x, y, rfl, hr, rfl⟩ := hi
      exact .inr (by simpa using hr)
  · rintro (rfl | h)
    · exact ⟨0, .inl rfl, rfl⟩
    · exact ⟨1, .inr rfl, text, [], by simp, by simpa using h, rfl⟩

end

/-! ## Building blocks -/

section

variable {before text after : List Char}

theorem contains_single {c : Char} {n : Nat} : (CharSet.single c).contains n = true ↔ n = c.toNat := by
  simp [CharSet.single, CharSet.contains]
  omega

theorem contains_ofChars {cs : List Char} {n : Nat} :
    (CharSet.ofChars cs).contains n = true ↔ ∃ c ∈ cs, n = c.toNat := by
  induction cs with
  | nil => simp [CharSet.ofChars, CharSet.contains]
  | cons c cs ih =>
    rw [CharSet.ofChars] at ih
    simp [CharSet.ofChars, CharSet.contains, contains_single, ih]

theorem contains_between {lo hi : Char} {n : Nat} :
    (CharSet.between lo hi).contains n = true ↔ lo.toNat ≤ n ∧ n ≤ hi.toNat := by
  simp [CharSet.between, CharSet.contains]

theorem ofSeq_singleton (r : Regex) : ofSeq [r] = r := rfl

theorem ofAlt_singleton (r : Regex) : ofAlt [r] = r := rfl

theorem matches_ofSeq_cons {r s : Regex} {rs : List Regex} :
    Matches (ofSeq (r :: s :: rs)) before text after ↔ ∃ x y, text = x ++ y ∧
      Matches r before x (y ++ after) ∧ Matches (ofSeq (s :: rs)) (x.reverse ++ before) y after :=
  matches_seq_iff

theorem matches_ofAlt_cons {r s : Regex} {rs : List Regex} :
    Matches (ofAlt (r :: s :: rs)) before text after ↔
      Matches r before text after ∨ Matches (ofAlt (s :: rs)) before text after :=
  matches_alt_iff

theorem matches_singles_iff {cs : List Char} :
    Matches (ofSeq (cs.map fun c => .one (.single c))) before text after ↔ text = cs := by
  induction cs generalizing before text with
  | nil => exact matches_empty_iff
  | cons c cs ih =>
    have hone : ∀ {b a x}, Matches (.one (.single c)) b x a ↔ x = [c] := by
      intro b a x
      rw [matches_one_iff]
      constructor
      · rintro ⟨d, rfl, hd⟩
        rw [Char.toNat_inj.1 (contains_single.1 hd)]
      · rintro rfl
        exact ⟨c, rfl, contains_single.2 rfl⟩
    cases cs with
    | nil => exact hone
    | cons d ds =>
      refine matches_ofSeq_cons.trans ⟨?_, ?_⟩
      · rintro ⟨x, y, rfl, hx, hy⟩
        rw [hone.1 hx, ih.1 hy]
        rfl
      · rintro rfl
        exact ⟨[c], _, rfl, hone.2 rfl, ih.2 rfl⟩

theorem matches_literal_iff {t : String} : Matches (literal t) before text after ↔ text = t.toList :=
  matches_singles_iff

theorem matches_oneOf_iff {t : String} :
    Matches (oneOf t) before text after ↔ ∃ c ∈ t.toList, text = [c] := by
  rw [oneOf, matches_one_iff]
  constructor
  · rintro ⟨d, rfl, hd⟩
    obtain ⟨c, hc, h⟩ := contains_ofChars.1 hd
    exact ⟨c, hc, by rw [Char.toNat_inj.1 h]⟩
  · rintro ⟨c, hc, rfl⟩
    exact ⟨c, rfl, contains_ofChars.2 ⟨c, hc, rfl⟩⟩

theorem matches_between_iff {lo hi : Char} :
    Matches (between lo hi) before text after ↔
      ∃ c, text = [c] ∧ lo.toNat ≤ c.toNat ∧ c.toNat ≤ hi.toNat := by
  simp only [between, matches_one_iff, contains_between]

end

end Regex

end RecordSchema
