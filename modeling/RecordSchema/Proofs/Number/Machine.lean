/-
An integer literal read by a machine: the text is cut at bytes of its UTF-8 form,
and the digits are gathered in a signed word of 64 bits.

There two things can go wrong that the reader by characters and by integers of any
size knows nothing of: a cut that falls within a character, and a negation that
leaves the word. Neither happens, on any text (`Machine.read_eq`): a cut comes after a
character of one byte, a product or a sum that does not fit is refused where it arises,
and what has been gathered is not negative.
-/
import RecordSchema.Proofs.Except
import RecordSchema.Proofs.Number.Literal

namespace RecordSchema

namespace Number

namespace Machine

/-! ## The reader -/

/-- What stops the machine. -/
inductive Fault where
  /-- A cut that does not fall between two characters. -/
  | cut
  /-- A result that the word does not hold. -/
  | word

/-- A number, if a signed word of 64 bits holds it. -/
def word? (n : Int) : Option Int :=
  if -(int64Bound : Int) ≤ n ∧ n < int64Bound then some n else none

/-- The first byte of a text. -/
def firstByte? (cs : List Char) : Option UInt8 := (cs.flatMap String.utf8EncodeChar).head?

/-- How many bytes a text has. -/
def byteLength (cs : List Char) : Nat := (cs.flatMap String.utf8EncodeChar).length

/-- A text without its first `n` bytes. -/
def dropBytes : Nat → List Char → Except Fault (List Char)
  | 0, cs => .ok cs
  | _ + 1, [] => .error .cut
  | n + 1, c :: cs => if c.utf8Size ≤ n + 1 then dropBytes (n + 1 - c.utf8Size) cs else .error .cut

/-- A text without the sign that its first byte may be. -/
def dropSign (byte : UInt8) (cs : List Char) : Except Fault (List Char) :=
  if byte = 0x2D ∨ byte = 0x2B then dropBytes 1 cs else .ok cs

/-- The base of a literal without its sign, and the digits that are read in it. -/
def splitBase (cs : List Char) : Except Fault (Nat × List Char) :=
  if ['0', 'x'].isPrefixOf cs || ['0', 'X'].isPrefixOf cs then .ok (16, cs.drop 2)
  else if 1 < byteLength cs && ['0'].isPrefixOf cs then (dropBytes 1 cs).map fun digits => (8, digits)
  else .ok (10, cs)

/-- Adds digits to a number read so far, or takes them away; `none` where a character is no digit or the word does
not hold a product or a sum. -/
def gather (base : Nat) (negative : Bool) : Int → List Char → Option Int
  | n, [] => some n
  | n, c :: cs => do
    let d ← Text.digit? base c
    let product ← word? (n * base)
    let sum ← word? (if negative then product - d else product + d)
    gather base negative sum cs

/-- A number in a base, in front of which a sign may stand. -/
def number? (base : Nat) : List Char → Option Int
  | [] | ['-'] | ['+'] => none
  | '-' :: cs => gather base true 0 cs
  | '+' :: cs => gather base false 0 cs
  | cs => gather base false 0 cs

def negate (n : Int) : Except Fault Int :=
  match word? (-n) with
  | some m => .ok m
  | none => .error .word

/-- The magnitude of a literal with a base, where nothing but digits is left to read. -/
def magnitude? (base : Nat) (digits : List Char) : Option Int :=
  if digits.isEmpty || !digits.all fun c => (Text.digit? base c).isSome then none else number? base digits

/-- The integer of a literal, if the text is one and the word holds its magnitude. -/
def read (cs : List Char) : Except Fault (Option Int) :=
  match firstByte? cs with
  | none => .ok none
  | some byte => do
    let unsigned ← dropSign byte cs
    let (base, digits) ← splitBase unsigned
    match magnitude? base digits with
    | none => .ok none
    | some n => if byte = 0x2D then some <$> negate n else .ok (some n)

/-! ## Cuts -/

variable {base n : Nat} {c : Char} {cs ds : List Char}

/-- The first byte tells each ASCII character from every other character. -/
theorem exists_firstByte (c : Char) (cs : List Char) :
    ∃ b, firstByte? (c :: cs) = some b ∧ ∀ d : Char, d.toNat < 128 → (b.toNat = d.toNat ↔ c = d) := by
  have hval : c.val.toNat = c.toNat := rfl
  have hlead : ∀ k, 0xC0 ≤ k → k < 256 → 127 < c.toNat →
      ∀ d : Char, d.toNat < 128 → ((UInt8.ofNat k).toNat = d.toNat ↔ c = d) := by
    intro k hlo hhi hc d hd
    rw [UInt8.toNat_ofNat_of_lt' hhi, ← Char.toNat_inj]
    omega
  rw [firstByte?, List.flatMap_cons]
  fun_cases String.utf8EncodeChar c with
  | case1 v h =>
    refine ⟨_, rfl, fun d hd => ?_⟩
    rw [UInt8.toNat_ofNat_of_lt' (show v < 256 by omega), ← Char.toNat_inj]
    exact Iff.rfl
  | case2 v h h' => exact ⟨_, rfl, hlead _ (by omega) (by omega) (by omega)⟩
  | case3 v h h' => exact ⟨_, rfl, hlead _ (by omega) (by omega) (by omega)⟩
  | case4 v h h' => exact ⟨_, rfl, hlead _ (by omega) (by omega) (by omega)⟩

theorem byteLength_cons (c : Char) (cs : List Char) : byteLength (c :: cs) = c.utf8Size + byteLength cs := by
  simp [byteLength]

theorem dropBytes_one (h : c.utf8Size = 1) (cs : List Char) : dropBytes 1 (c :: cs) = .ok cs := by
  simp [dropBytes, h]

/-- A cut after a sign does not fail, as a sign is told by its one byte. -/
theorem dropSign_eq (b : UInt8) (hb : ∀ d : Char, d.toNat < 128 → (b.toNat = d.toNat ↔ c = d)) (cs : List Char) :
    dropSign b (c :: cs) = .ok (splitSign (c :: cs)).2 ∧ ((splitSign (c :: cs)).1 = true ↔ b = 0x2D) := by
  have hminus : b = 0x2D ↔ c = '-' := by rw [← hb '-' (by decide), ← UInt8.toNat_inj]; rfl
  have hplus : b = 0x2B ↔ c = '+' := by rw [← hb '+' (by decide), ← UInt8.toNat_inj]; rfl
  simp only [dropSign, hminus, hplus]
  by_cases hneg : c = '-'
  · subst hneg
    have hcut := dropBytes_one (c := '-') rfl cs
    simp [splitSign, hcut]
  · by_cases hpos : c = '+'
    · subst hpos
      have hcut := dropBytes_one (c := '+') rfl cs
      simp [splitSign, hcut]
    · simp [splitSign, hneg, hpos]

theorem splitBase_eq (cs : List Char) : splitBase cs = .ok (Number.splitBase cs) := by
  cases cs with
  | nil => rfl
  | cons c cs =>
    by_cases hc : c = '0'
    · subst hc
      cases cs with
      | nil => rfl
      | cons d ds =>
        have hlength : 1 < byteLength ('0' :: d :: ds) := by
          have hd := d.utf8Size_pos
          rw [byteLength_cons, byteLength_cons, show ('0' : Char).utf8Size = 1 by rfl]
          omega
        by_cases hx : d = 'x'
        · subst hx; rfl
        · by_cases hX : d = 'X'
          · subst hX; rfl
          · have hcut := dropBytes_one (c := '0') rfl (d :: ds)
            simp [splitBase, Number.splitBase, Ne.symm hx, Ne.symm hX, hlength, hcut, Except.map]
    · rw [splitBase_of_head? (by simpa using hc)]
      simp [splitBase, Ne.symm hc]

/-! ## Words -/

theorem word?_natCast (n : Nat) : word? n = if n < int64Bound then some (n : Int) else none := by
  unfold word?
  have hlo : -(int64Bound : Int) ≤ n := by omega
  simp [hlo]

theorem gather_cons {d : Nat} {n : Int} (hd : Text.digit? base c = some d) :
    gather base false n (c :: cs) =
      (word? (n * base)).bind fun product => (word? (product + d)).bind fun sum => gather base false sum cs := by
  rw [gather, hd]
  rfl

theorem gather_natCast_cons {d : Nat} (hd : Text.digit? base c = some d) :
    gather base false n (c :: cs) =
      if n * base + d < int64Bound then gather base false (n * base + d : Nat) cs else none := by
  rw [gather_cons hd, ← Int.natCast_mul, word?_natCast]
  by_cases hlt : n * base + d < int64Bound
  · rw [if_pos (Nat.lt_of_le_of_lt (Nat.le_add_right _ d) hlt), Option.bind_some, ← Int.natCast_add,
      word?_natCast, if_pos hlt, if_pos hlt, Option.bind_some]
  · rw [if_neg hlt]
    split
    · rw [Option.bind_some, ← Int.natCast_add, word?_natCast, if_neg hlt, Option.bind_none]
    · rw [Option.bind_none]

/-- What the word does not hold on the way it would not hold at the end, as a further digit makes no number less. -/
theorem gather_eq {ds : List Nat} (hds : List.Forall₂ (Text.IsDigitOf base) cs ds) (hn : n < int64Bound) :
    gather base false n cs =
      if Text.ofDigits base n ds < int64Bound then some (Text.ofDigits base n ds : Int) else none := by
  induction hds generalizing n with
  | nil => exact (if_pos hn).symm
  | @cons c d cs ds hd hds ih =>
    have hbase : 0 < base := Nat.lt_of_le_of_lt (Nat.zero_le d) hd.1
    have hfinal := Text.le_ofDigits hbase (n * base + d) ds
    rw [gather_natCast_cons (Text.digit?_eq_some_iff.2 hd), show Text.ofDigits base n (d :: ds) =
      Text.ofDigits base (n * base + d) ds from rfl]
    by_cases hlt : n * base + d < int64Bound
    · rw [if_pos hlt, ih hlt]
    · rw [if_neg hlt, if_neg (fun h => hlt (Nat.lt_of_le_of_lt hfinal h))]

theorem negate_natCast (h : n < int64Bound) : negate n = .ok (-(n : Int)) := by
  have hword : word? (-(n : Int)) = some (-(n : Int)) := if_pos ⟨by omega, by omega⟩
  rw [negate, hword]

/-- Where nothing but digits is left, no sign is among them. -/
theorem number?_of_digits {ds : List Nat} (hds : List.Forall₂ (Text.IsDigitOf base) cs ds) (hne : cs ≠ []) :
    number? base cs = gather base false 0 cs := by
  cases hds with
  | nil => exact absurd rfl hne
  | @cons c d cs ds hd _ =>
    rw [← Text.digit?_eq_some_iff] at hd
    have hsign : ∀ sign : Char, Text.digit? base sign = none → c ≠ sign := by
      rintro sign hnone rfl
      rw [hnone] at hd
      cases hd
    have hminus := hsign '-' rfl
    have hplus := hsign '+' rfl
    simp [number?, hminus, hplus]

theorem all_isSome_digit?_iff :
    (cs.all fun c => (Text.digit? base c).isSome) = true ↔ ∃ ds, List.Forall₂ (Text.IsDigitOf base) cs ds := by
  simp only [List.all_eq_true, Option.isSome_iff_exists, Text.digit?_eq_some_iff, Text.exists_forall₂_isDigitOf_iff]

theorem magnitude?_eq : magnitude? base cs = (Text.numeral? base cs).bind fun n =>
    if n < int64Bound then some (n : Int) else none := by
  by_cases hdigits : cs ≠ [] ∧ ∃ ds, List.Forall₂ (Text.IsDigitOf base) cs ds
  · obtain ⟨hne, ds, hds⟩ := hdigits
    have hnumeral : Text.numeral? base cs = some (Text.ofDigits base 0 ds) :=
      Text.numeral?_eq_some_iff.2 ⟨hne, ds, hds, Text.ofDigits_eq base ds⟩
    have hall := all_isSome_digit?_iff.2 ⟨ds, hds⟩
    rw [magnitude?, hall, hnumeral, number?_of_digits hds hne]
    have hgather : gather base false 0 cs = _ := gather_eq (n := 0) hds (by decide)
    simpa [hne] using hgather
  · have hnumeral : Text.numeral? base cs = none := by
      rw [Option.eq_none_iff_forall_ne_some]
      intro n hn
      obtain ⟨hne, ds, hds, -⟩ := Text.numeral?_eq_some_iff.1 hn
      exact hdigits ⟨hne, ds, hds⟩
    rw [← all_isSome_digit?_iff, not_and_or, not_not] at hdigits
    rw [magnitude?, hnumeral]
    rcases hdigits with rfl | hnone
    · rfl
    · simp [hnone]

/-- **The machine stops at no fault, and reads the integer that the literal denotes.** -/
theorem read_eq (s : String) : read s.toList = .ok (intLiteral? s) := by
  unfold read intLiteral?
  cases s.toList with
  | nil => rfl
  | cons c cs =>
    obtain ⟨b, hfirst, hb⟩ := exists_firstByte c cs
    obtain ⟨hcut, hsign⟩ := dropSign_eq b hb cs
    simp only [hfirst, Except.bind_eq_ok_iff, hcut, splitBase_eq, Except.ok.injEq, exists_eq_left',
      magnitude?_eq, ← hsign]
    rcases splitSign (c :: cs) with ⟨negative, unsigned⟩
    cases Text.numeral? (Number.splitBase unsigned).1 (Number.splitBase unsigned).2 with
    | none => rfl
    | some n =>
      rw [Option.bind_some]
      by_cases hlt : n < int64Bound
      · cases negative with
        | false => simp [hlt]
        | true => simp [hlt, negate_natCast hlt]
      · simp [hlt]

/-- **The literals, and nothing else, are read.** An integer is read exactly from the literals that denote it, in one
of three bases and perhaps after a sign, if its magnitude is at most `2 ^ 63 - 1`; and on no text does the machine cut
a character apart or leave its word. -/
theorem reads_literals (s : String) :
    (∀ z, intLiteral? s = some z ↔ Literal s.toList z ∧ z.natAbs ≤ 2 ^ 63 - 1) ∧
      read s.toList = .ok (intLiteral? s) :=
  ⟨fun _ => intLiteral?_eq_some_iff, read_eq s⟩

/-- A second sign is no digit, whatever the last step would make of it. -/
example : intLiteral? "-+7" = none ∧ number? 10 ['+', '7'] = some 7 := by decide

end Machine

end Number

end RecordSchema
