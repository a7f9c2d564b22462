/-
Digits of any script, their values, and the order of texts that have them.

Texts are compared by code points. The ten digits of a script stand in a row in the order
of their values, so two texts are in the order of their values if they part in
digits of one row (`Text.cmp_map_digitValue`); where they part in digits of
two rows, it is the rows that decide.
-/
import RecordSchema.Proofs.Calendar
import RecordSchema.Proofs.Kind.Form
import RecordSchema.Proofs.Number.Literal
import Mathlib.Data.String.Basic

namespace RecordSchema

namespace Text

open Kind (IsDigit)
open Regex (CharSet)

/-- What a decimal digit of any script stands for: the digits of a script are ten in a row, from zero on. -/
def digitValue (c : Char) : Nat :=
  match Unicode.decimalNumber.find? fun (lo, hi, _) => lo ≤ c.toNat && c.toNat ≤ hi with
  | some (lo, _, _) => (c.toNat - lo) % 10
  | none => 0

/-- The code point of the zero in a digit's row. -/
def rowZero (c : Char) : Nat := c.toNat - digitValue c

/-- At the first place where two texts differ, they have digits of one row. -/
def PartAlike : List Char → List Char → Prop
  | c :: cs, d :: ds => if c = d then PartAlike cs ds else rowZero c = rowZero d
  | _, _ => True

instance decidablePartAlike : (cs ds : List Char) → Decidable (PartAlike cs ds)
  | c :: cs, d :: ds =>
    have := decidablePartAlike cs ds
    inferInstanceAs (Decidable (if c = d then PartAlike cs ds else rowZero c = rowZero d))
  | [], _ => inferInstanceAs (Decidable True)
  | _ :: _, [] => inferInstanceAs (Decidable True)

/-- The number that digits make, each read by its value. -/
def number (cs : List Char) : Nat := ofDigits 10 0 (cs.map digitValue)

/-- The numbers in a text: its runs of digits, whatever stands between them. -/
def numbers (cs : List Char) : List Nat := (cs.splitOnP fun c => !CharSet.digit.contains c.toNat).map number

/-- Two texts have one layout: runs of digits that are equally long, with the same characters between them. -/
inductive SameLayout : List Char → List Char → Prop where
  | digits {cs ds} (length : cs.length = ds.length) (hc : ∀ c ∈ cs, IsDigit c) (hd : ∀ d ∈ ds, IsDigit d) :
      SameLayout cs ds
  | between {cs ds c xs ys} (length : cs.length = ds.length) (hc : ∀ c ∈ cs, IsDigit c) (hd : ∀ d ∈ ds, IsDigit d)
      (other : ¬ IsDigit c) (rest : SameLayout xs ys) : SameLayout (cs ++ c :: xs) (ds ++ c :: ys)

variable {c d : Char} {cs ds xs ys : List Char} {m n : Nat}

theorem digitValue_le (c : Char) : digitValue c ≤ c.toNat := by
  unfold digitValue
  split
  · exact Nat.le_trans (Nat.mod_le ..) (Nat.sub_le ..)
  · exact Nat.zero_le _

theorem digitValue_lt (c : Char) : digitValue c < 10 := by
  unfold digitValue
  split
  · exact Nat.mod_lt _ (by decide)
  · decide

theorem rowZero_add (c : Char) : rowZero c + digitValue c = c.toNat := Nat.sub_add_cancel (digitValue_le c)

/-- In one row the order of the characters is that of the values. -/
theorem cmp_of_rowZero (h : rowZero c = rowZero d) : cmp c d = cmp (digitValue c) (digitValue d) := by
  have hchars : cmp c d = cmp c.toNat d.toNat := rfl
  rw [hchars, ← rowZero_add c, ← rowZero_add d, h, cmp_add_left]

/-- **Texts that part in one row are in the order of the values of their digits.** -/
theorem cmp_map_digitValue (h : PartAlike cs ds) : cmp cs ds = cmp (cs.map digitValue) (ds.map digitValue) := by
  induction cs generalizing ds with
  | nil => cases ds <;> rfl
  | cons c cs ih =>
    cases ds with
    | nil => rfl
    | cons d ds =>
      rw [PartAlike] at h
      rw [List.map_cons, List.map_cons, cmp_cons, cmp_cons]
      split at h
      · next heq => rw [heq, cmp_self_eq_eq, cmp_self_eq_eq, Ordering.eq_then, Ordering.eq_then, ih h]
      · next hne =>
        have hvalue : cmp c d ≠ .eq := mt (cmp_eq_eq_iff _ _).1 hne
        rw [cmp_of_rowZero h] at hvalue ⊢
        cases hcmp : cmp (digitValue c) (digitValue d) with
        | eq => exact absurd hcmp hvalue
        | lt | gt => rfl

theorem partAlike_append {z : Nat} (length : cs.length = ds.length) (hc : ∀ c ∈ cs, rowZero c = z)
    (hd : ∀ d ∈ ds, rowZero d = z) (h : PartAlike xs ys) : PartAlike (cs ++ xs) (ds ++ ys) := by
  induction cs generalizing ds with
  | nil =>
    obtain rfl := List.eq_nil_of_length_eq_zero length.symm
    exact h
  | cons c cs ih =>
    obtain ⟨d, ds, rfl⟩ := List.exists_cons_of_length_eq_add_one length.symm
    rw [List.forall_mem_cons] at hc hd
    rw [List.cons_append, List.cons_append, PartAlike]
    split
    · exact ih (Nat.succ.inj length) hc.2 hd.2
    · exact hc.1.trans hd.1.symm

theorem PartAlike.symm (h : PartAlike cs ds) : PartAlike ds cs := by
  induction cs generalizing ds with
  | nil => cases ds <;> trivial
  | cons c cs ih =>
    cases ds with
    | nil => trivial
    | cons d ds =>
      rw [PartAlike] at h ⊢
      split at h
      · next heq =>
        rw [if_pos heq.symm]
        exact ih h
      · next hne =>
        rw [if_neg (Ne.symm hne)]
        exact h.symm

theorem rowZero_of_ascii (h : IsDigit c) (hascii : c.toNat < 128) : rowZero c = 48 := by
  have hall : ∀ k : Fin 128, CharSet.digit.contains k = true → rowZero (Char.ofNat k) = 48 := by decide +kernel
  have hc := hall ⟨c.toNat, hascii⟩ h
  rwa [Char.ofNat_toNat] at hc

/-! ## Numbers -/

theorem cmp_nil : cmp ([] : List Nat) [] = .eq := rfl

/-- Equally many digits behind two numbers decide where these are equal. -/
theorem cmp_ofDigits {b : Nat} {es es' : List Nat} (length : es.length = es'.length) (he : ∀ e ∈ es, e < b)
    (he' : ∀ e ∈ es', e < b) :
    cmp (ofDigits b m es) (ofDigits b n es') = (cmp m n).then (cmp es es') := by
  induction es generalizing m n es' with
  | nil =>
    obtain rfl := List.eq_nil_of_length_eq_zero length.symm
    rw [cmp_nil, Ordering.then_eq]
    rfl
  | cons e es ih =>
    obtain ⟨e', es', rfl⟩ := List.exists_cons_of_length_eq_add_one length.symm
    rw [List.forall_mem_cons] at he he'
    have hunits : cmp (m * b + e) (n * b + e') = (cmp m n).then (cmp e e') := by
      rw [← cmp_natCast, ← cmp_natCast m n, ← cmp_natCast e e', Nat.cast_add, Nat.cast_mul, Nat.cast_add, Nat.cast_mul]
      exact cmp_units (by omega) (by omega)
    rw [ofDigits, List.foldl_cons, ofDigits, List.foldl_cons]
    exact (ih (Nat.succ.inj length) he.2 he'.2).trans (by rw [hunits, cmp_cons, Ordering.then_assoc])

theorem cmp_number (length : cs.length = ds.length) :
    cmp (number cs) (number ds) = cmp (cs.map digitValue) (ds.map digitValue) := by
  have hlt : ∀ cs : List Char, ∀ e ∈ cs.map digitValue, e < 10 := by
    intro cs e he
    obtain ⟨c, -, rfl⟩ := List.mem_map.1 he
    exact digitValue_lt c
  rw [number, number, cmp_ofDigits (by rw [List.length_map, List.length_map, length]) (hlt cs) (hlt ds),
    cmp_self_eq_eq, Ordering.eq_then]

theorem numbers_digits (hc : ∀ c ∈ cs, IsDigit c) : numbers cs = [number cs] := by
  have hrun : ∀ c ∈ cs, (!CharSet.digit.contains c.toNat) = false := fun c h => by rw [hc c h]; rfl
  rw [numbers, List.splitOnP_eq_singleton hrun, List.map_singleton]

theorem numbers_between (hc : ∀ c ∈ cs, IsDigit c) (other : ¬ IsDigit c) :
    numbers (cs ++ c :: xs) = number cs :: numbers xs := by
  have hrun : ∀ c ∈ cs, (!CharSet.digit.contains c.toNat) = false := fun c h => by rw [hc c h]; rfl
  have hsep : (!CharSet.digit.contains c.toNat) = true := by simpa [IsDigit] using other
  rw [numbers, List.splitOnP_append_cons_of_forall_mem hrun c hsep, List.map_cons, numbers]

namespace SameLayout

theorem append (h : SameLayout cs ds) (other : ¬ IsDigit c) (rest : SameLayout xs ys) :
    SameLayout (cs ++ c :: xs) (ds ++ c :: ys) := by
  induction h with
  | digits length hc hd => exact .between length hc hd other rest
  | between length hc hd other' _ ih =>
    rw [List.append_assoc, List.append_assoc, List.cons_append, List.cons_append]
    exact .between length hc hd other' ih

/-- Where the layout is one, the values of the digits are in the order of the numbers. -/
theorem cmp_numbers (h : SameLayout xs ys) :
    cmp (xs.map digitValue) (ys.map digitValue) = cmp (numbers xs) (numbers ys) := by
  induction h with
  | digits length hc hd =>
    rw [numbers_digits hc, numbers_digits hd, cmp_cons, cmp_number length, cmp_nil, Ordering.then_eq]
  | between length hc hd other _ ih =>
    rw [numbers_between hc other, numbers_between hd other, cmp_cons, cmp_number length, List.map_append,
      List.map_append, cmp_append (by rw [List.length_map, List.length_map, length]), List.map_cons, List.map_cons,
      cmp_cons, cmp_self_eq_eq, Ordering.eq_then, ih]

/-- In ASCII there is one row of digits. -/
theorem partAlike (h : SameLayout xs ys) (hx : ∀ c ∈ xs, c.toNat < 128) (hy : ∀ c ∈ ys, c.toNat < 128) :
    PartAlike xs ys := by
  have hrow : ∀ {cs : List Char}, (∀ c ∈ cs, IsDigit c) → (∀ c ∈ cs, c.toNat < 128) → ∀ c ∈ cs, rowZero c = 48 :=
    fun hc hascii c h => rowZero_of_ascii (hc c h) (hascii c h)
  induction h with
  | @digits cs ds length hc hd =>
    have halike : PartAlike (cs ++ []) (ds ++ []) := partAlike_append length (hrow hc hx) (hrow hd hy) trivial
    rwa [List.append_nil, List.append_nil] at halike
  | @between cs ds c xs ys length hc hd other rest ih =>
    rw [List.forall_mem_append, List.forall_mem_cons] at hx hy
    refine partAlike_append length (hrow hc hx.1) (hrow hd hy.1) ?_
    rw [PartAlike, if_pos rfl]
    exact ih hx.2.2 hy.2.2

end SameLayout

/-- **Texts of one layout that part in one row are in the order of their numbers.** -/
theorem cmp_eq_cmp_numbers (h : SameLayout cs ds) (halike : PartAlike cs ds) :
    cmp cs ds = cmp (numbers cs) (numbers ds) :=
  (cmp_map_digitValue halike).trans h.cmp_numbers

end Text

end RecordSchema
