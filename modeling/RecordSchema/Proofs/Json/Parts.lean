/-
JSON values as trees: induction over them, all the values within one, and
the values that a reader of JSON can make.

A value is well-formed if its integers are within the 64-bit ranges and its
objects repeat no key. Numbers beyond those ranges and repeated keys have no
place in the values that schemas and records are given as; the reader of JSON
text makes none.
-/
import RecordSchema.Json.Value
import RecordSchema.Proofs.Members

namespace RecordSchema

namespace Json

@[elab_as_elim, induction_eliminator]
theorem induct {P : Json → Prop} (null : P null) (bool : ∀ b, P (bool b)) (number : ∀ n, P (number n))
    (string : ∀ s, P (string s)) (array : ∀ items, (∀ v ∈ items, P v) → P (array items))
    (object : ∀ members, (∀ e ∈ members, P e.2) → P (object members)) (v : Json) : P v :=
  @Json.rec P (fun vs => ∀ v ∈ vs, P v) (fun m => ∀ e ∈ m, P e.2) (fun e => P e.2)
    null bool number string array object (by simp) (fun _ _ hv hvs => List.forall_mem_cons.2 ⟨hv, hvs⟩)
    (by simp) (fun _ _ he hes => List.forall_mem_cons.2 ⟨he, hes⟩) (fun _ _ hv => hv) v

/-! ## Values within a value -/

mutual

/-- The value itself and all the values below it. -/
def parts : Json → List Json
  | array items => array items :: itemParts items
  | object members => object members :: memberParts members
  | v => [v]

def itemParts : List Json → List Json
  | [] => []
  | v :: vs => parts v ++ itemParts vs

def memberParts : List (String × Json) → List Json
  | [] => []
  | (_, v) :: m => parts v ++ memberParts m

end

theorem itemParts_eq (vs : List Json) : itemParts vs = vs.flatMap parts := by
  induction vs with
  | nil => rfl
  | cons v vs ih => simp [itemParts, ih]

theorem memberParts_eq (m : List (String × Json)) : memberParts m = m.flatMap fun e => parts e.2 := by
  induction m with
  | nil => rfl
  | cons e m ih => simp [memberParts, ih]

/-- Something holds of every value within a value. -/
def Everywhere (P : Json → Prop) (v : Json) : Prop := ∀ u ∈ v.parts, P u

instance {P : Json → Prop} [DecidablePred P] (v : Json) : Decidable (Everywhere P v) :=
  inferInstanceAs (Decidable (∀ u ∈ v.parts, P u))

section

variable {P : Json → Prop}

@[simp] theorem everywhere_null : Everywhere P null ↔ P null := by simp [Everywhere, parts]

@[simp] theorem everywhere_bool {b : Bool} : Everywhere P (bool b) ↔ P (bool b) := by
  simp [Everywhere, parts]

@[simp] theorem everywhere_number {n : Number} : Everywhere P (number n) ↔ P (number n) := by
  simp [Everywhere, parts]

@[simp] theorem everywhere_string {s : String} : Everywhere P (string s) ↔ P (string s) := by
  simp [Everywhere, parts]

@[simp] theorem everywhere_array {items : List Json} :
    Everywhere P (array items) ↔ P (array items) ∧ ∀ v ∈ items, Everywhere P v := by
  simp only [Everywhere, parts, itemParts_eq, List.forall_mem_cons, List.mem_flatMap]
  exact and_congr_right fun _ => ⟨fun h v hv u hu => h u ⟨v, hv, hu⟩, fun h u ⟨v, hv, hu⟩ => h v hv u hu⟩

@[simp] theorem everywhere_object {members : List (String × Json)} :
    Everywhere P (object members) ↔ P (object members) ∧ ∀ e ∈ members, Everywhere P e.2 := by
  simp only [Everywhere, parts, memberParts_eq, List.forall_mem_cons, List.mem_flatMap]
  exact and_congr_right fun _ => ⟨fun h e he u hu => h u ⟨e, he, hu⟩, fun h u ⟨e, he, hu⟩ => h e he u hu⟩

theorem Everywhere.self {v : Json} (h : Everywhere P v) : P v := by
  cases v with
  | array items => exact (everywhere_array.1 h).1
  | object members => exact (everywhere_object.1 h).1
  | _ => exact h _ (by simp [parts])

end

/-! ## Well-formed values -/

/-- An integer is within one of the 64-bit ranges, and an object repeats no key; of the values below
it nothing is said. -/
def Sound : Json → Prop
  | number (.int n) => -(Number.int64Bound : Int) ≤ n ∧ n < Number.uint64Bound
  | object members => (Members.keys members).Nodup
  | _ => True

instance : DecidablePred Sound
  | number (.int n) => inferInstanceAs (Decidable (-(Number.int64Bound : Int) ≤ n ∧ n < Number.uint64Bound))
  | number (.float _) => .isTrue trivial
  | object members => inferInstanceAs (Decidable (Members.keys members).Nodup)
  | null | bool _ | string _ | array _ => .isTrue trivial

/-- Every integer within the value is one of JSON, and no object within it repeats a key. -/
def WellFormed (v : Json) : Prop := Everywhere Sound v

instance (v : Json) : Decidable (WellFormed v) := inferInstanceAs (Decidable (Everywhere Sound v))

theorem wellFormed_string (s : String) : WellFormed (string s) := everywhere_string.2 trivial

theorem WellFormed.item {items : List Json} (h : WellFormed (array items)) : ∀ v ∈ items, WellFormed v :=
  (everywhere_array.1 h).2

theorem WellFormed.member {members : List (String × Json)} (h : WellFormed (object members)) :
    ∀ e ∈ members, WellFormed e.2 :=
  (everywhere_object.1 h).2

theorem WellFormed.nodup_keys {members : List (String × Json)} (h : WellFormed (object members)) :
    (Members.keys members).Nodup :=
  (everywhere_object.1 h).1

theorem WellFormed.bounds {n : Int} (h : WellFormed (number (.int n))) :
    -(Number.int64Bound : Int) ≤ n ∧ n < Number.uint64Bound :=
  everywhere_number.1 h

theorem wellFormed_ofMembers {es : List (String × Json)} (h : ∀ e ∈ es, WellFormed e.2) :
    WellFormed (ofMembers es) :=
  everywhere_object.2 ⟨Members.nodup_keys_ofPairs es, fun e he => h e (Members.mem_ofPairs he)⟩

theorem ofInt_eq {n : Int} (h : -(Number.int64Bound : Int) ≤ n ∧ n < Number.uint64Bound) :
    ofInt n = number (.int n) := if_pos h

end Json

end RecordSchema
