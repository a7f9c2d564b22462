/-
Association lists that keep the order of their keys: the members of a
JSON object, the fields of a record, the special values of a node.

A key keeps the place where it first came (`insert` on a known key changes
the value alone), so a list built by `insert` never repeats a key
(`nodup_keys_ofPairs`).
-/
namespace RecordSchema

/-- Values under keys, in the order in which the keys first came. -/
abbrev Members (α : Type) := List (String × α)

namespace Members

variable {α β : Type}

def keys (m : Members α) : List String := m.map (·.1)

/-- The value under `key`, that of the first member if the key repeats. -/
def get? : Members α → String → Option α
  | [], _ => none
  | (k, v) :: m, key => if k = key then some v else get? m key

def has (m : Members α) (key : String) : Bool := (get? m key).isSome

/-- Puts `value` under `key`: in the place of the old value, else at the end. -/
def insert : Members α → String → α → Members α
  | [], key, value => [(key, value)]
  | (k, v) :: m, key, value => if k = key then (k, value) :: m else (k, v) :: insert m key value

/-- All members but those under `key`. -/
def remove (m : Members α) (key : String) : Members α := m.filter fun e => e.1 != key

def mapValues (f : α → β) (m : Members α) : Members β := m.map fun e => (e.1, f e.2)

def insertAll (m : Members α) (es : List (String × α)) : Members α :=
  es.foldl (fun m e => insert m e.1 e.2) m

/-- A repeated key keeps its first place and takes its last value. -/
def ofPairs (es : List (String × α)) : Members α := insertAll [] es

/-! ## Laws -/

@[simp] theorem get?_nil (key : String) : get? ([] : Members α) key = none := rfl

theorem get?_cons (k : String) (v : α) (m : Members α) (key : String) :
    get? ((k, v) :: m) key = if k = key then some v else get? m key := rfl

theorem get?_insert_self (m : Members α) (k : String) (v : α) : get? (insert m k v) k = some v := by
  induction m with
  | nil => simp [insert, get?]
  | cons e m ih =>
    obtain ⟨k', v'⟩ := e
    by_cases h : k' = k
    · simp [insert, get?, h]
    · simp [insert, get?, h, ih]

theorem get?_insert_other (m : Members α) {k key : String} (v : α) (hne : k ≠ key) :
    get? (insert m k v) key = get? m key := by
  induction m with
  | nil => simp [insert, get?, hne]
  | cons e m ih =>
    obtain ⟨k', v'⟩ := e
    by_cases h : k' = k
    · subst h; simp [insert, get?, hne]
    · simp [insert, get?, h, ih]

theorem mem_keys_insert {m : Members α} {k key : String} {v : α} :
    key ∈ keys (insert m k v) ↔ key = k ∨ key ∈ keys m := by
  induction m with
  | nil => simp [insert, keys]
  | cons e m ih =>
    obtain ⟨k', v'⟩ := e
    by_cases h : k' = k
    · subst h; simp [insert, keys]
    · simp only [keys] at ih
      simp only [insert, h, if_false, keys, List.map_cons, List.mem_cons, ih]
      constructor
      · rintro (h | h | h) <;> simp_all
      · rintro (h | h | h) <;> simp_all

theorem nodup_keys_insert {m : Members α} (h : (keys m).Nodup) (k : String) (v : α) :
    (keys (insert m k v)).Nodup := by
  induction m with
  | nil => simp [insert, keys]
  | cons e m ih =>
    obtain ⟨k', v'⟩ := e
    have hm : k' ∉ keys m ∧ (keys m).Nodup := List.nodup_cons.1 h
    by_cases hk : k' = k
    · subst hk; simpa [insert, keys] using h
    · have hn : k' ∉ keys (insert m k v) := by
        rw [mem_keys_insert]; rintro (h' | h')
        · exact hk h'
        · exact hm.1 h'
      have := ih hm.2
      simpa [insert, hk, keys] using And.intro hn this

theorem nodup_keys_insertAll {m : Members α} (h : (keys m).Nodup) (es : List (String × α)) :
    (keys (insertAll m es)).Nodup := by
  induction es generalizing m with
  | nil => exact h
  | cons e es ih => exact ih (nodup_keys_insert h e.1 e.2)

theorem nodup_keys_ofPairs (es : List (String × α)) : (keys (ofPairs es)).Nodup :=
  nodup_keys_insertAll (by simp [keys]) es

end Members

end RecordSchema
