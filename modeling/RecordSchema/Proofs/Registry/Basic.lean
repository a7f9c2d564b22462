/-
What registering does to a registry: it puts a tree of a new name behind those
that are there, and changes nothing else (`register_eq_ok_iff`); a name that is
taken is refused (`register_eq_error_iff`).

Whatever is done to a registry comes down to attempts to register a tree, each
made on what the attempts before it have left (`attemptAll`). So what one
attempt keeps is kept for good: the registry stays coherent, nothing in it is
replaced or lost, and it grows by the trees that are accepted.
-/
import RecordSchema.Proofs.Members
import RecordSchema.Registry.Basic

namespace RecordSchema

namespace Registry

/-- The registry with a tree put behind the others. -/
def add (r : Registry) (t : Tree) : Registry := ⟨r.trees ++ [(t.name, t)]⟩

/-- Each tree is kept under its own name, and no two under one. -/
structure Coherent (r : Registry) : Prop where
  keyed : ∀ e ∈ r.trees, e.2.name = e.1
  nodup : (Members.keys r.trees).Nodup

/-- Whatever tree a name has in `r`, it has in `r'`. -/
def Extends (r r' : Registry) : Prop := ∀ name t, r.get? name = some t → r'.get? name = some t

variable {r r' r'' : Registry} {t : Tree} {name : String}

theorem Extends.refl (r : Registry) : r.Extends r := fun _ _ h => h

theorem Extends.trans (h : r.Extends r') (h' : r'.Extends r'') : r.Extends r'' :=
  fun name t ht => h' name t (h name t ht)

theorem mem_keys_iff : name ∈ Members.keys r.trees ↔ ∃ t, r.get? name = some t := by
  rw [← Option.isSome_iff_exists, ← Option.ne_none_iff_isSome, get?, Ne, Members.get?_eq_none_iff,
    Decidable.not_not]

theorem get?_add : (r.add t).get? name = (r.get? name).or (if t.name = name then some t else none) := by
  rw [get?, add, Members.get?_append, Members.get?_cons, Members.get?_nil, get?]

theorem extends_add (r : Registry) (t : Tree) : r.Extends (r.add t) := by
  intro name u hu
  rw [get?_add, hu, Option.some_or]

theorem size_add (r : Registry) (t : Tree) : (r.add t).size = r.size + 1 := by
  simp [size, add]

theorem Coherent.add (h : r.Coherent) (hnew : r.get? t.name = none) : (r.add t).Coherent := by
  have hkeys : t.name ∉ Members.keys r.trees := Members.get?_eq_none_iff.1 hnew
  refine ⟨fun e he => ?_, ?_⟩
  · rcases List.mem_append.1 he with he | he
    · exact h.keyed e he
    · rw [List.mem_singleton.1 he]
  · have hne : ∀ key ∈ Members.keys r.trees, key ≠ t.name := by
      rintro key hkey rfl
      exact hkeys hkey
    show ((r.trees ++ [(t.name, t)]).map (·.1)).Nodup
    rw [List.map_append, List.nodup_append]
    refine ⟨h.nodup, by simp, fun key hkey other hother => ?_⟩
    rw [List.mem_singleton.1 hother]
    exact hne key hkey

/-! ## Registering -/

theorem register_of_new (hnew : r.get? t.name = none) : r.register t = .ok (r.add t) := by
  have hkeys : t.name ∉ Members.keys r.trees := Members.get?_eq_none_iff.1 hnew
  have hhas : r.trees.has t.name = false := by
    rw [Members.has, ← get?, hnew, Option.isSome_none]
  rw [register, hhas, Members.insert_of_not_mem hkeys]
  rfl

theorem register_of_taken {u : Tree} (htaken : r.get? t.name = some u) :
    r.register t = .error (.duplicateName t.name) := by
  have hhas : r.trees.has t.name = true := by
    rw [Members.has, ← get?, htaken, Option.isSome_some]
  rw [register, if_pos hhas]

/-- Registering puts a tree of a new name behind the others. -/
theorem register_eq_ok_iff : r.register t = .ok r' ↔ r.get? t.name = none ∧ r' = r.add t := by
  cases hget : r.get? t.name with
  | none => simp [register_of_new hget, eq_comm]
  | some u => simp [register_of_taken hget]

/-- A tree is refused because its name is taken. -/
theorem register_eq_error_iff {e : RegistryError} :
    r.register t = .error e ↔ (∃ u, r.get? t.name = some u) ∧ e = .duplicateName t.name := by
  cases hget : r.get? t.name with
  | none => simp [register_of_new hget]
  | some u => simp [register_of_taken hget, eq_comm]

/-- In a coherent registry a name is free if no tree is called by it. -/
theorem Coherent.get?_eq_none_iff (h : r.Coherent) :
    r.get? name = none ↔ ∀ e ∈ r.trees, e.2.name ≠ name := by
  rw [get?, Members.get?_eq_none_iff]
  constructor
  · intro hkeys e he hname
    apply hkeys
    rw [← hname, h.keyed e he]
    exact List.mem_map_of_mem he
  · intro hne hkey
    obtain ⟨e, he, rfl⟩ := List.mem_map.1 hkey
    exact hne e he (h.keyed e he)

/-! ## Attempts -/

/-- The registry that an attempt to register a tree leaves behind. -/
def attempt (r : Registry) (t : Tree) : Registry :=
  match r.register t with
  | .ok r' => r'
  | .error _ => r

/-- The registry that attempts leave behind, one made after the other. -/
def attemptAll (r : Registry) (ts : List Tree) : Registry := ts.foldl attempt r

/-- The trees that are registered when all are tried one after the other. -/
def accepted : Registry → List Tree → List Tree
  | _, [] => []
  | r, t :: ts =>
    match r.register t with
    | .ok r' => t :: accepted r' ts
    | .error _ => accepted r ts

/-- All that an attempt can do. -/
theorem attempt_cases (r : Registry) (t : Tree) :
    (r.get? t.name = none ∧ r.attempt t = r.add t) ∨
      (∃ u, r.get? t.name = some u) ∧ r.attempt t = r := by
  unfold attempt
  cases hget : r.get? t.name with
  | none => rw [register_of_new hget]; exact .inl ⟨rfl, rfl⟩
  | some u => rw [register_of_taken hget]; exact .inr ⟨⟨u, rfl⟩, rfl⟩

theorem Coherent.attempt (h : r.Coherent) (t : Tree) : (r.attempt t).Coherent := by
  rcases r.attempt_cases t with ⟨hnew, heq⟩ | ⟨-, heq⟩
  · rw [heq]
    exact h.add hnew
  · rwa [heq]

theorem extends_attempt (r : Registry) (t : Tree) : r.Extends (r.attempt t) := by
  rcases r.attempt_cases t with ⟨-, heq⟩ | ⟨-, heq⟩
  · rw [heq]
    exact r.extends_add t
  · rw [heq]
    exact .refl r

theorem attemptAll_append (r : Registry) (ts us : List Tree) :
    r.attemptAll (ts ++ us) = (r.attemptAll ts).attemptAll us :=
  List.foldl_append ..

theorem coherent_empty : empty.Coherent := ⟨by simp [empty], by simp [empty, Members.keys]⟩

/-- **Attempts keep a registry coherent.** -/
theorem Coherent.attemptAll (h : r.Coherent) (ts : List Tree) : (r.attemptAll ts).Coherent := by
  induction ts generalizing r with
  | nil => exact h
  | cons t ts ih => exact ih (h.attempt t)

/-- **Attempts replace and remove nothing.** -/
theorem extends_attemptAll (r : Registry) (ts : List Tree) : r.Extends (r.attemptAll ts) := by
  induction ts generalizing r with
  | nil => exact .refl r
  | cons t ts ih => exact (r.extends_attempt t).trans (ih (r.attempt t))

/-- **A registry grows by the trees that are accepted.** -/
theorem size_attemptAll (r : Registry) (ts : List Tree) :
    (r.attemptAll ts).size = r.size + (r.accepted ts).length := by
  induction ts generalizing r with
  | nil => rfl
  | cons t ts ih =>
    show ((r.attempt t).attemptAll ts).size = _
    cases hget : r.get? t.name with
    | none =>
      have hattempt : r.attempt t = r.add t := by rw [attempt, register_of_new hget]
      have haccepted : r.accepted (t :: ts) = t :: (r.add t).accepted ts := by
        rw [accepted, register_of_new hget]
      rw [ih, hattempt, haccepted, size_add, List.length_cons]
      omega
    | some u =>
      have hattempt : r.attempt t = r := by rw [attempt, register_of_taken hget]
      have haccepted : r.accepted (t :: ts) = r.accepted ts := by rw [accepted, register_of_taken hget]
      rw [ih, hattempt, haccepted]

/-! ## Listing -/

theorem names_perm (r : Registry) : r.names.Perm (Members.keys r.trees) := List.mergeSort_perm ..

theorem mem_names_iff : name ∈ r.names ↔ ∃ t, r.get? name = some t := by
  rw [r.names_perm.mem_iff, mem_keys_iff]

/-- The names are in order, and none comes twice. -/
theorem Coherent.names_increasing (h : r.Coherent) : r.names.Pairwise (· < ·) := by
  have hle : r.names.Pairwise (· ≤ ·) := by
    have htrans : ∀ a b c : String, decide (a ≤ b) = true → decide (b ≤ c) = true → decide (a ≤ c) = true := by
      simp only [decide_eq_true_eq]
      exact fun a b c => String.le_trans
    have htotal : ∀ a b : String, (decide (a ≤ b) || decide (b ≤ a)) = true := by
      simp only [Bool.or_eq_true, decide_eq_true_eq]
      exact String.le_total
    exact (List.pairwise_mergeSort htrans htotal (Members.keys r.trees)).imp of_decide_eq_true
  have hne : r.names.Nodup := r.names_perm.nodup_iff.2 h.nodup
  refine hle.imp₂ (fun a b hab hne => ?_) hne
  rw [← String.not_le]
  exact fun hba => hne (String.le_antisymm hab hba)

/-- The trees are written in the order of their names, each as its fragment. -/
theorem exists_toJson (r : Registry) : ∃ m, r.toJson = .object m ∧ Members.keys m = r.names ∧
    ∀ e ∈ m, ∃ t, r.get? e.1 = some t ∧ e.2 = t.toFragment := by
  have hall : ∀ name ∈ r.names, ∃ t, r.get? name = some t := fun _ => mem_names_iff.1
  refine ⟨_, rfl, ?_, fun e he => ?_⟩
  · generalize r.names = names at hall
    induction names with
    | nil => rfl
    | cons name names ih =>
      rw [List.forall_mem_cons] at hall
      obtain ⟨⟨t, ht⟩, hall⟩ := hall
      rw [List.filterMap_cons_some (by rw [ht, Option.map_some])]
      exact congrArg (name :: ·) (ih hall)
  · obtain ⟨name, -, hname⟩ := List.mem_filterMap.1 he
    obtain ⟨t, ht, rfl⟩ := Option.map_eq_some_iff.1 hname
    exact ⟨t, ht, rfl⟩

end Registry

end RecordSchema
