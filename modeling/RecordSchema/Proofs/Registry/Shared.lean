/-
A registry that is used through a handle and clones of it, by any number of
calls: each call comes down to attempts to register trees, one for a tree that
is given and one for each file of a directory that loads (`Call.trees`), and
what it changes is what all the handles read (`Storage.read_afterAll`).

So what attempts keep of a registry (`Registry.Coherent.attemptAll`,
`Registry.extends_attemptAll`, `Registry.size_attemptAll`) is kept by every
history of calls, whichever clone each of them is made through.
-/
import RecordSchema.Proofs.Registry.Load
import RecordSchema.Registry.Shared

namespace RecordSchema

namespace Handle

/-- The handle is `h`, or cloned from it or from another clone of it. -/
inductive CloneOf (h : Handle) : Handle → Prop where
  | self : CloneOf h h
  | clone {g} (hg : CloneOf h g) : CloneOf h g.clone

theorem CloneOf.eq {h g : Handle} (hg : h.CloneOf g) : g = h := by
  induction hg with
  | self => rfl
  | clone _ ih => rw [ih, Handle.clone]

end Handle

/-! ## Calls as attempts -/

namespace Registry

/-- The trees that a call tries to register, in this order. -/
def Call.trees : Call → List Tree
  | register t => [t]
  | loadDir fs dir =>
    match fs.list dir with
    | .error _ => []
    | .ok paths => (treeFiles paths).filterMap fun path => (Tree.load fs path).toOption

theorem loadFiles_eq_attemptAll (fs : FileSystem) (r : Registry) (paths : List String) :
    (loadFiles fs r paths).1 = r.attemptAll (paths.filterMap fun path => (Tree.load fs path).toOption) := by
  induction paths generalizing r with
  | nil => rfl
  | cons path paths ih =>
    cases hload : Tree.load fs path with
    | error e =>
      rw [List.filterMap_cons_none (by rw [hload]; rfl), loadFiles, loadFile_of_unloadable hload]
      exact ih r
    | ok t =>
      rw [List.filterMap_cons_some (by rw [hload]; rfl)]
      show _ = (r.attempt t).attemptAll _
      cases hget : r.get? t.name with
      | none =>
        rw [loadFiles, loadFile_of_added hload hget, attempt, register_of_new hget]
        exact ih (r.add t)
      | some u =>
        rw [loadFiles, loadFile_of_taken hload hget, attempt, register_of_taken hget]
        exact ih r

theorem loadDir_eq_attemptAll (r : Registry) (fs : FileSystem) (dir : String) :
    (r.loadDir fs dir).1 = r.attemptAll (Call.loadDir fs dir).trees := by
  cases hlist : fs.list dir with
  | error cause => simp [loadDir, Call.trees, hlist, attemptAll]
  | ok paths =>
    rw [loadDir_eq r hlist, Call.trees, hlist]
    exact loadFiles_eq_attemptAll fs r _

end Registry

/-! ## Storage -/

namespace Storage

open Registry (Call)

variable {s : Storage} {h g : Handle}

theorem read_create (s : Storage) : s.create.1.read s.create.2 = .empty := by
  simp [create, read]

theorem place_lt_create (s : Storage) : s.create.2.place < s.create.1.cells.length := by
  simp [create]

theorem read_write (hplace : h.place < s.cells.length) (r : Registry) : (s.write h r).read h = r := by
  simp [write, read, hplace]

theorem write_read (hplace : h.place < s.cells.length) : s.write h (s.read h) = s := by
  simp [write, read, hplace]

theorem register_of_new {t : Tree} (hnew : (s.read h).get? t.name = none) :
    s.register h t = (s.write h ((s.read h).add t), .ok ()) := by
  rw [register, Registry.register_of_new hnew]

theorem register_of_taken {t u : Tree} (htaken : (s.read h).get? t.name = some u) :
    s.register h t = (s, .error (.duplicateName t.name)) := by
  rw [register, Registry.register_of_taken htaken]

/-- Of a coherent registry a tree is accepted if none of its name is there, and is then found by it; one that
is refused changes nothing. -/
theorem register_spec (hplace : h.place < s.cells.length) (hr : (s.read h).Coherent) (t : Tree) :
    ((s.register h t).2 = .ok () ↔ ∀ e ∈ (s.read h).trees, e.2.name ≠ t.name) ∧
      ((s.register h t).2 = .ok () → ((s.register h t).1.read h).get? t.name = some t) ∧
      ((s.register h t).2 ≠ .ok () → (s.register h t).1 = s) := by
  rw [← hr.get?_eq_none_iff]
  cases hget : (s.read h).get? t.name with
  | none =>
    have hfound : ((s.read h).add t).get? t.name = some t := by
      rw [Registry.get?_add, hget, if_pos rfl, Option.none_or]
    simp [register_of_new hget, read_write hplace, hfound]
  | some u => simp [register_of_taken hget]

/-- A call leaves what its attempts leave of the registry it is made on. -/
theorem after_eq (hplace : h.place < s.cells.length) (c : Call) :
    s.after h c = s.write h ((s.read h).attemptAll c.trees) := by
  cases c with
  | register t =>
    show (s.register h t).1 = s.write h ((s.read h).attempt t)
    cases hget : (s.read h).get? t.name with
    | none => rw [register_of_new hget, Registry.attempt, Registry.register_of_new hget]
    | some u => rw [register_of_taken hget, Registry.attempt, Registry.register_of_taken hget, write_read hplace]
  | loadDir fs dir => rw [← Registry.loadDir_eq_attemptAll, after, loadDir]

/-- A history that is made through one handle and its clones leaves the storage in place, and of the
registry what all its attempts leave. -/
theorem read_afterAll (hplace : h.place < s.cells.length) {history : List (Handle × Call)}
    (hcalls : ∀ c ∈ history, h.CloneOf c.1) :
    h.place < (s.afterAll history).cells.length ∧
      (s.afterAll history).read h = (s.read h).attemptAll (history.flatMap fun c => c.2.trees) := by
  induction history generalizing s with
  | nil => exact ⟨hplace, rfl⟩
  | cons c history ih =>
    rw [List.forall_mem_cons] at hcalls
    obtain ⟨hc, hcalls⟩ := hcalls
    have hafter : s.after c.1 c.2 = s.write h ((s.read h).attemptAll c.2.trees) := by
      rw [hc.eq, after_eq hplace]
    have hplace' : h.place < (s.after c.1 c.2).cells.length := by
      rw [hafter]
      simpa [write] using hplace
    obtain ⟨hplace'', hread⟩ := ih hplace' hcalls
    refine ⟨hplace'', ?_⟩
    show ((s.after c.1 c.2).afterAll history).read h = _
    rw [hread, hafter, read_write hplace, List.flatMap_cons, Registry.attemptAll_append]

/-- **What any history makes of a registry that starts empty**, whichever clone its calls are made through
and whichever clone it is read through. Each tree is kept under its own name. A tree is accepted if none of
its name is there, and is then found by it; one that is refused changes nothing. What a name has it has after
every later history. There are as many trees as were accepted. The names are listed in strict order, and the
trees are written in the same order. -/
theorem registrations_stay (s₀ : Storage) {history : List (Handle × Call)}
    (hcalls : ∀ c ∈ history, s₀.create.2.CloneOf c.1) (hg : s₀.create.2.CloneOf g) :
    let s := s₀.create.1.afterAll history
    let r := s.read g
    (∀ e ∈ r.trees, e.2.name = e.1) ∧
      (∀ t, ((s.register g t).2 = .ok () ↔ ∀ e ∈ r.trees, e.2.name ≠ t.name) ∧
        ((s.register g t).2 = .ok () → ((s.register g t).1.read g).get? t.name = some t) ∧
        ((s.register g t).2 ≠ .ok () → (s.register g t).1 = s)) ∧
      (∀ later, (∀ c ∈ later, s₀.create.2.CloneOf c.1) → ∀ g', s₀.create.2.CloneOf g' →
        r.Extends ((s.afterAll later).read g')) ∧
      r.size = (Registry.empty.accepted (history.flatMap fun c => c.2.trees)).length ∧
      r.names.Pairwise (· < ·) ∧ (∀ name, name ∈ r.names ↔ ∃ e ∈ r.trees, e.1 = name) ∧
      ∃ m, r.toJson = .object m ∧ Members.keys m = r.names := by
  intro s r
  obtain ⟨hplace, hread⟩ := read_afterAll (place_lt_create s₀) hcalls
  have hr : r = Registry.empty.attemptAll (history.flatMap fun c => c.2.trees) := by
    rw [← read_create s₀, ← hread, ← hg.eq]
  have hcoherent : r.Coherent := hr ▸ Registry.coherent_empty.attemptAll _
  have hregister := register_spec (s := s) (h := g) (by rwa [hg.eq]) hcoherent
  refine ⟨hcoherent.keyed, hregister, fun later hlater g' hg' => ?_, ?_, hcoherent.names_increasing,
    fun name => ?_, ?_⟩
  · have hlast : (s.afterAll later).read g' = r.attemptAll (later.flatMap fun c => c.2.trees) := by
      rw [hg'.eq, (read_afterAll hplace hlater).2, ← hg.eq]
    rw [hlast]
    exact r.extends_attemptAll _
  · rw [hr, Registry.size_attemptAll]
    exact Nat.zero_add _
  · rw [r.names_perm.mem_iff, Members.keys, List.mem_map]
  · obtain ⟨m, hm, hkeys, -⟩ := r.exists_toJson
    exact ⟨m, hm, hkeys⟩

/-- At a registry that two trees are registered in, one of them a second time through a clone of a clone. -/
theorem registrations_stay_clones :
    let s₀ : Storage := ⟨[]⟩
    let h := s₀.create.2
    let limits : Tree := ⟨"limits", ⟨.plain, []⟩, []⟩
    let flags : Tree := ⟨"flags", ⟨.plain, []⟩, []⟩
    let history : List (Handle × Call) :=
      [(h, .register limits), (h.clone, .register flags), (h.clone.clone, .register limits)]
    let s := s₀.create.1.afterAll history
    (∀ c ∈ history, h.CloneOf c.1) ∧ h.CloneOf h.clone ∧ (s.read h.clone).size = 2 ∧
      ("flags" ∈ (s.read h.clone).names ∧ "limits" ∈ (s.read h.clone).names) ∧
      (s.read h.clone).names.Pairwise (· < ·) ∧ (s.register h.clone flags).1 = s := by
  intro s₀ h limits flags history s
  have hclone : h.CloneOf h.clone := .clone .self
  have hcalls : ∀ c ∈ history, h.CloneOf c.1 := by
    simp only [history, List.forall_mem_cons, List.not_mem_nil, false_implies, implies_true, and_true]
    exact ⟨.self, hclone, .clone hclone⟩
  have htrees : (s.read h.clone).trees = [("limits", limits), ("flags", flags)] := by rfl
  obtain ⟨-, hregister, -, hsize, hnames, hmem, -⟩ := registrations_stay s₀ hcalls hclone
  have htaken : (s.register h.clone flags).2 ≠ .ok () := by
    rw [Ne, (hregister flags).1, htrees]
    simp
  refine ⟨hcalls, hclone, hsize, ⟨?_, ?_⟩, hnames, (hregister flags).2.2 htaken⟩
  · rw [hmem "flags", htrees]
    simp
  · rw [hmem "limits", htrees]
    simp

end Storage

end RecordSchema
