/-
Loading a directory takes each of its files once, in the order of their paths,
and every file has one outcome: it adds a tree, or it makes an error
(`Handled`).

What a file comes to depends on the files before it, since two of them may
hold trees of one name. The order in which a directory is listed plays no part
in it: of paths with different components sorting makes one and the same list
(`File.eq_of_increasing`), and a file is read by its path.
-/
import RecordSchema.Proofs.Except
import RecordSchema.Proofs.File.Path
import RecordSchema.Proofs.Registry.Basic
import RecordSchema.Registry.Load

namespace RecordSchema

/-- The file that an error is about, if it is about a single one. -/
def LoadError.path? : LoadError → Option String
  | io path _ | parse path | build path _ | invalidFileName path | registry path _ => some path
  | multiple _ => none

/-- A tree that can not be loaded makes an error that names its file. -/
theorem Tree.path?_of_load_eq_error {fs : FileSystem} {path : String} {e : LoadError}
    (h : load fs path = .error e) : e.path? = some path := by
  unfold load at h
  split at h
  · cases h; rfl
  · unfold ofFileText at h
    split at h
    · cases h; rfl
    · split at h
      · cases h; rfl
      · next v _ _ stem _ =>
        cases hc : compile (some stem) v with
        | error e' => rw [hc] at h; cases h; rfl
        | ok t => rw [hc] at h; cases h

namespace Registry

/-- Files are taken one after the other, with the registry before, the registry after and the errors. -/
inductive Handled (fs : FileSystem) : Registry → List String → Registry → List LoadError → Prop where
  | done {r} : Handled fs r [] r []
  /-- The file holds a tree of a new name, which is added. -/
  | added {r r' path paths errors t} (loaded : Tree.load fs path = .ok t) (new : r.get? t.name = none)
      (rest : Handled fs (r.add t) paths r' errors) : Handled fs r (path :: paths) r' errors
  /-- The file holds no tree. -/
  | unloadable {r r' path paths errors e} (failed : Tree.load fs path = .error e)
      (rest : Handled fs r paths r' errors) : Handled fs r (path :: paths) r' (e :: errors)
  /-- The file holds a tree whose name is taken. -/
  | taken {r r' path paths errors t u} (loaded : Tree.load fs path = .ok t) (taken : r.get? t.name = some u)
      (rest : Handled fs r paths r' errors) :
      Handled fs r (path :: paths) r' (.registry path (.duplicateName t.name) :: errors)

variable {fs fs' : FileSystem} {r r' : Registry} {paths paths' : List String} {errors : List LoadError}

/-! ## Files -/

theorem loadFile_of_added {path : String} {t : Tree} (hload : Tree.load fs path = .ok t)
    (hnew : r.get? t.name = none) : r.loadFile fs path = .ok (r.add t) := by
  rw [loadFile, hload]
  show (r.register t).mapError _ = _
  rw [register_of_new hnew]
  rfl

theorem loadFile_of_unloadable {path : String} {e : LoadError} (hload : Tree.load fs path = .error e) :
    r.loadFile fs path = .error e := by
  rw [loadFile, hload]

theorem loadFile_of_taken {path : String} {t u : Tree} (hload : Tree.load fs path = .ok t)
    (htaken : r.get? t.name = some u) :
    r.loadFile fs path = .error (.registry path (.duplicateName t.name)) := by
  rw [loadFile, hload]
  show (r.register t).mapError _ = _
  rw [register_of_taken htaken]
  rfl

/-- **Every file has an outcome**, whatever comes of those before it. -/
theorem handled_loadFiles (fs : FileSystem) (r : Registry) (paths : List String) :
    Handled fs r paths (loadFiles fs r paths).1 (loadFiles fs r paths).2 := by
  induction paths generalizing r with
  | nil => exact .done
  | cons path paths ih =>
    cases hload : Tree.load fs path with
    | error e =>
      rw [loadFiles, loadFile_of_unloadable hload]
      exact .unloadable hload (ih r)
    | ok t =>
      cases hget : r.get? t.name with
      | none =>
        rw [loadFiles, loadFile_of_added hload hget]
        exact .added hload hget (ih (r.add t))
      | some u =>
        rw [loadFiles, loadFile_of_taken hload hget]
        exact .taken hload hget (ih r)

/-- Files add as many trees as there are files without an error. -/
theorem Handled.exists_new (h : Handled fs r paths r' errors) :
    ∃ new : List Tree, r'.trees = r.trees ++ new.map (fun t => (t.name, t)) ∧
      paths.length = new.length + errors.length := by
  induction h with
  | done => exact ⟨[], by simp, rfl⟩
  | @added r r' path paths errors t _ _ _ ih =>
    obtain ⟨new, htrees, hlength⟩ := ih
    refine ⟨t :: new, ?_, ?_⟩
    · rw [htrees, add, List.map_cons, List.append_assoc, List.singleton_append]
    · simp only [List.length_cons]
      omega
  | unloadable _ _ ih | taken _ _ _ ih =>
    obtain ⟨new, htrees, hlength⟩ := ih
    refine ⟨new, htrees, ?_⟩
    simp only [List.length_cons]
    omega

/-- Errors come in the order of the files that they name, one of each. -/
theorem Handled.exists_failed (h : Handled fs r paths r' errors) :
    ∃ failed : List String, failed.Sublist paths ∧ errors.map LoadError.path? = failed.map some := by
  induction h with
  | done => exact ⟨[], .slnil, rfl⟩
  | added _ _ _ ih =>
    obtain ⟨failed, hsub, herrors⟩ := ih
    exact ⟨failed, hsub.cons _, herrors⟩
  | @unloadable r r' path paths errors e hload _ ih =>
    obtain ⟨failed, hsub, herrors⟩ := ih
    refine ⟨path :: failed, hsub.cons_cons path, ?_⟩
    rw [List.map_cons, List.map_cons, herrors, Tree.path?_of_load_eq_error hload]
  | @taken r r' path paths errors t u _ _ _ ih =>
    obtain ⟨failed, hsub, herrors⟩ := ih
    refine ⟨path :: failed, hsub.cons_cons path, ?_⟩
    rw [List.map_cons, List.map_cons, herrors]
    rfl

/-- Files are read by their paths and nothing else. -/
theorem loadFiles_congr (hread : fs'.read = fs.read) (r : Registry) (paths : List String) :
    loadFiles fs' r paths = loadFiles fs r paths := by
  have hload : ∀ path, Tree.load fs' path = Tree.load fs path := by
    intro path
    rw [Tree.load, Tree.load, hread]
  induction paths generalizing r with
  | nil => rfl
  | cons path paths ih => simp only [loadFiles, loadFile, hload, ih]

/-! ## Directories -/

theorem treeFiles_perm (paths : List String) :
    (treeFiles paths).Perm (paths.filter fun p => File.extension? p == some "json") :=
  (List.mergeSort_perm ..).filter _

theorem increasing_treeFiles (h : File.Distinct paths) : File.Increasing (treeFiles paths) :=
  (File.increasing_mergeSort h).filter _

theorem treeFiles_eq_of_perm (h : File.Distinct paths) (hperm : paths'.Perm paths) :
    treeFiles paths' = treeFiles paths := by
  have h' : File.Distinct paths' := h.perm hperm.symm
  refine File.eq_of_increasing (increasing_treeFiles h') (increasing_treeFiles h) ?_
  exact (treeFiles_perm paths').trans ((hperm.filter _).trans (treeFiles_perm paths).symm)

theorem loadDir_eq {dir : String} (r : Registry) (hlist : fs.list dir = .ok paths) :
    r.loadDir fs dir = ((loadFiles fs r (treeFiles paths)).1,
      if (loadFiles fs r (treeFiles paths)).2.isEmpty then .ok ()
      else .error (.multiple (loadFiles fs r (treeFiles paths)).2)) := by
  rw [loadDir, hlist]
  dsimp only
  obtain ⟨r', errors⟩ := loadFiles fs r (treeFiles paths)
  cases errors <;> rfl

/-- The directory that lists `paths` is loaded: `files` are taken, in this order, and make `errors`. -/
structure Loaded (fs : FileSystem) (r : Registry) (paths : List String) (r' : Registry)
    (result : Except LoadError Unit) (files : List String) (errors : List LoadError) : Prop where
  /-- The files are those that hold trees, each taken once. -/
  once : files.Perm (paths.filter fun p => File.extension? p == some "json")
  increasing : File.Increasing files
  handled : Handled fs r files r' errors
  /-- The registry has new trees behind the old ones, and they and the errors make up the files. -/
  counted : ∃ new : List Tree, r'.trees = r.trees ++ new.map (fun t => (t.name, t)) ∧
    (paths.filter fun p => File.extension? p == some "json").length = new.length + errors.length
  /-- The errors name files in order. -/
  ordered : ∃ failed : List String, errors.map LoadError.path? = failed.map some ∧ File.Increasing failed
  result : result = if errors.isEmpty then .ok () else .error (.multiple errors)

theorem loaded_loadDir {dir : String} (r : Registry) (hlist : fs.list dir = .ok paths)
    (hdistinct : File.Distinct paths) :
    Loaded fs r paths (r.loadDir fs dir).1 (r.loadDir fs dir).2 (treeFiles paths)
      (loadFiles fs r (treeFiles paths)).2 := by
  have hfiles := increasing_treeFiles hdistinct
  have hhandled := handled_loadFiles fs r (treeFiles paths)
  have hperm := treeFiles_perm paths
  rw [loadDir_eq r hlist]
  refine ⟨hperm, hfiles, hhandled, ?_, ?_, rfl⟩
  · rw [← hperm.length_eq]
    exact hhandled.exists_new
  · obtain ⟨failed, hsub, herrors⟩ := hhandled.exists_failed
    exact ⟨failed, herrors, List.Pairwise.sublist hsub hfiles⟩

/-- **Loading a directory handles each file of trees once**, in the strict order of the paths: it adds
one tree or makes one error, so that new trees and errors make up the number of the files. The errors come
in that order, and there is success if there are none. The order of the listing makes no difference. -/
theorem loadDir_handles_each {dir : String} (r : Registry) (hlist : fs.list dir = .ok paths)
    (hdistinct : File.Distinct paths) :
    ∃ files errors, Loaded fs r paths (r.loadDir fs dir).1 (r.loadDir fs dir).2 files errors ∧
      ((r.loadDir fs dir).2 = .ok () ↔ errors = []) ∧
      ∀ fs' paths', fs'.read = fs.read → fs'.list dir = .ok paths' → paths'.Perm paths →
        r.loadDir fs' dir = r.loadDir fs dir := by
  have hloaded := loaded_loadDir r hlist hdistinct
  refine ⟨_, _, hloaded, ?_, fun fs' paths' hread hlist' hperm => ?_⟩
  · rw [hloaded.result]
    cases (loadFiles fs r (treeFiles paths)).2 <;> simp
  · rw [loadDir_eq r hlist', loadDir_eq r hlist, treeFiles_eq_of_perm hdistinct hperm,
      loadFiles_congr hread]

/-- At a directory with two trees of one name, listed in one order and in the other. -/
theorem loadDir_handles_each_same_name :
    let fs : FileSystem := .ofFiles [("s/b.json", some "\x7b\"__name__\":\"flags\",\"on\":\"bool\"\x7d"),
      ("s/notes.txt", none), ("s/a.json", some "\x7b\"__name__\":\"flags\"\x7d")]
    let paths := ["s/b.json", "s/notes.txt", "s/a.json"]
    let fs' : FileSystem := ⟨fs.read, fun _ => .ok paths.reverse⟩
    fs.list "s" = .ok paths ∧ File.Distinct paths ∧ empty.loadDir fs' "s" = empty.loadDir fs "s" ∧
      ∃ files errors, Loaded fs empty paths (empty.loadDir fs "s").1 (empty.loadDir fs "s").2 files errors ∧
        ((empty.loadDir fs "s").2 = .ok () ↔ errors = []) := by
  intro fs paths fs'
  have hlist : fs.list "s" = .ok paths := by rfl
  have hdistinct : File.Distinct paths := by
    unfold File.Distinct
    decide
  obtain ⟨files, errors, hloaded, hok, hperm⟩ := loadDir_handles_each empty hlist hdistinct
  exact ⟨hlist, hdistinct, hperm fs' paths.reverse rfl rfl (List.reverse_perm _), files, errors, hloaded, hok⟩

end Registry

end RecordSchema
