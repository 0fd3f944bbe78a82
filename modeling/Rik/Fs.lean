/-
# The filesystem the riklet caches rootfs images in

`create_fs` names what it touches by formatting the workload's name into path strings,
`/tmp/<name>` and `/tmp/<name>/rootfs.ext4`.  A name may hold `/`, `.` or `..`, so which entry a
call reaches is decided by how the kernel walks the string, and this module models the walk.

* A path string is cut at `/` and its empty pieces skipped (`components`).  Every piece but the
  last must lead to an existing directory, `.` stays and `..` goes up; the last piece names the
  target without being looked up (`Fs.walk`).  So the target is a LEXICAL function of the string
  (`walk_target`), and only the existence checks read the filesystem.
* `Fs` carries its own well-formedness: `/` is a directory and so is every entry's parent.  An
  entry's ancestors therefore exist (`get_suffix`), and a path that does not exist has nothing
  below it: every frame argument of the riklet modules rests on that.
* The calls `create_fs` makes: `Path::exists`, `fs::create_dir`, `File::create` (which
  truncates), a write through the open handle, and `fs::remove_dir_all`.

Symbolic links are not modelled.  Permissions and name-length limits only make calls fail,
and the callers' models let every call fail anyway.
-/
import Rik.Basic

namespace Rik

/-- A resolved path, stored leaf first: `["rootfs.ext4", "hello", "tmp"]` is
`/tmp/hello/rootfs.ext4` and `[]` is `/`.  The ancestors of a path are its suffixes. -/
abbrev Path := List String

/-! ## 1. Path strings -/

/-- The pieces of a path string the kernel walks: the text between slashes, without the empty
pieces a leading, doubled or trailing `/` leaves. -/
def components (s : String) : List String :=
  ((s.toList.splitOn '/').map String.mk).filter (· ≠ "")

/-- One step of a walk from the directory `cur`. -/
def enter (cur : Path) (c : String) : Path :=
  if c = "." then cur else if c = ".." then cur.tail else c :: cur

/-- Where a walk from `cur` along `cs` ends, whatever exists on the way. -/
def target (cur : Path) (cs : List String) : Path := cs.foldl enter cur

theorem splitOnP_append_sep {α : Type} (p : α → Bool) {sep : α} (hsep : p sep = true) :
    ∀ xs ys : List α, (xs ++ sep :: ys).splitOnP p = xs.splitOnP p ++ ys.splitOnP p
  | [], ys => by simp [hsep]
  | x :: xs, ys => by
    rw [List.cons_append, List.splitOnP_cons, List.splitOnP_cons,
      splitOnP_append_sep p hsep xs ys]
    split
    · rfl
    · obtain ⟨a, as, h⟩ := List.exists_cons_of_ne_nil (List.splitOnP_ne_nil p xs)
      rw [h]
      rfl

/-- Appending `/n` to a path string appends one piece, when `n` is a plain name. -/
theorem components_append_name (s n : String) (hn : '/' ∉ n.toList) (hne : n ≠ "") :
    components (s ++ "/" ++ n) = components s ++ [n] := by
  have hsplit : (n.toList.splitOn '/') = [n.toList] :=
    List.splitOnP_eq_single _ _ (fun c hc => by simpa using ne_of_mem_of_not_mem hc hn)
  have hlist : (s ++ "/" ++ n).toList = s.toList ++ '/' :: n.toList := by
    simp [String.toList]
  simp only [components, hlist, List.splitOn]
  rw [splitOnP_append_sep _ (by simp)]
  simp only [List.splitOn, String.toList] at hsplit
  simp [hsplit, List.filter_append, hne]

/-- The riklet's cache root: `/tmp/<name>` walks through `tmp` first. -/
theorem components_tmp (name : String) :
    components ("/tmp/" ++ name) = "tmp" :: components name := by
  have hlist : ("/tmp/" ++ name).toList = [] ++ '/' :: (['t', 'm', 'p'] ++ '/' :: name.toList) := by
    simp [String.toList]
  simp only [components, hlist, List.splitOn]
  rw [splitOnP_append_sep _ (by simp), splitOnP_append_sep _ (by simp)]
  simp [List.filter_append]

/-! ## 2. The filesystem -/

/-- A directory entry. -/
inductive Entry where
  | dir
  | file (bytes : Bytes)
  deriving DecidableEq, Repr

/-- A filesystem: what each path holds.  `/` is a directory, and so is the parent of every
entry. -/
@[ext] structure Fs where
  get : Path → Option Entry
  get_root : get [] = some .dir
  get_parent : ∀ {n : String} {p : Path} {e : Entry}, get (n :: p) = some e → get p = some .dir

namespace Fs

/-- **Every ancestor of an entry exists**, as a directory. -/
theorem get_suffix (fs : Fs) {t : Path} :
    ∀ (xs : List String) {e : Entry}, xs ≠ [] → fs.get (xs ++ t) = some e → fs.get t = some .dir
  | [], _, h, _ => absurd rfl h
  | [_], _, _, h => fs.get_parent h
  | _ :: y :: xs, _, _, h => get_suffix fs (y :: xs) (List.cons_ne_nil _ _) (fs.get_parent h)

/-- A path that does not exist has nothing below it. -/
theorem get_of_absent (fs : Fs) {t q : Path} (ht : fs.get t = none) (hq : t <:+ q) :
    fs.get q = none := by
  obtain ⟨xs, rfl⟩ := hq
  cases xs with
  | nil => exact ht
  | cons x xs =>
    cases h : fs.get ((x :: xs) ++ t) with
    | none => rfl
    | some e => simp [fs.get_suffix (x :: xs) (List.cons_ne_nil _ _) h] at ht

/-- `fs'` keeps every entry of `fs`. -/
def Grows (fs fs' : Fs) : Prop := ∀ q e, fs.get q = some e → fs'.get q = some e

theorem Grows.refl (fs : Fs) : fs.Grows fs := fun _ _ => id

theorem Grows.trans {fs₁ fs₂ fs₃ : Fs} (h₁ : fs₁.Grows fs₂) (h₂ : fs₂.Grows fs₃) :
    fs₁.Grows fs₃ := fun q e h => h₂ q e (h₁ q e h)

/-- `fs'` holds what `fs` holds everywhere outside the subtree at `t`. -/
def AgreeOff (t : Path) (fs fs' : Fs) : Prop := ∀ q, ¬ t <:+ q → fs'.get q = fs.get q

theorem AgreeOff.refl (t : Path) (fs : Fs) : AgreeOff t fs fs := fun _ _ => rfl

theorem AgreeOff.symm {t : Path} {fs fs' : Fs} (h : AgreeOff t fs fs') : AgreeOff t fs' fs :=
  fun q hq => (h q hq).symm

theorem AgreeOff.trans {t : Path} {fs₁ fs₂ fs₃ : Fs} (h₁ : AgreeOff t fs₁ fs₂)
    (h₂ : AgreeOff t fs₂ fs₃) : AgreeOff t fs₁ fs₃ := fun q hq => (h₂ q hq).trans (h₁ q hq)

/-! ## 3. The walk -/

/-- The kernel's walk along `cs` from the directory `cur`: every piece but the last must lead to
an existing directory; the last names the target. -/
def walk (fs : Fs) : Path → List String → Option Path
  | cur, [] => some cur
  | cur, [c] => some (enter cur c)
  | cur, c :: d :: cs =>
    if fs.get (enter cur c) = some .dir then fs.walk (enter cur c) (d :: cs) else none

/-- The entry an absolute path string names, when the walk to it succeeds. -/
def resolve (fs : Fs) (s : String) : Option Path := fs.walk [] (components s)

/-- **The target is lexical**: a walk that succeeds ends where the pieces say. -/
theorem walk_target (fs : Fs) :
    ∀ (cur : Path) (cs : List String) {t : Path}, fs.walk cur cs = some t → t = target cur cs
  | _, [], _, h => by simpa [walk, target] using h.symm
  | _, [_], _, h => by simpa [walk, target] using h.symm
  | cur, c :: d :: cs, _, h => by
    simp only [walk] at h
    split at h
    · exact walk_target fs (enter cur c) (d :: cs) h
    · cases h

/-- One more piece after a nonempty walk: the old target must be a directory. -/
theorem walk_append (fs : Fs) (n : String) :
    ∀ (cur : Path) (cs : List String), cs ≠ [] →
      fs.walk cur (cs ++ [n]) =
        (fs.walk cur cs).bind fun t => if fs.get t = some .dir then some (enter t n) else none
  | _, [], h => absurd rfl h
  | cur, [c], _ => by simp [walk]
  | cur, c :: d :: cs, _ => by
    simp only [List.cons_append, walk]
    split
    · exact walk_append fs n _ (d :: cs) (List.cons_ne_nil _ _)
    · rfl

/-- A walk only needs directories, so a filesystem that keeps them walks the same way. -/
theorem walk_grows {fs fs' : Fs} (hg : fs.Grows fs') :
    ∀ (cur : Path) (cs : List String) {t : Path}, fs.walk cur cs = some t → fs'.walk cur cs = some t
  | _, [], _, h => h
  | _, [_], _, h => h
  | cur, c :: d :: cs, _, h => by
    simp only [walk] at h ⊢
    split at h
    · rw [if_pos (hg _ _ ‹_›)]
      exact walk_grows hg _ _ h
    · cases h

/-- **A walk to a missing target reads nothing below it**: another filesystem that agrees
outside the target's subtree walks the same way. -/
theorem walk_agreeOff {fs fs' : Fs} {t : Path} (ht : fs.get t = none) (hag : AgreeOff t fs fs') :
    ∀ (cur : Path) (cs : List String), fs.walk cur cs = some t → fs'.walk cur cs = some t
  | _, [], h => h
  | _, [_], h => h
  | cur, c :: d :: cs, h => by
    simp only [walk] at h ⊢
    split at h
    · rename_i hdir
      have hout : ¬ t <:+ enter cur c := fun hs => by simp [fs.get_of_absent ht hs] at hdir
      rw [hag _ hout, if_pos hdir]
      exact walk_agreeOff ht hag _ _ h
    · cases h

/-! ## 4. Updates -/

/-- The filesystem holding `/` alone. -/
def root : Fs where
  get q := if q = [] then some .dir else none
  get_root := rfl
  get_parent h := by simp at h

/-- `fs` with a directory `n` made in the directory `p`. -/
def mkdir (fs : Fs) (n : String) (p : Path) (hp : fs.get p = some .dir) : Fs where
  get q := if q = n :: p then some .dir else fs.get q
  get_root := by simp [fs.get_root]
  get_parent {n' p' e} h := by
    have hne : p ≠ n :: p := fun h => by simpa using congrArg List.length h
    dsimp only at h ⊢
    split_ifs at h with hq
    · obtain ⟨-, rfl⟩ := List.cons.inj hq
      simp [hne, hp]
    · have := fs.get_parent h
      split_ifs <;> simp_all

/-- `fs` with `n` in the directory `p` holding the bytes `b`; `n` is not a directory. -/
def setFile (fs : Fs) (n : String) (p : Path) (b : Bytes) (hp : fs.get p = some .dir)
    (hn : fs.get (n :: p) ≠ some .dir) : Fs where
  get q := if q = n :: p then some (.file b) else fs.get q
  get_root := by simp [fs.get_root]
  get_parent {n' p' e} h := by
    have hne : p ≠ n :: p := fun h => by simpa using congrArg List.length h
    dsimp only at h ⊢
    split_ifs at h with hq
    · obtain ⟨-, rfl⟩ := List.cons.inj hq
      simp [hne, hp]
    · have := fs.get_parent h
      split_ifs with hp'
      · subst hp'
        exact absurd this hn
      · exact this

/-- `fs` without `t` and everything below it; `/` itself stays. -/
def removeAll (fs : Fs) (t : Path) : Fs where
  get q := if t <:+ q ∧ q ≠ [] then none else fs.get q
  get_root := by simp [fs.get_root]
  get_parent {n p e} h := by
    dsimp only at h ⊢
    split_ifs at h with hq
    have hp : ¬ t <:+ p := fun hs => hq ⟨hs.trans (List.suffix_cons n p), List.cons_ne_nil _ _⟩
    simp [hp, fs.get_parent h]

@[simp] theorem mkdir_get (fs : Fs) (n p hp q) :
    (fs.mkdir n p hp).get q = if q = n :: p then some .dir else fs.get q := rfl

@[simp] theorem setFile_get (fs : Fs) (n p b hp hn q) :
    (fs.setFile n p b hp hn).get q = if q = n :: p then some (.file b) else fs.get q := rfl

@[simp] theorem removeAll_get (fs : Fs) (t q) :
    (fs.removeAll t).get q = if t <:+ q ∧ q ≠ [] then none else fs.get q := rfl

theorem agreeOff_mkdir (fs : Fs) (n : String) (p : Path) (hp) :
    AgreeOff (n :: p) fs (fs.mkdir n p hp) := by
  intro q hq
  simp only [mkdir_get, ite_eq_right_iff]
  rintro rfl
  exact absurd (List.suffix_refl _) hq

theorem agreeOff_setFile (fs : Fs) {t : Path} (n : String) (p : Path) (b : Bytes) (hp hn)
    (ht : t <:+ n :: p) : AgreeOff t fs (fs.setFile n p b hp hn) := by
  intro q hq
  simp only [setFile_get, ite_eq_right_iff]
  rintro rfl
  exact absurd ht hq

theorem grows_mkdir (fs : Fs) (n : String) (p : Path) (hp) (hn : fs.get (n :: p) = none) :
    fs.Grows (fs.mkdir n p hp) := fun q _ h => by
  simp only [mkdir_get]
  rw [if_neg (by rintro rfl; simp [hn] at h)]
  exact h

/-- **Removing a subtree that did not exist undoes everything done inside it.** -/
theorem removeAll_of_agreeOff {fs fs' : Fs} {t : Path} (ht : fs.get t = none)
    (hag : AgreeOff t fs fs') : fs'.removeAll t = fs := by
  ext1
  funext q
  simp only [removeAll_get]
  split_ifs with hq
  · exact (fs.get_of_absent ht hq.1).symm
  · refine hag q fun hs => hq ⟨hs, ?_⟩
    rintro rfl
    simp [List.suffix_nil.mp hs, fs.get_root] at ht

/-! ## 5. The calls `create_fs` makes -/

/-- `Path::exists`: the string resolves to an entry.  A walk that fails answers `false`, as
`exists` does for every error. -/
def «exists» (fs : Fs) (s : String) : Bool :=
  match fs.resolve s with
  | some t => (fs.get t).isSome
  | none => false

theorem exists_iff (fs : Fs) (s : String) :
    fs.exists s = true ↔ ∃ t, fs.resolve s = some t ∧ (fs.get t).isSome := by
  unfold «exists»
  split <;> simp_all

/-- `fs::create_dir`: a new directory at the target, whose parent must be one. -/
def createDir (fs : Fs) (s : String) : Except IoError Fs :=
  match fs.resolve s with
  | none => .error .notFound
  | some [] => .error .alreadyExists
  | some (n :: p) =>
    if fs.get (n :: p) ≠ none then .error .alreadyExists
    else if hp : fs.get p = some .dir then .ok (fs.mkdir n p hp)
    else .error .notFound

/-- `File::create`: the target becomes an empty file (created, or truncated); the handle is the
path it was opened at. -/
def createFile (fs : Fs) (s : String) : Except IoError (Fs × Path) :=
  match fs.resolve s with
  | none => .error .notFound
  | some [] => .error .isADirectory
  | some (n :: p) =>
    if hn : fs.get (n :: p) = some .dir then .error .isADirectory
    else if hp : fs.get p = some .dir then .ok (fs.setFile n p [] hp hn, n :: p)
    else .error .notFound

/-- A write of `b` through the handle opened at `q`: the bytes land at the end of the file.
When the file is no longer there the bytes reach no entry. -/
def write (fs : Fs) (q : Path) (b : Bytes) : Fs :=
  match q with
  | [] => fs
  | n :: p =>
    match h : fs.get (n :: p) with
    | some (.file c) => fs.setFile n p (c ++ b) (fs.get_parent h) (by simp [h])
    | _ => fs

/-- `fs::remove_dir_all`: the target and everything below it.  Its failure is not modelled:
the code stops the process on it (`expect`). -/
def removeDirAll (fs : Fs) (s : String) : Fs :=
  match fs.resolve s with
  | some t => fs.removeAll t
  | none => fs

/-! ## 6. What each call can do -/

theorem createDir_ok {fs fs' : Fs} {s : String} (h : fs.createDir s = .ok fs') :
    ∃ n p hp, fs.resolve s = some (n :: p) ∧ fs.get (n :: p) = none ∧ fs' = fs.mkdir n p hp := by
  unfold createDir at h
  split at h
  · cases h
  · cases h
  · rename_i n p hr
    split_ifs at h with h1 h2
    cases h
    exact ⟨n, p, h2, hr, by simpa using h1, rfl⟩

theorem createFile_ok {fs fs' : Fs} {s : String} {q : Path} (h : fs.createFile s = .ok (fs', q)) :
    ∃ n p hp hn, fs.resolve s = some (n :: p) ∧ q = n :: p ∧ fs' = fs.setFile n p [] hp hn := by
  unfold createFile at h
  split at h
  · cases h
  · cases h
  · rename_i n p hr
    split_ifs at h with h1 h2
    cases h
    exact ⟨n, p, h2, h1, hr, rfl, rfl⟩

/-- A write changes nothing outside the file it goes to. -/
theorem agreeOff_write (fs : Fs) {t q : Path} (b : Bytes) (ht : t <:+ q) :
    AgreeOff t fs (fs.write q b) := by
  unfold write
  split
  · exact fun _ _ => rfl
  · split
    · exact agreeOff_setFile _ _ _ _ _ _ ht
    · exact fun _ _ => rfl

theorem write_get_of_file (fs : Fs) {q : Path} {c : Bytes} (hq : fs.get q = some (.file c))
    (b : Bytes) (q' : Path) : (fs.write q b).get q' = if q' = q then some (.file (c ++ b)) else fs.get q' := by
  unfold write
  split
  · simp [fs.get_root] at hq
  · split
    · rename_i h
      simp only [setFile_get]
      simp_all
    · simp_all

/-- **Removing a directory that was fresh undoes everything done inside it.** -/
theorem removeDirAll_fresh {fs fs' : Fs} {s : String} {t : Path} (hr : fs.resolve s = some t)
    (ht : fs.get t = none) (hag : AgreeOff t fs fs') : fs'.removeDirAll s = fs := by
  unfold removeDirAll
  rw [show fs'.resolve s = some t from fs.walk_agreeOff ht hag _ _ hr]
  exact removeAll_of_agreeOff ht hag

/-- The string `s/n`, for a plain name `n`, resolves one step below `s`. -/
theorem resolve_append_name (fs : Fs) (s n : String) (hn : '/' ∉ n.toList) (hne : n ≠ "")
    (hs : components s ≠ []) :
    fs.resolve (s ++ "/" ++ n) =
      (fs.resolve s).bind fun t => if fs.get t = some .dir then some (enter t n) else none := by
  simp only [resolve, components_append_name s n hn hne]
  exact fs.walk_append n [] _ hs

end Fs

end Rik
