/-
# `create_fs`: the rootfs cache, one call at a time

`FunctionRuntimeManager::create_fs` (`function_runtime.rs`) gives every function workload a
rootfs at `/tmp/<name>/rootfs.ext4`.  When `Path::exists` finds that path it returns it as it
is; otherwise it makes the directory, lets `download_image` fetch the image into memory and
write it out, and on any error of the download removes the directory again.

The model runs the two methods in `ExceptT RuntimeError (StateM World)`: every `?` of the
source is a bind, and what a call did to the filesystem before an error stays done.  Each
external call takes its answer from an `FsEnv`, so a theorem over every `FsEnv` is a theorem
over every outcome of the transfer and of each filesystem call.

* `createFs_error` -- **an error leaves the filesystem as it was**: the directory the call made
  is removed with whatever was written into it;
* `createFs_ok` -- an `Ok(p)` names an entry that exists: the one the call found, untouched, or
  a file it made, holding exactly the body of a 200 response;
* `createFs_grows` -- no call removes or rewrites an entry that existed before it;
* `createFs_hit` -- once `p` exists, a call for the same name returns `Ok(p)` and changes
  nothing, not even the list of fetched urls, unless its own `exists` check fails; then
  `create_dir` meets the directory and the call fails, changing nothing
  (`createFs_exists_fails`).

`createFs_contract` assembles these over sequential runs.  What `exists` accepts is any entry,
a directory included (`createFs_dir_hit`).
-/
import Rik.Fs

namespace Rik.Riklet

open Rik.Fs

/-! ## 1. The world a call sees -/

/-- What one curl transfer answers to each call `download_image` makes on its handle. -/
structure Curl where
  url : Except LibError Unit
  followLocation : Except LibError Unit
  writeFunction : Except LibError Unit
  /-- `transfer.perform()`: the bytes the write callback appended to the buffer. -/
  perform : Except LibError Bytes
  responseCode : Except LibError Nat

/-- How a `write_all` ends: every byte written, or the first `n` of them and an error. -/
inductive WriteAll where
  | ok
  | fail (n : Nat) (e : IoError)

/-- What the world answers to each external call of one `create_fs`.  An injected error makes
the call fail before it changes anything. -/
structure FsEnv where
  /-- `Path::exists` meets an error (a permission, an I/O failure), which it reads as `false`. -/
  existsFails : Bool
  createDir : Option IoError
  curl : Curl
  fileCreate : Option IoError
  writeAll : WriteAll

/-- What `create_fs` changes: the filesystem, and the urls whose transfer it performed. -/
structure World where
  fs : Fs
  fetched : List String

/-- The riklet's `?`-style methods over the world. -/
abbrev FsM := ExceptT RuntimeError (StateM World)

/-! ## 2. The external calls -/

/-- A curl call's answer, its error mapped by `RuntimeError::FetchingError`. -/
def fetching {α : Type} (r : Except LibError α) : FsM α :=
  match r with
  | .ok a => pure a
  | .error e => throw (.fetchingError e)

/-- `transfer.perform()` for `url`: the transfer is made, whatever it answers. -/
def perform (c : Curl) (url : String) : FsM Bytes := fun w =>
  fetching c.perform { w with fetched := w.fetched ++ [url] }

/-- `Path::new(path).exists()`. -/
def pathExists (fails : Bool) (path : String) : FsM Bool := fun w =>
  (.ok (!fails && w.fs.exists path), w)

/-- `fs::create_dir(dir).map_err(RuntimeError::IoError)`. -/
def createDir (inj : Option IoError) (dir : String) : FsM Unit := fun w =>
  match inj, w.fs.createDir dir with
  | some e, _ => (.error (.ioError e), w)
  | none, .error e => (.error (.ioError e), w)
  | none, .ok fs => (.ok (), { w with fs })

/-- `File::create(path).map_err(RuntimeError::IoError)`: the handle is the entry opened. -/
def fileCreate (inj : Option IoError) (path : String) : FsM Path := fun w =>
  match inj, w.fs.createFile path with
  | some e, _ => (.error (.ioError e), w)
  | none, .error e => (.error (.ioError e), w)
  | none, .ok (fs, q) => (.ok q, { w with fs })

/-- `file.write_all(buf).map_err(RuntimeError::IoError)`: a failing write has written a
prefix of the buffer. -/
def writeAll (r : WriteAll) (file : Path) (buf : Bytes) : FsM Unit := fun w =>
  match r with
  | .ok => (.ok (), { w with fs := w.fs.write file buf })
  | .fail n e => (.error (.ioError e), { w with fs := w.fs.write file (buf.take n) })

/-- `fs::remove_dir_all(dir)`, assumed to succeed: the code stops the process otherwise. -/
def removeDirAll (dir : String) : FsM Unit := fun w =>
  (.ok (), { w with fs := w.fs.removeDirAll dir })

/-! ## 3. The two methods -/

/-- `format!("/tmp/{}", name)`: where `create_fs` puts a workload's rootfs. -/
def downloadDirectory (name : String) : String := "/tmp/" ++ name

/-- `format!("{}/rootfs.ext4", download_directory)`. -/
def filePath (name : String) : String := downloadDirectory name ++ "/rootfs.ext4"

/-- The first block of `download_image`: the whole transfer into `buffer`, then the status
check. -/
def transfer (c : Curl) (url : String) : FsM Bytes := do
  fetching c.url
  fetching c.followLocation
  fetching c.writeFunction
  let buffer ← perform c url
  let responseCode ← fetching c.responseCode
  if responseCode != 200 then
    throw (.error ("Response code from registry: " ++ toString responseCode))
  pure buffer

/-- `FunctionRuntimeManager::download_image`: fetch the whole body into memory, check the
status, and only then create and write the file. -/
def downloadImage (env : FsEnv) (url filePath : String) : FsM Unit := do
  let buffer ← transfer env.curl url
  let file ← fileCreate env.fileCreate filePath
  writeAll env.writeAll file buffer

/-- `FunctionRuntimeManager::create_fs`: download the rootfs image if it does not exist. -/
def createFs (env : FsEnv) (w : WorkloadDefinition) : FsM String := do
  let rootfsUrl ← match w.getRootfsUrl with
    | some url => pure url
    | none => throw (.error "Rootfs url not found")
  let downloadDirectory := downloadDirectory w.name
  let filePath := filePath w.name
  if !(← pathExists env.existsFails filePath) then
    createDir env.createDir downloadDirectory
    try downloadImage env rootfsUrl filePath
    catch e =>
      removeDirAll downloadDirectory
      throw e
  pure filePath

/-! ## 4. What one call can do -/

/-- The transfer only reads the network: the filesystem is untouched. -/
theorem transfer_fs (c : Curl) (url : String) (W : World) : (transfer c url W).2.fs = W.fs := by
  obtain ⟨cu, cf, cw, cp, cr⟩ := c
  cases cu; · rfl
  cases cf; · rfl
  cases cw; · rfl
  cases cp; · rfl
  cases cr; · rfl
  simp only [transfer, bind_run, fetching, perform, pure_run]
  split <;> rfl

/-- A transfer that succeeds hands over the body of a 200 response. -/
theorem transfer_ok {c : Curl} {url : String} {W : World} {b : Bytes}
    (h : (transfer c url W).1 = .ok b) : c.perform = .ok b ∧ c.responseCode = .ok 200 := by
  obtain ⟨cu, cf, cw, cp, cr⟩ := c
  cases cu; · cases h
  cases cf; · cases h
  cases cw; · cases h
  cases cp; · cases h
  cases cr; · cases h
  simp only [transfer, bind_run, fetching, perform, pure_run, bne_iff_ne, ne_eq] at h
  split at h
  · cases h
  · cases h
    simp_all

/-- **What `download_image` does to the filesystem**: nothing, or it created the file and wrote
bytes into it -- the whole body of a 200 response, when it succeeds. -/
theorem downloadImage_fs (env : FsEnv) (url fp : String) (W : World) :
    ((∃ e, (downloadImage env url fp W).1 = .error e) ∧ (downloadImage env url fp W).2.fs = W.fs) ∨
    ∃ fs₁ q b, W.fs.createFile fp = .ok (fs₁, q) ∧ (downloadImage env url fp W).2.fs = fs₁.write q b ∧
      ((downloadImage env url fp W).1 = .ok () →
        env.curl.perform = .ok b ∧ env.curl.responseCode = .ok 200) := by
  simp only [downloadImage, bind_run]
  cases ht : transfer env.curl url W with
  | mk r W₁ =>
  have hfs : W₁.fs = W.fs := by simpa [ht] using transfer_fs env.curl url W
  cases r with
  | error e => exact .inl ⟨⟨e, rfl⟩, hfs⟩
  | ok b =>
  have hb := transfer_ok (by rw [ht])
  simp only [fileCreate, hfs]
  cases env.fileCreate with
  | some e => exact .inl ⟨⟨_, rfl⟩, hfs⟩
  | none =>
  cases hc : W.fs.createFile fp with
  | error e => exact .inl ⟨⟨_, rfl⟩, hfs⟩
  | ok r =>
  obtain ⟨fs₁, q⟩ := r
  cases hw : env.writeAll with
  | ok => exact .inr ⟨fs₁, q, b, rfl, by simp [writeAll, hw], fun _ => hb⟩
  | fail n e => exact .inr ⟨fs₁, q, b.take n, rfl, by simp [writeAll, hw], by simp [writeAll, hw]⟩

/-- `rootfs.ext4` sits one step below the download directory, when that is a directory. -/
theorem resolve_filePath (fs : Fs) (name : String) :
    fs.resolve (filePath name) =
      (fs.resolve (downloadDirectory name)).bind fun t =>
        if fs.get t = some .dir then some ("rootfs.ext4" :: t) else none := by
  rw [filePath, show "/rootfs.ext4" = "/" ++ "rootfs.ext4" from rfl, ← String.append_assoc,
    fs.resolve_append_name _ _ (by decide) (by decide) (by simp [downloadDirectory, components_tmp])]
  simp [enter]

/-- **Everything one `create_fs` can do**: fail and leave the filesystem as it was; return the
path that `exists` found, changing nothing; or make the download directory fresh and leave in it
exactly the body of a 200 response. -/
theorem createFs_cases (env : FsEnv) (w : WorkloadDefinition) (W : World) :
    (∃ e, (createFs env w W).1 = .error e ∧ (createFs env w W).2.fs = W.fs) ∨
    (createFs env w W = (.ok (filePath w.name), W) ∧ W.fs.exists (filePath w.name) = true) ∨
    ((createFs env w W).1 = .ok (filePath w.name) ∧
      ∃ n p b, W.fs.resolve (downloadDirectory w.name) = some (n :: p) ∧ W.fs.get (n :: p) = none ∧
        env.curl.perform = .ok b ∧ env.curl.responseCode = .ok 200 ∧
        ∀ q, (createFs env w W).2.fs.get q =
          if q = "rootfs.ext4" :: n :: p then some (.file b)
          else if q = n :: p then some .dir else W.fs.get q) := by
  cases hu : w.getRootfsUrl with
  | none => exact .inl ⟨.error "Rootfs url not found", by simp [createFs, hu, bind_run], by simp [createFs, hu, bind_run]⟩
  | some url =>
  by_cases hx : (!env.existsFails && W.fs.exists (filePath w.name)) = true
  · right; left
    simp only [Bool.and_eq_true, Bool.not_eq_true'] at hx
    exact ⟨by simp [createFs, hu, bind_run, pathExists, hx], hx.2⟩
  rw [Bool.not_eq_true] at hx
  cases hcd : env.createDir with
  | some e =>
    left
    refine ⟨.ioError e, ?_, ?_⟩ <;> simp [createFs, hu, bind_run, pathExists, hx, createDir, hcd]
  | none =>
  cases hc : W.fs.createDir (downloadDirectory w.name) with
  | error e =>
    left
    refine ⟨.ioError e, ?_, ?_⟩ <;> simp [createFs, hu, bind_run, pathExists, hx, createDir, hcd, hc]
  | ok fs₁ =>
  obtain ⟨n, p, hp, hr, hn, rfl⟩ := Fs.createDir_ok hc
  have hrun : createFs env w W = match downloadImage env url (filePath w.name) ⟨W.fs.mkdir n p hp, W.fetched⟩ with
      | (.ok _, W₂) => (.ok (filePath w.name), W₂)
      | (.error e, W₂) => (.error e, ⟨W₂.fs.removeDirAll (downloadDirectory w.name), W₂.fetched⟩) := by
    simp only [createFs, hu, bind_run, pathExists, hx, pure_run, Bool.not_false, ite_true, createDir,
      hcd, hc, tryCatch_run]
    rcases downloadImage env url (filePath w.name) ⟨W.fs.mkdir n p hp, W.fetched⟩ with ⟨_ | _, W₂⟩ <;> rfl
  have hag₁ := W.fs.agreeOff_mkdir n p hp
  have hr₁ : (W.fs.mkdir n p hp).resolve (downloadDirectory w.name) = some (n :: p) :=
    Fs.walk_grows (W.fs.grows_mkdir n p hp hn) _ _ hr
  have hF₁ : (W.fs.mkdir n p hp).resolve (filePath w.name) = some ("rootfs.ext4" :: n :: p) := by
    simp [resolve_filePath, hr₁]
  have hdl := downloadImage_fs env url (filePath w.name) ⟨W.fs.mkdir n p hp, W.fetched⟩
  generalize downloadImage env url (filePath w.name) ⟨W.fs.mkdir n p hp, W.fetched⟩ = R at hrun hdl
  obtain ⟨r, W₂⟩ := R
  rcases hdl with ⟨⟨e, rfl⟩, hfs⟩ | ⟨fs₂, q, b, hcf, hfs, hok⟩
  · exact .inl ⟨e, by simp [hrun], by simpa [hrun] using Fs.removeDirAll_fresh hr hn (hfs ▸ hag₁)⟩
  obtain ⟨m, p', hp', hn', hF, rfl, rfl⟩ := Fs.createFile_ok hcf
  obtain ⟨rfl, rfl⟩ : "rootfs.ext4" = m ∧ n :: p = p' := by simpa [hF₁] using hF
  have hag : Fs.AgreeOff (n :: p) W.fs W₂.fs := hfs ▸
    (hag₁.trans (Fs.agreeOff_setFile _ _ _ _ _ _ (List.suffix_cons _ _))).trans
      (Fs.agreeOff_write _ _ (List.suffix_cons _ _))
  cases r with
  | error e => exact .inl ⟨e, by simp [hrun], by simpa [hrun] using Fs.removeDirAll_fresh hr hn hag⟩
  | ok =>
    obtain ⟨hb, hcode⟩ := hok rfl
    refine .inr (.inr ⟨by simp [hrun], n, p, b, hr, hn, hb, hcode, fun q => ?_⟩)
    simp only at hfs
    simp only [hrun, hfs]
    rw [Fs.write_get_of_file (c := []) _ (by simp)]
    by_cases hq : q = "rootfs.ext4" :: n :: p <;> simp [hq]

/-- **An error leaves the filesystem as it was.** -/
theorem createFs_error {env : FsEnv} {w : WorkloadDefinition} {W : World} {e : RuntimeError}
    (h : (createFs env w W).1 = .error e) : (createFs env w W).2.fs = W.fs := by
  rcases createFs_cases env w W with ⟨_, -, hfs⟩ | ⟨hr, -⟩ | ⟨hr, -⟩
  · exact hfs
  · simp [hr] at h
  · simp [hr] at h

/-- **No call removes or rewrites an entry that existed before it.** -/
theorem createFs_grows (env : FsEnv) (w : WorkloadDefinition) (W : World) :
    W.fs.Grows (createFs env w W).2.fs := by
  rcases createFs_cases env w W with ⟨_, -, hfs⟩ | ⟨hr, -⟩ | ⟨-, n, p, b, -, hn, -, -, hget⟩
  · exact hfs ▸ Fs.Grows.refl _
  · exact hr ▸ Fs.Grows.refl _
  · intro q e hq
    have h₁ : q ≠ "rootfs.ext4" :: n :: p := by
      rintro rfl
      simp [W.fs.get_of_absent hn (List.suffix_cons _ _)] at hq
    have h₂ : q ≠ n :: p := by
      rintro rfl
      simp [hn] at hq
    simp [hget, h₁, h₂, hq]

/-- What an `Ok(p)` promises: `p` is the rootfs path and names an entry, either the one
`exists` found, with nothing changed, or a fresh file holding the body of a 200 response. -/
def OkSpec (env : FsEnv) (w : WorkloadDefinition) (W W' : World) (p : String) : Prop :=
  p = filePath w.name ∧ ∃ t, W'.fs.resolve p = some t ∧
    ((W' = W ∧ (W.fs.get t).isSome) ∨
     (W.fs.get t = none ∧ ∃ b, env.curl.perform = .ok b ∧ env.curl.responseCode = .ok 200 ∧
       W'.fs.get t = some (.file b)))

theorem createFs_ok {env : FsEnv} {w : WorkloadDefinition} {W : World} {p : String}
    (h : (createFs env w W).1 = .ok p) : OkSpec env w W (createFs env w W).2 p := by
  rcases createFs_cases env w W with ⟨_, he, -⟩ | ⟨hr, hx⟩ | ⟨hr, n, q, b, hrd, hn, hb, hc, hget⟩
  · simp [he] at h
  · rw [hr] at h ⊢
    cases h
    obtain ⟨t, ht, hs⟩ := (W.fs.exists_iff _).mp hx
    exact ⟨rfl, t, ht, .inl ⟨rfl, hs⟩⟩
  · rw [hr] at h
    cases h
    have hdir : (createFs env w W).2.fs.get (n :: q) = some .dir := by simp [hget]
    have hres : (createFs env w W).2.fs.resolve (downloadDirectory w.name) = some (n :: q) :=
      Fs.walk_grows (createFs_grows env w W) _ _ hrd
    refine ⟨rfl, "rootfs.ext4" :: n :: q, ?_, .inr ⟨?_, b, hb, hc, by simp [hget]⟩⟩
    · rw [resolve_filePath, hres]
      simp [hdir]
    · exact W.fs.get_of_absent hn (List.suffix_cons _ _)

/-- **A cache hit**: when the rootfs path exists and the `exists` check itself does not fail,
`create_fs` returns the path and changes nothing, not even the fetched urls. -/
theorem createFs_hit {env : FsEnv} {w : WorkloadDefinition} {W : World}
    (hu : w.getRootfsUrl.isSome) (hf : env.existsFails = false)
    (hx : W.fs.exists (filePath w.name) = true) : createFs env w W = (.ok (filePath w.name), W) := by
  obtain ⟨url, hu⟩ := Option.isSome_iff_exists.mp hu
  simp [createFs, hu, bind_run, pathExists, hf, hx]

/-- **A failing `exists` check on a cached rootfs**: `create_dir` then meets the download
directory that holds the rootfs, and the call returns its error, changing nothing. -/
theorem createFs_exists_fails {env : FsEnv} {w : WorkloadDefinition} {W : World}
    (hf : env.existsFails = true) (hx : W.fs.exists (filePath w.name) = true) :
    ∃ e, createFs env w W = (.error e, W) := by
  obtain ⟨t, ht, -⟩ := (W.fs.exists_iff _).mp hx
  rw [resolve_filePath] at ht
  obtain ⟨d, hd, ht⟩ := Option.bind_eq_some.mp ht
  split_ifs at ht with hdir
  cases hu : w.getRootfsUrl with
  | none => exact ⟨.error "Rootfs url not found", by simp [createFs, hu, bind_run]⟩
  | some url =>
  cases hc : env.createDir with
  | some e => exact ⟨.ioError e, by simp [createFs, hu, bind_run, pathExists, hf, createDir, hc]⟩
  | none =>
  cases hcd : W.fs.createDir (downloadDirectory w.name) with
  | error e => exact ⟨.ioError e, by simp [createFs, hu, bind_run, pathExists, hf, createDir, hc, hcd]⟩
  | ok fs' =>
    obtain ⟨n, p, -, hr, hn, -⟩ := Fs.createDir_ok hcd
    rw [hd, Option.some_inj] at hr
    simp [hr, hn] at hdir

/-! ## 5. Sequential runs -/

/-- The world after a sequence of `create_fs` calls, one after another. -/
def runCreateFs : List (FsEnv × WorkloadDefinition) → World → World
  | [], W => W
  | (env, w) :: calls, W => runCreateFs calls (createFs env w W).2

theorem runCreateFs_grows : ∀ (calls : List (FsEnv × WorkloadDefinition)) (W : World),
    W.fs.Grows (runCreateFs calls W).fs
  | [], _ => Fs.Grows.refl _
  | (env, w) :: calls, W => Fs.Grows.trans (createFs_grows env w W) (runCreateFs_grows calls _)

/-- **The rootfs cache contract.**  One call either fails and leaves the filesystem as it was,
or returns the rootfs path as `OkSpec` says.  Once a call returned `Ok(p)`, the entry at `p`
stays as it was through any later sequence of calls, and a later call for the same name (with
a rootfs url) changes nothing: it returns `Ok(p)` when its `exists` check does not fail, and an
error when it does. -/
theorem createFs_contract :
    (∀ env w W, (∃ e, (createFs env w W).1 = .error e ∧ (createFs env w W).2.fs = W.fs) ∨
      ∃ p, (createFs env w W).1 = .ok p ∧ OkSpec env w W (createFs env w W).2 p) ∧
    (∀ env w W p calls, (createFs env w W).1 = .ok p →
      (∃ t, (runCreateFs calls (createFs env w W).2).fs.resolve p = some t ∧
        (runCreateFs calls (createFs env w W).2).fs.get t = (createFs env w W).2.fs.get t ∧
        ((createFs env w W).2.fs.get t).isSome) ∧
      ∀ (env' : FsEnv) (w' : WorkloadDefinition), w'.name = w.name → w'.getRootfsUrl.isSome →
        (env'.existsFails = false →
          createFs env' w' (runCreateFs calls (createFs env w W).2) =
            (.ok p, runCreateFs calls (createFs env w W).2)) ∧
        (env'.existsFails = true → ∃ e,
          createFs env' w' (runCreateFs calls (createFs env w W).2) =
            (.error e, runCreateFs calls (createFs env w W).2))) := by
  refine ⟨fun env w W => ?_, fun env w W p calls h => ?_⟩
  · cases hr : (createFs env w W).1 with
    | error e => exact .inl ⟨e, rfl, createFs_error hr⟩
    | ok p => exact .inr ⟨p, rfl, createFs_ok hr⟩
  · obtain ⟨rfl, t, ht, hspec⟩ := createFs_ok h
    have hsome : ((createFs env w W).2.fs.get t).isSome := by
      rcases hspec with ⟨hW, hs⟩ | ⟨-, b, -, -, hb⟩
      · rwa [hW]
      · simp [hb]
    obtain ⟨e, he⟩ := Option.isSome_iff_exists.mp hsome
    have hg := runCreateFs_grows calls (createFs env w W).2
    have ht' := Fs.walk_grows hg _ _ ht
    refine ⟨⟨t, ht', by rw [he, hg _ _ he], hsome⟩, fun env' w' hname hu => ?_⟩
    have hx : (runCreateFs calls (createFs env w W).2).fs.exists (filePath w'.name) = true :=
      (Fs.exists_iff _ _).mpr ⟨t, hname ▸ ht', by simp [hg _ _ he]⟩
    rw [← hname]
    exact ⟨fun hf => createFs_hit hu hf hx, fun hf => createFs_exists_fails hf hx⟩

/-! ## 6. What `exists` accepts -/

/-- `/tmp/hello/rootfs.ext4` already there as a directory, under `/tmp/hello`. -/
def dirAtRootfs : Fs :=
  ((Fs.root.mkdir "tmp" [] rfl).mkdir "hello" ["tmp"] (by decide)).mkdir "rootfs.ext4"
    ["hello", "tmp"] (by decide)

/-- Every external call of `create_fs` succeeds, and the registry answers 200 with `body`. -/
def FsEnv.allOk (body : Bytes) : FsEnv :=
  ⟨false, none, ⟨.ok (), .ok (), .ok (), .ok body, .ok 200⟩, none, .ok⟩

/-- **`exists` accepts a directory**: `create_fs` returns `Ok` for a rootfs path that is a
directory, and leaves it one. -/
theorem createFs_dir_hit :
    (createFs (.allOk [1]) ⟨"function", "hello", some ⟨"http://registry/rootfs.ext4"⟩⟩
        ⟨dirAtRootfs, []⟩).1 = .ok "/tmp/hello/rootfs.ext4" ∧
      (createFs (.allOk [1]) ⟨"function", "hello", some ⟨"http://registry/rootfs.ext4"⟩⟩
        ⟨dirAtRootfs, []⟩).2.fs.get ["rootfs.ext4", "hello", "tmp"] = some .dir :=
  ⟨rfl, by decide⟩

end Rik.Riklet
