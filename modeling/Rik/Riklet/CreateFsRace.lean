/-
# `create_fs` calls that overlap

Nothing in the riklet serialises `create_fs`: two schedulings of workloads with one name can run
its filesystem steps in any interleaving.  Here a call is a small program over the shared world,
one atomic step per external call of `createFs` (`Call.step`), and a `Race` is a fixed set of
calls with a schedule choosing, at each step, which of them moves.  Each step runs the very
primitive `createFs` runs, so a call left alone computes what `createFs` computes
(`Call.finish_eq`).

The download directory is a lock that nobody takes on purpose.  `create_dir` fails when the
directory exists, so at most one call at a time HOLDS it, from its `create_dir` to its
`remove_dir_all` or for good once it wrote the file (`RaceInv.unique`), and only the holder
changes the filesystem (`step_fs_of_not_holds`), only below the directory (`RaceInv.agree`).
`createFs_race_writer` states both, and the writer's guarantee that follows: a call that wrote
the rootfs itself returned `Ok(p)` with `p` holding exactly its 200 body, in that state and in
every later one.

A call that returns `Ok(p)` because `exists` found `p` gets no such guarantee.  `File::create`
makes the file visible before `write_all` fills it, so such a call can return while `p` is
empty, and the writer's cleanup can remove `p` afterwards (`createFs_race_early_hit`).

Overlap is the whole of the trouble.  On a schedule that starts a call only while no other is
under way, **the calls are sequential in the order they started**
(`run_oneCallAtATime_eq_runCreateFs`): each returns what `createFs` returns on the world the
calls before it leave, and the world is the one `runCreateFs` leaves, so the cache contract of
`Rik.Riklet.CreateFs` holds of them.
-/
import Rik.Riklet.CreateFs
import Mathlib.Data.Fin.VecNotation
import Mathlib.Data.List.Nodup

namespace Rik.Riklet

open Rik.Fs

/-! ## 1. One call, step by step -/

/-- Where one `create_fs` call stands: before the external call it makes next. -/
inductive Pc where
  | start
  /-- `exists` said no; `create_dir` next. -/
  | checked (url : String)
  /-- The call made the download directory; the transfer next. -/
  | dirMade (url : String)
  /-- A 200 body is in memory; `File::create` next. -/
  | fetched (buffer : Bytes)
  /-- `write_all` of the buffer through the handle opened at `file` next. -/
  | opened (buffer : Bytes) (file : Path)
  /-- The download failed with `e`; `remove_dir_all` next. -/
  | cleanup (e : RuntimeError)
  /-- Returned `Err(e)`. -/
  | failed (e : RuntimeError)
  /-- Returned `Ok(file_path)` because `exists` found it. -/
  | found
  /-- Returned `Ok(file_path)` after writing the file itself. -/
  | wrote
  deriving DecidableEq, Repr

/-- The call holds the download directory: it made it and has not removed it. -/
def Pc.holds : Pc → Bool
  | .dirMade _ | .fetched _ | .opened _ _ | .cleanup _ | .wrote => true
  | .start | .checked _ | .failed _ | .found => false

/-- One call of `create_fs`, with the answers its external calls get. -/
structure Call where
  env : FsEnv
  w : WorkloadDefinition
  pc : Pc

/-- The call's next external call, run on the shared world: the same primitive `createFs` runs
at that point, and the program counter after it. -/
def Call.step (c : Call) (W : World) : Pc × World :=
  match c.pc with
  | .start =>
    match c.w.getRootfsUrl with
    | none => (.failed (.error "Rootfs url not found"), W)
    | some url =>
      match pathExists c.env.existsFails (filePath c.w.name) W with
      | (.ok true, W') => (.found, W')
      | (_, W') => (.checked url, W')
  | .checked url =>
    match createDir c.env.createDir (downloadDirectory c.w.name) W with
    | (.ok (), W') => (.dirMade url, W')
    | (.error e, W') => (.failed e, W')
  | .dirMade url =>
    match transfer c.env.curl url W with
    | (.ok buffer, W') => (.fetched buffer, W')
    | (.error e, W') => (.cleanup e, W')
  | .fetched buffer =>
    match fileCreate c.env.fileCreate (filePath c.w.name) W with
    | (.ok file, W') => (.opened buffer file, W')
    | (.error e, W') => (.cleanup e, W')
  | .opened buffer file =>
    match writeAll c.env.writeAll file buffer W with
    | (.ok (), W') => (.wrote, W')
    | (.error e, W') => (.cleanup e, W')
  | .cleanup e => (.failed e, (removeDirAll (downloadDirectory c.w.name) W).2)
  | .failed e => (.failed e, W)
  | .found => (.found, W)
  | .wrote => (.wrote, W)

/-- `fuel` steps of one call with nobody else moving. -/
def Call.finish : Nat → Call → World → Call × World
  | 0, c, W => (c, W)
  | k + 1, c, W => Call.finish k { c with pc := (c.step W).1 } (c.step W).2

/-- What a finished call returned. -/
def Pc.result (name : String) : Pc → Option (Except RuntimeError String)
  | .failed e => some (.error e)
  | .found | .wrote => some (.ok (filePath name))
  | _ => none

/-- **A call left alone is `createFs`**: six steps finish it, with `createFs`'s result and
world. -/
theorem Call.finish_eq (env : FsEnv) (w : WorkloadDefinition) (W : World) :
    (Call.finish 6 ⟨env, w, .start⟩ W).1.pc.result w.name = some (createFs env w W).1 ∧
      (Call.finish 6 ⟨env, w, .start⟩ W).2 = (createFs env w W).2 := by
  -- Each external call fails, and both sides stop there, or passes its answer on.
  rcases hu : w.getRootfsUrl with _ | url
  · simp [Call.finish, Call.step, hu, createFs, bind_run, Pc.result]
  by_cases hb : (!env.existsFails && W.fs.exists (filePath w.name)) = true
  · simp [Call.finish, Call.step, hu, createFs, bind_run, pathExists, hb, Pc.result]
  rw [Bool.not_eq_true] at hb
  rcases hd : createDir env.createDir (downloadDirectory w.name) W with ⟨_ | _, W₁⟩; swap
  rcases ht : transfer env.curl url W₁ with ⟨_ | buf, W₂⟩; swap
  rcases hc : fileCreate env.fileCreate (filePath w.name) W₂ with ⟨_ | q, W₃⟩; swap
  rcases hw : writeAll env.writeAll q buf W₃ with ⟨_ | _, W₄⟩
  all_goals simp [*, Call.finish, Call.step, createFs, bind_run, pathExists, Pc.result,
    downloadImage, tryCatch_run, map_run, removeDirAll]

/-! ## 2. What one step can do -/

section Steps

variable {c : Call} {W : World}

theorem step_start (h : c.pc = .start) : (c.step W).2 = W ∧ (c.step W).1.holds = false := by
  simp only [Call.step, h]
  split
  · exact ⟨rfl, rfl⟩
  · simp only [pathExists]
    split <;> simp_all [Pc.holds]

theorem step_checked {url : String} (h : c.pc = .checked url) :
    ((c.step W).2.fs = W.fs ∧ (c.step W).1.holds = false) ∨
    ((c.step W).1 = .dirMade url ∧ ∃ n p hp, W.fs.resolve (downloadDirectory c.w.name) = some (n :: p) ∧
      W.fs.get (n :: p) = none ∧ (c.step W).2.fs = W.fs.mkdir n p hp) := by
  simp only [Call.step, h, createDir]
  cases c.env.createDir with
  | some e => exact .inl ⟨rfl, rfl⟩
  | none =>
    cases hd : W.fs.createDir (downloadDirectory c.w.name) with
    | error e => exact .inl ⟨rfl, rfl⟩
    | ok fs =>
      obtain ⟨n, p, hp, hr, hn, rfl⟩ := Fs.createDir_ok hd
      exact .inr ⟨rfl, n, p, hp, hr, hn, rfl⟩

theorem step_dirMade {url : String} (h : c.pc = .dirMade url) :
    (c.step W).2.fs = W.fs ∧ ((∃ e, (c.step W).1 = .cleanup e) ∨
      ∃ b, (c.step W).1 = .fetched b ∧ c.env.curl.perform = .ok b ∧
        c.env.curl.responseCode = .ok 200) := by
  have hfs := transfer_fs c.env.curl url W
  simp only [Call.step, h]
  rcases ht : transfer c.env.curl url W with ⟨_ | b, W'⟩
  · rw [ht] at hfs
    exact ⟨hfs, .inl ⟨_, rfl⟩⟩
  · rw [ht] at hfs
    exact ⟨hfs, .inr ⟨b, rfl, transfer_ok (by rw [ht])⟩⟩

theorem step_fetched {b : Bytes} (h : c.pc = .fetched b) :
    ((c.step W).2.fs = W.fs ∧ ∃ e, (c.step W).1 = .cleanup e) ∨
    ∃ fs₁ q, W.fs.createFile (filePath c.w.name) = .ok (fs₁, q) ∧ (c.step W).2.fs = fs₁ ∧
      (c.step W).1 = .opened b q := by
  simp only [Call.step, h, fileCreate]
  cases c.env.fileCreate with
  | some e => exact .inl ⟨rfl, _, rfl⟩
  | none =>
    cases hc : W.fs.createFile (filePath c.w.name) with
    | error e => exact .inl ⟨rfl, _, rfl⟩
    | ok r => exact .inr ⟨r.1, r.2, rfl, rfl, rfl⟩

theorem step_opened {b : Bytes} {q : Path} (h : c.pc = .opened b q) :
    ((c.step W).2.fs = W.fs.write q b ∧ (c.step W).1 = .wrote) ∨
    ∃ k e, (c.step W).2.fs = W.fs.write q (b.take k) ∧ (c.step W).1 = .cleanup e := by
  simp only [Call.step, h, writeAll]
  cases c.env.writeAll with
  | ok => exact .inl ⟨rfl, rfl⟩
  | fail k e => exact .inr ⟨k, _, rfl, rfl⟩

theorem step_cleanup {e : RuntimeError} (h : c.pc = .cleanup e) :
    (c.step W).2.fs = W.fs.removeDirAll (downloadDirectory c.w.name) ∧ (c.step W).1 = .failed e := by
  simp [Call.step, h, removeDirAll]

theorem step_done (h : c.pc.result c.w.name ≠ none) : c.step W = (c.pc, W) := by
  cases hp : c.pc <;> simp_all [Pc.result, Call.step]

/-- **Only a holder writes**: a step of a call that neither held the download directory nor
takes it leaves the filesystem as it was. -/
theorem step_fs_of_not_holds (h : c.pc.holds = false) (h' : (c.step W).1.holds = false) :
    (c.step W).2.fs = W.fs := by
  cases hpc : c.pc <;> simp only [hpc, Pc.holds, Bool.true_eq_false] at h
  case start => rw [(step_start hpc).1]
  case checked url =>
    rcases step_checked (W := W) hpc with ⟨hfs, -⟩ | ⟨hd, -⟩
    · exact hfs
    · simp [hd, Pc.holds] at h'
  all_goals rw [step_done (by simp [hpc, Pc.result])]

end Steps

/-! ## 3. Calls in flight together -/

/-- `n` calls of `create_fs` in flight over one shared world. -/
structure Race (n : Nat) where
  world : World
  calls : Fin n → Call

/-- Call `i` makes its next external call. -/
def Race.step {n : Nat} (s : Race n) (i : Fin n) : Race n :=
  ⟨((s.calls i).step s.world).2,
    Function.update s.calls i { s.calls i with pc := ((s.calls i).step s.world).1 }⟩

/-- The state after the calls moved in the order `sched` gives. -/
def Race.run {n : Nat} (s : Race n) (sched : List (Fin n)) : Race n := sched.foldl Race.step s

/-- Where every call for `name` makes its download directory: the lexical target of the path. -/
def dirTarget (name : String) : Path := target [] (components (downloadDirectory name))

/-- What a holder's program counter tells about the filesystem: a buffered body is a 200
response's, an opened file is the empty `rootfs.ext4`, a written one holds the body. -/
def Pc.Sound (env : FsEnv) (t : Path) (fs : Fs) : Pc → Prop
  | .fetched b => env.curl.perform = .ok b ∧ env.curl.responseCode = .ok 200
  | .opened b q => (env.curl.perform = .ok b ∧ env.curl.responseCode = .ok 200) ∧
      q = "rootfs.ext4" :: t ∧ fs.get q = some (.file [])
  | .wrote => ∃ b, env.curl.perform = .ok b ∧ env.curl.responseCode = .ok 200 ∧
      fs.get ("rootfs.ext4" :: t) = some (.file b)
  | _ => True

theorem Pc.sound_of_not_holds {pc : Pc} (h : pc.holds = false) (env : FsEnv) (t : Path) (fs : Fs) :
    pc.Sound env t fs := by
  cases pc <;> simp_all [Pc.holds, Pc.Sound]

/-- **The race invariant**, for calls of `name` started on the filesystem `fs₀`.  Only a holder
changes the filesystem, only below the download directory, and there is at most one. -/
structure RaceInv (name : String) (fs₀ : Fs) {n : Nat} (s : Race n) : Prop where
  name_eq : ∀ i, (s.calls i).w.name = name
  agree : Fs.AgreeOff (dirTarget name) fs₀ s.world.fs
  frozen : fs₀.get (dirTarget name) ≠ none → s.world.fs = fs₀
  unique : ∀ i j, (s.calls i).pc.holds → (s.calls j).pc.holds → i = j
  held : ∀ i, (s.calls i).pc.holds → s.world.fs.get (dirTarget name) = some .dir ∧
    fs₀.resolve (downloadDirectory name) = some (dirTarget name) ∧ fs₀.get (dirTarget name) = none
  sound : ∀ i, (s.calls i).pc.Sound (s.calls i).env (dirTarget name) s.world.fs

section Invariant

variable {name : String} {fs₀ : Fs} {n : Nat} {s : Race n}

@[simp] theorem Race.step_world (s : Race n) (i : Fin n) :
    (s.step i).world = ((s.calls i).step s.world).2 := rfl

theorem Race.step_calls (s : Race n) (i j : Fin n) :
    (s.step i).calls j = if j = i then { s.calls i with pc := ((s.calls i).step s.world).1 }
      else s.calls j := by
  simp only [Race.step, Function.update_apply]

/-- A step of call `i` that changes no entry and makes no new holder. -/
theorem RaceInv.step_quiet (h : RaceInv name fs₀ s) (i : Fin n)
    (hfs : ((s.calls i).step s.world).2.fs = s.world.fs)
    (hhold : ((s.calls i).step s.world).1.holds → (s.calls i).pc.holds)
    (hsound : ((s.calls i).step s.world).1.Sound (s.calls i).env (dirTarget name) s.world.fs) :
    RaceInv name fs₀ (s.step i) := by
  have back : ∀ j, ((s.step i).calls j).pc.holds → (s.calls j).pc.holds := fun j hj => by
    rw [Race.step_calls] at hj
    split_ifs at hj with hji
    · exact hji ▸ hhold hj
    · exact hj
  refine ⟨fun j => ?_, ?_, ?_, fun j k hj hk => h.unique j k (back j hj) (back k hk),
    fun j hj => ?_, fun j => ?_⟩
  · rw [Race.step_calls]
    split_ifs <;> simp [h.name_eq]
  · simpa [hfs] using h.agree
  · simpa [hfs] using h.frozen
  · simpa [hfs] using h.held j (back j hj)
  · rw [Race.step_calls, Race.step_world, hfs]
    split_ifs with hji
    · exact hji ▸ hsound
    · exact h.sound j

/-- A step of the holder that keeps holding, changes entries only below the directory, and
keeps the directory. -/
theorem RaceInv.step_holder (h : RaceInv name fs₀ s) (i : Fin n) (hi : (s.calls i).pc.holds)
    (hag : Fs.AgreeOff (dirTarget name) s.world.fs ((s.calls i).step s.world).2.fs)
    (hT : ((s.calls i).step s.world).2.fs.get (dirTarget name) = some .dir)
    (hsound : ((s.calls i).step s.world).1.Sound (s.calls i).env (dirTarget name)
      ((s.calls i).step s.world).2.fs) :
    RaceInv name fs₀ (s.step i) := by
  have only : ∀ j, ((s.step i).calls j).pc.holds → j = i := fun j hj => by
    rw [Race.step_calls] at hj
    split_ifs at hj with hji
    · exact hji
    · exact h.unique j i hj hi
  refine ⟨fun j => ?_, h.agree.trans hag, fun hne => absurd (h.held i hi).2.2 hne,
    fun j k hj hk => (only j hj).trans (only k hk).symm, fun j hj => ?_, fun j => ?_⟩
  · rw [Race.step_calls]
    split_ifs <;> simp [h.name_eq]
  · exact ⟨hT, (h.held i hi).2⟩
  · rw [Race.step_calls, Race.step_world]
    split_ifs with hji
    · exact hji ▸ hsound
    · exact Pc.sound_of_not_holds (by simpa using mt (h.unique j i · hi) hji) _ _ _

/-- **Taking the directory**: a `create_dir` that succeeds finds no holder, and its call becomes
the only one. -/
theorem RaceInv.step_acquire (h : RaceInv name fs₀ s) (i : Fin n) {url : String}
    (hpc : ((s.calls i).step s.world).1 = .dirMade url) {m : String} {p : Path} {hp}
    (hr : s.world.fs.resolve (downloadDirectory name) = some (m :: p))
    (hm : s.world.fs.get (m :: p) = none)
    (hfs : ((s.calls i).step s.world).2.fs = s.world.fs.mkdir m p hp) :
    RaceInv name fs₀ (s.step i) := by
  have hT : dirTarget name = m :: p := (Fs.walk_target _ _ _ hr).symm
  have free : ∀ j, (s.calls j).pc.holds = false := fun j => by
    by_contra hj
    simp [← hT, (h.held j (by simpa using hj)).1] at hm
  have h₀ : fs₀.get (m :: p) = none := by
    by_contra hne
    rw [← hT] at hne
    simp [h.frozen hne, ← hT] at hm
    exact hne hm
  have only : ∀ j, ((s.step i).calls j).pc.holds → j = i := fun j hj => by
    rw [Race.step_calls] at hj
    split_ifs at hj with hji
    · exact hji
    · simp [free j] at hj
  refine ⟨fun j => ?_, ?_, fun hne => absurd h₀ (hT ▸ hne),
    fun j k hj hk => (only j hj).trans (only k hk).symm, fun j hj => ?_, fun j => ?_⟩
  · rw [Race.step_calls]
    split_ifs <;> simp [h.name_eq]
  · rw [Race.step_world, hfs, hT]
    exact (hT ▸ h.agree).trans (Fs.agreeOff_mkdir _ _ _ _)
  · rw [Race.step_world, hfs, hT]
    exact ⟨by simp, Fs.walk_agreeOff hm (hT ▸ h.agree).symm _ _ hr, h₀⟩
  · rw [Race.step_calls]
    split_ifs with hji
    · simp [hpc, Pc.Sound]
    · exact Pc.sound_of_not_holds (free j) _ _ _

/-- **Giving it back**: the holder's `remove_dir_all` restores the filesystem it started from. -/
theorem RaceInv.step_release (h : RaceInv name fs₀ s) (i : Fin n) (hi : (s.calls i).pc.holds)
    {e : RuntimeError} (hpc : ((s.calls i).step s.world).1 = .failed e)
    (hfs : ((s.calls i).step s.world).2.fs = s.world.fs.removeDirAll (downloadDirectory name)) :
    RaceInv name fs₀ (s.step i) := by
  obtain ⟨-, hr, h₀⟩ := h.held i hi
  have hback : ((s.calls i).step s.world).2.fs = fs₀ := hfs.trans (Fs.removeDirAll_fresh hr h₀ h.agree)
  have free : ∀ j, ((s.step i).calls j).pc.holds = false := fun j => by
    rw [Race.step_calls]
    split_ifs with hji
    · simp [hpc, Pc.holds]
    · by_contra hj
      exact hji (h.unique j i (by simpa using hj) hi)
  refine ⟨fun j => ?_, by simp [hback, Fs.AgreeOff.refl], fun _ => by simp [hback],
    fun j k hj _ => by simp [free j] at hj, fun j hj => by simp [free j] at hj,
    fun j => Pc.sound_of_not_holds (free j) _ _ _⟩
  rw [Race.step_calls]
  split_ifs <;> simp [h.name_eq]

/-- **Every step keeps the race invariant**, one case per program counter. -/
theorem RaceInv.step (h : RaceInv name fs₀ s) (i : Fin n) : RaceInv name fs₀ (s.step i) := by
  have hname := h.name_eq i
  cases hpc : (s.calls i).pc with
  | start =>
    obtain ⟨hW, hh⟩ := step_start (W := s.world) hpc
    exact h.step_quiet i (by rw [hW]) (by simp [hh]) (Pc.sound_of_not_holds hh _ _ _)
  | checked url =>
    rcases step_checked (W := s.world) hpc with ⟨hfs, hh⟩ | ⟨hd, m, p, hp, hr, hm, hfs⟩
    · exact h.step_quiet i hfs (by simp [hh]) (Pc.sound_of_not_holds hh _ _ _)
    · exact h.step_acquire i hd (hname ▸ hr) hm hfs
  | dirMade url =>
    obtain ⟨hfs, ⟨e, he⟩ | ⟨b, hb, hbody⟩⟩ := step_dirMade (W := s.world) hpc
    · exact h.step_quiet i hfs (by simp [hpc, Pc.holds]) (by simp [he, Pc.Sound])
    · exact h.step_quiet i hfs (by simp [hpc, Pc.holds]) (by simp [hb, Pc.Sound, hbody])
  | fetched b =>
    have hbody := h.sound i
    rw [hpc] at hbody
    obtain ⟨hdir, hr₀, h₀⟩ := h.held i (by simp [hpc, Pc.holds])
    rcases step_fetched (W := s.world) hpc with ⟨hfs, e, he⟩ | ⟨fs₁, q, hc, hfs, ho⟩
    · exact h.step_quiet i hfs (by simp [hpc, Pc.holds]) (by simp [he, Pc.Sound])
    have hrD : s.world.fs.resolve (downloadDirectory name) = some (dirTarget name) :=
      Fs.walk_agreeOff h₀ h.agree _ _ hr₀
    obtain ⟨m, p', hp', hn', hF, rfl, rfl⟩ := Fs.createFile_ok hc
    obtain ⟨rfl, rfl⟩ : "rootfs.ext4" = m ∧ dirTarget name = p' := by
      simpa [hname, resolve_filePath, hrD, hdir] using hF
    refine h.step_holder i (by simp [hpc, Pc.holds]) ?_ ?_ ?_ <;> rw [hfs]
    · exact Fs.agreeOff_setFile _ _ _ _ _ _ (List.suffix_cons _ _)
    · simpa using hdir
    · rw [ho]
      exact ⟨hbody, rfl, by simp⟩
  | opened b q =>
    have hsound := h.sound i
    rw [hpc] at hsound
    obtain ⟨hbody, rfl, hq⟩ := hsound
    have hdir := (h.held i (by simp [hpc, Pc.holds])).1
    have hag : ∀ b', Fs.AgreeOff (dirTarget name) s.world.fs
        (s.world.fs.write ("rootfs.ext4" :: dirTarget name) b') :=
      fun b' => Fs.agreeOff_write _ _ (List.suffix_cons _ _)
    have hT : ∀ b', (s.world.fs.write ("rootfs.ext4" :: dirTarget name) b').get (dirTarget name) =
        some .dir := fun b' => by simpa [Fs.write_get_of_file _ hq] using hdir
    rcases step_opened (W := s.world) hpc with ⟨hfs, hw⟩ | ⟨k, e, hfs, he⟩ <;>
      refine h.step_holder i (by simp [hpc, Pc.holds]) (hfs ▸ hag _) (hfs ▸ hT _) ?_
    · rw [hw, hfs]
      exact ⟨b, hbody.1, hbody.2, by simp [Fs.write_get_of_file _ hq]⟩
    · simp [he, Pc.Sound]
  | cleanup e =>
    obtain ⟨hfs, he⟩ := step_cleanup (W := s.world) hpc
    exact h.step_release i (by simp [hpc, Pc.holds]) he (hname ▸ hfs)
  | failed e | found | wrote =>
    have hdone := step_done (c := s.calls i) (W := s.world) (by simp [hpc, Pc.result])
    exact h.step_quiet i (by rw [hdone]) (by rw [hdone]; exact id) (by rw [hdone]; exact h.sound i)

/-- Calls for one name that have not started, on the filesystem `fs₀`. -/
theorem RaceInv.init (s : Race n) (hname : ∀ i, (s.calls i).w.name = name)
    (hstart : ∀ i, (s.calls i).pc = .start) : RaceInv name s.world.fs s :=
  ⟨hname, Fs.AgreeOff.refl _ _, fun _ => rfl, fun i _ hi => by simp [hstart i, Pc.holds] at hi,
    fun i hi => by simp [hstart i, Pc.holds] at hi, fun i => by simp [hstart i, Pc.Sound]⟩

theorem RaceInv.run (h : RaceInv name fs₀ s) (sched : List (Fin n)) :
    RaceInv name fs₀ (s.run sched) := by
  induction sched generalizing s with
  | nil => exact h
  | cons i sched ih => exact ih (h.step i)

/-- A call's own data never changes; only its program counter moves. -/
theorem Race.run_call (s : Race n) (sched : List (Fin n)) (i : Fin n) :
    ((s.run sched).calls i).env = (s.calls i).env ∧ ((s.run sched).calls i).w = (s.calls i).w := by
  induction sched generalizing s with
  | nil => exact ⟨rfl, rfl⟩
  | cons j sched ih =>
    obtain ⟨h₁, h₂⟩ := ih (s.step j)
    have h : ((s.step j).calls i).env = (s.calls i).env ∧ ((s.step j).calls i).w = (s.calls i).w := by
      rw [Race.step_calls]
      split_ifs with hij <;> simp [hij]
    exact ⟨h₁.trans h.1, h₂.trans h.2⟩

/-- A call that returned stays returned. -/
theorem Race.run_wrote (s : Race n) {i : Fin n} (hi : (s.calls i).pc = .wrote) :
    ∀ more : List (Fin n), ((s.run more).calls i).pc = .wrote := by
  intro more
  induction more generalizing s with
  | nil => exact hi
  | cons j more ih =>
    refine ih (s.step j) ?_
    rw [Race.step_calls]
    split_ifs with hij
    · subst hij
      simp [step_done (c := s.calls i) (W := s.world) (by simp [hi, Pc.result]), hi]
    · exact hi

end Invariant

/-! ## 4. What overlapping calls are promised -/

theorem Race.run_append {n : Nat} (s : Race n) (sched more : List (Fin n)) :
    s.run (sched ++ more) = (s.run sched).run more := List.foldl_append _ _ _ _

/-- **The writer's guarantee.**  Among overlapping `create_fs` calls for one name, at most one
holds the download directory at any time, and only that call changes anything: a step of any
other call leaves the filesystem as it was, every state agrees with the start outside the
download directory, and nothing changes at all when the directory was there from the start.
A call that returned `Ok(p)` after writing the rootfs itself leaves `p` naming a file that
holds exactly the body of its 200 response, in that state and in every later one. -/
theorem createFs_race_writer {n : Nat} (name : String) (s : Race n)
    (hname : ∀ i, (s.calls i).w.name = name) (hstart : ∀ i, (s.calls i).pc = .start)
    (sched : List (Fin n)) :
    (∀ i j, ((s.run sched).calls i).pc.holds → ((s.run sched).calls j).pc.holds → i = j) ∧
    (∀ i, ((s.run sched).calls i).pc.holds = false →
      (((s.run sched).step i).calls i).pc.holds = false →
      ((s.run sched).step i).world.fs = (s.run sched).world.fs) ∧
    Fs.AgreeOff (dirTarget name) s.world.fs (s.run sched).world.fs ∧
    (s.world.fs.get (dirTarget name) ≠ none → (s.run sched).world.fs = s.world.fs) ∧
    ∀ i, ((s.run sched).calls i).pc = .wrote →
      ∃ t b, (s.calls i).env.curl.perform = .ok b ∧ (s.calls i).env.curl.responseCode = .ok 200 ∧
        ∀ more, (s.run (sched ++ more)).world.fs.resolve (filePath name) = some t ∧
          (s.run (sched ++ more)).world.fs.get t = some (.file b) := by
  have inv := fun sched => (RaceInv.init s hname hstart).run sched
  refine ⟨(inv sched).unique, fun i h h' => ?_, (inv sched).agree, (inv sched).frozen,
    fun i hi => ?_⟩
  · rw [Race.step_calls, if_pos rfl] at h'
    exact step_fs_of_not_holds h h'
  have later : ∀ more, ((s.run (sched ++ more)).calls i).pc = .wrote := fun more => by
    rw [Race.run_append]
    exact Race.run_wrote _ hi more
  have hsound := (inv sched).sound i
  rw [hi, (Race.run_call s sched i).1] at hsound
  obtain ⟨b, hb, hc, -⟩ := hsound
  refine ⟨"rootfs.ext4" :: dirTarget name, b, hb, hc, fun more => ?_⟩
  have h := inv (sched ++ more)
  obtain ⟨hdir, hr₀, h₀⟩ := h.held i (by simp [later more, Pc.holds])
  have hsound := h.sound i
  rw [later more, (Race.run_call s _ i).1] at hsound
  obtain ⟨b', hb', -, hget⟩ := hsound
  obtain rfl : b = b' := by simpa [hb] using hb'
  have hrD : (s.run (sched ++ more)).world.fs.resolve (downloadDirectory name) =
      some (dirTarget name) := Fs.walk_agreeOff h₀ h.agree _ _ hr₀
  exact ⟨by simp [resolve_filePath, hrD, hdir], hget⟩

/-- The rootfs workload `hello` of the examples. -/
def hello : WorkloadDefinition := ⟨"function", "hello", some ⟨"http://registry/rootfs.ext4"⟩⟩

/-- Two calls for `hello` on a filesystem holding `/tmp`: the first downloads `[1]` and its
`write_all` fails before writing a byte; the second's calls all succeed. -/
def earlyHit : Race 2 :=
  ⟨⟨Fs.root.mkdir "tmp" [] rfl, []⟩,
    ![⟨{ FsEnv.allOk [1] with writeAll := .fail 0 (.other 28) }, hello, .start⟩,
      ⟨FsEnv.allOk [1], hello, .start⟩]⟩

/-- The first call fails and cleans up; the second then downloads and writes the file. -/
theorem createFs_race_writer_earlyHit :
    (∀ i, (earlyHit.calls i).w.name = "hello") ∧ (∀ i, (earlyHit.calls i).pc = .start) ∧
    ((earlyHit.run [0, 0, 0, 0, 0, 0, 1, 1, 1, 1, 1]).calls 1).pc = .wrote ∧
    ((∀ i j, ((earlyHit.run [0, 0, 0, 0, 0, 0, 1, 1, 1, 1, 1]).calls i).pc.holds →
        ((earlyHit.run [0, 0, 0, 0, 0, 0, 1, 1, 1, 1, 1]).calls j).pc.holds → i = j) ∧
      (∀ i, ((earlyHit.run [0, 0, 0, 0, 0, 0, 1, 1, 1, 1, 1]).calls i).pc.holds = false →
        (((earlyHit.run [0, 0, 0, 0, 0, 0, 1, 1, 1, 1, 1]).step i).calls i).pc.holds = false →
        ((earlyHit.run [0, 0, 0, 0, 0, 0, 1, 1, 1, 1, 1]).step i).world.fs = (earlyHit.run [0, 0, 0, 0, 0, 0, 1, 1, 1, 1, 1]).world.fs) ∧
      Fs.AgreeOff (dirTarget "hello") earlyHit.world.fs (earlyHit.run [0, 0, 0, 0, 0, 0, 1, 1, 1, 1, 1]).world.fs ∧
      (earlyHit.world.fs.get (dirTarget "hello") ≠ none →
        (earlyHit.run [0, 0, 0, 0, 0, 0, 1, 1, 1, 1, 1]).world.fs = earlyHit.world.fs) ∧
      ∀ i, ((earlyHit.run [0, 0, 0, 0, 0, 0, 1, 1, 1, 1, 1]).calls i).pc = .wrote →
        ∃ t b, (earlyHit.calls i).env.curl.perform = .ok b ∧
          (earlyHit.calls i).env.curl.responseCode = .ok 200 ∧
          ∀ more, (earlyHit.run ([0, 0, 0, 0, 0, 0, 1, 1, 1, 1, 1] ++ more)).world.fs.resolve (filePath "hello") = some t ∧
            (earlyHit.run ([0, 0, 0, 0, 0, 0, 1, 1, 1, 1, 1] ++ more)).world.fs.get t = some (.file b)) :=
  ⟨by decide, by decide, by decide, createFs_race_writer "hello" earlyHit (by decide) (by decide) _⟩

/-- **An early cache hit.**  The first call has created `rootfs.ext4` and not yet written it
when the second call's `exists` finds it: the second returns `Ok(p)` with `p` empty, though the
body is `[1]`, and the first call's cleanup then removes `p`. -/
theorem createFs_race_early_hit :
    ((earlyHit.run [0, 0, 0, 0, 1]).calls 1).pc = .found ∧
    (earlyHit.run [0, 0, 0, 0, 1]).world.fs.get ["rootfs.ext4", "hello", "tmp"] = some (.file []) ∧
    (earlyHit.calls 0).env.curl.perform = .ok [1] ∧
    (earlyHit.run [0, 0, 0, 0, 1, 0, 0]).world.fs.get ["rootfs.ext4", "hello", "tmp"] = none :=
  ⟨by decide, by decide, rfl, by decide⟩

/-! ## 5. Calls kept apart run one after another -/

/-- The call is under way: it made its `exists` check and has not returned. -/
def Pc.running : Pc → Bool
  | .checked _ | .dirMade _ | .fetched _ | .opened _ _ | .cleanup _ => true
  | .start | .failed _ | .found | .wrote => false

/-- How many more steps the call takes, left alone, before it returns. -/
def Pc.rank : Pc → Nat
  | .start => 6
  | .checked _ => 5
  | .dirMade _ => 4
  | .fetched _ => 3
  | .opened _ _ => 2
  | .cleanup _ => 1
  | .failed _ | .found | .wrote => 0

/-- The environment and the workload of call `i`: what `createFs` is called with. -/
def Race.args {n : Nat} (s : Race n) (i : Fin n) : FsEnv × WorkloadDefinition :=
  ((s.calls i).env, (s.calls i).w)

/-- A step that keeps calls apart: the call is under way, or no call is. -/
def Race.oneCallAtATime {n : Nat} (s : Race n) (i : Fin n) : Bool :=
  (s.calls i).pc.running || decide (∀ j, (s.calls j).pc.running = false)

/-- Every step of the schedule, in the state it is taken in, satisfies `p`. -/
def Race.runAll {n : Nat} (p : Race n → Fin n → Bool) : Race n → List (Fin n) → Bool
  | _, [] => true
  | s, i :: sched => p s i && Race.runAll p (s.step i) sched

theorem runCreateFs_concat (calls : List (FsEnv × WorkloadDefinition))
    (call : FsEnv × WorkloadDefinition) (W : World) :
    runCreateFs (calls ++ [call]) W = (createFs call.1 call.2 (runCreateFs calls W)).2 := by
  induction calls generalizing W with
  | nil => rfl
  | cons c calls ih => exact ih _

theorem Pc.rank_le (pc : Pc) : pc.rank ≤ 6 := by
  cases pc <;> simp [Pc.rank]

/-- Every step brings a call closer to its return. -/
theorem Call.rank_step (c : Call) (W : World) : (c.step W).1.rank ≤ c.pc.rank - 1 := by
  obtain ⟨env, w, pc⟩ := c
  cases pc <;> simp only [Call.step] <;> (repeat' split) <;> simp [Pc.rank]

theorem Call.result_of_rank {c : Call} (h : c.pc.rank = 0) : c.pc.result c.w.name ≠ none := by
  obtain ⟨env, w, pc⟩ := c
  cases pc <;> simp_all [Pc.rank, Pc.result]

/-- A call that has moved and is not under way has returned. -/
theorem Pc.rank_eq_zero {pc : Pc} (hr : pc.running = false) (hs : pc ≠ .start) : pc.rank = 0 := by
  cases pc <;> simp_all [Pc.rank, Pc.running]

/-- No step goes back to the start. -/
theorem Call.step_ne_start (c : Call) (W : World) : (c.step W).1 ≠ .start := fun h6 => by
  have hr := Call.rank_step c W
  rw [h6, show Pc.rank .start = 6 from rfl] at hr
  have := c.pc.rank_le
  omega

/-- Steps after a call returned change nothing. -/
theorem Call.finish_succ {k : Nat} : ∀ {c : Call} {W : World}, c.pc.rank ≤ k →
    Call.finish (k + 1) c W = Call.finish k c W := by
  induction k with
  | zero =>
    intro c W h
    simp [Call.finish, step_done (Call.result_of_rank (Nat.le_zero.mp h))]
  | succ k ih =>
    intro c W h
    have hr := Call.rank_step c W
    exact @ih { c with pc := (c.step W).1 } (c.step W).2 (by simp only; omega)

theorem Call.finish_of_rank {c : Call} (h : c.pc.rank = 0) (W : World) :
    ∀ k, Call.finish k c W = (c, W)
  | 0 => rfl
  | k + 1 => by rw [Call.finish_succ (by omega), Call.finish_of_rank h W k]

/-- **Finishing after one step is finishing**: six steps take any call to its return, so the
first of them can be taken out. -/
theorem Call.finish_six (c : Call) (W : World) :
    Call.finish 6 c W = Call.finish 6 { c with pc := (c.step W).1 } (c.step W).2 := by
  have hr : ({ c with pc := (c.step W).1 } : Call).pc.rank ≤ 5 :=
    (Call.rank_step c W).trans (by have := c.pc.rank_le; omega)
  exact (Call.finish_succ hr).symm

/-- Where a call can sit in a list that ends with another one. -/
theorem split_concat {α : Type} {pre pre' post : List α} {i j : α}
    (h : pre' ++ i :: post = pre ++ [j]) :
    (post = [] ∧ pre' = pre ∧ i = j) ∨ ∃ L, post = L ++ [j] ∧ pre = pre' ++ i :: L := by
  rcases List.eq_nil_or_concat post with rfl | ⟨L, b, rfl⟩
  · obtain ⟨h₁, h₂⟩ := List.append_inj' h rfl
    exact .inl ⟨rfl, h₁, by simpa using h₂⟩
  · have h' : (pre' ++ i :: L) ++ [b] = pre ++ [j] := by simpa using h
    obtain ⟨h₁, h₂⟩ := List.append_inj' h' rfl
    exact .inr ⟨L, by simp_all, h₁.symm⟩

/-- **The start-order relation**, for runs started on `s₀`.  `order` lists the calls that have
moved, in the order of their first steps; at most one is under way; a call that returned
returned what `createFs` returns on the world the calls before it in `order` leave; with no
call under way the world is the one all of them leave, and with one under way, finishing it
alone gives its result and that world. -/
structure StartOrder {n : Nat} (s₀ : Race n) (order : List (Fin n)) (s : Race n) : Prop where
  args : ∀ i, s.args i = s₀.args i
  nodup : order.Nodup
  started : ∀ i, i ∈ order ↔ (s.calls i).pc ≠ .start
  oneRunning : ∀ i j, (s.calls i).pc.running → (s.calls j).pc.running → i = j
  returned : ∀ pre i post, order = pre ++ i :: post → (s.calls i).pc.running = false →
    (s.calls i).pc.result (s.calls i).w.name =
      some (createFs (s.calls i).env (s.calls i).w (runCreateFs (pre.map s₀.args) s₀.world)).1
  settled : (∀ i, (s.calls i).pc.running = false) →
    s.world = runCreateFs (order.map s₀.args) s₀.world
  finishing : ∀ j, (s.calls j).pc.running → ∃ pre, order = pre ++ [j] ∧
    (Call.finish 6 (s.calls j) s.world).1.pc.result (s.calls j).w.name =
      some (createFs (s.calls j).env (s.calls j).w (runCreateFs (pre.map s₀.args) s₀.world)).1 ∧
    (Call.finish 6 (s.calls j) s.world).2 = runCreateFs (order.map s₀.args) s₀.world

section StartOrder

variable {n : Nat} {s₀ s : Race n} {order : List (Fin n)} {i : Fin n}

theorem Race.step_args (s : Race n) (i : Fin n) : (s.step i).args = s.args := by
  funext j
  simp only [Race.args, Race.step_calls]
  split_ifs with hji <;> simp [hji]

theorem Race.step_other (s : Race n) {i j : Fin n} (h : j ≠ i) : (s.step i).calls j = s.calls j := by
  simp [Race.step_calls, h]

theorem Race.step_self (s : Race n) (i : Fin n) :
    (s.step i).calls i = { s.calls i with pc := ((s.calls i).step s.world).1 } := by
  simp [Race.step_calls]

/-- After a step of call `i`, only `i` can be under way if only `i` was. -/
theorem Race.running_step (hfree : ∀ j, j ≠ i → (s.calls j).pc.running = false) {j : Fin n}
    (hj : ((s.step i).calls j).pc.running) : j = i := by
  by_contra hji
  rw [s.step_other hji, hfree j hji] at hj
  cases hj

/-- A step of a call that returned changes nothing. -/
theorem Race.step_of_rank (h : (s.calls i).pc.rank = 0) : s.step i = s := by
  have hd := step_done (W := s.world) (Call.result_of_rank h)
  simp only [Race.step, hd]
  congr
  funext j
  by_cases hji : j = i
  · subst hji
    simp
  · simp [Function.update_noteq hji]

/-- A step of the call under way. -/
theorem StartOrder.step_running (h : StartOrder s₀ order s) (hi : (s.calls i).pc.running) :
    StartOrder s₀ order (s.step i) := by
  obtain ⟨pre, hpre, hres, hW⟩ := h.finishing i hi
  have hfin := Call.finish_six (s.calls i) s.world
  have only : ∀ {j}, ((s.step i).calls j).pc.running → j = i := Race.running_step fun j hj =>
    Bool.eq_false_iff.mpr fun hr => hj (h.oneRunning j i hr hi)
  have hstart := Call.step_ne_start (s.calls i) s.world
  -- a call that stops running has returned, and finishing it changes nothing
  have hdone := fun hr => Pc.rank_eq_zero hr hstart
  refine ⟨fun j => by rw [Race.step_args, h.args], h.nodup, fun j => ?_, fun j k hj hk => ?_,
    fun pre' j post hsplit hj => ?_, fun hnone => ?_, fun j hj => ?_⟩
  · by_cases hji : j = i
    · subst hji
      rw [s.step_self]
      have hin : j ∈ order := (h.started j).mpr fun h0 => by simp [h0, Pc.running] at hi
      exact ⟨fun _ => hstart, fun _ => hin⟩
    · rw [s.step_other hji, h.started]
  · exact (only hj).trans (only hk).symm
  · by_cases hji : j = i
    · subst hji
      rw [s.step_self] at hj ⊢
      rcases split_concat (hsplit.symm.trans hpre) with ⟨-, rfl, -⟩ | ⟨L, -, hL⟩
      · rw [← hres, hfin, Call.finish_of_rank (hdone hj)]
      · have hnd := h.nodup
        rw [hpre, List.nodup_append] at hnd
        exact (hnd.2.2 (by simp [hL]) (List.mem_singleton_self j)).elim
    · rw [s.step_other hji] at hj ⊢
      exact h.returned pre' j post hsplit hj
  · have hr : ((s.calls i).step s.world).1.running = false := by simpa [s.step_self] using hnone i
    rw [← hW, hfin, Call.finish_of_rank (hdone hr)]
    rfl
  · obtain rfl := only hj
    refine ⟨pre, hpre, ?_, ?_⟩ <;> rw [s.step_self, Race.step_world, ← hfin]
    · simpa using hres
    · exact hW

/-- A call's first step, taken while no call is under way: it goes last in `order`. -/
theorem StartOrder.step_start (h : StartOrder s₀ order s)
    (hfree : ∀ j, (s.calls j).pc.running = false) (hi : (s.calls i).pc = .start) :
    StartOrder s₀ (order ++ [i]) (s.step i) := by
  have hW := h.settled hfree
  have hnot : i ∉ order := fun hm => (h.started i).mp hm hi
  have hfin := Call.finish_six (s.calls i) s.world
  have heq := Call.finish_eq (s.calls i).env (s.calls i).w s.world
  rw [show (⟨(s.calls i).env, (s.calls i).w, .start⟩ : Call) = s.calls i by rw [← hi]] at heq
  have hargs : s₀.args i = ((s.calls i).env, (s.calls i).w) := (h.args i).symm
  have hall : runCreateFs ((order ++ [i]).map s₀.args) s₀.world =
      (createFs (s.calls i).env (s.calls i).w s.world).2 := by
    rw [List.map_append, List.map_singleton, runCreateFs_concat, hargs, hW]
  have hstart := Call.step_ne_start (s.calls i) s.world
  have hdone := fun hr => Pc.rank_eq_zero hr hstart
  have only : ∀ {j}, ((s.step i).calls j).pc.running → j = i :=
    Race.running_step fun j _ => hfree j
  refine ⟨fun j => by rw [Race.step_args, h.args], ?_, fun j => ?_, fun j k hj hk => ?_,
    fun pre j post hsplit hj => ?_, fun hnone => ?_, fun j hj => ?_⟩
  · exact List.nodup_append.mpr ⟨h.nodup, List.nodup_singleton i,
      fun a ha hb => hnot (List.mem_singleton.mp hb ▸ ha)⟩
  · by_cases hji : j = i
    · subst hji
      simp [s.step_self, hstart]
    · simp [s.step_other hji, hji, h.started]
  · exact (only hj).trans (only hk).symm
  · rcases split_concat hsplit.symm with ⟨-, rfl, rfl⟩ | ⟨L, -, hL⟩
    · simp only [s.step_self] at hj ⊢
      have hpc : (Call.finish 6 (s.calls j) s.world).1.pc = ((s.calls j).step s.world).1 := by
        rw [hfin, Call.finish_of_rank (hdone hj)]
      rw [← hW, ← hpc]
      exact heq.1
    · have hji : j ≠ i := fun he => hnot (he ▸ hL ▸ List.mem_append_right _ (List.mem_cons_self _ _))
      rw [s.step_other hji] at hj ⊢
      exact h.returned pre j L hL hj
  · have hr : ((s.calls i).step s.world).1.running = false := by simpa [s.step_self] using hnone i
    rw [hall, ← heq.2, hfin, Call.finish_of_rank (hdone hr)]
    rfl
  · obtain rfl := only hj
    refine ⟨order, rfl, ?_, ?_⟩ <;> rw [s.step_self, Race.step_world, ← hfin]
    · simpa [hW] using heq.1
    · rw [hall]
      exact heq.2

/-- **Every step of a schedule that keeps calls apart keeps the start-order relation.** -/
theorem StartOrder.step (h : StartOrder s₀ order s) (hs : s.oneCallAtATime i = true) :
    ∃ order', StartOrder s₀ order' (s.step i) := by
  by_cases hi : (s.calls i).pc.running
  · exact ⟨order, h.step_running hi⟩
  have hfree : ∀ j, (s.calls j).pc.running = false := by
    simpa [Race.oneCallAtATime, hi] using hs
  by_cases hst : (s.calls i).pc = .start
  · exact ⟨order ++ [i], h.step_start hfree hst⟩
  · rw [Race.step_of_rank (Pc.rank_eq_zero (Bool.eq_false_iff.mpr hi) hst)]
    exact ⟨order, h⟩

theorem StartOrder.run (h : StartOrder s₀ order s) {sched : List (Fin n)}
    (hs : s.runAll Race.oneCallAtATime sched = true) :
    ∃ order', StartOrder s₀ order' (s.run sched) := by
  induction sched generalizing s order with
  | nil => exact ⟨order, h⟩
  | cons i sched ih =>
    simp only [Race.runAll, Bool.and_eq_true] at hs
    obtain ⟨order', h'⟩ := h.step hs.1
    exact ih h' hs.2

end StartOrder

/-- **Calls kept apart run one after another.**  From calls that have not started, a schedule
on which a call starts only while no other call is under way, and that ends with every call
returned or not started, gives each call that moved exactly the result `create_fs` returns on
the world the calls started before it leave, and leaves the world that running those calls one
after another in their start order leaves. -/
theorem run_oneCallAtATime_eq_runCreateFs {n : Nat} (s : Race n)
    (hstart : ∀ i, (s.calls i).pc = .start) (sched : List (Fin n))
    (hs : s.runAll Race.oneCallAtATime sched = true)
    (hend : ∀ i, ((s.run sched).calls i).pc.running = false) :
    ∃ order : List (Fin n), order.Nodup ∧ (∀ i, i ∈ order ↔ ((s.run sched).calls i).pc ≠ .start) ∧
      (s.run sched).world = runCreateFs (order.map s.args) s.world ∧
      ∀ pre i post, order = pre ++ i :: post →
        ((s.run sched).calls i).pc.result (s.calls i).w.name =
          some (createFs (s.calls i).env (s.calls i).w (runCreateFs (pre.map s.args) s.world)).1 := by
  have h₀ : StartOrder s [] s :=
    ⟨fun _ => rfl, List.nodup_nil, fun i => by simp [hstart i], fun i _ hi => by
      simp [hstart i, Pc.running] at hi, fun pre i post h => by simp at h,
      fun _ => rfl, fun j hj => by simp [hstart j, Pc.running] at hj⟩
  obtain ⟨order, h⟩ := h₀.run hs
  refine ⟨order, h.nodup, h.started, h.settled hend, fun pre i post hsplit => ?_⟩
  have hargs := h.args i
  simp only [Race.args, Prod.mk.injEq] at hargs
  rw [← hargs.1, ← hargs.2]
  exact h.returned pre i post hsplit (hend i)

theorem run_oneCallAtATime_eq_runCreateFs_earlyHit :
    (∀ i, (earlyHit.calls i).pc = .start) ∧
    earlyHit.runAll Race.oneCallAtATime [0, 0, 0, 0, 0, 0, 1, 1, 1, 1, 1] = true ∧
    (∀ i, ((earlyHit.run [0, 0, 0, 0, 0, 0, 1, 1, 1, 1, 1]).calls i).pc.running = false) ∧
    ∃ order : List (Fin 2), order.Nodup ∧
      (∀ i, i ∈ order ↔ ((earlyHit.run [0, 0, 0, 0, 0, 0, 1, 1, 1, 1, 1]).calls i).pc ≠ .start) ∧
      (earlyHit.run [0, 0, 0, 0, 0, 0, 1, 1, 1, 1, 1]).world =
        runCreateFs (order.map earlyHit.args) earlyHit.world ∧
      ∀ pre i post, order = pre ++ i :: post →
        ((earlyHit.run [0, 0, 0, 0, 0, 0, 1, 1, 1, 1, 1]).calls i).pc.result
            (earlyHit.calls i).w.name =
          some (createFs (earlyHit.calls i).env (earlyHit.calls i).w
            (runCreateFs (pre.map earlyHit.args) earlyHit.world)).1 :=
  ⟨by decide, by decide, by decide,
    run_oneCallAtATime_eq_runCreateFs earlyHit (by decide) _ (by decide) (by decide)⟩

end Rik.Riklet
