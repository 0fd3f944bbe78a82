/-
# Runs of `up` and `down`

The agent calls `up` and `down` on an instance any number of times, in any order, and each
external call of each may succeed or fail.  A run is a list of such requests, each with what
its calls answer.

The doc comment of `FunctionRuntime.machine` says the handle is `None` when nothing is running.
`down` does not keep to it: it borrows the handle with `as_mut` and never takes it back, so

* `run_machine` -- along every run, **`machine` is `None` exactly until the first successful
  `up`**, and `Some` from then on, whatever is killed or destroyed after it;
* `run_down_before_up` -- until that `up`, every `down` is `NotRunning` and calls nothing;
* `down_after_down` -- after an `up` and a `down` that both succeeded, a second `down` finds
  the handle again and kills and destroys a second time.

`up` also overwrites the handle without looking at it.  A second successful `up` leaves the
first microVM running with nothing pointing at it, and `run_orphan` shows that **a microVM the
handle does not hold is never stopped** by any later run.
-/
import Rik.Riklet.FunctionRuntime

namespace Rik.Riklet

/-! ## 1. Runs -/

/-- A call the agent makes on an instance, with what its external calls answer. -/
inductive Req where
  | up (env : UpEnv)
  | down (env : DownEnv)

/-- The method a request calls. -/
def Req.exec : Req → RtM Unit
  | .up env => Riklet.up env
  | .down env => Riklet.down env

/-- The world after the requests of a run, one after another. -/
def run : List Req → RtWorld → RtWorld
  | [], W => W
  | r :: rs, W => run rs (r.exec W).2

/-- The request is an `up` that succeeds on `W`. -/
def Req.bringsUp (r : Req) (W : RtWorld) : Bool :=
  match r with
  | .up env => (Riklet.up env W).1.toBool
  | .down _ => false

/-- Some `up` of the run, started on `W`, succeeds. -/
def upSucceeds : List Req → RtWorld → Bool
  | [], _ => false
  | r :: rs, W => r.bringsUp W || upSucceeds rs (r.exec W).2

/-! ## 2. The handle along a run -/

/-- **Only a successful `up` changes `machine`**, to the microVM it started. -/
theorem Req.exec_machine (r : Req) (W : RtWorld) :
    (r.exec W).2.rt.machine = if r.bringsUp W then some ⟨W.host.vms.length⟩ else W.rt.machine := by
  cases r with
  | down env => exact down_machine env W
  | up env =>
    rcases up_effect env W with ⟨⟨e, he⟩, hrt, -⟩ | ⟨hok, hrt, -⟩
    · simp [Req.exec, Req.bringsUp, he, Except.toBool, hrt]
    · simp [Req.exec, Req.bringsUp, hok, Except.toBool, hrt]

/-- **`machine` is `None` exactly until the first successful `up`.** -/
theorem run_machine (rs : List Req) (W : RtWorld) :
    (run rs W).rt.machine = none ↔ W.rt.machine = none ∧ upSucceeds rs W = false := by
  induction rs generalizing W with
  | nil => simp [run, upSucceeds]
  | cons r rs ih =>
    rw [run, ih, Req.exec_machine, upSucceeds]
    split_ifs with h <;> simp [h]

/-- **Until an `up` succeeds, `down` is `NotRunning`** and calls nothing, on an instance made
without a handle. -/
theorem run_down_before_up {rs : List Req} {W : RtWorld} (hW : W.rt.machine = none)
    (hup : upSucceeds rs W = false) (env : DownEnv) :
    down env (run rs W) =
      (.error (.notRunning ("microVM " ++ (run rs W).rt.id ++ " is not running")), run rs W) :=
  down_none ((run_machine rs W).mpr ⟨hW, hup⟩)

theorem run_down_before_up_createFails :
    inst1World.rt.machine = none ∧
    upSucceeds [.down DownEnv.allOk, .up createFails] inst1World = false ∧
    down DownEnv.allOk (run [.down DownEnv.allOk, .up createFails] inst1World) =
      (.error (.notRunning ("microVM " ++
          (run [.down DownEnv.allOk, .up createFails] inst1World).rt.id ++ " is not running")),
        run [.down DownEnv.allOk, .up createFails] inst1World) :=
  ⟨rfl, rfl, @run_down_before_up [.down DownEnv.allOk, .up createFails] inst1World rfl rfl _⟩

/-- **`down` twice kills and destroys twice.**  `inst-1` is brought up and down, every call
succeeding.  Its microVM is stopped and its network destroyed, but `machine` still holds the
handle, so a second `down` kills and destroys again and returns `Ok`. -/
theorem down_after_down :
    (run [.up UpEnv.allOk, .down DownEnv.allOk] inst1World).rt.machine = some ⟨0⟩ ∧
    ((run [.up UpEnv.allOk, .down DownEnv.allOk] inst1World).host.vms.map Vm.phase) = [.stopped] ∧
    (run [.up UpEnv.allOk, .down DownEnv.allOk] inst1World).host.net = .destroyed ∧
    (down DownEnv.allOk (run [.up UpEnv.allOk, .down DownEnv.allOk] inst1World)).1 = .ok () ∧
    (down DownEnv.allOk (run [.up UpEnv.allOk, .down DownEnv.allOk] inst1World)).2.calls =
      (run [.up UpEnv.allOk, .down DownEnv.allOk] inst1World).calls ++
        [.machineKill, .networkDestroy] :=
  ⟨rfl, rfl, rfl, rfl, rfl⟩

/-! ## 3. Orphaned microVMs -/

/-- **A request changes no microVM but the handle's, and never moves the handle onto an existing
one.**  `up` only adds a microVM, and moves the handle to the one it added; `down` kills only
the microVM the handle holds. -/
theorem Req.exec_orphan (r : Req) {W : RtWorld} {v : Nat} {vm : Vm}
    (hv : W.host.vms[v]? = some vm) (hm : W.rt.machine ≠ some ⟨v⟩) :
    (r.exec W).2.host.vms[v]? = some vm ∧ (r.exec W).2.rt.machine ≠ some ⟨v⟩ := by
  have hlt : v < W.host.vms.length := (List.getElem?_eq_some_iff.mp hv).1
  cases r with
  | up env =>
    rcases up_effect env W with ⟨-, hrt, new, -, hvms⟩ | ⟨-, hrt, vm', hvms⟩
    · simp only [Req.exec, hvms, hrt, List.getElem?_append_left hlt]
      exact ⟨hv, hm⟩
    · simp only [Req.exec, hvms, hrt, List.getElem?_append_left hlt]
      exact ⟨hv, by simp [Machine.mk.injEq]; omega⟩
  | down env =>
    refine ⟨?_, by simpa [Req.exec, down_machine] using hm⟩
    rcases down_vms env W with hvms | ⟨m, hsome, hvms⟩
    · simpa [Req.exec, hvms] using hv
    · have hne : m.vm ≠ v := fun he => hm (by rw [hsome, ← he])
      simpa [Req.exec, hvms, Host.setVm, List.getElem?_modify_ne _ _ hne] using hv

/-- **An orphaned microVM is never stopped.**  A microVM that `machine` does not hold keeps its
phase through every later run of requests, whatever their calls answer, and the handle never
comes back to it.  `up` overwrites the handle without killing the microVM it held, so after two
successful `up`s the first microVM runs for good, and a microVM made by an `up` that failed
later is never started or killed. -/
theorem run_orphan (rs : List Req) {W : RtWorld} {v : Nat} {vm : Vm}
    (hv : W.host.vms[v]? = some vm) (hm : W.rt.machine ≠ some ⟨v⟩) :
    (run rs W).host.vms[v]? = some vm ∧ (run rs W).rt.machine ≠ some ⟨v⟩ := by
  induction rs generalizing W with
  | nil => exact ⟨hv, hm⟩
  | cons r rs ih =>
    obtain ⟨hv', hm'⟩ := r.exec_orphan hv hm
    exact ih hv' hm'

/-- `inst-1` after two `up`s whose calls all succeeded. -/
def twoUps : RtWorld := run [.up UpEnv.allOk, .up UpEnv.allOk] inst1World

theorem run_orphan_twoUps :
    twoUps.host.vms.map Vm.phase = [.running, .running] ∧ twoUps.rt.machine = some ⟨1⟩ ∧
    ∃ vm, twoUps.host.vms[0]? = some vm ∧ twoUps.rt.machine ≠ some ⟨0⟩ ∧
      (run [.down DownEnv.allOk, .down DownEnv.allOk] twoUps).host.vms[0]? = some vm ∧
      (run [.down DownEnv.allOk, .down DownEnv.allOk] twoUps).rt.machine ≠ some ⟨0⟩ :=
  ⟨rfl, rfl, _, rfl, by decide, run_orphan _ rfl (by decide)⟩

end Rik.Riklet
