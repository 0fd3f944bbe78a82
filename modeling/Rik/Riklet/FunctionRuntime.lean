/-
# The function runtime: one microVM per instance

A `FunctionRuntime` (`function_runtime.rs`) owns one function instance: the rootfs that
`create_fs` gave it, its network, and, once `up` has succeeded, the handle of its microVM.
`up` makes five external calls in a row and stops at the first error (`?`):

1. `network.init()` -- a subnet lease and a bare tap device;
2. `generate_microvm_config()` -- kernel, drive, interface and executor, built in that order;
3. `Machine::new()` and `machine.create(config)` -- the microVM's socket and process;
4. `network.preboot()` -- the tap's address and the firewall rules;
5. `machine.start()`;

and only then stores the handle.  `down` asks for the handle, kills the microVM and destroys
the network, again stopping at the first error.

The network and firepilot's machine are not part of the extract.  The model keeps what the spec
says they do to the host (§3, §4.B, §4.C), one external call at a time: each call is logged,
takes its answer from an environment record, and changes the host only when it succeeds.  A
theorem over every environment is a theorem over every outcome of every call.

* `up_ok` -- after a successful `up` the instance's microVM runs with the configuration built
  from the instance, the network is wired, and `machine` holds the handle;
* `up_error` -- **a failed step fails `up`, and `up` undoes nothing**: whichever step fails,
  `up` returns its error, leaves `machine` as it was, and leaves on the host exactly what the
  steps before it made;
* `down_none` -- without a handle `down` returns `NotRunning` and calls nothing;
* `down_some` -- with one, `down` calls `network.destroy` exactly when the kill succeeded, and
  never gives up the handle.

`createRuntime_ok` ties the instance to `create_fs`: a fresh runtime holds no handle and
the path `create_fs` returned; `createRuntime_up` follows it through a first `up`, to the
microVM that boots that path.
-/
import Rik.Riklet.CreateFs

namespace Rik.Riklet

/-! ## 1. What an instance owns -/

/-- `BOOT_ARGS_STATIC`. -/
def bootArgsStatic : String :=
  "console=ttyS0 reboot=k nomodules random.trust_cpu=on panic=1 pci=off tsc=reliable i8042.nokbd i8042.noaux quiet loglevel=0"

/-- Modelled from the spec: `constants::DEFAULT_FIRECRACKER_WORKSPACE`, the executor's chroot
(§4.C). -/
def defaultFirecrackerWorkspace : String := "/srv/firecracker"

/-- Modelled from the spec: `cli::function_config::FnConfiguration`, the operator's kernel image
and Firecracker binary (§4.C). -/
structure FnConfiguration where
  kernelLocation : String
  firecrackerLocation : String
  deriving DecidableEq, Repr

/-- Modelled from the spec: `FunctionRuntimeNetwork`, the instance's addresses as they are
printed, and what `tap_name()` answers (§3, §4.B). -/
structure FunctionRuntimeNetwork where
  guestIp : String
  hostIp : String
  maskLong : String
  tapName : Except LibError String
  deriving DecidableEq, Repr

/-- A firepilot `Machine` that `create` has spawned: the index of its microVM among those the
instance spawned on the host. -/
structure Machine where
  vm : Nat
  deriving DecidableEq, Repr

/-- `FunctionRuntime`.  The doc comment of `machine` says it is `None` exactly when nothing is
running. -/
structure FunctionRuntime where
  id : String
  functionConfig : FnConfiguration
  filePath : String
  network : FunctionRuntimeNetwork
  machine : Option Machine
  deriving DecidableEq, Repr

/-! ## 2. The microVM configuration -/

/-- firepilot's kernel: image and boot arguments. -/
structure Kernel where
  kernelImagePath : String
  bootArgs : String
  deriving DecidableEq, Repr

/-- firepilot's drive. -/
structure Drive where
  driveId : String
  pathOnHost : String
  isRootDevice : Bool
  deriving DecidableEq, Repr

/-- firepilot's network interface. -/
structure NetworkInterface where
  ifaceId : String
  guestMac : String
  hostDevName : String
  deriving DecidableEq, Repr

/-- firepilot's executor. -/
structure Executor where
  chroot : String
  execBinary : String
  deriving DecidableEq, Repr

/-- firepilot's `Configuration`, as `generate_microvm_config` assembles it. -/
structure Configuration where
  vmId : String
  kernel : Kernel
  drive : Drive
  iface : NetworkInterface
  executor : Executor
  deriving DecidableEq, Repr

/-- What the four `try_build` calls and `generate_mac_addr` answer. -/
structure ConfigEnv where
  kernel : Except LibError Unit
  drive : Except LibError Unit
  iface : Except LibError Unit
  executor : Except LibError Unit
  mac : String

/-- A builder's `try_build().map_err(RuntimeError::FirepilotConfiguration)`. -/
def tryBuild {α : Type} (r : Except LibError Unit) (a : α) : Except RuntimeError α :=
  match r with
  | .ok () => .ok a
  | .error e => .error (.firepilotConfiguration e)

/-- The kernel arguments: `format!("{} ip={}::{}:{}::eth0:off", ...)`. -/
def kernelArgs (network : FunctionRuntimeNetwork) : String :=
  bootArgsStatic ++ " ip=" ++ network.guestIp ++ "::" ++ network.hostIp ++ ":" ++
    network.maskLong ++ "::eth0:off"

/-- `FunctionRuntime::generate_microvm_config`.  The unwrap of the kernel location is not
modelled: the location is a `String` here. -/
def FunctionRuntime.generateMicrovmConfig (self : FunctionRuntime) (env : ConfigEnv) :
    Except RuntimeError Configuration := do
  let kernel ← tryBuild env.kernel ⟨self.functionConfig.kernelLocation, kernelArgs self.network⟩
  let drive ← tryBuild env.drive ⟨"rootfs", self.filePath, true⟩
  let hostDevName ← self.network.tapName.mapError .networkError
  let netIface ← tryBuild env.iface ⟨"eth0", env.mac, hostDevName⟩
  let executor ← tryBuild env.executor
    ⟨defaultFirecrackerWorkspace, self.functionConfig.firecrackerLocation⟩
  pure ⟨self.id, kernel, drive, netIface, executor⟩

/-- **The configuration describes the instance**: the boot arguments carry its addresses, the
root drive is its rootfs, the interface is its tap, and the microVM is named by its id. -/
theorem generateMicrovmConfig_ok {self : FunctionRuntime} {env : ConfigEnv} {c : Configuration}
    (h : self.generateMicrovmConfig env = .ok c) :
    ∃ tap, self.network.tapName = .ok tap ∧
      c = ⟨self.id, ⟨self.functionConfig.kernelLocation, kernelArgs self.network⟩,
        ⟨"rootfs", self.filePath, true⟩, ⟨"eth0", env.mac, tap⟩,
        ⟨defaultFirecrackerWorkspace, self.functionConfig.firecrackerLocation⟩⟩ := by
  obtain ⟨id, ⟨kl, fl⟩, fp, ⟨gi, hi, ml, tap⟩, m⟩ := self
  obtain ⟨k, d, i, x, mac⟩ := env
  rcases k with _ | ⟨⟩ <;> rcases d with _ | ⟨⟩ <;> rcases tap with _ | tap <;>
    rcases i with _ | ⟨⟩ <;> rcases x with _ | ⟨⟩ <;> cases h
  exact ⟨_, rfl, rfl⟩

/-! ## 3. The host, and the calls that change it -/

/-- Modelled from the spec: where the network is in its lifecycle (§3, §4.B).  `allocated`
holds nothing on the host; `tapUp` holds a subnet lease and a bare tap device; `wired` adds the
tap's address and the three firewall rules; `destroyed` holds nothing again. -/
inductive NetPhase where
  | allocated
  | tapUp
  | wired
  | destroyed
  deriving DecidableEq, Repr

/-- Modelled from the spec: a microVM's state (§4.C): its socket and process exist, it runs,
or it was killed. -/
inductive VmPhase where
  | created
  | running
  | stopped
  deriving DecidableEq, Repr

/-- A microVM the instance spawned, with the configuration it was created from. -/
structure Vm where
  config : Configuration
  phase : VmPhase
  deriving DecidableEq, Repr

/-- What one instance holds on the host: its network's resources, and the microVMs it spawned
in the order it spawned them. -/
structure Host where
  net : NetPhase
  vms : List Vm
  deriving DecidableEq, Repr

/-- The external calls of `up` and `down`. -/
inductive HostCall where
  | networkInit
  | machineCreate
  | networkPreboot
  | machineStart
  | machineKill
  | networkDestroy
  deriving DecidableEq, Repr

/-- Everything `up` and `down` change: the instance, the host, and the calls made so far. -/
structure RtWorld where
  rt : FunctionRuntime
  host : Host
  calls : List HostCall
  deriving DecidableEq, Repr

/-- The runtime's `async` methods: `.await` and `?` are a bind. -/
abbrev RtM := ExceptT RuntimeError (StateM RtWorld)

/-- The host with its network taken to `phase`. -/
def Host.setNet (h : Host) (phase : NetPhase) : Host := { h with net := phase }

/-- The host with one more microVM, created from `config` and not started. -/
def Host.spawn (h : Host) (config : Configuration) : Host :=
  { h with vms := h.vms ++ [⟨config, .created⟩] }

/-- The host with its `i`-th microVM taken to `phase`. -/
def Host.setVm (h : Host) (i : Nat) (phase : VmPhase) : Host :=
  { h with vms := h.vms.modify (fun v => { v with phase }) i }

@[simp] theorem Host.setNet_net (h : Host) (phase : NetPhase) : (h.setNet phase).net = phase := rfl

@[simp] theorem Host.setNet_vms (h : Host) (phase : NetPhase) : (h.setNet phase).vms = h.vms := rfl

@[simp] theorem Host.setVm_net (h : Host) (i : Nat) (phase : VmPhase) :
    (h.setVm i phase).net = h.net := rfl

@[simp] theorem Host.setNet_setNet (h : Host) (p q : NetPhase) :
    (h.setNet p).setNet q = h.setNet q := rfl

@[simp] theorem Host.spawn_setNet (h : Host) (config : Configuration) (phase : NetPhase) :
    (h.setNet phase).spawn config = (h.spawn config).setNet phase := rfl

@[simp] theorem Host.setVm_setNet (h : Host) (i : Nat) (p : VmPhase) (q : NetPhase) :
    (h.setNet q).setVm i p = (h.setVm i p).setNet q := rfl

/-- Starting or killing the microVM just spawned. -/
@[simp] theorem Host.setVm_spawn (h : Host) (config : Configuration) (phase : VmPhase) :
    (h.spawn config).setVm h.vms.length phase = ⟨h.net, h.vms ++ [⟨config, phase⟩]⟩ := by
  obtain ⟨net, vms⟩ := h
  simp only [Host.spawn, Host.setVm, Host.mk.injEq, true_and]
  induction vms <;> simp_all

/-- One awaited call to the network or the microVM, its error mapped by `wrap`: the call is
made whatever it answers, and changes the host by `effect` only when it succeeds. -/
def hostCall (op : HostCall) (wrap : LibError → RuntimeError) (effect : Host → Host)
    (r : Except LibError Unit) : RtM Unit := fun W =>
  match r with
  | .ok () => (.ok (), { W with host := effect W.host, calls := W.calls ++ [op] })
  | .error e => (.error (wrap e), { W with calls := W.calls ++ [op] })

@[simp] theorem hostCall_ok (op : HostCall) (wrap : LibError → RuntimeError) (effect : Host → Host)
    (W : RtWorld) :
    hostCall op wrap effect (.ok ()) W =
      (.ok (), { W with host := effect W.host, calls := W.calls ++ [op] }) := rfl

@[simp] theorem hostCall_error (op : HostCall) (wrap : LibError → RuntimeError)
    (effect : Host → Host) (e : LibError) (W : RtWorld) :
    hostCall op wrap effect (.error e) W = (.error (wrap e), { W with calls := W.calls ++ [op] }) :=
  rfl

/-- `self.network.init().await.map_err(RuntimeError::NetworkError)`. -/
def networkInit : Except LibError Unit → RtM Unit :=
  hostCall .networkInit .networkError fun h => h.setNet .tapUp

/-- `self.network.preboot().await.map_err(RuntimeError::NetworkError)`. -/
def networkPreboot : Except LibError Unit → RtM Unit :=
  hostCall .networkPreboot .networkError fun h => h.setNet .wired

/-- `self.network.destroy().await.map_err(RuntimeError::NetworkError)`. -/
def networkDestroy : Except LibError Unit → RtM Unit :=
  hostCall .networkDestroy .networkError fun h => h.setNet .destroyed

/-- `Machine::new()`, then `machine.create(vm_config).await.map_err(RuntimeError::FirecrackerError)`:
the handle names the microVM the call spawns. -/
def machineCreate (vmConfig : Configuration) (r : Except LibError Unit) : RtM Machine := do
  let machine : Machine := ⟨(← get).host.vms.length⟩
  hostCall .machineCreate .firecrackerError (fun h => h.spawn vmConfig) r
  pure machine

/-- `machine.start().await.map_err(RuntimeError::FirecrackerError)`. -/
def machineStart (machine : Machine) : Except LibError Unit → RtM Unit :=
  hostCall .machineStart .firecrackerError fun h => h.setVm machine.vm .running

/-- `machine.kill().await.map_err(RuntimeError::FirecrackerError)`. -/
def machineKill (machine : Machine) : Except LibError Unit → RtM Unit :=
  hostCall .machineKill .firecrackerError fun h => h.setVm machine.vm .stopped

/-! ## 4. `up` and `down` -/

/-- What one `up` is answered by the network, the builders and the machine. -/
structure UpEnv where
  init : Except LibError Unit
  config : ConfigEnv
  create : Except LibError Unit
  preboot : Except LibError Unit
  start : Except LibError Unit

/-- What one `down` is answered by the machine and the network. -/
structure DownEnv where
  kill : Except LibError Unit
  destroy : Except LibError Unit

/-- A `Result` the code unwraps with `?`. -/
def liftResult {α : Type} : Except RuntimeError α → RtM α
  | .ok a => pure a
  | .error e => throw e

/-- `Runtime::up` for `FunctionRuntime`. -/
def up (env : UpEnv) : RtM Unit := do
  networkInit env.init
  let vmConfig ← liftResult ((← get).rt.generateMicrovmConfig env.config)
  let machine ← machineCreate vmConfig env.create
  networkPreboot env.preboot
  machineStart machine env.start
  modify fun W => { W with rt := { W.rt with machine := some machine } }

/-- `Runtime::down` for `FunctionRuntime`.  `self.machine.as_mut()` borrows the handle: it stays
in `machine` whatever happens next. -/
def down (env : DownEnv) : RtM Unit := do
  let W ← get
  let machine ← match W.rt.machine with
    | some machine => pure machine
    | none => throw (.notRunning ("microVM " ++ W.rt.id ++ " is not running"))
  machineKill machine env.kill
  networkDestroy env.destroy

/-- The instance `inst-1` of the workload `hello`, as `create_runtime` makes it. -/
def inst1 : FunctionRuntime :=
  ⟨"inst-1", ⟨"/srv/vmlinux", "/usr/bin/firecracker"⟩, "/tmp/hello/rootfs.ext4",
    ⟨"10.0.0.2", "10.0.0.1", "255.255.255.252", .ok "tap_inst1"⟩, none⟩

/-- `inst-1` on a host where it holds nothing yet. -/
def inst1World : RtWorld := ⟨inst1, ⟨.allocated, []⟩, []⟩

/-- Every builder succeeds. -/
def ConfigEnv.allOk : ConfigEnv := ⟨.ok (), .ok (), .ok (), .ok (), "02:00:00:00:00:01"⟩

/-- Every call of `up` succeeds. -/
def UpEnv.allOk : UpEnv := ⟨.ok (), .allOk, .ok (), .ok (), .ok ()⟩

/-- Every call of `down` succeeds. -/
def DownEnv.allOk : DownEnv := ⟨.ok (), .ok ()⟩

/-! ## 5. What one `up` does -/

section Up

variable {env : UpEnv} {W : RtWorld}

theorem up_of_init_error {e : LibError} (hi : env.init = .error e) :
    up env W = (.error (.networkError e), { W with calls := W.calls ++ [.networkInit] }) := by
  simp [up, bind_run, networkInit, hi]

theorem up_of_config_error (hi : env.init = .ok ()) {e : RuntimeError}
    (hc : W.rt.generateMicrovmConfig env.config = .error e) :
    up env W = (.error e,
      { W with host := W.host.setNet .tapUp, calls := W.calls ++ [.networkInit] }) := by
  simp [up, bind_run, networkInit, hi, hc, liftResult]

theorem up_of_create_error (hi : env.init = .ok ()) {c : Configuration}
    (hc : W.rt.generateMicrovmConfig env.config = .ok c) {e : LibError}
    (hm : env.create = .error e) :
    up env W = (.error (.firecrackerError e),
      { W with host := W.host.setNet .tapUp, calls := W.calls ++ [.networkInit, .machineCreate] }) := by
  simp [up, bind_run, networkInit, hi, hc, liftResult, machineCreate, hm]

theorem up_of_preboot_error (hi : env.init = .ok ()) {c : Configuration}
    (hc : W.rt.generateMicrovmConfig env.config = .ok c) (hm : env.create = .ok ()) {e : LibError}
    (hp : env.preboot = .error e) :
    up env W = (.error (.networkError e),
      { W with host := (W.host.setNet .tapUp).spawn c,
               calls := W.calls ++ [.networkInit, .machineCreate, .networkPreboot] }) := by
  simp [up, bind_run, networkInit, hi, hc, liftResult, machineCreate, hm, networkPreboot, hp]

theorem up_of_start_error (hi : env.init = .ok ()) {c : Configuration}
    (hc : W.rt.generateMicrovmConfig env.config = .ok c) (hm : env.create = .ok ())
    (hp : env.preboot = .ok ()) {e : LibError} (hs : env.start = .error e) :
    up env W = (.error (.firecrackerError e),
      { W with host := (W.host.setNet .wired).spawn c,
               calls := W.calls ++ [.networkInit, .machineCreate, .networkPreboot, .machineStart] }) := by
  simp [up, bind_run, networkInit, hi, hc, liftResult, machineCreate, hm, networkPreboot, hp,
    machineStart, hs, Host.setNet, Host.spawn]

theorem up_of_ok (hi : env.init = .ok ()) {c : Configuration}
    (hc : W.rt.generateMicrovmConfig env.config = .ok c) (hm : env.create = .ok ())
    (hp : env.preboot = .ok ()) (hs : env.start = .ok ()) :
    up env W = (.ok (),
      ⟨{ W.rt with machine := some ⟨W.host.vms.length⟩ }, ⟨.wired, W.host.vms ++ [⟨c, .running⟩]⟩,
        W.calls ++ [.networkInit, .machineCreate, .networkPreboot, .machineStart]⟩) := by
  simp [up, bind_run, networkInit, hi, hc, liftResult, machineCreate, hm, networkPreboot, hp,
    machineStart, hs]
  rfl

/-- **After a successful `up` the instance's microVM runs**, created from the configuration
built from the instance; the network is wired and `machine` holds the handle. -/
theorem up_ok (h : (up env W).1 = .ok ()) :
    ∃ c, W.rt.generateMicrovmConfig env.config = .ok c ∧
      (up env W).2 = ⟨{ W.rt with machine := some ⟨W.host.vms.length⟩ },
        ⟨.wired, W.host.vms ++ [⟨c, .running⟩]⟩,
        W.calls ++ [.networkInit, .machineCreate, .networkPreboot, .machineStart]⟩ := by
  rcases hi : env.init with e | ⟨⟩
  · simp [up_of_init_error hi] at h
  rcases hc : W.rt.generateMicrovmConfig env.config with e | c
  · simp [up_of_config_error hi hc] at h
  rcases hm : env.create with e | ⟨⟩
  · simp [up_of_create_error hi hc hm] at h
  rcases hp : env.preboot with e | ⟨⟩
  · simp [up_of_preboot_error hi hc hm hp] at h
  rcases hs : env.start with e | ⟨⟩
  · simp [up_of_start_error hi hc hm hp hs] at h
  exact ⟨c, rfl, by rw [up_of_ok hi hc hm hp hs]⟩

/-- **What one `up` does to the instance and the microVMs**: it fails, leaving the instance as
it was and at most one microVM more; or it succeeds, adding one microVM and moving the handle
onto it. -/
theorem up_effect (env : UpEnv) (W : RtWorld) :
    ((∃ e, (up env W).1 = .error e) ∧ (up env W).2.rt = W.rt ∧
      ∃ new : List Vm, new.length ≤ 1 ∧ (up env W).2.host.vms = W.host.vms ++ new) ∨
    ((up env W).1 = .ok () ∧ (up env W).2.rt = { W.rt with machine := some ⟨W.host.vms.length⟩ } ∧
      ∃ vm, (up env W).2.host.vms = W.host.vms ++ [vm]) := by
  rcases hi : env.init with e | ⟨⟩
  · exact .inl ⟨⟨_, by rw [up_of_init_error hi]⟩, by rw [up_of_init_error hi], [], by simp,
      by simp [up_of_init_error hi]⟩
  rcases hc : W.rt.generateMicrovmConfig env.config with e | c
  · exact .inl ⟨⟨_, by rw [up_of_config_error hi hc]⟩, by rw [up_of_config_error hi hc], [],
      by simp, by simp [up_of_config_error hi hc]⟩
  rcases hm : env.create with e | ⟨⟩
  · exact .inl ⟨⟨_, by rw [up_of_create_error hi hc hm]⟩, by rw [up_of_create_error hi hc hm], [],
      by simp, by simp [up_of_create_error hi hc hm]⟩
  rcases hp : env.preboot with e | ⟨⟩
  · exact .inl ⟨⟨_, by rw [up_of_preboot_error hi hc hm hp]⟩, by rw [up_of_preboot_error hi hc hm hp],
      [⟨c, .created⟩], by simp, by simp [up_of_preboot_error hi hc hm hp, Host.spawn]⟩
  rcases hs : env.start with e | ⟨⟩
  · exact .inl ⟨⟨_, by rw [up_of_start_error hi hc hm hp hs]⟩,
      by rw [up_of_start_error hi hc hm hp hs], [⟨c, .created⟩], by simp,
      by simp [up_of_start_error hi hc hm hp hs, Host.spawn]⟩
  · exact .inr ⟨by rw [up_of_ok hi hc hm hp hs], by rw [up_of_ok hi hc hm hp hs], ⟨c, .running⟩,
      by rw [up_of_ok hi hc hm hp hs]⟩

/-- **A failed step fails `up`, and undoes nothing.**  Whichever step of `up` fails, `up`
returns that step's error as the source maps it, makes no call after it, leaves the instance
(its `machine` included) as it was, and leaves on the host exactly what the steps before it
made: the lease and the tap of `init`, the microVM of `create`, the address and rules of
`preboot`. -/
theorem up_error (env : UpEnv) (W : RtWorld) :
    (∀ e, env.init = .error e →
      up env W = (.error (.networkError e), ⟨W.rt, W.host, W.calls ++ [.networkInit]⟩)) ∧
    (∀ e, env.init = .ok () → W.rt.generateMicrovmConfig env.config = .error e →
      up env W = (.error e, ⟨W.rt, ⟨.tapUp, W.host.vms⟩, W.calls ++ [.networkInit]⟩)) ∧
    (∀ c e, env.init = .ok () → W.rt.generateMicrovmConfig env.config = .ok c →
      env.create = .error e →
      up env W = (.error (.firecrackerError e),
        ⟨W.rt, ⟨.tapUp, W.host.vms⟩, W.calls ++ [.networkInit, .machineCreate]⟩)) ∧
    (∀ c e, env.init = .ok () → W.rt.generateMicrovmConfig env.config = .ok c →
      env.create = .ok () → env.preboot = .error e →
      up env W = (.error (.networkError e), ⟨W.rt, ⟨.tapUp, W.host.vms ++ [⟨c, .created⟩]⟩,
        W.calls ++ [.networkInit, .machineCreate, .networkPreboot]⟩)) ∧
    (∀ c e, env.init = .ok () → W.rt.generateMicrovmConfig env.config = .ok c →
      env.create = .ok () → env.preboot = .ok () → env.start = .error e →
      up env W = (.error (.firecrackerError e), ⟨W.rt, ⟨.wired, W.host.vms ++ [⟨c, .created⟩]⟩,
        W.calls ++ [.networkInit, .machineCreate, .networkPreboot, .machineStart]⟩)) :=
  ⟨fun _ hi => up_of_init_error hi, fun _ hi hc => up_of_config_error hi hc,
    fun _ _ hi hc hm => up_of_create_error hi hc hm,
    fun _ _ hi hc hm hp => up_of_preboot_error hi hc hm hp,
    fun _ _ hi hc hm hp hs => up_of_start_error hi hc hm hp hs⟩

/-- `up` on `inst-1` when `machine.create` fails. -/
def createFails : UpEnv := { UpEnv.allOk with create := .error ⟨1⟩ }

theorem up_error_createFails :
    up createFails inst1World =
      (.error (.firecrackerError ⟨1⟩), ⟨inst1, ⟨.tapUp, []⟩, [.networkInit, .machineCreate]⟩) :=
  (up_error createFails inst1World).2.2.1 _ ⟨1⟩ rfl rfl rfl

/-- **A failed `up` leaves its tap behind.**  On `inst-1`, `network.init` succeeds and
`machine.create` fails: `up` returns the create's error with the subnet lease and the tap still
held, where the instance held nothing before. -/
theorem up_create_error_keeps_tap :
    (up createFails inst1World).1 = .error (.firecrackerError ⟨1⟩) ∧
    (up createFails inst1World).2.host = ⟨.tapUp, []⟩ ∧
    (up createFails inst1World).2.host ≠ inst1World.host :=
  ⟨rfl, rfl, by decide⟩

end Up

/-! ## 6. What one `down` does -/

section Down

variable {env : DownEnv} {W : RtWorld}

/-- **Without a handle `down` is `NotRunning`**, and calls nothing. -/
theorem down_none (hm : W.rt.machine = none) :
    down env W = (.error (.notRunning ("microVM " ++ W.rt.id ++ " is not running")), W) := by
  simp [down, bind_run, hm]

/-- **`down` destroys the network exactly when the kill succeeded**, and keeps the handle.  A
failed kill is returned as it is, with the network's lease, tap and rules left in place;
after a successful kill `down` returns what `destroy` answers. -/
theorem down_some {m : Machine} (hm : W.rt.machine = some m) :
    (down env W).2.rt = W.rt ∧
    ((∃ e, env.kill = .error e ∧ (down env W).1 = .error (.firecrackerError e) ∧
        (down env W).2.host = W.host ∧ (down env W).2.calls = W.calls ++ [.machineKill]) ∨
     (env.kill = .ok () ∧ (down env W).1 = env.destroy.mapError .networkError ∧
        (down env W).2.host.vms = (W.host.setVm m.vm .stopped).vms ∧
        (down env W).2.host.net = (if env.destroy = .ok () then .destroyed else W.host.net) ∧
        (down env W).2.calls = W.calls ++ [.machineKill, .networkDestroy])) := by
  obtain ⟨k, d⟩ := env
  rcases k with e | ⟨⟨⟩⟩
  · simp [down, bind_run, hm, machineKill]
  · rcases d with e | ⟨⟨⟩⟩ <;> simp [down, bind_run, hm, machineKill, networkDestroy, Except.mapError]

/-- `down` never changes the instance: it borrows the handle and gives nothing up. -/
theorem down_rt (env : DownEnv) (W : RtWorld) : (down env W).2.rt = W.rt := by
  rcases hm : W.rt.machine with _ | m
  · rw [down_none hm]
  · obtain ⟨k, d⟩ := env
    rcases k with e | ⟨⟨⟩⟩ <;> rcases d with e | ⟨⟨⟩⟩ <;>
      simp [down, bind_run, hm, machineKill, networkDestroy]

/-- `down` never gives up the handle: `machine` is the same before and after. -/
theorem down_machine (env : DownEnv) (W : RtWorld) : (down env W).2.rt.machine = W.rt.machine := by
  rw [down_rt]

/-- `down` stops no microVM but the one its handle holds. -/
theorem down_vms (env : DownEnv) (W : RtWorld) :
    (down env W).2.host.vms = W.host.vms ∨
      ∃ m, W.rt.machine = some m ∧ (down env W).2.host.vms = (W.host.setVm m.vm .stopped).vms := by
  rcases hm : W.rt.machine with _ | m
  · exact .inl (by rw [down_none hm])
  · obtain ⟨k, d⟩ := env
    rcases k with e | ⟨⟨⟩⟩
    · exact .inl (by simp [down, bind_run, hm, machineKill])
    · rcases d with e | ⟨⟨⟩⟩ <;>
        exact .inr ⟨m, rfl, by simp [down, bind_run, hm, machineKill, networkDestroy]⟩

/-- `inst-1` after an `up` whose calls all succeeded. -/
def inst1Running : RtWorld := (up UpEnv.allOk inst1World).2

/-- `down` on a running `inst-1` whose kill fails. -/
def killFails : DownEnv := { DownEnv.allOk with kill := .error ⟨2⟩ }

theorem down_some_killFails :
    inst1Running.rt.machine = some ⟨0⟩ ∧
    ((down killFails inst1Running).2.rt = inst1Running.rt ∧
    ((∃ e, killFails.kill = .error e ∧ (down killFails inst1Running).1 = .error (.firecrackerError e) ∧
        (down killFails inst1Running).2.host = inst1Running.host ∧
        (down killFails inst1Running).2.calls = inst1Running.calls ++ [.machineKill]) ∨
     (killFails.kill = .ok () ∧
        (down killFails inst1Running).1 = killFails.destroy.mapError .networkError ∧
        (down killFails inst1Running).2.host.vms = (inst1Running.host.setVm 0 .stopped).vms ∧
        (down killFails inst1Running).2.host.net =
          (if killFails.destroy = .ok () then .destroyed else inst1Running.host.net) ∧
        (down killFails inst1Running).2.calls =
          inst1Running.calls ++ [.machineKill, .networkDestroy]))) :=
  ⟨rfl, down_some rfl⟩

/-- **A failed kill skips the network's teardown.**  `inst-1` runs and its kill fails: `down`
returns the kill's error without calling `network.destroy`, and the tap, its rules and the
lease stay. -/
theorem down_kill_error_keeps_network :
    (down killFails inst1Running).1 = .error (.firecrackerError ⟨2⟩) ∧
    (down killFails inst1Running).2.calls = inst1Running.calls ++ [.machineKill] ∧
    .networkDestroy ∉ (down killFails inst1Running).2.calls ∧
    (down killFails inst1Running).2.host.net = .wired :=
  ⟨rfl, rfl, by decide, rfl⟩

end Down

/-! ## 7. `create_runtime` -/

/-- `proto::worker::InstanceScheduling`, the fields `create_runtime` reads. -/
structure InstanceScheduling where
  instanceId : String
  definition : String
  deriving DecidableEq, Repr

/-- What the calls of one `create_runtime` answer, `create_fs`'s included. -/
structure RuntimeEnv where
  /-- `serde_json::from_str` on a workload definition. -/
  parse : String → Except LibError WorkloadDefinition
  /-- `FnConfiguration::load()`. -/
  fnConfig : FnConfiguration
  fs : FsEnv
  /-- Modelled from the spec: `FunctionRuntimeNetwork::new(&workload)`, which allocates the
  network's addresses and holds nothing on the host yet (§4.E). -/
  newNetwork : InstanceScheduling → Except LibError FunctionRuntimeNetwork

/-- `RuntimeManager::create_runtime` for `FunctionRuntimeManager`.  The fields are evaluated in
the order the struct literal writes them, so the rootfs is fetched before the network is
made. -/
def createRuntime (env : RuntimeEnv) (workload : InstanceScheduling) : FsM FunctionRuntime := do
  let workloadDefinition ← match env.parse workload.definition with
    | .ok w => pure w
    | .error e => throw (.parsingError e)
  let functionConfig := env.fnConfig
  let filePath ← createFs env.fs workloadDefinition
  let network ← match env.newNetwork workload with
    | .ok n => pure n
    | .error e => throw (.networkError e)
  pure ⟨workload.instanceId, functionConfig, filePath, network, none⟩

/-- **A new instance runs nothing.**  `create_runtime` returns an instance only after
`create_fs` returned its rootfs, and the instance holds that path, the network made for it and
no machine. -/
theorem createRuntime_ok {env : RuntimeEnv} {workload : InstanceScheduling} {W : World}
    {rt : FunctionRuntime} (h : (createRuntime env workload W).1 = .ok rt) :
    rt.machine = none ∧ rt.id = workload.instanceId ∧ rt.functionConfig = env.fnConfig ∧
    env.newNetwork workload = .ok rt.network ∧
    ∃ w, env.parse workload.definition = .ok w ∧
      createFs env.fs w W = (.ok rt.filePath, (createRuntime env workload W).2) ∧
      OkSpec env.fs w W (createRuntime env workload W).2 rt.filePath := by
  rcases hp : env.parse workload.definition with e | w
  · simp [createRuntime, bind_run, hp] at h
  rcases hc : createFs env.fs w W with ⟨_ | p, Wc⟩
  · simp [createRuntime, bind_run, hp, hc] at h
  rcases hn : env.newNetwork workload with e | n
  · simp [createRuntime, bind_run, hp, hc, hn] at h
  simp only [createRuntime, bind_run, hp, hc, hn, pure_run, Except.ok.injEq] at h ⊢
  subst h
  have hok := createFs_ok (show (createFs env.fs w W).1 = .ok p by rw [hc])
  rw [hc] at hok
  exact ⟨rfl, rfl, rfl, rfl, w, rfl, hc, hok⟩

/-- A host where only `/tmp` exists. -/
def withTmp : World := ⟨Fs.root.mkdir "tmp" [] rfl, []⟩

/-- The scheduling of `inst-1`. -/
def inst1Scheduling : InstanceScheduling :=
  ⟨"inst-1", "\x7b\"kind\":\"function\",\"name\":\"hello\"\x7d"⟩

/-- `create_runtime` for `inst-1` with every call succeeding: its definition parses to the
workload `hello`, and the network is the one `inst-1` holds. -/
def inst1Env : RuntimeEnv :=
  ⟨fun _ => .ok ⟨"function", "hello", some ⟨"http://registry/rootfs.ext4"⟩⟩, inst1.functionConfig,
    .allOk [1], fun _ => .ok inst1.network⟩

/-- **A new instance boots the rootfs `create_fs` gave it.**  When `create_runtime` returns an
instance and an `up` of it succeeds, the host runs one microVM more, named by the instance id,
booting the loaded kernel with the network's addresses in its arguments, with the path
`create_fs` returned as its root drive -- the entry `exists` found, or a fresh file holding
the body of a 200 response -- and the network's tap as its interface; the handle holds it. -/
theorem createRuntime_up {env : RuntimeEnv} {workload : InstanceScheduling} {W : World}
    {rt : FunctionRuntime} (h : (createRuntime env workload W).1 = .ok rt) {upEnv : UpEnv}
    {host : Host} {calls : List HostCall} (hup : (up upEnv ⟨rt, host, calls⟩).1 = .ok ()) :
    ∃ w tap, env.parse workload.definition = .ok w ∧ env.newNetwork workload = .ok rt.network ∧
      rt.network.tapName = .ok tap ∧
      OkSpec env.fs w W (createRuntime env workload W).2 rt.filePath ∧
      (up upEnv ⟨rt, host, calls⟩).2.rt.machine = some ⟨host.vms.length⟩ ∧
      (up upEnv ⟨rt, host, calls⟩).2.host.vms = host.vms ++
        [⟨⟨workload.instanceId, ⟨env.fnConfig.kernelLocation, kernelArgs rt.network⟩,
          ⟨"rootfs", rt.filePath, true⟩, ⟨"eth0", upEnv.config.mac, tap⟩,
          ⟨defaultFirecrackerWorkspace, env.fnConfig.firecrackerLocation⟩⟩, .running⟩] := by
  obtain ⟨-, hid, hfc, hnet, w, hp, -, hok⟩ := createRuntime_ok h
  obtain ⟨c, hc, hW⟩ := up_ok hup
  obtain ⟨tap, htap, rfl⟩ := generateMicrovmConfig_ok hc
  refine ⟨w, tap, hp, hnet, htap, hok, by rw [hW], ?_⟩
  rw [hW, ← hid, ← hfc]

theorem createRuntime_up_inst1 :
    (createRuntime inst1Env inst1Scheduling withTmp).1 = .ok inst1 ∧
    (up UpEnv.allOk ⟨inst1, ⟨.allocated, []⟩, []⟩).1 = .ok () ∧
    ∃ w tap, inst1Env.parse inst1Scheduling.definition = .ok w ∧
      inst1Env.newNetwork inst1Scheduling = .ok inst1.network ∧ inst1.network.tapName = .ok tap ∧
      OkSpec inst1Env.fs w withTmp (createRuntime inst1Env inst1Scheduling withTmp).2
        inst1.filePath ∧
      (up UpEnv.allOk ⟨inst1, ⟨.allocated, []⟩, []⟩).2.rt.machine = some ⟨0⟩ ∧
      (up UpEnv.allOk ⟨inst1, ⟨.allocated, []⟩, []⟩).2.host.vms = [] ++
        [⟨⟨inst1Scheduling.instanceId,
          ⟨inst1Env.fnConfig.kernelLocation, kernelArgs inst1.network⟩,
          ⟨"rootfs", inst1.filePath, true⟩, ⟨"eth0", UpEnv.allOk.config.mac, tap⟩,
          ⟨defaultFirecrackerWorkspace, inst1Env.fnConfig.firecrackerLocation⟩⟩, .running⟩] :=
  ⟨rfl, rfl, @createRuntime_up inst1Env inst1Scheduling withTmp inst1 rfl UpEnv.allOk ⟨.allocated, []⟩ [] rfl⟩

end Rik.Riklet
