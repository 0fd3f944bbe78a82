/-
# The data both halves of rik pass around

The riklet's function runtime and the controller's workload routes both read a workload
definition, and the runtime reports every failure as one `RuntimeError`.  The crates that
declare the definition (`structs`, `definition::workload`) are not part of the extract, so the
definition here keeps what the spec's schema (§3, §6) gives and the modelled functions read:
the kind, the name and the function spec's rootfs url.

Errors raised by the libraries the code calls (curl, firepilot, serde, the network fabric) are
opaque: a `LibError` only tells one failure from another.  `IoError` keeps the kinds the
filesystem model of `Rik.Fs` produces.
-/
import Mathlib.Data.List.Basic

namespace Rik

/-- A byte string: a file's contents, or a response body. -/
abbrev Bytes := List UInt8

/-- An error raised inside a library the repository calls; only its identity matters here. -/
structure LibError where
  code : Nat
  deriving DecidableEq, Repr

/-- `std::io::Error`, by the kinds the filesystem calls modelled here return. -/
inductive IoError where
  | alreadyExists
  | notFound
  | isADirectory
  /-- A failure the model does not derive from the filesystem's contents: a permission, a
  full disk, an interrupted write. -/
  | other (code : Nat)
  deriving DecidableEq, Repr

/-- `runtime::RuntimeError`: the variants the function runtime raises. -/
inductive RuntimeError where
  | parsingError (e : LibError)
  | fetchingError (e : LibError)
  | ioError (e : IoError)
  | networkError (e : LibError)
  | firepilotConfiguration (e : LibError)
  | firecrackerError (e : LibError)
  | notRunning (msg : String)
  | error (msg : String)
  deriving DecidableEq, Repr

/-- A `Result` is compared like any value, so that runs on concrete inputs can be decided. -/
instance instDecidableEqExcept {ε α : Type} [DecidableEq ε] [DecidableEq α] :
    DecidableEq (Except ε α)
  | .ok a, .ok b => decidable_of_iff (a = b) (by simp)
  | .error a, .error b => decidable_of_iff (a = b) (by simp)
  | .ok _, .error _ => isFalse (by simp)
  | .error _, .ok _ => isFalse (by simp)

/-- Modelled from the spec: the function part of a workload's spec, `spec.function` (§3, §6). -/
structure FunctionSpec where
  rootfsUrl : String
  deriving DecidableEq, Repr

/-- Modelled from the spec: `WorkloadDefinition` (§3, §6), the fields the modelled functions
read.  `api_version` and `spec.containers` are read by nothing modelled here. -/
structure WorkloadDefinition where
  kind : String
  name : String
  function : Option FunctionSpec
  deriving DecidableEq, Repr

/-- Modelled from the spec: `WorkloadDefinition::get_rootfs_url`, the url of the function's
rootfs when the workload has a function spec. -/
def WorkloadDefinition.getRootfsUrl (w : WorkloadDefinition) : Option String :=
  w.function.map FunctionSpec.rootfsUrl

/-! ## Running `?`-style code

The riklet's methods are modelled in `ExceptT ε (StateM σ)`: `?` is a bind that stops at the
first error, and the state a method changed before the error stays changed, as `&mut self`
does.  These equations let a proof step through a `do` block without unfolding the monad. -/

section Monad

variable {ε σ α β : Type}

theorem bind_run (x : ExceptT ε (StateM σ) α) (f : α → ExceptT ε (StateM σ) β) (s : σ) :
    (x >>= f) s = match x s with
      | (.ok a, s') => f a s'
      | (.error e, s') => (.error e, s') := by
  simp only [bind, ExceptT.bind, ExceptT.mk, ExceptT.bindCont, StateT.bind]
  rcases x s with ⟨_ | _, _⟩ <;> rfl

theorem map_run (f : α → β) (x : ExceptT ε (StateM σ) α) (s : σ) :
    (f <$> x) s = match x s with
      | (.ok a, s') => (.ok (f a), s')
      | (.error e, s') => (.error e, s') := by
  show (ExceptT.map f x) s = _
  simp only [ExceptT.map, ExceptT.mk, bind, StateT.bind]
  rcases x s with ⟨_ | _, _⟩ <;> rfl

theorem tryCatch_run (x : ExceptT ε (StateM σ) α) (h : ε → ExceptT ε (StateM σ) α) (s : σ) :
    (tryCatch x h : ExceptT ε (StateM σ) α) s = match x s with
      | (.ok a, s') => (.ok a, s')
      | (.error e, s') => h e s' := by
  show (ExceptT.tryCatch x h) s = _
  simp only [ExceptT.tryCatch, ExceptT.mk, bind, StateT.bind]
  rcases x s with ⟨_ | _, _⟩ <;> rfl

@[simp] theorem pure_run (a : α) (s : σ) : (pure a : ExceptT ε (StateM σ) α) s = (.ok a, s) := rfl

@[simp] theorem throw_run (e : ε) (s : σ) :
    (throw e : ExceptT ε (StateM σ) α) s = (.error e, s) := rfl

@[simp] theorem get_run (s : σ) : (get : ExceptT ε (StateM σ) σ) s = (.ok s, s) := rfl

@[simp] theorem modify_run (f : σ → σ) (s : σ) :
    (modify f : ExceptT ε (StateM σ) PUnit) s = (.ok ⟨⟩, f s) := rfl

end Monad

/-! The router runs a handler inside `StateM`, where its `Result` is a value. -/

section State

variable {σ α β : Type}

@[simp] theorem stateBind_run (x : StateM σ α) (f : α → StateM σ β) (s : σ) :
    (x >>= f) s = f (x s).1 (x s).2 := rfl

@[simp] theorem stateMap_run (f : α → β) (x : StateM σ α) (s : σ) :
    (f <$> x) s = (f (x s).1, (x s).2) := rfl

@[simp] theorem statePure_run (a : α) (s : σ) : (pure a : StateM σ α) s = (a, s) := rfl

@[simp] theorem stateModify_run (f : σ → σ) (s : σ) :
    (modify f : StateM σ PUnit) s = (⟨⟩, f s) := rfl

end State

end Rik
