/-
# The controller's workload routes

`routes::workload::create` and `routes::workload::delete` (`workload.rs`) serve
`POST /api/v0/workloads.create` and `POST /api/v0/workloads.delete`.  Each handler makes its
store calls through `RikRepository` on the thread's own SQLite connection, one statement at a
time:

* `create` parses a `WorkloadDefinition`, names it `/workload/<kind>/default/<name>`, asks
  `check_duplicate_name` for that name and, when the lookup does not succeed, `insert`s it;
* `delete` parses an `OnlyId`, asks `find_one` for the element, sends `ApiChannel` `Delete`
  to the scheduler, and then deletes the row, unwrapping the result.

`Router::handle` turns the error of a handler's `?` into a `400` response.  An `unwrap` that
fails panics the worker thread: it unwinds, drops the request it was serving, and tiny_http
answers a request dropped unanswered with an empty `500` (`dropResponse`).

`RikRepository` is not part of the extract.  The store is modelled from the spec, as a table of
elements that a lookup by name, a lookup by id, an insert under a fresh id and a delete by id
read and write; nothing in the spec makes the store refuse a second row of one name.  A
handler's store calls take their outcome from the request, so a theorem over every request
is a theorem over every database error.

* `create_of_stored` -- **a create whose name is stored inserts nothing** and answers `404`,
  unless its lookup meets a database error;
* `create_of_fresh` -- otherwise it inserts one row, under the next id, and answers that id;
* `delete_of_found` -- a delete that finds its element sends one `Delete` and removes the row,
  or panics after the send when the store's delete fails.
-/
import Rik.Basic

namespace Rik.Controller

/-! ## 1. Messages, rows and the store -/

/-- `api::RikError`, by its display text: the routes raise it only from a failed `serde_json`
parse. -/
structure RikError where
  text : String
  deriving DecidableEq, Repr

/-- The `api::CRUD` action the workload routes send. -/
inductive CRUD where
  | delete
  deriving DecidableEq, Repr

/-- `api::ApiChannel`, a message to the scheduler. -/
structure ApiChannel where
  action : CRUD
  workloadId : Option Nat
  workloadDefinition : Option WorkloadDefinition
  instanceId : Option Nat
  deriving DecidableEq, Repr

/-- `logger::LogType`. -/
inductive LogType where
  | log
  | warn
  | error
  deriving DecidableEq, Repr

/-- `logger::LoggingChannel`. -/
structure LoggingChannel where
  message : String
  logType : LogType
  deriving DecidableEq, Repr

/-- A `tiny_http::Response`: its status code and its body. -/
structure Response where
  status : Nat
  body : String
  deriving DecidableEq, Repr

/-- `types::element::Element`, a row of the store, with its JSON value read back as the
definition it was written from. -/
structure Element where
  id : Nat
  name : String
  value : WorkloadDefinition
  deriving DecidableEq, Repr

/-- Modelled from the spec: the table behind `RikRepository` (§1, §9): its rows, and the id
the next insert gets.  Every stored id was handed out before. -/
structure Store where
  elements : List Element
  nextId : Nat
  ids_lt : ∀ e ∈ elements, e.id < nextId

/-- Modelled from the spec: `RikRepository::check_duplicate_name`, a lookup by name that
succeeds when an element of that name is stored (§9). -/
def Store.checkDuplicateName (s : Store) (name : String) : Option Element :=
  s.elements.find? (·.name == name)

/-- Modelled from the spec: `RikRepository::insert`, a new row under a fresh id.  Nothing
makes it refuse a name that is already stored. -/
def Store.insert (s : Store) (name : String) (value : WorkloadDefinition) : Store where
  elements := s.elements ++ [⟨s.nextId, name, value⟩]
  nextId := s.nextId + 1
  ids_lt e he := by
    rcases List.mem_append.mp he with he | he
    · exact Nat.lt_succ_of_lt (s.ids_lt e he)
    · simp_all

/-- Modelled from the spec: `RikRepository::find_one`, the row of an id, among those whose
name starts with the element type. -/
def Store.findOne (s : Store) (id : Nat) (type : String) : Option Element :=
  s.elements.find? fun e => e.id == id && type.toList.isPrefixOf e.name.toList

/-- Modelled from the spec: `RikRepository::delete`, which removes the row of an id. -/
def Store.delete (s : Store) (id : Nat) : Store where
  elements := s.elements.filter (·.id != id)
  nextId := s.nextId
  ids_lt e he := s.ids_lt e (List.mem_of_mem_filter he)

/-- The names of the stored rows. -/
def Store.names (s : Store) : List String := s.elements.map Element.name

theorem Store.checkDuplicateName_eq_none {s : Store} {name : String} :
    s.checkDuplicateName name = none ↔ name ∉ s.names := by
  simp [Store.checkDuplicateName, Store.names]

@[simp] theorem Store.names_insert (s : Store) (name : String) (value : WorkloadDefinition) :
    (s.insert name value).names = s.names ++ [name] := by
  simp [Store.insert, Store.names]

theorem Store.findOne_some {s : Store} {id : Nat} {type : String} {e : Element}
    (h : s.findOne id type = some e) : e ∈ s.elements ∧ e.id = id := by
  have hp := List.find?_some h
  simp only [Bool.and_eq_true, beq_iff_eq] at hp
  exact ⟨List.mem_of_find?_eq_some h, hp.1⟩

@[simp] theorem Store.mem_insert {s : Store} {name : String} {value : WorkloadDefinition}
    {e : Element} : e ∈ (s.insert name value).elements ↔ e ∈ s.elements ∨ e = ⟨s.nextId, name, value⟩ := by
  simp [Store.insert]

@[simp] theorem Store.insert_nextId (s : Store) (name : String) (value : WorkloadDefinition) :
    (s.insert name value).nextId = s.nextId + 1 := rfl

@[simp] theorem Store.delete_nextId (s : Store) (id : Nat) : (s.delete id).nextId = s.nextId := rfl

theorem Store.names_delete_sublist (s : Store) (id : Nat) : (s.delete id).names.Sublist s.names :=
  (List.filter_sublist _).map _

@[simp] theorem Store.mem_delete {s : Store} {id : Nat} {e : Element} :
    e ∈ (s.delete id).elements ↔ e ∈ s.elements ∧ e.id ≠ id := by
  simp [Store.delete]

/-! ## 2. The handlers -/

/-- What the workload routes change: the store, the scheduler's channel and the logger's. -/
structure Ctl where
  store : Store
  sent : List ApiChannel
  logs : List LoggingChannel

/-- How a handler stops early: the error of a `?`, or the panic of an `unwrap`. -/
inductive Abort where
  | rik (e : RikError)
  | panic
  deriving DecidableEq, Repr

/-- A handler over the routes' state. -/
abbrev CtlM := ExceptT Abort (StateM Ctl)

/-- A `workloads.create` request: what its body parses to, and whether each store call meets a
database error. -/
structure CreateReq where
  body : Except RikError WorkloadDefinition
  checkFails : Bool
  insertFails : Bool
  deriving DecidableEq, Repr

/-- A `workloads.delete` request: what its body parses to as an `OnlyId`, and whether each
store call meets a database error. -/
structure DeleteReq where
  body : Except RikError Nat
  findFails : Bool
  deleteFails : Bool
  deriving DecidableEq, Repr

/-- `serde_json::from_str(&content)?`. -/
def parse {α : Type} : Except RikError α → CtlM α
  | .ok a => pure a
  | .error e => throw (.rik e)

/-- The state with one more message sent to the logger. -/
def Ctl.addLog (C : Ctl) (message : String) (logType : LogType) : Ctl :=
  { C with logs := C.logs ++ [⟨message, logType⟩] }

/-- `logger.send(LoggingChannel { message, log_type }).unwrap()`. -/
def log (message : String) (logType : LogType) : CtlM Unit :=
  modify fun C => C.addLog message logType

/-- `format!("/workload/{}/{}/{}", workload.kind, namespace, workload.name)`, with the namespace
`"default"`. -/
def elementName (workload : WorkloadDefinition) : String :=
  "/workload/" ++ workload.kind ++ "/" ++ "default" ++ "/" ++ workload.name

/-- `serde_json::to_string(&OnlyId { id })`. -/
def onlyIdJson (id : Nat) : String := "\x7b\"id\":" ++ toString id ++ "\x7d"

/-- `RikRepository::check_duplicate_name(connection, &name)`: the element when the lookup
succeeds; a database error reads as no element. -/
def checkDuplicateName (fails : Bool) (name : String) : CtlM (Option Element) := fun C =>
  (.ok (if fails then none else C.store.checkDuplicateName name), C)

/-- `RikRepository::insert(connection, &name, &value)`: the inserted id, unless the insert
meets a database error. -/
def insert (fails : Bool) (name : String) (value : WorkloadDefinition) : CtlM (Option Nat) :=
  fun C => if fails then (.ok none, C)
    else (.ok (some C.store.nextId), { C with store := C.store.insert name value })

/-- `RikRepository::find_one(connection, &id, "/workload")`. -/
def findOne (fails : Bool) (id : Nat) : CtlM (Option Element) := fun C =>
  (.ok (if fails then none else C.store.findOne id "/workload"), C)

/-- `internal_sender.send(message).unwrap()`. -/
def send (message : ApiChannel) : CtlM Unit :=
  modify fun C => { C with sent := C.sent ++ [message] }

/-- `RikRepository::delete(connection, &id).unwrap()`: a failed delete panics. -/
def storeDelete (fails : Bool) (id : Nat) : CtlM Unit := fun C =>
  if fails then (.error .panic, C) else (.ok (), { C with store := C.store.delete id })

/-- `routes::workload::create`. -/
def create (r : CreateReq) : CtlM Response := do
  let workload ← parse r.body
  let name := elementName workload
  if (← checkDuplicateName r.checkFails name).isSome then
    log "Name already used" .warn
    return ⟨404, "Name already used"⟩
  match ← insert r.insertFails name workload with
  | some insertedId =>
    log ("Workload " ++ toString insertedId ++ " successfully created") .log
    return ⟨200, onlyIdJson insertedId⟩
  | none =>
    log "Cannot create workload" .error
    return ⟨500, "Cannot create workload"⟩

/-- `routes::workload::delete`.  The stored value is read back with `from_value(..).unwrap()`,
which the model takes to succeed. -/
def delete (r : DeleteReq) : CtlM Response := do
  let deleteId ← parse r.body
  match ← findOne r.findFails deleteId with
  | some workload =>
    send ⟨.delete, some deleteId, some workload.value, none⟩
    storeDelete r.deleteFails workload.id
    log "Delete workload" .log
    return ⟨204, ""⟩
  | none =>
    log ("Workload id " ++ toString deleteId ++ " not found") .error
    return ⟨404, "Workload id " ++ toString deleteId ++ " not found"⟩

/-- A request to one of the two workload routes. -/
inductive Request where
  | create (r : CreateReq)
  | delete (r : DeleteReq)
  deriving DecidableEq, Repr

/-- `Router::handle` on a workload request: the handler's answer, or a `400` with the text of
its error; `none` when the handler panicked, and `Router::handle` never returned. -/
def handle (req : Request) : StateM Ctl (Option Response) := do
  let res ← match req with
    | .create r => create r
    | .delete r => delete r
  match res with
  | .ok response => pure (some response)
  | .error (.rik e) =>
    modify fun C => C.addLog e.text .error
    pure (some ⟨400, e.text⟩)
  | .error .panic => pure none

/-- `tiny_http::Request`'s drop: a request dropped before it was answered is answered
`Response::empty(500)`.  A worker whose handler panics drops its request so, as it unwinds. -/
def dropResponse : Response := ⟨500, ""⟩

/-! ## 3. What one request does -/

section Handlers

variable {C : Ctl}

/-- **A create whose name is stored inserts nothing**: it answers `404`, unless its lookup
meets a database error. -/
theorem create_of_stored {r : CreateReq} {w : WorkloadDefinition} (hb : r.body = .ok w)
    (hc : r.checkFails = false) (hn : elementName w ∈ C.store.names) :
    create r C = (.ok ⟨404, "Name already used"⟩, C.addLog "Name already used" .warn) := by
  have hs : (C.store.checkDuplicateName (elementName w)).isSome := by
    simpa [Option.isSome_iff_ne_none, Store.checkDuplicateName_eq_none] using hn
  simp [create, bind_run, map_run, parse, hb, checkDuplicateName, hc, hs, log]

/-- A create whose lookup finds nothing inserts one row, under the next id, and answers it. -/
theorem create_of_fresh {r : CreateReq} {w : WorkloadDefinition} (hb : r.body = .ok w)
    (hc : r.checkFails = true ∨ elementName w ∉ C.store.names) (hi : r.insertFails = false) :
    create r C = (.ok ⟨200, onlyIdJson C.store.nextId⟩,
      ({ C with store := C.store.insert (elementName w) w }).addLog
        ("Workload " ++ toString C.store.nextId ++ " successfully created") .log) := by
  have hs : (if r.checkFails then none else C.store.checkDuplicateName (elementName w)) = none := by
    rcases hc with hc | hn
    · simp [hc]
    · simp [Store.checkDuplicateName_eq_none.mpr hn]
  simp [create, bind_run, map_run, parse, hb, checkDuplicateName, hs, insert, hi, log]

/-- **A delete that finds its element sends one `Delete` and removes the row**, or panics after
the send when the store's delete fails. -/
theorem delete_of_found {r : DeleteReq} {id : Nat} {e : Element} (hb : r.body = .ok id)
    (hf : r.findFails = false) (he : C.store.findOne id "/workload" = some e) :
    delete r C = if r.deleteFails then
      (.error .panic, { C with sent := C.sent ++ [⟨.delete, some id, some e.value, none⟩] })
    else (.ok ⟨204, ""⟩,
      Ctl.addLog { C with store := C.store.delete e.id,
                          sent := C.sent ++ [⟨.delete, some id, some e.value, none⟩] }
        "Delete workload" .log) := by
  cases hd : r.deleteFails <;>
    simp [delete, bind_run, map_run, parse, hb, findOne, hf, he, send, storeDelete, hd, log]

end Handlers

end Rik.Controller
