/-
# The server's worker threads

`Server::run_server` (`external/mod.rs`) starts four threads.  Each opens its own connection to
the store, takes the next request with `server.recv()` and runs its handler, so the handlers
of different requests interleave at every store statement and channel send.  A thread here is
a program counter over the handlers of `Rik.Controller.Workload`, one step per store call or
send; a run is a schedule of thread steps.  `Pc.serve_eq` shows that a thread left alone
computes `handle`.

The two handlers check and then act, with no transaction around the pair:

* `create_race_duplicates` -- two creates of one name that both pass `check_duplicate_name`
  before either inserts leave **two rows of one name**;
* `delete_race_twice` -- two deletes of one id that both pass `find_one` before either
  deletes send **two `Delete` messages** for one removal.

Over the runs that keep such pairs apart, both properties hold (`workload_names_unique`,
`delete_notifications`): the invariants `NamesInv` and `DeleteInv` are kept by every step a
serialized schedule allows.
-/
import Rik.Controller.Workload
import Mathlib.Data.Fin.VecNotation
import Mathlib.Data.List.Nodup
import Mathlib.Logic.Function.Basic

namespace Rik.Controller

/-! ## 1. Threads and runs -/

/-- Where a worker thread is: blocked in `server.recv()`, before one of its handler's store
calls or sends, or stopped by a panic. -/
inductive Pc where
  | idle
  | checking (r : CreateReq) (w : WorkloadDefinition)
  | inserting (r : CreateReq) (w : WorkloadDefinition)
  | finding (r : DeleteReq) (id : Nat)
  | sending (r : DeleteReq) (id : Nat) (e : Element)
  | removing (r : DeleteReq) (id : Nat) (e : Element)
  | dead
  deriving DecidableEq, Repr

/-- A request's body, parsed by the thread that received it: the parse error is answered at
once, as `Router::handle` does. -/
def Pc.recv (req : Request) (C : Ctl) : Pc × Ctl × Option Response :=
  match req with
  | .create r => match r.body with
    | .ok w => (.checking r w, C, none)
    | .error e => (.idle, C.addLog e.text .error, some ⟨400, e.text⟩)
  | .delete r => match r.body with
    | .ok id => (.finding r id, C, none)
    | .error e => (.idle, C.addLog e.text .error, some ⟨400, e.text⟩)

/-- One store call or send of a thread, with the answer it gives when it finishes.  A failed
store delete panics: the thread is gone, and the request it drops is answered `dropResponse`. -/
def Pc.step (pc : Pc) (C : Ctl) : Pc × Ctl × Option Response :=
  match pc with
  | .checking r w =>
    if (if r.checkFails then none else C.store.checkDuplicateName (elementName w)).isSome then
      (.idle, C.addLog "Name already used" .warn, some ⟨404, "Name already used"⟩)
    else (.inserting r w, C, none)
  | .inserting r w =>
    if r.insertFails then
      (.idle, C.addLog "Cannot create workload" .error, some ⟨500, "Cannot create workload"⟩)
    else
      (.idle,
        ({ C with store := C.store.insert (elementName w) w }).addLog
          ("Workload " ++ toString C.store.nextId ++ " successfully created") .log,
        some ⟨200, onlyIdJson C.store.nextId⟩)
  | .finding r id =>
    match (if r.findFails then none else C.store.findOne id "/workload") with
    | some e => (.sending r id e, C, none)
    | none =>
      (.idle, C.addLog ("Workload id " ++ toString id ++ " not found") .error,
        some ⟨404, "Workload id " ++ toString id ++ " not found"⟩)
  | .sending r id e =>
    (.removing r id e, { C with sent := C.sent ++ [⟨.delete, some id, some e.value, none⟩] }, none)
  | .removing r _ e =>
    if r.deleteFails then (.dead, C, some dropResponse)
    else
      (.idle, ({ C with store := C.store.delete e.id }).addLog "Delete workload" .log,
        some ⟨204, ""⟩)
  | pc => (pc, C, none)

/-- The server: the routes' state, the requests not yet received, the answers given, and the
threads. -/
structure Server (n : Nat) where
  ctl : Ctl
  queue : List Request
  responses : List Response
  threads : Fin n → Pc

variable {n : Nat}

/-- What thread `i` does next: an idle thread receives the next request, if there is one. -/
def Server.next (s : Server n) (i : Fin n) : Pc × Ctl × Option Response :=
  match s.threads i, s.queue with
  | .idle, req :: _ => Pc.recv req s.ctl
  | pc, _ => pc.step s.ctl

/-- Thread `i` takes one step. -/
def Server.step (s : Server n) (i : Fin n) : Server n where
  ctl := (s.next i).2.1
  queue := if s.threads i = .idle then s.queue.tail else s.queue
  responses := s.responses ++ (s.next i).2.2.toList
  threads := Function.update s.threads i (s.next i).1

@[simp] theorem Server.step_ctl (s : Server n) (i : Fin n) : (s.step i).ctl = (s.next i).2.1 := rfl

theorem Server.step_threads (s : Server n) (i j : Fin n) :
    (s.step i).threads j = if j = i then (s.next i).1 else s.threads j := by
  simp only [Server.step, Function.update_apply]

/-- The server after the steps of a schedule. -/
def Server.run (s : Server n) (sched : List (Fin n)) : Server n := sched.foldl Server.step s

@[simp] theorem Server.run_nil (s : Server n) : s.run [] = s := rfl

@[simp] theorem Server.run_cons (s : Server n) (i : Fin n) (sched : List (Fin n)) :
    s.run (i :: sched) = (s.step i).run sched := rfl

/-- Every step of the schedule, in the state it is taken in, satisfies `p`. -/
def Server.runAll (p : Server n → Fin n → Bool) : Server n → List (Fin n) → Bool
  | _, [] => true
  | s, i :: sched => p s i && runAll p (s.step i) sched

/-- A thread left alone for `k` steps, with the answers it gives. -/
def Pc.solo : Nat → Pc → Ctl → Pc × Ctl × List Response
  | 0, pc, C => (pc, C, [])
  | k + 1, pc, C =>
    let next := pc.step C
    let rest := Pc.solo k next.1 next.2.1
    (rest.1, rest.2.1, next.2.2.toList ++ rest.2.2)

/-- A thread that receives `req` and is then left alone until it has answered. -/
def Pc.serve (req : Request) (C : Ctl) : Pc × Ctl × List Response :=
  let first := Pc.recv req C
  let rest := Pc.solo 3 first.1 first.2.1
  (rest.1, rest.2.1, first.2.2.toList ++ rest.2.2)

/-- **A thread left alone computes the handler**: the state `handle` leaves and one answer,
`handle`'s or, after a panic, the drop's; the thread is then idle, or dead after a panic. -/
theorem Pc.serve_eq (req : Request) (C : Ctl) :
    (Pc.serve req C).2.1 = (handle req C).2 ∧
    (Pc.serve req C).2.2 = [(handle req C).1.getD dropResponse] ∧
    ((Pc.serve req C).1 = .idle ∨ (Pc.serve req C).1 = .dead) := by
  rcases req with ⟨_ | w, cf, itf⟩ | ⟨_ | id, ff, df⟩
  · simp [Pc.serve, Pc.solo, Pc.recv, Pc.step, handle, create, bind_run, parse]
  · generalize hs : (if cf then none else C.store.checkDuplicateName (elementName w)) = found
    cases itf <;> rcases found with _ | e <;>
      simp [Pc.serve, Pc.solo, Pc.recv, Pc.step, handle, create, bind_run, map_run, parse,
        checkDuplicateName, insert, log, hs]
  · simp [Pc.serve, Pc.solo, Pc.recv, Pc.step, handle, delete, bind_run, parse]
  · generalize hf : (if ff then none else C.store.findOne id "/workload") = found
    cases df <;> rcases found with _ | e <;>
      simp [Pc.serve, Pc.solo, Pc.recv, Pc.step, handle, delete, bind_run, map_run, parse,
        findOne, send, storeDelete, log, hf]

/-! ## 2. What one step can do -/

/-- The name a thread is about to insert. -/
def Pc.creating : Pc → Option String
  | .inserting _ w => some (elementName w)
  | _ => none

/-- The id a thread has found and not yet deleted. -/
def Pc.deleting : Pc → Option Nat
  | .sending _ id _ => some id
  | .removing _ id _ => some id
  | _ => none

/-- The `Delete` message a delete of `id` sends for the element `e`. -/
abbrev deleteMessage (id : Nat) (e : Element) : ApiChannel := ⟨.delete, some id, some e.value, none⟩

/-- **Everything one step of a thread can do.**  Either it changes neither the store nor the
channel and neither holds nor takes a name or an id; or it is one of the six store calls and
sends of the handlers, each with its guard. -/
theorem Pc.step_cases (pc : Pc) (C : Ctl) :
    (pc.deleting = none ∧ (pc.step C).1.creating = none ∧ (pc.step C).1.deleting = none ∧
      (pc.step C).2.1.store = C.store ∧ (pc.step C).2.1.sent = C.sent) ∨
    (∃ r w, pc = .checking r w ∧ (r.checkFails = true ∨ elementName w ∉ C.store.names) ∧
      (pc.step C).1 = .inserting r w ∧ (pc.step C).2.1 = C) ∨
    (∃ r w, pc = .inserting r w ∧ r.insertFails = false ∧ (pc.step C).1 = .idle ∧
      (pc.step C).2.1.store = C.store.insert (elementName w) w ∧ (pc.step C).2.1.sent = C.sent) ∨
    (∃ r id e, pc = .finding r id ∧ r.findFails = false ∧ C.store.findOne id "/workload" = some e ∧
      (pc.step C).1 = .sending r id e ∧ (pc.step C).2.1 = C) ∨
    (∃ r id e, pc = .sending r id e ∧ (pc.step C).1 = .removing r id e ∧
      (pc.step C).2.1.store = C.store ∧ (pc.step C).2.1.sent = C.sent ++ [deleteMessage id e]) ∨
    (∃ r id e, pc = .removing r id e ∧ r.deleteFails = false ∧ (pc.step C).1 = .idle ∧
      (pc.step C).2.1.store = C.store.delete e.id ∧ (pc.step C).2.1.sent = C.sent) ∨
    (∃ r id e, pc = .removing r id e ∧ r.deleteFails = true ∧ (pc.step C).1 = .dead ∧
      (pc.step C).2.1 = C) := by
  cases pc with
  | checking r w =>
    by_cases h : (if r.checkFails then none else C.store.checkDuplicateName (elementName w)).isSome
    · exact .inl (by simp [Pc.step, h, Pc.creating, Pc.deleting, Ctl.addLog])
    · refine .inr (.inl ⟨r, w, rfl, ?_, by simp [Pc.step, h]⟩)
      cases hc : r.checkFails
      · simp_all [Store.checkDuplicateName_eq_none]
      · exact .inl rfl
  | inserting r w =>
    cases hi : r.insertFails
    · exact .inr (.inr (.inl ⟨r, w, rfl, hi, by simp [Pc.step, hi, Ctl.addLog]⟩))
    · exact .inl (by simp [Pc.step, hi, Pc.creating, Pc.deleting, Ctl.addLog])
  | finding r id =>
    rcases hf : (if r.findFails then none else C.store.findOne id "/workload") with _ | e
    · exact .inl (by simp [Pc.step, hf, Pc.creating, Pc.deleting, Ctl.addLog])
    · cases hr : r.findFails
      · have he : C.store.findOne id "/workload" = some e := by simpa [hr] using hf
        exact .inr (.inr (.inr (.inl ⟨r, id, e, rfl, hr, he, by simp [Pc.step, hr, he]⟩)))
      · simp [hr] at hf
  | sending r id e => exact .inr (.inr (.inr (.inr (.inl ⟨r, id, e, rfl, rfl, rfl, rfl⟩))))
  | removing r id e =>
    cases hd : r.deleteFails
    · exact .inr (.inr (.inr (.inr (.inr (.inl ⟨r, id, e, rfl, hd, by simp [Pc.step, hd, Ctl.addLog]⟩)))))
    · exact .inr (.inr (.inr (.inr (.inr (.inr ⟨r, id, e, rfl, hd, by simp [Pc.step, hd]⟩)))))
  | idle | dead => exact .inl ⟨rfl, rfl, rfl, rfl, rfl⟩

/-- Receiving a request changes neither the store nor the channel. -/
theorem Pc.recv_quiet (req : Request) (C : Ctl) :
    (Pc.recv req C).1.creating = none ∧ (Pc.recv req C).1.deleting = none ∧
      (Pc.recv req C).2.1.store = C.store ∧ (Pc.recv req C).2.1.sent = C.sent := by
  rcases req with ⟨_ | _, _, _⟩ | ⟨_ | _, _, _⟩ <;>
    simp [Pc.recv, Pc.creating, Pc.deleting, Ctl.addLog]

/-- A step of thread `i` is a step of its program counter, or the receipt of a request. -/
theorem Server.next_cases (s : Server n) (i : Fin n) :
    (∃ req, s.threads i = .idle ∧ s.next i = Pc.recv req s.ctl) ∨
      s.next i = (s.threads i).step s.ctl := by
  unfold Server.next
  split
  · next req _ h _ => exact .inl ⟨req, h, rfl⟩
  · exact .inr rfl

/-! ## 3. Names stay unique on serialized runs -/

/-- **The name invariant**: stored names are distinct, and a thread about to insert holds a
name that is neither stored nor held by another thread. -/
structure NamesInv (s : Server n) : Prop where
  nodup : s.ctl.store.names.Nodup
  fresh : ∀ j name, (s.threads j).creating = some name → name ∉ s.ctl.store.names
  unique : ∀ j k name, (s.threads j).creating = some name → (s.threads k).creating = some name →
    j = k

/-- A step that keeps creates of one name apart: a check meets no database error, and no
thread is between its own check and insert of that name. -/
def Server.createSerialized (s : Server n) (i : Fin n) : Bool :=
  match s.threads i with
  | .checking r w => !r.checkFails && decide (∀ j, (s.threads j).creating ≠ some (elementName w))
  | _ => true

section Names

variable {s : Server n} {i : Fin n}

theorem Server.step_creating (s : Server n) (i j : Fin n) :
    ((s.step i).threads j).creating =
      if j = i then (s.next i).1.creating else (s.threads j).creating := by
  rw [Server.step_threads]
  split_ifs <;> rfl

/-- A step that takes no name and only shrinks the store keeps the invariant. -/
theorem NamesInv.of_shrink (h : NamesInv s)
    (hsub : (s.step i).ctl.store.names.Sublist s.ctl.store.names)
    (hnew : (s.next i).1.creating = none) : NamesInv (s.step i) := by
  refine ⟨h.nodup.sublist hsub, fun j name hj => ?_, fun j k name hj hk => ?_⟩ <;>
    rw [Server.step_creating] at * <;> split_ifs at * <;> simp_all
  · exact fun hm => h.fresh j name hj (hsub.subset hm)
  · exact h.unique j k name hj hk

/-- A check that passes takes its name, which is neither stored nor held by another thread. -/
theorem NamesInv.check (h : NamesInv s) {name : String} (hfree : name ∉ s.ctl.store.names)
    (hothers : ∀ j, (s.threads j).creating ≠ some name)
    (hnew : (s.next i).1.creating = some name) (hC : (s.next i).2.1 = s.ctl) :
    NamesInv (s.step i) := by
  refine ⟨by rw [Server.step_ctl, hC]; exact h.nodup, fun j nm hj => ?_, fun j k nm hj hk => ?_⟩
  · rw [Server.step_ctl, hC]
    rw [Server.step_creating] at hj
    split_ifs at hj
    · rw [hnew, Option.some_inj] at hj
      exact hj ▸ hfree
    · exact h.fresh j nm hj
  · rw [Server.step_creating] at hj hk
    split_ifs at hj hk with hji hki
    · exact hji.trans hki.symm
    · rw [hnew, Option.some_inj] at hj
      exact (hothers k (hj ▸ hk)).elim
    · rw [hnew, Option.some_inj] at hk
      exact (hothers j (hk ▸ hj)).elim
    · exact h.unique j k nm hj hk

/-- An insert stores the name its thread held, and the thread lets it go. -/
theorem NamesInv.insert (h : NamesInv s) {r : CreateReq} {w : WorkloadDefinition}
    (ht : s.threads i = .inserting r w) (hp : (s.next i).1 = .idle)
    (hst : (s.next i).2.1.store = s.ctl.store.insert (elementName w) w) :
    NamesInv (s.step i) := by
  have hfree := h.fresh i (elementName w) (by simp [ht, Pc.creating])
  refine ⟨?_, fun j name hj => ?_, fun j k name hj hk => ?_⟩
  · rw [Server.step_ctl, hst, Store.names_insert, List.nodup_append]
    exact ⟨h.nodup, List.nodup_singleton _, by simpa using hfree⟩
  · rw [Server.step_creating] at hj
    split_ifs at hj with hji
    · simp [hp, Pc.creating] at hj
    · have hne : name ≠ elementName w := fun he =>
        hji (h.unique j i name hj (by simp [ht, Pc.creating, he]))
      simp [hst, h.fresh j name hj, hne]
  · rw [Server.step_creating] at hj hk
    split_ifs at hj hk <;> simp_all [Pc.creating]
    exact h.unique j k name hj hk

/-- **A serialized step keeps the name invariant**, one case per thing a step can do. -/
theorem NamesInv.step (h : NamesInv s) (hs : s.createSerialized i = true) :
    NamesInv (s.step i) := by
  rcases s.next_cases i with ⟨req, -, hn⟩ | hn
  · have q := Pc.recv_quiet req s.ctl
    rw [← hn] at q
    exact h.of_shrink (by rw [Server.step_ctl, q.2.2.1]) q.1
  rcases Pc.step_cases (s.threads i) s.ctl with
    ⟨-, hc, -, hst, -⟩ | ⟨r, w, ht, hfresh, hp, hC⟩ | ⟨r, w, ht, -, hp, hst, -⟩ |
    ⟨r, id, e, ht, -, -, hp, hC⟩ | ⟨r, id, e, ht, hp, hst, -⟩ | ⟨r, id, e, ht, -, hp, hst, -⟩ |
    ⟨r, id, e, ht, -, hp, hC⟩ <;> rw [← hn] at *
  · exact h.of_shrink (by rw [Server.step_ctl, hst]) hc
  · simp only [Server.createSerialized, ht, Bool.and_eq_true, Bool.not_eq_true',
      decide_eq_true_eq] at hs
    exact h.check (by simpa [hs.1] using hfresh) hs.2 (by simp [hp, Pc.creating]) hC
  · exact h.insert ht hp hst
  · exact h.of_shrink (by rw [Server.step_ctl, hC]) (by simp [hp, Pc.creating])
  · exact h.of_shrink (by rw [Server.step_ctl, hst]) (by simp [hp, Pc.creating])
  · exact h.of_shrink (by rw [Server.step_ctl, hst]; exact Store.names_delete_sublist _ _)
      (by simp [hp, Pc.creating])
  · exact h.of_shrink (by rw [Server.step_ctl, hC]) (by simp [hp, Pc.creating])

theorem NamesInv.run (h : NamesInv s) {sched : List (Fin n)}
    (hs : s.runAll Server.createSerialized sched = true) : NamesInv (s.run sched) := by
  induction sched generalizing s with
  | nil => exact h
  | cons i sched ih =>
    simp only [Server.runAll, Bool.and_eq_true] at hs
    exact ih (h.step hs.1) hs.2

end Names

/-- The workload of the routes' tests. -/
def podsWorkload : WorkloadDefinition := ⟨"pods", "workload-name", none⟩

/-- How many `Delete` messages for `id` the scheduler's channel holds. -/
def sentCount (sent : List ApiChannel) (id : Nat) : Nat :=
  sent.countP fun m => m.workloadId == some id

@[simp] theorem sentCount_send (sent : List ApiChannel) (i id : Nat) (e : Element) :
    sentCount (sent ++ [deleteMessage i e]) id = sentCount sent id + if i = id then 1 else 0 := by
  by_cases h : i = id <;> simp [sentCount, h]

/-- **The notification invariant**, for runs started on the store `s₀` with an empty channel.
At most one `Delete` per id is sent; a found element stays stored until its finder deletes it;
a `Delete` for a stored element comes from the thread about to delete it; and every element that
was ever stored and is gone had its `Delete` sent. -/
structure DeleteInv (s₀ : Store) (s : Server n) : Prop where
  atMostOne : ∀ id, sentCount s.ctl.sent id ≤ 1
  holder : ∀ j k id, (s.threads j).deleting = some id → (s.threads k).deleting = some id → j = k
  sending : ∀ j r id e, s.threads j = .sending r id e →
    e ∈ s.ctl.store.elements ∧ e.id = id ∧ sentCount s.ctl.sent id = 0
  removing : ∀ j r id e, s.threads j = .removing r id e →
    e ∈ s.ctl.store.elements ∧ e.id = id ∧ sentCount s.ctl.sent id = 1
  storedSent : ∀ e ∈ s.ctl.store.elements, sentCount s.ctl.sent e.id = 1 →
    ∃ j r e', s.threads j = .removing r e.id e'
  sentLt : ∀ id, sentCount s.ctl.sent id = 1 → id < s.ctl.store.nextId
  goneSent : ∀ id, (id ∈ s₀.elements.map Element.id ∨ s₀.nextId ≤ id) →
    id < s.ctl.store.nextId → (∀ e ∈ s.ctl.store.elements, e.id ≠ id) → sentCount s.ctl.sent id = 1

/-- A step that keeps deletes of one id apart: a find runs only while no other thread holds its
id, and the store's delete succeeds. -/
def Server.deleteSerialized (s : Server n) (i : Fin n) : Bool :=
  match s.threads i with
  | .finding _ id => decide (∀ j, (s.threads j).deleting ≠ some id)
  | .removing r _ _ => !r.deleteFails
  | _ => true

section Deletes

variable {s₀ : Store} {s : Server n} {i : Fin n}

theorem Server.step_threads_ne (s : Server n) {i j : Fin n} (h : j ≠ i) :
    (s.step i).threads j = s.threads j := by
  simp [Server.step_threads, h]

theorem Server.step_threads_self (s : Server n) (i : Fin n) :
    (s.step i).threads i = (s.next i).1 := by
  simp [Server.step_threads]

theorem Pc.deleting_sending {r : DeleteReq} {id : Nat} {e : Element} :
    (Pc.sending r id e).deleting = some id := rfl

theorem Server.step_deleting (s : Server n) (i j : Fin n) :
    ((s.step i).threads j).deleting =
      if j = i then (s.next i).1.deleting else (s.threads j).deleting := by
  rw [Server.step_threads]
  split_ifs <;> rfl

/-- After a step whose thread takes no id, a thread holding an id is as it was. -/
theorem Server.step_back (hnew : (s.next i).1.deleting = none) {j : Fin n} {id : Nat}
    (hj : ((s.step i).threads j).deleting = some id) : (s.step i).threads j = s.threads j := by
  by_cases hji : j = i
  · subst hji
    rw [s.step_threads_self, hnew] at hj
    cases hj
  · exact s.step_threads_ne hji

/-- A row whose `Delete` was sent is still being removed after a step of a thread that was not
removing it. -/
theorem DeleteInv.storedSent_step (h : DeleteInv s₀ s) {e : Element} (he : e ∈ s.ctl.store.elements)
    (hc : sentCount s.ctl.sent e.id = 1) (hi : ∀ r e', s.threads i ≠ .removing r e.id e') :
    ∃ j r e', (s.step i).threads j = .removing r e.id e' := by
  obtain ⟨k, r, e', hk⟩ := h.storedSent e he hc
  have hki : k ≠ i := by
    rintro rfl
    exact hi r e' hk
  exact ⟨k, r, e', by rw [s.step_threads_ne hki, hk]⟩

/-- A step that changes neither the store nor the channel, and whose thread neither held nor
takes an id, keeps the invariant. -/
theorem DeleteInv.of_frame (h : DeleteInv s₀ s) (hst : (s.next i).2.1.store = s.ctl.store)
    (hsent : (s.next i).2.1.sent = s.ctl.sent) (hold : (s.threads i).deleting = none)
    (hnew : (s.next i).1.deleting = none) : DeleteInv s₀ (s.step i) := by
  have back : ∀ {j id}, ((s.step i).threads j).deleting = some id →
      (s.step i).threads j = s.threads j := Server.step_back hnew
  have hst' : (s.step i).ctl.store = s.ctl.store := hst
  have hsent' : (s.step i).ctl.sent = s.ctl.sent := hsent
  refine ⟨?_, fun j k id hj hk => h.holder j k id (back hj ▸ hj) (back hk ▸ hk),
    fun j r id e hj => ?_, fun j r id e hj => ?_, fun e he hc => ?_, ?_, ?_⟩ <;>
    simp only [hst', hsent'] at *
  · exact h.atMostOne
  · exact h.sending j r id e ((back (by rw [hj]; rfl)) ▸ hj)
  · exact h.removing j r id e ((back (by rw [hj]; rfl)) ▸ hj)
  · exact h.storedSent_step he hc fun _ _ hi => by simp [hi, Pc.deleting] at hold
  · exact h.sentLt
  · exact h.goneSent

/-- An insert adds a row under a fresh id, for which nothing was sent. -/
theorem DeleteInv.insert (h : DeleteInv s₀ s) {r : CreateReq} {w : WorkloadDefinition}
    (ht : s.threads i = .inserting r w) (hp : (s.next i).1 = .idle)
    (hst : (s.next i).2.1.store = s.ctl.store.insert (elementName w) w)
    (hsent : (s.next i).2.1.sent = s.ctl.sent) : DeleteInv s₀ (s.step i) := by
  have back : ∀ {j id}, ((s.step i).threads j).deleting = some id →
      (s.step i).threads j = s.threads j := Server.step_back (by rw [hp]; rfl)
  have hst' : (s.step i).ctl.store = s.ctl.store.insert (elementName w) w := hst
  have hsent' : (s.step i).ctl.sent = s.ctl.sent := hsent
  refine ⟨?_, fun j k id hj hk => h.holder j k id (back hj ▸ hj) (back hk ▸ hk),
    fun j r id e hj => ?_, fun j r id e hj => ?_, fun e he hc => ?_, fun id hc => ?_,
    fun id hid hlt hnot => ?_⟩ <;> simp only [hst', hsent'] at *
  · exact h.atMostOne
  · obtain ⟨he, rfl, hc⟩ := h.sending j r id e ((back (by rw [hj]; rfl)) ▸ hj)
    exact ⟨Store.mem_insert.mpr (.inl he), rfl, hc⟩
  · obtain ⟨he, rfl, hc⟩ := h.removing j r id e ((back (by rw [hj]; rfl)) ▸ hj)
    exact ⟨Store.mem_insert.mpr (.inl he), rfl, hc⟩
  · rcases Store.mem_insert.mp he with he | rfl
    · exact h.storedSent_step he hc fun _ _ hi => by simp [hi] at ht
    · exact absurd (h.sentLt _ hc) (Nat.lt_irrefl _)
  · simpa using Nat.lt_succ_of_lt (h.sentLt id hc)
  · have hne : s.ctl.store.nextId ≠ id := hnot _ (Store.mem_insert.mpr (.inr rfl))
    exact h.goneSent id hid (by simp at hlt; omega)
      fun e he => hnot e (Store.mem_insert.mpr (.inl he))
/-- A find on a serialized step takes an id no one holds, of a stored element nothing was
sent for. -/
theorem DeleteInv.find (h : DeleteInv s₀ s) (hs : s.deleteSerialized i = true) {r : DeleteReq}
    {id : Nat} {e : Element} (ht : s.threads i = .finding r id)
    (hf : s.ctl.store.findOne id "/workload" = some e) (hp : (s.next i).1 = .sending r id e)
    (hC : (s.next i).2.1 = s.ctl) : DeleteInv s₀ (s.step i) := by
  simp only [Server.deleteSerialized, ht, decide_eq_true_eq] at hs
  have hC' : (s.step i).ctl = s.ctl := hC
  have hself : (s.step i).threads i = .sending r id e := by rw [s.step_threads_self, hp]
  have ⟨he, heid⟩ := Store.findOne_some hf
  refine ⟨?_, fun j k id' hj hk => ?_, fun j r' id' e' hj => ?_, fun j r' id' e' hj => ?_,
    fun e' he' hc => ?_, ?_, ?_⟩ <;> simp only [hC'] at *
  · exact h.atMostOne
  · rw [Server.step_deleting] at hj hk
    split_ifs at hj hk with hji hki
    · exact hji.trans hki.symm
    · rw [hp, Pc.deleting_sending] at hj
      cases hj
      exact (hs k hk).elim
    · rw [hp, Pc.deleting_sending] at hk
      cases hk
      exact (hs j hj).elim
    · exact h.holder j k id' hj hk
  · by_cases hji : j = i
    · subst hji
      rw [hself] at hj
      cases hj
      refine ⟨he, heid, ?_⟩
      rcases Nat.le_one_iff_eq_zero_or_eq_one.mp (h.atMostOne id) with h0 | h1
      · exact h0
      · obtain ⟨k, r'', e'', hk⟩ := h.storedSent e he (heid ▸ h1)
        exact (hs k (by rw [hk, heid]; rfl)).elim
    · exact h.sending j r' id' e' (s.step_threads_ne hji ▸ hj)
  · by_cases hji : j = i
    · subst hji
      rw [hself] at hj
      cases hj
    · exact h.removing j r' id' e' (s.step_threads_ne hji ▸ hj)
  · exact h.storedSent_step he' hc fun _ _ hi => by simp [hi] at ht
  · exact h.sentLt
  · exact h.goneSent

/-- A send is the first and only `Delete` for the id its thread holds. -/
theorem DeleteInv.send (h : DeleteInv s₀ s) {r : DeleteReq} {id : Nat} {e : Element}
    (ht : s.threads i = .sending r id e) (hp : (s.next i).1 = .removing r id e)
    (hst : (s.next i).2.1.store = s.ctl.store)
    (hsent : (s.next i).2.1.sent = s.ctl.sent ++ [deleteMessage id e]) : DeleteInv s₀ (s.step i) := by
  obtain ⟨he, heid, h0⟩ := h.sending i r id e ht
  have hst' : (s.step i).ctl.store = s.ctl.store := hst
  have hcount : ∀ id', sentCount (s.step i).ctl.sent id' =
      sentCount s.ctl.sent id' + if id = id' then 1 else 0 := fun id' => by
    rw [Server.step_ctl, hsent, sentCount_send]
  have hdel : ∀ j, ((s.step i).threads j).deleting = (s.threads j).deleting := fun j => by
    rw [Server.step_deleting]
    split_ifs with hji
    · rw [hji, hp, ht]; rfl
    · rfl
  have hself : (s.step i).threads i = .removing r id e := by rw [s.step_threads_self, hp]
  -- another thread that holds an id holds another one
  have other : ∀ j id', j ≠ i → (s.threads j).deleting = some id' → id ≠ id' :=
    fun j id' hji hj hid => hji (h.holder j i id' hj (by rw [ht, ← hid]; rfl))
  refine ⟨fun id' => ?_, fun j k id' hj hk => h.holder j k id' (hdel j ▸ hj) (hdel k ▸ hk),
    fun j r' id' e' hj => ?_, fun j r' id' e' hj => ?_, fun e' he' hc => ?_, fun id' hc => ?_,
    fun id' hid hlt hnot => ?_⟩ <;> simp only [hst', hcount] at *
  · by_cases hid : id = id'
    · subst hid
      simp [h0]
    · simpa [hid] using h.atMostOne id'
  · by_cases hji : j = i
    · subst hji
      rw [hself] at hj
      cases hj
    · rw [s.step_threads_ne hji] at hj
      obtain ⟨he', rfl, hc⟩ := h.sending j r' id' e' hj
      simp [he', hc, other j e'.id hji (by rw [hj]; rfl)]
  · by_cases hji : j = i
    · subst hji
      rw [hself] at hj
      cases hj
      simp [he, heid, h0]
    · rw [s.step_threads_ne hji] at hj
      obtain ⟨he', rfl, hc⟩ := h.removing j r' id' e' hj
      simp [he', hc, other j e'.id hji (by rw [hj]; rfl)]
  · by_cases hid : id = e'.id
    · exact ⟨i, r, e, by rw [hself, hid]⟩
    · simp only [hid, if_false, Nat.add_zero] at hc
      exact h.storedSent_step he' hc fun _ _ hi => by simp [hi] at ht
  · by_cases hid : id = id'
    · subst hid
      exact heid ▸ s.ctl.store.ids_lt e he
    · simp only [hid, if_false, Nat.add_zero] at hc
      exact h.sentLt id' hc
  · by_cases hid' : id = id'
    · subst hid'
      simp [h0]
    · simp only [hid', if_false, Nat.add_zero]
      exact h.goneSent id' hid hlt hnot

/-- A delete removes the row its thread found, and with it the only row of that id. -/
theorem DeleteInv.remove (h : DeleteInv s₀ s) {r : DeleteReq} {id : Nat} {e : Element}
    (ht : s.threads i = .removing r id e) (hp : (s.next i).1 = .idle)
    (hst : (s.next i).2.1.store = s.ctl.store.delete e.id)
    (hsent : (s.next i).2.1.sent = s.ctl.sent) : DeleteInv s₀ (s.step i) := by
  obtain ⟨he, heid, h1⟩ := h.removing i r id e ht
  have back : ∀ {j id}, ((s.step i).threads j).deleting = some id →
      (s.step i).threads j = s.threads j := Server.step_back (by rw [hp]; rfl)
  have hst' : (s.step i).ctl.store = s.ctl.store.delete e.id := hst
  have hsent' : (s.step i).ctl.sent = s.ctl.sent := hsent
  -- a thread still holding an id holds another one than `id`
  have other : ∀ j id', (s.threads j).deleting = some id' → j ≠ i → id' ≠ id :=
    fun j id' hj hji hid => hji (h.holder j i id' hj (by rw [ht, hid]; rfl))
  have gone : ∀ {j}, (s.step i).threads j ≠ .idle → j ≠ i := fun hj hji => by
    rw [hji, s.step_threads_self, hp] at hj
    exact hj rfl
  refine ⟨fun id' => hsent' ▸ h.atMostOne id',
    fun j k id' hj hk => h.holder j k id' (back hj ▸ hj) (back hk ▸ hk),
    fun j r' id' e' hj => ?_, fun j r' id' e' hj => ?_, fun e' he' hc => ?_, fun id' hc => ?_,
    fun id' hid hlt hnot => ?_⟩ <;> simp only [hst', hsent', Store.mem_delete,
      Store.delete_nextId] at *
  · have hji : j ≠ i := gone (by rw [hj]; exact Pc.noConfusion)
    rw [s.step_threads_ne hji] at hj
    obtain ⟨he', hid', hc⟩ := h.sending j r' id' e' hj
    exact ⟨⟨he', by rw [hid', heid]; exact other j id' (by rw [hj]; rfl) hji⟩, hid', hc⟩
  · have hji : j ≠ i := gone (by rw [hj]; exact Pc.noConfusion)
    rw [s.step_threads_ne hji] at hj
    obtain ⟨he', hid', hc⟩ := h.removing j r' id' e' hj
    exact ⟨⟨he', by rw [hid', heid]; exact other j id' (by rw [hj]; rfl) hji⟩, hid', hc⟩
  · exact h.storedSent_step he'.1 hc fun _ _ hi => by
      simp only [hi, Pc.removing.injEq] at ht
      exact he'.2 (ht.2.1.trans heid.symm)
  · exact h.sentLt id' hc
  · by_cases hx : id' = id
    · exact hx ▸ h1
    · refine h.goneSent id' hid hlt fun e'' he'' => ?_
      by_cases hy : e''.id = e.id
      · rw [hy, heid]
        exact Ne.symm hx
      · exact hnot e'' ⟨he'', hy⟩
/-- **A serialized step keeps the notification invariant.** -/
theorem DeleteInv.step (h : DeleteInv s₀ s) (hs : s.deleteSerialized i = true) :
    DeleteInv s₀ (s.step i) := by
  rcases s.next_cases i with ⟨req, hidle, hn⟩ | hn
  · have q := Pc.recv_quiet req s.ctl
    rw [← hn] at q
    exact h.of_frame q.2.2.1 q.2.2.2 (by rw [hidle]; rfl) q.2.1
  rcases Pc.step_cases (s.threads i) s.ctl with
    ⟨hold, -, hnew, hst, hsent⟩ | ⟨r, w, ht, -, hp, hC⟩ | ⟨r, w, ht, -, hp, hst, hsent⟩ |
    ⟨r, id, e, ht, -, hf, hp, hC⟩ | ⟨r, id, e, ht, hp, hst, hsent⟩ |
    ⟨r, id, e, ht, -, hp, hst, hsent⟩ | ⟨r, id, e, ht, hd, -, -⟩ <;> rw [← hn] at *
  · exact h.of_frame hst hsent hold hnew
  · exact h.of_frame (by rw [hC]) (by rw [hC]) (by rw [ht]; rfl) (by rw [hp]; rfl)
  · exact h.insert ht hp hst hsent
  · exact h.find hs ht hf hp hC
  · exact h.send ht hp hst hsent
  · exact h.remove ht hp hst hsent
  · simp [Server.deleteSerialized, ht, hd] at hs

theorem DeleteInv.run (h : DeleteInv s₀ s) {sched : List (Fin n)}
    (hs : s.runAll Server.deleteSerialized sched = true) : DeleteInv s₀ (s.run sched) := by
  induction sched generalizing s with
  | nil => exact h
  | cons i sched ih =>
    simp only [Server.runAll, Bool.and_eq_true] at hs
    exact ih (h.step hs.1) hs.2

/-- Idle threads and an empty channel satisfy the invariant for the store they start on. -/
theorem DeleteInv.init (hsent : s.ctl.sent = []) (hidle : ∀ i, s.threads i = .idle) :
    DeleteInv s.ctl.store s := by
  refine ⟨fun _ => by simp [hsent, sentCount], fun j _ _ hj => by simp [hidle j, Pc.deleting] at hj,
    fun j _ _ _ hj => by simp [hidle j] at hj, fun j _ _ _ hj => by simp [hidle j] at hj,
    fun _ _ hc => by simp [hsent, sentCount] at hc, fun _ hc => by simp [hsent, sentCount] at hc,
    fun id hid hlt hnot => ?_⟩
  rcases hid with hid | hid
  · obtain ⟨e, he, rfl⟩ := List.mem_map.mp hid
    exact absurd rfl (hnot e he)
  · omega

end Deletes

/-- **One `Delete` for each removal, on serialized runs.**  On a run from idle threads and an
empty channel in which a find runs only while no other delete of its id is between its find and
its store delete, and every store delete succeeds: the channel holds at most one `Delete` per
workload id; a `Delete` for a stored element was sent by the thread about to delete it; and
every element that was stored, before or during the run, and is gone had its `Delete` sent.
The channel counted is what the workers send: `Server::run`'s own `Delete` for workload `1`,
sent before the workers start, is not part of it. -/
theorem delete_notifications (s : Server n) (hsent : s.ctl.sent = [])
    (hidle : ∀ i, s.threads i = .idle) (sched : List (Fin n))
    (hser : s.runAll Server.deleteSerialized sched = true) :
    (∀ id, sentCount (s.run sched).ctl.sent id ≤ 1) ∧
    (∀ e ∈ (s.run sched).ctl.store.elements, sentCount (s.run sched).ctl.sent e.id = 1 →
      ∃ j r e', (s.run sched).threads j = .removing r e.id e') ∧
    (∀ id, (id ∈ s.ctl.store.elements.map Element.id ∨ s.ctl.store.nextId ≤ id) →
      id < (s.run sched).ctl.store.nextId →
      (∀ e ∈ (s.run sched).ctl.store.elements, e.id ≠ id) → sentCount (s.run sched).ctl.sent id = 1) :=
  have h := (DeleteInv.init hsent hidle).run hser
  ⟨h.atMostOne, h.storedSent, h.goneSent⟩

/-- A store holding the workload of the routes' tests under id `1`. -/
def podsStore : Store := ⟨[⟨1, elementName podsWorkload, podsWorkload⟩], 2, by decide⟩

/-- A delete of id `1` whose store calls succeed. -/
def deleteOne : DeleteReq := ⟨.ok 1, false, false⟩

/-- Two deletes of id `1`, before the four workers. -/
def twoDeletes : Server 4 :=
  ⟨⟨podsStore, [], []⟩, [.delete deleteOne, .delete deleteOne], [], fun _ => .idle⟩

theorem delete_notifications_twoDeletes :
    twoDeletes.ctl.sent = [] ∧ (∀ i, twoDeletes.threads i = .idle) ∧
    twoDeletes.runAll Server.deleteSerialized [0, 0, 0, 0, 1, 1] = true ∧
    ((∀ id, sentCount (twoDeletes.run [0, 0, 0, 0, 1, 1]).ctl.sent id ≤ 1) ∧
    (∀ e ∈ (twoDeletes.run [0, 0, 0, 0, 1, 1]).ctl.store.elements,
      sentCount (twoDeletes.run [0, 0, 0, 0, 1, 1]).ctl.sent e.id = 1 →
      ∃ j r e', (twoDeletes.run [0, 0, 0, 0, 1, 1]).threads j = .removing r e.id e') ∧
    (∀ id, (id ∈ twoDeletes.ctl.store.elements.map Element.id ∨ twoDeletes.ctl.store.nextId ≤ id) →
      id < (twoDeletes.run [0, 0, 0, 0, 1, 1]).ctl.store.nextId →
      (∀ e ∈ (twoDeletes.run [0, 0, 0, 0, 1, 1]).ctl.store.elements, e.id ≠ id) →
      sentCount (twoDeletes.run [0, 0, 0, 0, 1, 1]).ctl.sent id = 1)) :=
  ⟨rfl, by decide, by decide,
    delete_notifications twoDeletes rfl (by decide) _ (by decide)⟩

/-- **Two deletes of one id both notify.**  Workers `0` and `1` each receive a delete of id `1`,
both finds return the element before either deletes it, and both send `Delete`: the scheduler
gets two `Delete` messages for the one element the store lost, and both requests are answered
`204`. -/
theorem delete_race_twice :
    sentCount (twoDeletes.run [0, 1, 0, 1, 0, 1, 0, 1]).ctl.sent 1 = 2 ∧
    (twoDeletes.run [0, 1, 0, 1, 0, 1, 0, 1]).ctl.store.elements = [] ∧
    (twoDeletes.run [0, 1, 0, 1, 0, 1, 0, 1]).responses.map Response.status = [204, 204] := by
  decide

end Rik.Controller
