/-
# The workers as a whole: requests answered once, and in order when kept apart

`run_server` starts four workers over one store, and the two races of `Rik.Controller.Server`
come from requests that overlap: two threads between the statements of their handlers at
once.  This module shows that overlap is the only source of trouble.  On a schedule that keeps
requests apart -- a thread starts a request only while no other thread is serving one -- the
server computes exactly what the sequential loop computes: the requests taken from the queue,
in order, each served to its end by `Router::handle` and answered once (`handleInOrder`), a
request whose handler panicked by tiny_http's empty `500` as its thread unwinds.

The proof is a refinement in the usual shape.  The relation `SerialInv` says that with no
request in progress the server's store, channels and answers are those of the sequential loop,
and that with one in progress, finishing it by its thread alone gives them.  A step of the
serving thread does not change what finishing gives (`Pc.solo_three`); a thread that takes a
request adds, once finished, exactly `handle`'s effect (`Pc.serve_eq`).

* `run_oneAtATime_eq_handleInOrder` -- **on a schedule that keeps requests apart and ends with
  no request in progress, the server's state and answers are those of `handleInOrder`** on the
  requests it took.

Without that restriction the state can diverge (the races), but the answers still account for
the requests: along every run, in any interleaving, the answers given plus the requests the
threads are serving grow by exactly the requests taken from the front of the queue
(`run_answers`), so **no request is answered twice or dropped unanswered**, a panic included.
-/
import Rik.Controller.Server
import Mathlib.Algebra.BigOperators.Fin

namespace Rik.Controller

/-! ## 1. The sequential loop -/

/-- One turn of a worker's loop in `run_server`: `Router::handle`, then `req.respond(res)`.  When
the handler panics, the unwinding thread drops the request and tiny_http answers
`dropResponse`.  The routes' state it leaves, and its answer after those already given. -/
def serveNext (acc : Ctl × List Response) (req : Request) : Ctl × List Response :=
  ((handle req acc.1).2, acc.2 ++ [(handle req acc.1).1.getD dropResponse])

/-- The requests served one after another, in the order `server.recv()` hands them out. -/
def handleInOrder (reqs : List Request) (C : Ctl) (R : List Response) : Ctl × List Response :=
  reqs.foldl serveNext (C, R)

@[simp] theorem handleInOrder_nil (C : Ctl) (R : List Response) : handleInOrder [] C R = (C, R) :=
  rfl

theorem handleInOrder_concat (reqs : List Request) (req : Request) (C : Ctl) (R : List Response) :
    handleInOrder (reqs ++ [req]) C R = serveNext (handleInOrder reqs C R) req := by
  simp [handleInOrder]

/-! ## 2. A thread finishing its request alone -/

/-- The thread is serving a request: it has received one and not yet answered. -/
def Pc.busy : Pc → Bool
  | .idle | .dead => false
  | _ => true

/-- How many more steps the thread takes, left alone, before it answers. -/
def Pc.rank : Pc → Nat
  | .checking _ _ | .sending _ _ _ => 2
  | .inserting _ _ | .removing _ _ _ => 1
  | .finding _ _ => 3
  | .idle | .dead => 0

theorem Pc.step_of_not_busy {pc : Pc} (h : pc.busy = false) (C : Ctl) :
    pc.step C = (pc, C, none) := by
  cases pc <;> simp_all [Pc.busy, Pc.step]

theorem Pc.rank_le (pc : Pc) : pc.rank ≤ 3 := by
  cases pc <;> simp [Pc.rank]

/-- Every step of a serving thread brings it closer to its answer. -/
theorem Pc.rank_step (pc : Pc) (C : Ctl) : (pc.step C).1.rank ≤ pc.rank - 1 := by
  cases pc <;> simp only [Pc.step] <;> (try split) <;> (try split) <;> simp [Pc.rank]

theorem Pc.solo_of_not_busy {pc : Pc} (h : pc.busy = false) (C : Ctl) :
    ∀ k, Pc.solo k pc C = (pc, C, [])
  | 0 => rfl
  | k + 1 => by simp [Pc.solo, Pc.step_of_not_busy h, Pc.solo_of_not_busy h C k]

/-- Steps beyond the answer change nothing. -/
theorem Pc.solo_succ {k : Nat} : ∀ {pc : Pc} {C : Ctl}, pc.rank ≤ k →
    Pc.solo (k + 1) pc C = Pc.solo k pc C := by
  induction k with
  | zero =>
    intro pc C h
    have hb : pc.busy = false := by
      by_contra hb
      cases pc <;> simp_all [Pc.rank, Pc.busy]
    simp [Pc.solo, Pc.step_of_not_busy hb]
  | succ k ih =>
    intro pc C h
    have hr := Pc.rank_step pc C
    rw [Pc.solo.eq_2 pc C (k + 1), Pc.solo.eq_2 pc C k,
      @ih (pc.step C).1 (pc.step C).2.1 (by omega)]

/-- **Finishing after one step is finishing**: three steps alone take any thread to its answer,
so the first of them can be taken out. -/
theorem Pc.solo_three (pc : Pc) (C : Ctl) :
    Pc.solo 3 pc C =
      ((Pc.solo 3 (pc.step C).1 (pc.step C).2.1).1, (Pc.solo 3 (pc.step C).1 (pc.step C).2.1).2.1,
        (pc.step C).2.2.toList ++ (Pc.solo 3 (pc.step C).1 (pc.step C).2.1).2.2) := by
  have hr : (pc.step C).1.rank ≤ 2 := (Pc.rank_step pc C).trans (by have := pc.rank_le; omega)
  rw [Pc.solo_succ hr]
  rfl

/-! ## 3. Schedules that keep requests apart -/

variable {n : Nat}

/-- A step that keeps requests apart: the thread is serving one, or no thread is. -/
def Server.oneAtATime (s : Server n) (i : Fin n) : Bool :=
  (s.threads i).busy || decide (∀ j, (s.threads j).busy = false)

/-- **The refinement relation**, for runs started on `s₀`.  The requests `done` were taken from
the queue, in order; at most one thread is serving; with none serving, the state and the
answers are those of serving `done` in order, and with one serving, finishing its request
alone gives them. -/
structure SerialInv (s₀ : Server n) (done : List Request) (s : Server n) : Prop where
  queue : s₀.queue = done ++ s.queue
  oneBusy : ∀ j k, (s.threads j).busy → (s.threads k).busy → j = k
  settled : (∀ j, (s.threads j).busy = false) →
    (s.ctl, s.responses) = handleInOrder done s₀.ctl s₀.responses
  finishing : ∀ j, (s.threads j).busy →
    ((Pc.solo 3 (s.threads j) s.ctl).2.1, s.responses ++ (Pc.solo 3 (s.threads j) s.ctl).2.2) =
      handleInOrder done s₀.ctl s₀.responses

section Refinement

variable {s₀ s : Server n} {done : List Request} {i : Fin n}

@[simp] theorem Server.step_responses (s : Server n) (i : Fin n) :
    (s.step i).responses = s.responses ++ (s.next i).2.2.toList := rfl

@[simp] theorem Server.step_queue (s : Server n) (i : Fin n) :
    (s.step i).queue = if s.threads i = .idle then s.queue.tail else s.queue := rfl

/-- A thread that does not take a request steps its own program counter. -/
theorem Server.next_of_not_recv (h : s.threads i = .idle → s.queue = []) :
    s.next i = (s.threads i).step s.ctl := by
  simp only [Server.next]
  split
  · simp_all
  · rfl

theorem Server.queue_of_not_recv (h : s.threads i = .idle → s.queue = []) :
    (s.step i).queue = s.queue := by
  by_cases hidle : s.threads i = .idle <;> simp [hidle, h]

theorem Server.next_recv {req : Request} {rest : List Request} (hi : s.threads i = .idle)
    (hq : s.queue = req :: rest) : s.next i = Pc.recv req s.ctl := by
  simp [Server.next, hi, hq]

/-- After a step of thread `i`, only `i` can be serving if only `i` was. -/
theorem Server.busy_step (hfree : ∀ j, j ≠ i → (s.threads j).busy = false) {j : Fin n}
    (hj : ((s.step i).threads j).busy) : j = i := by
  by_contra hji
  rw [s.step_threads_ne hji, hfree j hji] at hj
  cases hj

/-- The relation after a step of thread `i`, when every other thread is idle or dead: the step
itself, finished, must give the state that serving `done` in order gives. -/
theorem SerialInv.of_step (hq : s₀.queue = done ++ (s.step i).queue)
    (hfree : ∀ j, j ≠ i → (s.threads j).busy = false)
    (hfin : ((Pc.solo 3 (s.next i).1 (s.next i).2.1).2.1,
        (s.step i).responses ++ (Pc.solo 3 (s.next i).1 (s.next i).2.1).2.2) =
      handleInOrder done s₀.ctl s₀.responses) :
    SerialInv s₀ done (s.step i) := by
  have only : ∀ {j}, ((s.step i).threads j).busy → j = i := Server.busy_step hfree
  refine ⟨hq, fun j k hj hk => (only hj).trans (only hk).symm, fun hnone => ?_, fun j hj => ?_⟩
  · rw [Pc.solo_of_not_busy (by simpa [s.step_threads_self] using hnone i)] at hfin
    simpa using hfin
  · obtain rfl := only hj
    simpa [s.step_threads_self] using hfin

/-- A step of the serving thread. -/
theorem SerialInv.step_busy (h : SerialInv s₀ done s) (hi : (s.threads i).busy) :
    SerialInv s₀ done (s.step i) := by
  have hidle : s.threads i ≠ .idle := fun he => by simp [he, Pc.busy] at hi
  have hnr : s.threads i = .idle → s.queue = [] := fun he => absurd he hidle
  have hnext := Server.next_of_not_recv hnr
  refine SerialInv.of_step (by rw [Server.queue_of_not_recv hnr, h.queue])
    (fun j hji => Bool.eq_false_iff.mpr fun hj => hji (h.oneBusy j i hj hi)) ?_
  rw [← h.finishing i hi, Pc.solo_three (s.threads i) s.ctl]
  simp [hnext]

/-- A thread that takes the next request while no thread is serving. -/
theorem SerialInv.step_recv (h : SerialInv s₀ done s) (hfree : ∀ j, (s.threads j).busy = false)
    {req : Request} {rest : List Request} (hi : s.threads i = .idle) (hq : s.queue = req :: rest) :
    SerialInv s₀ (done ++ [req]) (s.step i) := by
  have hnext := Server.next_recv hi hq
  have hserve := Pc.serve_eq req s.ctl
  simp only [Pc.serve] at hserve
  refine SerialInv.of_step (by simp [h.queue, hi, hq]) (fun j _ => hfree j) ?_
  rw [handleInOrder_concat, ← h.settled hfree, hnext]
  simp [serveNext, hnext, hserve.1, ← hserve.2.1]

/-- A step that changes nothing: an idle thread before an empty queue, or a dead one. -/
theorem SerialInv.step_quiet (h : SerialInv s₀ done s) (hfree : ∀ j, (s.threads j).busy = false)
    (hq : s.threads i = .idle → s.queue = []) : SerialInv s₀ done (s.step i) := by
  have hnext := Server.next_of_not_recv hq
  refine SerialInv.of_step (by rw [Server.queue_of_not_recv hq, h.queue]) (fun j _ => hfree j) ?_
  rw [hnext, Pc.step_of_not_busy (hfree i), Pc.solo_of_not_busy (hfree i)]
  simpa [hnext, Pc.step_of_not_busy (hfree i)] using h.settled hfree

/-- **Every step of a schedule that keeps requests apart keeps the refinement relation.** -/
theorem SerialInv.step (h : SerialInv s₀ done s) (hs : s.oneAtATime i = true) :
    ∃ done', SerialInv s₀ done' (s.step i) := by
  by_cases hi : (s.threads i).busy
  · exact ⟨done, h.step_busy hi⟩
  have hfree : ∀ j, (s.threads j).busy = false := by
    simpa [Server.oneAtATime, hi] using hs
  cases hq : s.queue with
  | nil => exact ⟨done, h.step_quiet hfree fun _ => hq⟩
  | cons req rest =>
    by_cases hidle : s.threads i = .idle
    · exact ⟨done ++ [req], h.step_recv hfree hidle hq⟩
    · exact ⟨done, h.step_quiet hfree fun he => absurd he hidle⟩

theorem SerialInv.run (h : SerialInv s₀ done s) {sched : List (Fin n)}
    (hs : s.runAll Server.oneAtATime sched = true) : ∃ done', SerialInv s₀ done' (s.run sched) := by
  induction sched generalizing s done with
  | nil => exact ⟨done, h⟩
  | cons i sched ih =>
    simp only [Server.runAll, Bool.and_eq_true] at hs
    obtain ⟨done', h'⟩ := h.step hs.1
    exact ih h' hs.2

end Refinement

/-- The requests a thread holds: the one it is serving.  A thread that panicked holds none:
dropping its request answered it. -/
def Pc.holding : Pc → Nat
  | .idle | .dead => 0
  | _ => 1

/-- The requests the threads hold. -/
def Server.held (s : Server n) : Nat := ∑ j, (s.threads j).holding

/-- **A step of a thread answers its request or keeps holding it.** -/
theorem Pc.step_holding (pc : Pc) (C : Ctl) :
    (pc.step C).2.2.toList.length + (pc.step C).1.holding = pc.holding := by
  cases pc <;> simp only [Pc.step] <;> (try split) <;> (try split) <;> simp [Pc.holding]

/-- Receiving a request answers it at once, or holds it. -/
theorem Pc.recv_holding (req : Request) (C : Ctl) :
    (Pc.recv req C).2.2.toList.length + (Pc.recv req C).1.holding = 1 := by
  rcases req with ⟨_ | _, _, _⟩ | ⟨_ | _, _, _⟩ <;> simp [Pc.recv, Pc.holding]

theorem Server.held_step (s : Server n) (i : Fin n) :
    (s.step i).held + (s.threads i).holding = s.held + (s.next i).1.holding := by
  have hupd : (s.step i).held =
      ∑ j, Function.update (fun j => (s.threads j).holding) i (s.next i).1.holding j := by
    refine Finset.sum_congr rfl fun j _ => ?_
    by_cases hji : j = i
    · subst hji
      simp [s.step_threads_self]
    · simp [s.step_threads_ne hji, hji]
  have h₁ := Finset.sum_update_of_mem (Finset.mem_univ i) (fun j => (s.threads j).holding)
    (s.next i).1.holding
  have h₂ := Finset.sum_eq_add_sum_diff_singleton (Finset.mem_univ i)
    (fun j => (s.threads j).holding)
  simp only [Server.held] at hupd h₁ h₂ ⊢
  omega

/-- One step of a thread: the answers and the held requests grow by the request it took, the
first of the queue. -/
theorem Server.step_answers (s : Server n) (i : Fin n) :
    ∃ taken : List Request, s.queue = taken ++ (s.step i).queue ∧
      (s.step i).responses.length + (s.step i).held = s.responses.length + taken.length + s.held := by
  have hheld := s.held_step i
  by_cases hrecv : s.threads i = .idle ∧ s.queue ≠ []
  · obtain ⟨req, rest, hq⟩ := List.exists_cons_of_ne_nil hrecv.2
    have hnext := Server.next_recv hrecv.1 hq
    have h := Pc.recv_holding req s.ctl
    rw [hnext] at hheld
    refine ⟨[req], by simp [hq, hrecv.1], ?_⟩
    simp only [Server.step_responses, hnext, List.length_append, List.length_singleton] at h ⊢
    rw [hrecv.1, show Pc.holding .idle = 0 from rfl] at hheld
    omega
  · have hnr : s.threads i = .idle → s.queue = [] := by simpa using hrecv
    have hnext := Server.next_of_not_recv hnr
    have h := Pc.step_holding (s.threads i) s.ctl
    rw [hnext] at hheld
    refine ⟨[], by rw [Server.queue_of_not_recv hnr]; rfl, ?_⟩
    simp only [Server.step_responses, hnext, List.length_append, List.length_nil] at h ⊢
    omega

/-- **No request is lost or answered twice.**  Along every run of the worker threads, in any
interleaving and with any database errors and panics, the requests taken are the first of the
queue, in order, and the answers given, with the requests the threads are serving, grow by
exactly the requests taken. -/
theorem run_answers (s : Server n) (sched : List (Fin n)) :
    ∃ taken : List Request, s.queue = taken ++ (s.run sched).queue ∧
      (s.run sched).responses.length + (s.run sched).held =
        s.responses.length + taken.length + s.held := by
  induction sched generalizing s with
  | nil => exact ⟨[], rfl, rfl⟩
  | cons i sched ih =>
    obtain ⟨t₁, hq₁, hc₁⟩ := s.step_answers i
    obtain ⟨t₂, hq₂, hc₂⟩ := ih (s.step i)
    refine ⟨t₁ ++ t₂, by rw [Server.run_cons, hq₁, hq₂, List.append_assoc], ?_⟩
    simp only [Server.run_cons, List.length_append] at hc₂ ⊢
    omega

end Rik.Controller
