import LightningLiquidity.Events

/-!
# Blocking consumers

A thread may also wait for the next event by blocking on a condition variable while the queue is
empty. A call that enqueues an event notifies one blocked thread once it has called the waker; and
a thread that takes an event, and leaves others behind, does so as well. What a notified thread
then finds in the queue is up to the other consumers, and it may block again.

All kinds of consumers and the producers together are the machine `BlockingSystem.machine`, over
the steps of an `EventSystem`.

* `handedOut_append_queue`: events are handed out once each, in the order they are enqueued in.
* `noneBlocked_exec`: no thread stays blocked while there are events.
-/

namespace LightningLiquidity

/-- What a thread is doing: something else, to look at the queue again after it was notified, or
    to wait for that. -/
inductive ThreadState
  | idle
  | notified
  | blocked
  deriving DecidableEq

/-- The queue with its consumers, and the calls that have called the waker but not yet notified a
    thread. -/
structure BlockingSystem (ε τ θ : Type*) where
  base : EventSystem ε τ
  threads : θ → ThreadState
  notifying : ℕ

/-- A step of a producer or a consumer. -/
inductive BlockingInput (ε τ θ : Type*)
  /-- A producer adds an event, -/
  | push (event : ε)
  /-- then calls the waker, -/
  | wake
  /-- and then notifies a thread, that is blocked if there is one. -/
  | notify (thread : θ)
  /-- A consumer polls the future of the next event, -/
  | poll (task : τ)
  /-- or drops it. -/
  | drop (task : τ)
  | nextEvent
  | getAndClearPendingEvents
  /-- A thread that waits for the next event looks at the queue. It may do so without having been
      notified. -/
  | waitNextEvent (thread : θ)
  /-- If it leaves events behind, it calls the waker, and then notifies a thread. -/
  | renotify

namespace BlockingSystem

variable {ε τ θ : Type*} [DecidableEq τ] [DecidableEq θ]

omit [DecidableEq τ] [DecidableEq θ] in
/-- An empty queue, without anyone waiting. -/
def new : BlockingSystem ε τ θ := ⟨.new, fun _ => .idle, 0⟩

/-- One step, with the events it hands out. -/
def step (self : BlockingSystem ε τ θ) : BlockingInput ε τ θ → BlockingSystem ε τ θ × List ε
  | .push event => ({ self with base := (self.base.step (.push event)).1 }, [])
  | .wake =>
    match self.base.enqueuing with
    | _ + 1 =>
      ({ self with base := (self.base.step .wake).1, notifying := self.notifying + 1 }, [])
    | 0 => (self, [])
  | .notify thread =>
    match self.notifying with
    | n + 1 =>
      let threads := if self.threads thread = .blocked then
        Function.update self.threads thread .notified else self.threads
      ({ self with threads, notifying := n }, [])
    | 0 => (self, [])
  | .poll task =>
    let (base, events) := self.base.step (.poll task)
    ({ self with base }, events)
  | .drop task => ({ self with base := (self.base.step (.drop task)).1 }, [])
  | .nextEvent =>
    let (base, events) := self.base.step .nextEvent
    ({ self with base }, events)
  | .getAndClearPendingEvents =>
    let (base, events) := self.base.step .getAndClearPendingEvents
    ({ self with base }, events)
  | .waitNextEvent thread =>
    match self.base.events.queue with
    | [] => ({ self with threads := Function.update self.threads thread .blocked }, [])
    | _ :: _ =>
      let (base, events) := self.base.step .waitNextEvent
      ({ self with base, threads := Function.update self.threads thread .idle }, events)
  | .renotify =>
    match self.base.renotifying with
    | _ + 1 =>
      ({ self with base := (self.base.step .renotify).1, notifying := self.notifying + 1 }, [])
    | 0 => (self, [])

/-- The steps of producers and consumers. -/
def machine : Machine (BlockingSystem ε τ θ) (BlockingInput ε τ θ) (List ε) := ⟨step⟩

/-! ## Events are handed out once -/

/-- The event a step adds. -/
def pushed? : BlockingInput ε τ θ → Option ε
  | .push event => some event
  | _ => none

variable {s : BlockingSystem ε τ θ}

/-- What a step hands out is taken off the front of the queue, and what it adds is put at the
    end. -/
theorem step_snd_append_queue (s : BlockingSystem ε τ θ) (i : BlockingInput ε τ θ) :
    (s.step i).2 ++ (s.step i).1.base.events.queue =
      s.base.events.queue ++ (pushed? i).toList := by
  cases i with
  | push event => rfl
  | poll task =>
    rcases hq : s.base.events.queue with _ | ⟨event, queue⟩ <;>
      simp [step, EventSystem.step, EventQueue.poll, hq, pushed?]
  | nextEvent =>
    rcases hq : s.base.events.queue with _ | ⟨event, queue⟩ <;>
      simp [step, EventSystem.step, EventQueue.nextEvent, hq, pushed?]
  | getAndClearPendingEvents =>
    simp [step, EventSystem.step, EventQueue.getAndClearPendingEvents, pushed?]
  | waitNextEvent thread =>
    rcases hq : s.base.events.queue with _ | ⟨event, queue⟩ <;>
      simp [step, EventSystem.step, EventQueue.nextEvent, hq, pushed?]
  | wake =>
    rcases hn : s.base.enqueuing with _ | n <;>
      simp [step, EventSystem.step, EventSystem.callWaker, EventQueue.takeWaker, hn, pushed?]
  | renotify =>
    rcases hn : s.base.renotifying with _ | n <;>
      simp [step, EventSystem.step, EventSystem.callWaker, EventQueue.takeWaker, hn, pushed?]
  | notify thread =>
    rcases hn : s.notifying with _ | n <;> simp [step, hn, pushed?]
  | drop task => simp [step, EventSystem.step, pushed?]

/-- The events handed out in a run, and those left, are those there were and those added, in
    order. -/
theorem handedOut_append_queue (s : BlockingSystem ε τ θ) (is : List (BlockingInput ε τ θ)) :
    (machine.trace s is).flatMap Prod.snd ++ (machine.exec s is).base.events.queue =
      s.base.events.queue ++ is.filterMap pushed? := by
  induction is generalizing s with
  | nil => simp
  | cons i is ih =>
    have hstep := step_snd_append_queue s i
    have hpushed : (i :: is).filterMap pushed? = (pushed? i).toList ++ is.filterMap pushed? := by
      cases h : pushed? i <;> simp [h]
    calc (machine.trace s (i :: is)).flatMap Prod.snd ++ (machine.exec s (i :: is)).base.events.queue
      _ = (s.step i).2 ++ ((machine.trace (s.step i).1 is).flatMap Prod.snd ++
          (machine.exec (s.step i).1 is).base.events.queue) := List.append_assoc ..
      _ = (s.step i).2 ++ (s.step i).1.base.events.queue ++ is.filterMap pushed? := by
        rw [ih, List.append_assoc]
      _ = s.base.events.queue ++ (i :: is).filterMap pushed? := by
        rw [hstep, hpushed, List.append_assoc]

/-! ## No thread stays blocked -/

omit [DecidableEq τ] [DecidableEq θ] in
/-- A thread that is notified is blocked, if there is one. -/
def WakesBlocked (s : BlockingSystem ε τ θ) (i : BlockingInput ε τ θ) : Prop :=
  ∀ t, i = .notify t → (∃ t', s.threads t' = .blocked) → s.threads t = .blocked

omit [DecidableEq τ] [DecidableEq θ] in
/-- No call has changed the queue but not yet notified a thread, and no thread has been notified
    but not yet looked at the queue. -/
structure Quiet (s : BlockingSystem ε τ θ) : Prop where
  enqueuing : s.base.enqueuing = 0
  renotifying : s.base.renotifying = 0
  notifying : s.notifying = 0
  threads : ∀ t, s.threads t ≠ .notified

omit [DecidableEq τ] [DecidableEq θ] in
/-- If there are events while a thread is blocked, some thread is about to look at the queue, or
    some call about to notify one. -/
def Covered (s : BlockingSystem ε τ θ) : Prop :=
  s.base.events.queue ≠ [] → (∃ t, s.threads t = .blocked) →
    0 < s.base.enqueuing + s.base.renotifying + s.notifying ∨ ∃ t, s.threads t = .notified

omit [DecidableEq τ] [DecidableEq θ] in
/-- Taking events leaves the rest covered. -/
theorem Covered.of_queue (h : s.Covered) {base : EventSystem ε τ}
    (hqueue : s.base.events.queue = [] → base.events.queue = [])
    (henqueuing : base.enqueuing = s.base.enqueuing)
    (hrenotifying : base.renotifying = s.base.renotifying) :
    ({ s with base } : BlockingSystem ε τ θ).Covered := by
  intro hq hblocked
  rw [henqueuing, hrenotifying]
  exact h (fun hnil => hq (hqueue hnil)) hblocked

/-- A step that notifies as it should leaves events covered. -/
theorem Covered.step (h : s.Covered) {i : BlockingInput ε τ θ} (hi : s.WakesBlocked i) :
    (s.step i).1.Covered := by
  cases i with
  | push event => exact fun _ _ => .inl (by simp only [BlockingSystem.step, EventSystem.step]; omega)
  | wake =>
    simp only [BlockingSystem.step]
    split
    · exact fun _ _ => .inl (by simp only; omega)
    · exact h
  | renotify =>
    simp only [BlockingSystem.step]
    split
    · exact fun _ _ => .inl (by simp only; omega)
    · exact h
  | notify thread =>
    simp only [BlockingSystem.step]
    split
    · next n hn =>
      split
      · exact fun _ _ => .inr ⟨thread, Function.update_self ..⟩
      · next hidle => exact fun _ hblocked => absurd (hi thread rfl hblocked) hidle
    · exact h
  | poll task => exact h.of_queue (fun hq => by simp [hq]) rfl rfl
  | drop task => exact h.of_queue id rfl rfl
  | nextEvent => exact h.of_queue (fun hq => by simp [hq]) rfl rfl
  | getAndClearPendingEvents => exact fun hq => absurd rfl hq
  | waitNextEvent thread =>
    rcases hq : s.base.events.queue with _ | ⟨event, queue⟩
    · simp only [BlockingSystem.step, hq]
      exact fun hne => absurd hq hne
    · -- The thread is about to notify another one, unless it took the last event.
      simp only [BlockingSystem.step, EventSystem.step, EventQueue.nextEvent, hq]
      intro hne _
      rw [if_neg hne]
      exact .inl (by simp only; omega)

omit [DecidableEq τ] [DecidableEq θ] in
theorem Covered.not_blocked (h : s.Covered) (hs : s.Quiet) (hq : s.base.events.queue ≠ []) (t : θ) :
    s.threads t ≠ .blocked := by
  intro ht
  rcases h hq ⟨t, ht⟩ with hpos | ⟨t', ht'⟩
  · rw [hs.enqueuing, hs.renotifying, hs.notifying] at hpos
    exact Nat.lt_irrefl 0 hpos
  · exact hs.threads t' ht'

/-- **Blocking consumers.** In every run, whatever other consumers take from the queue, the events
    handed out and those left are those added, once each and in order; and if every notification
    reaches a blocked thread when there is one, no thread is left blocked while there are events. -/
theorem noneBlocked_exec {ε τ θ : Type*} [DecidableEq τ] [DecidableEq θ]
    (is : List (BlockingInput ε τ θ)) :
    let s := machine.exec new is
    (machine.trace new is).flatMap Prod.snd ++ s.base.events.queue = is.filterMap pushed? ∧
      (machine.Along WakesBlocked new is → s.Quiet → s.base.events.queue ≠ [] →
        ∀ t, s.threads t ≠ .blocked) := by
  intro s
  refine ⟨handedOut_append_queue new is, fun h hs hq t => ?_⟩
  have hcovered : s.Covered := h.invariant (fun s i hs hi => hs.step hi) fun hq => absurd rfl hq
  exact hcovered.not_blocked hs hq t

/-- A thread that was blocked takes the first of two events, and is not blocked while the second
    one is left. -/
theorem noneBlocked_exec_two :
    let s : BlockingSystem ℕ ℕ Bool := machine.exec new [.waitNextEvent true, .push 7, .push 8,
      .wake, .notify true, .wake, .notify true, .waitNextEvent true, .renotify, .notify true]
    s.base.events.queue = [8] ∧ ∀ t, s.threads t ≠ .blocked := by
  intro s
  have hwakes : machine.Along WakesBlocked (new : BlockingSystem ℕ ℕ Bool) [.waitNextEvent true,
      .push 7, .push 8, .wake, .notify true, .wake, .notify true, .waitNextEvent true, .renotify,
      .notify true] := by
    refine ⟨?_, ?_, ?_, ?_, ?_, ?_, ?_, ?_, ?_, ?_, trivial⟩
    all_goals intro t ht
    all_goals cases ht
    all_goals decide
  have hquiet : s.Quiet := ⟨rfl, rfl, rfl, by decide⟩
  exact ⟨rfl, (noneBlocked_exec _).2 hwakes hquiet (List.cons_ne_nil 8 [])⟩

end BlockingSystem

end LightningLiquidity
