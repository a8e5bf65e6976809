import LightningLiquidity.Lib.Machine

/-!
# The event queue

Events are handed to the user through a queue (`EventQueue`). An asynchronous consumer that finds
it empty leaves its waker behind, and is parked until the waker is called. There is one slot for
the wakers of all consumers, which is emptied by the next event enqueued.

The consumers and producers together are the machine `EventSystem.machine`, whose steps are what
happens under one lock: an event is enqueued in two of them. Blocking consumers wait on a
condition variable of their own; here they only take an event when there is one.

* `noneMissed_exec`: no consumer misses an event, as long as none registers its waker over
  that of another consumer that is still parked.
* `exists_not_noneMissed`: otherwise the run can go on so that one is left parked, while there
  are events.
-/

namespace LightningLiquidity

/-- The events not yet handed out, and the waker of a consumer. -/
structure EventQueue (ε τ : Type*) where
  queue : List ε
  waker : Option τ

namespace EventQueue

variable {ε τ : Type*}

/-- An empty queue. -/
def new : EventQueue ε τ := ⟨[], none⟩

/-- The first half of enqueuing an event. -/
def pushBack (self : EventQueue ε τ) (event : ε) : EventQueue ε τ :=
  { self with queue := self.queue ++ [event] }

/-- The second half: the waker to call is taken out. -/
def takeWaker (self : EventQueue ε τ) : EventQueue ε τ × Option τ :=
  ({ self with waker := none }, self.waker)

/-- Takes the next event, if there is one. -/
def nextEvent (self : EventQueue ε τ) : EventQueue ε τ × Option ε :=
  match self.queue with
  | event :: queue => ({ self with queue }, some event)
  | [] => (self, none)

/-- Takes all events. -/
def getAndClearPendingEvents (self : EventQueue ε τ) : EventQueue ε τ × List ε :=
  ({ self with queue := [] }, self.queue)

/-- A consumer polls the future of the next event. The queue stays locked while the waker is
    registered. -/
def poll (self : EventQueue ε τ) (task : τ) : EventQueue ε τ × Option ε :=
  match self.queue with
  | event :: queue => ({ self with queue }, some event)
  | [] => ({ self with waker := some task }, none)

end EventQueue

/-- What an asynchronous consumer is doing: something else, to poll again, or to wait for its
    waker to be called. -/
inductive TaskState
  | idle
  | woken
  | parked
  deriving DecidableEq

/-- The queue, its consumers, and the calls that have changed the queue but not yet called the
    waker: of producers, and of blocking consumers that leave events behind. -/
structure EventSystem (ε τ : Type*) where
  events : EventQueue ε τ
  tasks : τ → TaskState
  enqueuing : ℕ
  renotifying : ℕ

/-- A step of a producer or a consumer. -/
inductive EventInput (ε τ : Type*)
  /-- A producer adds an event, -/
  | push (event : ε)
  /-- and then calls the waker. -/
  | wake
  | poll (task : τ)
  /-- A consumer drops its future. -/
  | drop (task : τ)
  | nextEvent
  | getAndClearPendingEvents
  /-- A blocking consumer takes an event, -/
  | waitNextEvent
  /-- and then calls the waker, if there are more. -/
  | renotify

namespace EventSystem

variable {ε τ : Type*} [DecidableEq τ]

omit [DecidableEq τ] in
/-- An empty queue, without anyone waiting. -/
def new : EventSystem ε τ := ⟨.new, fun _ => .idle, 0, 0⟩

/-- The tasks after a waker is called. It has an effect on a task that is parked. -/
def wakeTask (tasks : τ → TaskState) : Option τ → τ → TaskState
  | some task => if tasks task = .parked then Function.update tasks task .woken else tasks
  | none => tasks

/-- The waker is taken and called. -/
def callWaker (self : EventSystem ε τ) : EventSystem ε τ :=
  let (events, waker) := self.events.takeWaker
  { self with events, tasks := wakeTask self.tasks waker }

/-- One step, with the events it hands out. -/
def step (self : EventSystem ε τ) : EventInput ε τ → EventSystem ε τ × List ε
  | .push event =>
    ({ self with events := self.events.pushBack event, enqueuing := self.enqueuing + 1 }, [])
  | .wake =>
    match self.enqueuing with
    | n + 1 => ({ self.callWaker with enqueuing := n }, [])
    | 0 => (self, [])
  | .poll task =>
    let (events, event) := self.events.poll task
    let tasks := Function.update self.tasks task (if event.isSome then .idle else .parked)
    ({ self with events, tasks }, event.toList)
  | .drop task => ({ self with tasks := Function.update self.tasks task .idle }, [])
  | .nextEvent =>
    let (events, event) := self.events.nextEvent
    ({ self with events }, event.toList)
  | .getAndClearPendingEvents =>
    let (events, pending) := self.events.getAndClearPendingEvents
    ({ self with events }, pending)
  | .waitNextEvent =>
    let (events, event) := self.events.nextEvent
    let renotifying := if events.queue = [] then self.renotifying else self.renotifying + 1
    ({ self with events, renotifying }, event.toList)
  | .renotify =>
    match self.renotifying with
    | n + 1 => ({ self.callWaker with renotifying := n }, [])
    | 0 => (self, [])

/-- The steps of producers and consumers. -/
def machine : Machine (EventSystem ε τ) (EventInput ε τ) (List ε) := ⟨step⟩

/-! ## Wake-ups -/

omit [DecidableEq τ] in
/-- No event is half enqueued, and no consumer has been woken but not polled yet. -/
structure Settled (s : EventSystem ε τ) : Prop where
  enqueuing : s.enqueuing = 0
  tasks : ∀ t, s.tasks t ≠ .woken

omit [DecidableEq τ] in
/-- If all is settled and there are events, no consumer is parked. -/
def NoneMissed (s : EventSystem ε τ) : Prop :=
  s.Settled → s.events.queue ≠ [] → ∀ t, s.tasks t ≠ .parked

omit [DecidableEq τ] in
/-- A consumer registers its waker over that of another one that is still parked. -/
def Overwrites (s : EventSystem ε τ) (i : EventInput ε τ) : Prop :=
  ∃ t t', i = .poll t ∧ s.events.queue = [] ∧ s.events.waker = some t' ∧ t' ≠ t ∧
    s.tasks t' = .parked

omit [DecidableEq τ] in
/-- The waker of a consumer that is parked is in the slot, and as long as one is in the slot, the
    queue is empty or a producer is about to call it. -/
structure Registered (s : EventSystem ε τ) : Prop where
  waker : ∀ t, s.tasks t = .parked → s.events.waker = some t
  queue : s.events.waker.isSome → s.events.queue = [] ∨ 0 < s.enqueuing

variable {s : EventSystem ε τ}

omit [DecidableEq τ] in
theorem Registered.new : (new : EventSystem ε τ).Registered where
  waker _ h := nomatch h
  queue h := nomatch h

omit [DecidableEq τ] in
/-- Taking events leaves the wakers registered. -/
theorem Registered.of_queue (h : s.Registered) {queue : List ε}
    (hq : s.events.queue = [] → queue = []) {renotifying : ℕ} :
    ({ s with events := { s.events with queue }, renotifying } : EventSystem ε τ).Registered where
  waker := h.waker
  queue hw := (h.queue hw).imp_left hq

/-- Calling the waker leaves no consumer parked, if they are all registered. -/
theorem Registered.not_parked_callWaker (h : s.Registered) (t : τ) :
    s.callWaker.tasks t ≠ .parked := by
  show wakeTask s.tasks s.events.waker t ≠ .parked
  intro ht
  cases hw : s.events.waker with
  | none =>
    rw [hw] at ht
    cases hw.symm.trans (h.waker t ht)
  | some t' =>
    rw [hw, wakeTask] at ht
    split at ht
    · by_cases htt : t = t'
      · rw [htt, Function.update_self] at ht
        cases ht
      · rw [Function.update_of_ne htt] at ht
        exact htt (Option.some.inj ((h.waker t ht).symm.trans hw))
    · next hnp =>
      obtain rfl := Option.some.inj ((h.waker t ht).symm.trans hw)
      exact hnp ht

theorem Registered.callWaker (h : s.Registered) {enqueuing renotifying : ℕ} :
    ({ s.callWaker with enqueuing, renotifying } : EventSystem ε τ).Registered where
  waker t ht := absurd ht (h.not_parked_callWaker t)
  queue hw := nomatch hw

omit [DecidableEq τ] in
/-- What taking the next event does to the queue. -/
theorem nextEvent_eq (q : EventQueue ε τ) :
    q.nextEvent = ({ q with queue := q.queue.tail }, q.queue.head?) := by
  obtain ⟨_ | ⟨event, queue⟩, waker⟩ := q <;> rfl

/-- A consumer that polls the empty queue is parked. -/
theorem step_poll_of_nil (hq : s.events.queue = []) (t : τ) :
    (s.step (.poll t)).1 = { s with
      events := ⟨[], some t⟩
      tasks := Function.update s.tasks t .parked } := by
  simp only [EventSystem.step, EventQueue.poll, hq]
  rfl

/-- A consumer that polls gets an event, if there is one. -/
theorem step_poll_of_cons {event : ε} {queue : List ε} (hq : s.events.queue = event :: queue)
    (t : τ) : (s.step (.poll t)).1 = { s with
      events := ⟨queue, s.events.waker⟩
      tasks := Function.update s.tasks t .idle } := by
  simp only [EventSystem.step, EventQueue.poll, hq]
  rfl

/-- A task is parked after one that gets idle iff it was, and is another one. -/
theorem update_idle_eq_parked {tasks : τ → TaskState} {t t' : τ} :
    Function.update tasks t .idle t' = .parked ↔ t' ≠ t ∧ tasks t' = .parked := by
  by_cases htt : t' = t
  · simp [htt]
  · simp [htt]

/-- A step at which no consumer overwrites a waker leaves the wakers registered. -/
theorem Registered.step (h : s.Registered) {i : EventInput ε τ} (hi : ¬s.Overwrites i) :
    (s.step i).1.Registered := by
  cases i with
  | push event => exact ⟨h.waker, fun _ => .inr (Nat.succ_pos _)⟩
  | wake =>
    simp only [EventSystem.step]
    split
    · exact h.callWaker
    · exact h
  | poll t =>
    rcases hq : s.events.queue with _ | ⟨event, queue⟩
    · -- The queue is empty. The consumer is parked, and no other one is.
      rw [step_poll_of_nil hq]
      refine ⟨fun t' ht' => ?_, fun _ => .inl rfl⟩
      by_cases htt : t' = t
      · rw [htt]
      · have hparked : s.tasks t' = .parked := (Function.update_of_ne htt ..).symm.trans ht'
        exact absurd ⟨t, t', rfl, hq, h.waker t' hparked, htt, hparked⟩ hi
    · rw [step_poll_of_cons hq]
      refine ⟨fun t' ht' => h.waker t' (update_idle_eq_parked.1 ht').2, fun hw => ?_⟩
      refine (h.queue hw).imp_left fun hnil => ?_
      cases hq.symm.trans hnil
  | drop t => exact ⟨fun t' ht' => h.waker t' (update_idle_eq_parked.1 ht').2, h.queue⟩
  | nextEvent | waitNextEvent =>
    simp only [EventSystem.step, nextEvent_eq]
    exact h.of_queue fun hq => by rw [hq, List.tail_nil]
  | getAndClearPendingEvents => exact h.of_queue fun _ => rfl
  | renotify =>
    simp only [EventSystem.step]
    split
    · exact h.callWaker
    · exact h

omit [DecidableEq τ] in
theorem Registered.noneMissed (h : s.Registered) : s.NoneMissed := by
  intro hs hq t ht
  have hw := h.waker t ht
  rcases h.queue (hw ▸ rfl) with hnil | hpos
  · exact hq hnil
  · exact hpos.ne' hs.enqueuing

/-- **Wake-ups.** In every run in which no consumer registers its waker over that of another one
    that is still parked, no consumer is left parked while there are events. -/
theorem noneMissed_exec {ε τ : Type*} [DecidableEq τ] (is : List (EventInput ε τ))
    (h : machine.Along (fun s i => ¬Overwrites s i) new is) : (machine.exec new is).NoneMissed := by
  have hreg : (machine.exec new is).Registered :=
    h.invariant (fun s i hs hi => hs.step hi) .new
  exact hreg.noneMissed

/-- A consumer that is parked gets an event that is enqueued later. -/
theorem noneMissed_exec_poll :
    (machine.exec new [.poll 0, .push 7, .wake, .poll 0] : EventSystem ℕ ℕ).NoneMissed := by
  refine noneMissed_exec _ ⟨?_, ?_, ?_, ?_, trivial⟩
  · rintro ⟨_, _, -, -, ⟨⟩, -⟩
  · rintro ⟨_, _, ⟨⟩, -⟩
  · rintro ⟨_, _, ⟨⟩, -⟩
  · rintro ⟨_, _, -, -, ⟨⟩, -⟩

/-- Of two consumers, the one whose waker is overwritten is not woken by the second event. -/
theorem not_noneMissed_exec :
    ¬∀ is : List (EventInput ℕ ℕ), (machine.exec new is).NoneMissed := by
  intro h
  have hlast := h [.poll 0, .poll 1, .push 7, .wake, .push 8, .wake, .poll 1]
  refine hlast ⟨rfl, fun t => ?_⟩ (List.cons_ne_nil 8 []) 0 rfl
  rcases t with _ | _ | t
  all_goals exact fun ht => nomatch ht

/-! ## Overwritten wakers -/

/-- What enqueuing an event does, if nothing comes in between. -/
theorem exec_enqueue (s : EventSystem ε τ) (event : ε) :
    machine.exec s [.push event, .wake] = { s with
      events := ⟨s.events.queue ++ [event], none⟩
      tasks := wakeTask s.tasks s.events.waker } := rfl

/-- A parked consumer misses the next event if the waker in the slot is of no parked one. -/
theorem not_noneMissed_enqueue {t : τ} (hs : s.Settled) (ht : s.tasks t = .parked)
    (hw : ∀ u, s.events.waker = some u → s.tasks u ≠ .parked) (event : ε) :
    ¬(machine.exec s [.push event, .wake]).NoneMissed := by
  have htasks : wakeTask s.tasks s.events.waker = s.tasks := by
    cases h : s.events.waker with
    | none => rfl
    | some u => exact if_neg (hw u h)
  rw [exec_enqueue, htasks]
  exact fun h => h ⟨hs.enqueuing, hs.tasks⟩ (List.concat_ne_nil event _) t ht

/-- Of two parked consumers, one can be made to miss an event. -/
theorem exists_not_noneMissed_of_parked {t t' : τ} (hs : s.Settled) (htt : t ≠ t')
    (ht : s.tasks t = .parked) (ht' : s.tasks t' = .parked) (event : ε) :
    ∃ is, ¬(machine.exec s is).NoneMissed := by
  rcases hq : s.events.queue with _ | ⟨event', queue⟩
  · by_cases hw : ∀ u, s.events.waker = some u → s.tasks u ≠ .parked
    · exact ⟨_, not_noneMissed_enqueue hs ht hw event⟩
    -- The one whose waker is in the slot is woken and gets the first event. The slot is then
    -- empty, and the other one misses the second event.
    push Not at hw
    obtain ⟨u, hu, hparked⟩ := hw
    have hfirst : machine.exec s [.push event, .wake, .poll u] = { s with
        events := ⟨[], none⟩
        tasks := Function.update (Function.update s.tasks u .woken) u .idle } := by
      rw [show [EventInput.push event, .wake, .poll u] = [.push event, .wake] ++ [.poll u] from rfl,
        Machine.exec_append, exec_enqueue, hq, hu, wakeTask, if_pos hparked]
      rfl
    rw [Function.update_idem] at hfirst
    obtain ⟨v, hvu, hv⟩ : ∃ v, v ≠ u ∧ s.tasks v = .parked := by
      by_cases htu : t = u
      · exact ⟨t', fun h => htt (htu.trans h.symm), ht'⟩
      · exact ⟨t, htu, ht⟩
    have hsettled : (machine.exec s [.push event, .wake, .poll u]).Settled := by
      rw [hfirst]
      refine ⟨hs.enqueuing, fun w => ?_⟩
      show Function.update s.tasks u .idle w ≠ .woken
      by_cases hwu : w = u
      · simp [hwu]
      · rw [Function.update_of_ne hwu]
        exact hs.tasks w
    have hmissed := not_noneMissed_enqueue (t := v) hsettled
      (hfirst ▸ update_idle_eq_parked.2 ⟨hvu, hv⟩) (by simp [hfirst]) event
    rw [← Machine.exec_append] at hmissed
    exact ⟨_, hmissed⟩
  · exact ⟨[], fun h => h hs (hq ▸ List.cons_ne_nil event' queue) t ht⟩

/-- A consumer that registers its waker over that of another one lets the run go on so that one
    of them misses an event. -/
theorem exists_not_noneMissed {i : EventInput ε τ} (hs : s.Settled) (hi : s.Overwrites i)
    (event : ε) : ∃ is, ¬(machine.exec s (i :: is)).NoneMissed := by
  obtain ⟨t, t', rfl, hq, -, htt, ht'⟩ := hi
  show ∃ is, ¬(machine.exec (s.step (.poll t)).1 is).NoneMissed
  rw [step_poll_of_nil hq]
  have hparked : Function.update s.tasks t .parked t' = .parked :=
    (Function.update_of_ne htt ..).trans ht'
  refine exists_not_noneMissed_of_parked ⟨hs.enqueuing, fun u => ?_⟩ htt.symm
    (Function.update_self ..) hparked event
  by_cases hu : u = t
  · simp [hu]
  · simpa [hu] using hs.tasks u

end EventSystem

end LightningLiquidity
