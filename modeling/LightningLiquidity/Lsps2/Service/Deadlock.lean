import LightningLiquidity.Lsps2.Service.Effects
import LightningLiquidity.Lsps2.Service.Locks

/-!
# Deadlocks of the service

All calls acquire locks in the order of `ServiceLock.rank`, except for one:
`invoice_parameters_generated` acquires the map of short channel ids while it
holds the state of the peer (`Acquires`). So threads are only ever deadlocked
through one that is in that call, and one that is on its way from the map to the
state of the same peer (`Crosses`).

* `not_deadlocked_of_along`: if no acquisition makes two threads cross, no threads
  are ever deadlocked.
* `exists_deadlocked_of_crosses`: threads that cross are deadlocked, or are once
  one of them has made its next acquisition.
* `not_deadlockFree`: a deadlock is reached.
-/

namespace LightningLiquidity

/-! ## The order of locks -/

/-- The order in which calls acquire locks, but for `invoice_parameters_generated`. -/
def ServiceLock.rank : ServiceLock → ℕ
  | peerByChannelId => 0
  | peerByInterceptScid => 1
  | perPeerState => 2
  | peerState _ => 3

/-- The acquisitions that calls make, by the locks they hold. -/
inductive Acquires : List (ServiceLock × LockMode) → ServiceLock → LockMode → Prop
  | first {l : ServiceLock} {m : LockMode} : Acquires [] l m
  /-- The state of a peer, found in `peer_by_channel_id` or `peer_by_intercept_scid`. -/
  | map {l : ServiceLock} (hl : l.rank < 2) : Acquires [(l, .read)] .perPeerState .read
  | peer {m : LockMode} {p : PublicKey} : Acquires [(.perPeerState, m)] (.peerState p) .write
  | mapPeer {l : ServiceLock} {p : PublicKey} (hl : l.rank < 2) :
      Acquires [(.perPeerState, .read), (l, .read)] (.peerState p) .write
  /-- The map of short channel ids, in `invoice_parameters_generated`. -/
  | invoice {p : PublicKey} :
      Acquires [(.peerState p, .write), (.perPeerState, .read)] .peerByInterceptScid .write

/-- Locks are acquired in order, but for `invoice_parameters_generated`. -/
theorem Acquires.rank_lt_or {held : List (ServiceLock × LockMode)} {l : ServiceLock} {m : LockMode}
    (h : Acquires held l m) {e : ServiceLock × LockMode} (he : e ∈ held) :
    e.1.rank < l.rank ∨ l = .peerByInterceptScid ∧ m = .write ∧
      ∃ p, held = [(.peerState p, .write), (.perPeerState, .read)] := by
  cases h with
  | first => exact absurd he List.not_mem_nil
  | map hl =>
    obtain rfl := List.mem_singleton.1 he
    exact .inl hl
  | peer =>
    obtain rfl := List.mem_singleton.1 he
    exact .inl (by decide : 2 < 3)
  | mapPeer hl =>
    rcases List.mem_cons.1 he with rfl | he
    · exact .inl (by decide : 2 < 3)
    · obtain rfl := List.mem_singleton.1 he
      exact .inl (hl.trans (by decide : 2 < 3))
  | invoice => exact .inr ⟨rfl, rfl, _, rfl⟩

/-- A thread that holds the map of short channel ids and acquires another lock is in
    `htlc_intercepted`. -/
theorem Acquires.of_held_scids {held : List (ServiceLock × LockMode)} {l : ServiceLock}
    {m : LockMode} (h : Acquires held l m) {e : ServiceLock × LockMode} (he : e ∈ held)
    (hel : e.1 = .peerByInterceptScid) :
    (.peerByInterceptScid, .read) ∈ held ∧
      (l = .perPeerState ∧ m = .read ∨ ∃ p, l = .peerState p ∧ m = .write) := by
  cases h with
  | first => exact absurd he List.not_mem_nil
  | map hl =>
    obtain rfl := List.mem_singleton.1 he
    subst hel
    exact ⟨he, .inl ⟨rfl, rfl⟩⟩
  | peer =>
    obtain rfl := List.mem_singleton.1 he
    cases hel
  | mapPeer hl =>
    rcases List.mem_cons.1 he with rfl | hmem
    · cases hel
    · obtain rfl := List.mem_singleton.1 hmem
      subst hel
      exact ⟨he, .inr ⟨_, rfl, rfl⟩⟩
  | invoice =>
    rcases List.mem_cons.1 he with rfl | he
    · cases hel
    · obtain rfl := List.mem_singleton.1 he
      cases hel

/-- A thread that holds the state of a peer and acquires another lock is in
    `invoice_parameters_generated`. -/
theorem Acquires.of_held_peer {held : List (ServiceLock × LockMode)} {l : ServiceLock}
    {m : LockMode} (h : Acquires held l m) {e : ServiceLock × LockMode} (he : e ∈ held)
    {p : PublicKey} (hel : e.1 = .peerState p) :
    held = [(.peerState p, .write), (.perPeerState, .read)] ∧ l = .peerByInterceptScid ∧
      m = .write := by
  rcases h.rank_lt_or he with hlt | ⟨rfl, rfl, q, rfl⟩
  · rw [hel] at hlt
    exact absurd hlt (by cases l <;> simp [ServiceLock.rank])
  · rcases List.mem_cons.1 he with rfl | he
    · cases hel
      exact ⟨rfl, rfl, rfl⟩
    · obtain rfl := List.mem_singleton.1 he
      cases hel

/-- What holds of a thread at every operation of a call: the acquisition it is about to make
    is one that calls make, from the map of short channel ids to the state of a peer by way of
    the map of peers. It releases locks last, but for that of `channel_ready`, and holds
    nothing when it is done. -/
def InCall (held : List (ServiceLock × LockMode)) : List (LockOp ServiceLock) → Prop
  | [] => held = []
  | .acquire l m :: todo => Acquires held l m ∧
      ((.peerByInterceptScid, .read) ∈ held → ∀ l' m', .acquire l' m' ∈ todo →
        l = .perPeerState ∧ todo.head? = some (.acquire l' m'))
  | .release _ :: todo => held = [(.peerByChannelId, .write)] ∨ ∀ l m, .acquire l m ∉ todo

/-- A thread that holds a lock, not that of `channel_ready`, and has one to acquire, acquires one
    now. -/
theorem InCall.exists_eq_cons {held : List (ServiceLock × LockMode)} {todo : List (LockOp ServiceLock)}
    (h : InCall held todo) {e : ServiceLock × LockMode} (he : e ∈ held)
    (hne : e.1 ≠ .peerByChannelId) {l : ServiceLock} {m : LockMode} (hl : .acquire l m ∈ todo) :
    ∃ l' m' todo', todo = .acquire l' m' :: todo' := by
  cases todo with
  | nil => exact absurd hl List.not_mem_nil
  | cons op todo =>
    cases op with
    | acquire l' m' => exact ⟨l', m', todo, rfl⟩
    | release l' =>
      rcases h with rfl | hnone
      · exact absurd (congrArg Prod.fst (List.mem_singleton.1 he)) hne
      · exact absurd ((List.mem_cons.1 hl).resolve_left (by simp)) (hnone l m)

namespace LSPS2ServiceHandler

theorem inCall_peerLocks (self : LSPS2ServiceHandler) (p : PublicKey) :
    LockAlways InCall [] (LockOp.nested (self.peerLocks p)) := by
  rw [peerLocks]
  cases self.perPeerState p with
  | none => simp [LockOp.nested, LockAlways, LockOp.apply, InCall, Acquires.first]
  | some peerState =>
    simp [LockOp.nested, LockAlways, LockOp.apply, InCall, Acquires.first, Acquires.peer]

theorem inCall_foundPeerLocks (self : LSPS2ServiceHandler) {l : ServiceLock} (hl : l.rank < 2)
    (p? : Option PublicKey) :
    LockAlways InCall [] (LockOp.nested ((l, .read) :: self.foundPeerLocks p?)) := by
  have hne₁ : l ≠ .perPeerState := by rintro rfl; exact absurd hl (by decide)
  have hne₂ : ∀ p, l ≠ .peerState p := by rintro p rfl; exact absurd hl (by simp [ServiceLock.rank])
  cases p? with
  | none =>
    simp [foundPeerLocks, LockOp.nested, LockAlways, LockOp.apply, InCall, Acquires.first]
  | some p =>
    show LockAlways InCall [] (LockOp.nested ((l, .read) :: self.peerLocks p))
    rw [peerLocks]
    cases self.perPeerState p with
    | none =>
      simp [LockOp.nested, LockAlways, LockOp.apply, InCall, Acquires.first, Acquires.map hl, hne₁]
    | some peerState =>
      simp [LockOp.nested, LockAlways, LockOp.apply, InCall, Acquires.first, Acquires.map hl,
        Acquires.mapPeer hl, hne₁, hne₂]

/-- Every operation of a call is as said by `InCall`. -/
theorem inCall_lockOps (env : Externals) (self : LSPS2ServiceHandler) (i : ServiceInput) :
    LockAlways InCall [] (lockOps env self i) := by
  obtain ⟨call, cm, now⟩ := i
  cases call with
  | invalidTokenProvided p requestId => exact self.inCall_peerLocks p
  | openingFeeParamsGenerated p requestId menu => exact self.inCall_peerLocks p
  | invoiceParametersGenerated p requestId scid delta trusts user =>
    show LockAlways InCall [] (LockOp.nested (self.invoiceLocks p requestId))
    rw [invoiceLocks]
    split
    · next buyRequest hrequest =>
      -- A sale takes the map of short channel ids while the peer is locked.
      obtain ⟨peerState, hpeer, -⟩ := Option.bind_eq_some_iff.1 hrequest
      simp [peerLocks, hpeer, LockOp.nested, LockAlways, LockOp.apply, InCall, Acquires.first,
        Acquires.peer, Acquires.invoice]
    · exact self.inCall_peerLocks p
  | htlcIntercepted scid id amount hash => exact self.inCall_foundPeerLocks (by decide) _
  | htlcHandlingFailed destination =>
    cases destination with
    | nextHopChannel nodeId channelId => exact self.inCall_foundPeerLocks (by decide) _
    | other => rfl
  | paymentForwarded channelId => exact self.inCall_foundPeerLocks (by decide) _
  | channelReady user channelId p =>
    exact ⟨⟨.first, fun h => absurd h List.not_mem_nil⟩, .inl rfl, self.inCall_peerLocks p⟩
  | handleMessage message p =>
    have hkeep : LockAlways InCall [] (LockOp.nested (keepRequestLocks p)) := by
      simp [keepRequestLocks, LockOp.nested, LockAlways, LockOp.apply, InCall, Acquires.first,
        Acquires.peer]
    rcases message with ⟨requestId, params | params⟩ | ⟨requestId, response⟩
    · exact hkeep
    · -- A `buy` request is kept, which takes locks, only if it passes the checks.
      show LockAlways InCall [] (LockOp.nested (buyLocks env now self p params))
      rw [buyLocks]
      split
      · exact hkeep
      · rfl
    · rfl

end LSPS2ServiceHandler

/-! ## Calls that cross -/

/-- A thread is on its way to the state of a peer from the map of short channel ids, in
    `htlc_intercepted`. -/
def Intercepting (p : PublicKey) (a : LockThread ServiceLock) : Prop :=
  (.peerByInterceptScid, .read) ∈ a.held ∧ .acquire (.peerState p) .write ∈ a.todo

/-- A thread is on its way to the map of peers from the map of short channel ids. -/
def LookingUp (a : LockThread ServiceLock) : Prop :=
  (.peerByInterceptScid, .read) ∈ a.held ∧ .acquire .perPeerState .read ∈ a.todo

/-- A thread is on its way to the map of short channel ids from the state of a peer, in
    `invoice_parameters_generated`. -/
def Invoicing (p : PublicKey) (a : LockThread ServiceLock) : Prop :=
  (.peerState p, .write) ∈ a.held ∧ .acquire .peerByInterceptScid .write ∈ a.todo

/-- Two threads are on their ways between the map of short channel ids and the state of the
    same peer, in opposite directions. Where writers come first, one that waits for the map of
    peers also keeps a thread from looking up a peer. -/
def Crosses (writersFirst : Prop) (a b : LockThread ServiceLock) : Prop :=
  ∃ p, (Intercepting p a ∨ writersFirst ∧ LookingUp a) ∧ Invoicing p b

/-- A thread acquires a lock, and now crosses another. -/
def Collides {τ π : Type*} (writersFirst : Prop) (s : τ → LockThread ServiceLock) :
    LockInput τ π → Prop
  | .start _ _ => False
  | .go t => ∃ l m todo, (s t).todo = .acquire l m :: todo ∧ LockFree s t l m ∧ ∃ t', t' ≠ t ∧
      (Crosses writersFirst { held := (l, m) :: (s t).held, todo } (s t') ∨
        Crosses writersFirst (s t') { held := (l, m) :: (s t).held, todo })

/-- While a thread makes an operation, the others hold no locks. -/
def Alone {τ π : Type*} (s : τ → LockThread ServiceLock) : LockInput τ π → Prop
  | .start _ _ => True
  | .go t => ∀ t', t' ≠ t → (s t').held = []

instance {τ π : Type*} [DecidableEq τ] [Fintype τ] (s : τ → LockThread ServiceLock) :
    ∀ i : LockInput τ π, Decidable (Alone s i)
  | .start _ _ => .isTrue trivial
  | .go _ => inferInstanceAs (Decidable (∀ _, _ → _))

theorem Intercepting.of_release {p : PublicKey} {held : List (ServiceLock × LockMode)} {l : ServiceLock}
    {todo : List (LockOp ServiceLock)}
    (h : Intercepting p { held := (LockOp.release l).apply held, todo }) :
    Intercepting p { held, todo := .release l :: todo } :=
  ⟨(List.mem_filter.1 h.1).1, List.mem_cons_of_mem _ h.2⟩

theorem LookingUp.of_release {held : List (ServiceLock × LockMode)} {l : ServiceLock}
    {todo : List (LockOp ServiceLock)}
    (h : LookingUp { held := (LockOp.release l).apply held, todo }) :
    LookingUp { held, todo := .release l :: todo } :=
  ⟨(List.mem_filter.1 h.1).1, List.mem_cons_of_mem _ h.2⟩

theorem Invoicing.of_release {p : PublicKey} {held : List (ServiceLock × LockMode)} {l : ServiceLock}
    {todo : List (LockOp ServiceLock)}
    (h : Invoicing p { held := (LockOp.release l).apply held, todo }) :
    Invoicing p { held, todo := .release l :: todo } :=
  ⟨(List.mem_filter.1 h.1).1, List.mem_cons_of_mem _ h.2⟩

theorem not_crosses_of_held {writersFirst : Prop} {a b : LockThread ServiceLock}
    (ha : a.held = []) : ¬Crosses writersFirst a b ∧ ¬Crosses writersFirst b a := by
  refine ⟨?_, ?_⟩
  · rintro ⟨p, ⟨h, -⟩ | ⟨-, h, -⟩, -⟩
    · exact absurd (ha ▸ h) List.not_mem_nil
    · exact absurd (ha ▸ h) List.not_mem_nil
  · rintro ⟨p, -, h, -⟩
    exact absurd (ha ▸ h) List.not_mem_nil

/-- A thread that is alone does not cross another. -/
theorem not_collides_of_alone {τ π : Type*} {writersFirst : Prop} {s : τ → LockThread ServiceLock}
    {i : LockInput τ π} (h : Alone s i) : ¬Collides writersFirst s i := by
  cases i with
  | start t prog => exact id
  | go t =>
    rintro ⟨l, m, todo, -, -, t', ht', hcross | hcross⟩
    · exact (not_crosses_of_held (h t' ht')).2 hcross
    · exact (not_crosses_of_held (h t' ht')).1 hcross

namespace LSPS2ServiceHandler

variable {env : Externals} {τ : Type*} [DecidableEq τ] [Fintype τ]

/-- The threads of every run are in calls. -/
theorem inCall_exec (is : List (LockInput τ (LSPS2ServiceHandler × ServiceInput))) (t : τ) :
    InCall ((callMachine env τ).exec idleThreads is t).held
      ((callMachine env τ).exec idleThreads is t).todo :=
  LockAlways.now <| always_exec (F := InCall)
    (fun prog : LSPS2ServiceHandler × ServiceInput => inCall_lockOps env prog.1 prog.2) rfl
    (fun _ h => h) is t

/-- If no acquisition makes two threads cross, no two threads ever do. -/
theorem not_crosses_of_along {writersFirst : Prop}
    {is : List (LockInput τ (LSPS2ServiceHandler × ServiceInput))}
    (h : (callMachine env τ).Along (fun s i => ¬Collides writersFirst s i) idleThreads is) :
    ∀ t t', t' ≠ t → ¬Crosses writersFirst ((callMachine env τ).exec idleThreads is t)
      ((callMachine env τ).exec idleThreads is t') := by
  have hcall : (callMachine env τ).Along
      (fun s i => ¬Collides writersFirst s i ∧ ∀ t, InCall (s t).held (s t).todo) idleThreads is := by
    rw [Machine.along_iff_forall] at h ⊢
    exact fun pre i post his => ⟨h pre i post his, inCall_exec pre⟩
  have hpair := pairwise_exec (R := fun a b => ¬Crosses writersFirst a b ∧ ¬Crosses writersFirst b a)
    (fun a b hab => hab.symm) (not_crosses_of_held rfl) ?_ ?_ ?_ hcall
  · exact fun t t' ht' => (hpair t t' ht').1
  · intro s t prog hi hempty t' _ _
    have hheld := hi.2 t
    rw [hempty] at hheld
    exact not_crosses_of_held hheld
  · intro s t l m todo hi htodo hfree t' ht' _
    refine ⟨fun hcross => hi.1 ⟨l, m, todo, htodo, hfree, t', ht', .inl hcross⟩, fun hcross => ?_⟩
    exact hi.1 ⟨l, m, todo, htodo, hfree, t', ht', .inr hcross⟩
  · rintro held l todo b ⟨hleft, hright⟩
    refine ⟨?_, ?_⟩
    · rintro ⟨p, h | ⟨hw, h⟩, hb⟩
      · exact hleft ⟨p, .inl h.of_release, hb⟩
      · exact hleft ⟨p, .inr ⟨hw, h.of_release⟩, hb⟩
    · rintro ⟨p, hb, h⟩
      exact hright ⟨p, hb, h.of_release⟩

omit [DecidableEq τ] [Fintype τ] in
/-- Deadlocked threads that are in calls cross. -/
theorem exists_crosses_of_deadlocked {writersFirst : Prop} {s : τ → LockThread ServiceLock}
    {S : Set τ} (hcall : ∀ t, InCall (s t).held (s t).todo) (hexcl : Exclusive s)
    (h : Deadlocked writersFirst s S) : ∃ t t', t' ≠ t ∧ Crosses writersFirst (s t) (s t') := by
  have hacquires : ∀ t l m todo, (s t).todo = .acquire l m :: todo → Acquires (s t).held l m := by
    intro t l m todo htodo
    have ht := hcall t
    rw [htodo] at ht
    exact ht.1
  -- A thread that acquires out of order holds the state of a peer, and waits for the map of
  -- short channel ids.
  obtain ⟨t, ht, l, m, todo, htodo, e, he, hle⟩ := h.exists_rank_le ServiceLock.rank (n := 4)
    fun l => by cases l <;> simp [ServiceLock.rank]
  rcases (hacquires t l m todo htodo).rank_lt_or he with hlt | ⟨rfl, rfl, q, hheld⟩
  · exact absurd hle (not_le.2 hlt)
  have hinvoicing : Invoicing q (s t) := by
    refine ⟨?_, ?_⟩
    · rw [hheld]
      exact List.mem_cons_self
    · rw [htodo]
      exact List.mem_cons_self
  -- The map is held by one that waits for the map of peers, or for the state of a peer.
  obtain ⟨l, m, todo', htodo', -, u, hu, hut, e', he', hel'⟩ := h.waits t ht
  rw [htodo] at htodo'
  obtain ⟨⟨rfl, rfl⟩, -⟩ := by simpa using htodo'
  obtain ⟨l, m, todo₁, htodo₁, hblocked, v, hv, hvu, e₁, he₁, hel₁⟩ := h.waits u hu
  obtain ⟨hread, ⟨rfl, rfl⟩ | ⟨p, rfl, rfl⟩⟩ := (hacquires u l m todo₁ htodo₁).of_held_scids he' hel'
  · rcases hblocked with hblocked | ⟨hw, -⟩
    · -- The thread that waits for the map of short channel ids reads the map of peers.
      exact absurd (hexcl.lockFree_read (t := t) (by rw [hheld]; simp) (by rw [hheld]; simp) u) hblocked
    · refine ⟨u, t, Ne.symm hut, q, .inr ⟨hw, hread, ?_⟩, hinvoicing⟩
      rw [htodo₁]
      exact List.mem_cons_self
  · -- The state of the peer is held by one that waits for the map of short channel ids.
    obtain ⟨l, m, todo₂, htodo₂, -⟩ := h.waits v hv
    obtain ⟨hheld₂, rfl, rfl⟩ := (hacquires v l m todo₂ htodo₂).of_held_peer he₁ hel₁
    refine ⟨u, v, hvu, p, .inl ⟨hread, ?_⟩, ?_, ?_⟩
    · rw [htodo₁]
      exact List.mem_cons_self
    · rw [hheld₂]
      exact List.mem_cons_self
    · rw [htodo₂]
      exact List.mem_cons_self

/-- If no acquisition makes two threads cross, no threads are ever deadlocked. -/
theorem not_deadlocked_of_along {writersFirst : Prop}
    {is : List (LockInput τ (LSPS2ServiceHandler × ServiceInput))}
    (h : (callMachine env τ).Along (fun s i => ¬Collides writersFirst s i) idleThreads is)
    (S : Set τ) : ¬Deadlocked writersFirst ((callMachine env τ).exec idleThreads is) S := by
  intro hS
  obtain ⟨t, t', ht', hcross⟩ :=
    exists_crosses_of_deadlocked (inCall_exec is) (exclusive_exec is) hS
  exact not_crosses_of_along h t t' ht' hcross

/-- A service that has sold a channel to a peer, which asks for another one. -/
def sampleSold : LSPS2ServiceHandler :=
  (machine sampleExternals).exec (.new []) [sampleBuy none, sampleInvoice, sampleBuy none]

/-- The short channel id sold is intercepted, and another one is given out. -/
def sampleCalls (t : Bool) : LockInput Bool (LSPS2ServiceHandler × ServiceInput) :=
  .start t (sampleSold, ServiceCall.sampleInput <| match t with
    | false => .htlcIntercepted 42 ⟨0⟩ 200 ⟨0⟩
    | true => .invoiceParametersGenerated ⟨0⟩ ⟨"1"⟩ 43 144 false 1)

/-- Two calls made one after the other are not deadlocked. -/
theorem not_deadlocked_sequential :
    ¬Deadlocked False ((callMachine sampleExternals Bool).exec idleThreads
      (sampleCalls false :: List.replicate 6 (.go false) ++
        sampleCalls true :: List.replicate 6 (.go true))) {false, true} :=
  not_deadlocked_of_along
    (Machine.Along.mono (fun s i h => not_collides_of_alone h)
      (by decide : (callMachine sampleExternals Bool).Along Alone idleThreads
        (sampleCalls false :: List.replicate 6 (.go false) ++
          sampleCalls true :: List.replicate 6 (.go true)))) {false, true}

/-- Threads that cross are deadlocked at once, or when the one that intercepts has acquired the
    map of peers. -/
theorem exists_deadlocked_of_crosses
    (is : List (LockInput τ (LSPS2ServiceHandler × ServiceInput))) {t t' : τ} (ht : t' ≠ t)
    (h : Crosses False ((callMachine env τ).exec idleThreads is t)
      ((callMachine env τ).exec idleThreads is t')) :
    ∃ js, js ⊆ [.go t] ∧
      Deadlocked False ((callMachine env τ).exec idleThreads (is ++ js)) {t, t'} := by
  obtain ⟨p, ⟨hheld, htodo⟩ | ⟨⟨⟩, -⟩, hheld', htodo'⟩ := h
  have hcall : ∀ t, InCall ((callMachine env τ).exec idleThreads is t).held
      ((callMachine env τ).exec idleThreads is t).todo := inCall_exec is
  have hcall' := hcall t'
  replace hcall := hcall t
  have hexcl : Exclusive ((callMachine env τ).exec idleThreads is) := exclusive_exec is
  have hexec : ∀ js, (callMachine env τ).exec idleThreads (is ++ js) =
      (callMachine env τ).exec ((callMachine env τ).exec idleThreads is) js :=
    Machine.exec_append idleThreads is
  generalize (callMachine env τ).exec idleThreads is = s at *
  obtain ⟨l', m', todo', heq'⟩ := hcall'.exists_eq_cons hheld' (by simp) htodo'
  rw [heq'] at hcall'
  obtain ⟨hpeer, rfl, rfl⟩ := hcall'.1.of_held_peer hheld' rfl
  obtain ⟨l, m, todo, heq⟩ := hcall.exists_eq_cons hheld (by simp) htodo
  rw [heq] at hcall htodo
  obtain ⟨-, ⟨rfl, rfl⟩ | ⟨q, rfl, rfl⟩⟩ := hcall.1.of_held_scids hheld rfl
  · obtain ⟨-, hhead⟩ := hcall.2 hheld _ _ ((List.mem_cons.1 htodo).resolve_left (by simp))
    obtain ⟨todo, rfl⟩ := List.head?_eq_some_iff.1 hhead
    -- The other thread reads the map of peers, so that it can be read.
    have hfree : LockFree s t .perPeerState .read :=
      hexcl.lockFree_read (t := t') (by rw [hpeer]; simp) (by rw [hpeer]; simp) t
    refine ⟨[.go t], List.Subset.refl _, ?_⟩
    rw [hexec]
    show Deadlocked False (lockGo s t) {t, t'}
    rw [lockGo, heq]
    simp only [if_pos hfree]
    let th : LockThread ServiceLock := {
      held := (.perPeerState, .read) :: (s t).held
      todo := .acquire (.peerState p) .write :: todo }
    have hself : Function.update s t th t = th := Function.update_self ..
    have hother : Function.update s t th t' = s t' := Function.update_of_ne ht ..
    refine deadlocked_pair ht (congrArg LockThread.todo hself) ⟨(.peerState p, .write), ?_, rfl⟩
      ((congrArg LockThread.todo hother).trans heq') ⟨(.peerByInterceptScid, .read), ?_, rfl⟩
    · rwa [hother]
    · rw [hself]
      exact List.mem_cons_of_mem _ hheld
  · rcases List.mem_cons.1 htodo with hop | hmem
    · cases hop
      refine ⟨[], List.nil_subset _, ?_⟩
      rw [hexec]
      exact deadlocked_pair ht heq ⟨_, hheld', rfl⟩ heq' ⟨_, hheld, rfl⟩
    · exact absurd (hcall.2 hheld _ _ hmem).1 (by simp)

/-- A short channel id is looked up while another one is given out to the same peer. -/
theorem not_deadlockFree :
    ¬∀ (τ : Type) [DecidableEq τ] [Fintype τ] (env : Externals) (secret : List UInt8)
      (calls : List ServiceInput) (is : List (LockInput τ (LSPS2ServiceHandler × ServiceInput))),
      (∀ t prog, .start t prog ∈ is → prog.1 = (machine env).exec (.new secret) calls) →
      ∀ S, ¬Deadlocked False ((callMachine env τ).exec idleThreads is) S := by
  intro h
  refine h Bool sampleExternals [] [sampleBuy none, sampleInvoice, sampleBuy none]
    [sampleCalls false, sampleCalls true, .go false, .go true, .go true, .go false] ?_ {false, true} ?_
  · intro t prog hmem
    simp only [sampleCalls, List.mem_cons, List.not_mem_nil, or_false, reduceCtorEq] at hmem
    obtain ⟨-, rfl⟩ | ⟨-, rfl⟩ := by simpa using hmem
    · rfl
    · rfl
  · exact deadlocked_pair (t := false) (u := true) (by decide) rfl (by decide) rfl (by decide)

end LSPS2ServiceHandler

end LightningLiquidity
