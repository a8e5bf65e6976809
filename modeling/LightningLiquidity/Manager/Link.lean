import LightningLiquidity.Lib.Machine
import LightningLiquidity.Manager.Chain
import LightningLiquidity.Manager.Effects

/-!
# Two managers

Two liquidity managers, connected by a transport that is reliable and keeps the order of
messages: it fetches the messages a manager has queued for the other one, and hands their
texts, one after the other, to this manager. Calls of the users of both managers, fetches
and deliveries happen in any order (`Link.machine`).

A text under way is kept with the message it was written from (`Parcel`). This message is
not looked at: the text is all that is delivered. Callbacks for blocks are left out: they
change nothing but the best block (`ChainManager.toLiquidityManager_blockStep`).

A panic leaves locks of the manager called poisoned, which is not modelled. So what a call
does is promised as long as all calls before it return (`Link.Returns`).
-/

namespace LightningLiquidity

/-- A text under way, with the message it was written from. -/
structure Parcel where
  message : LSPSMessage
  text : String
  deriving DecidableEq

/-- The messages queued for a peer, with their texts. -/
def LiquidityManager.parcels (serde : Serde) (s : LiquidityManager) (p : PublicKey) : List Parcel :=
  (s.pendingMessages.filter fun e => e.1 = p).filterMap fun e =>
    (serde.writeJson (e.2.serialize serde)).map (Parcel.mk e.2)

/-- The parcels are what is fetched for the peer. -/
theorem LiquidityManager.map_text_parcels (serde : Serde) (s : LiquidityManager) (p : PublicKey) :
    (s.parcels serde p).map Parcel.text =
      ((s.getAndClearPendingMsg serde).2.filter fun e => e.1 = p).map Prod.snd := by
  show _ = ((s.pendingMessages.filterMap fun e =>
    (serde.writeJson (e.2.serialize serde)).map fun text => (e.1, text)).filter _).map _
  rw [parcels]
  induction s.pendingMessages with
  | nil => rfl
  | cons e messages ih =>
    cases htext : serde.writeJson (e.2.serialize serde) with
    | none =>
      by_cases he : e.1 = p
      · simp [he, htext, ih]
      · simp [he, htext, ih]
    | some text =>
      by_cases he : e.1 = p
      · simp [he, htext, ih]
      · simp [he, htext, ih]

/-- Two managers, and the texts under way to each. -/
structure Link where
  manager : Bool → LiquidityManager
  inFlight : Bool → List Parcel

/-- What happens to two managers: a call of the user of one, or a fetch from one, or a
    delivery to one, at some time. -/
inductive LinkInput
  | call (b : Bool) (i : LiquidityManager.ManagerInput) (isPublic : i.call.IsPublic)
  | fetch (b : Bool)
  | deliver (b : Bool) (now : UInt64)

namespace Link

/-- Two new managers. -/
def new (serviceConfig : Bool → Option LiquidityServiceConfig)
    (clientConfig : Bool → Option LiquidityClientConfig) : Link where
  manager b := .new (serviceConfig b) (clientConfig b)
  inFlight _ := []

/-- The link with a manager replaced. -/
def setManager (self : Link) (b : Bool) (manager : LiquidityManager) : Link :=
  { self with manager := Function.update self.manager b manager }

/-- One thing that happens to two managers of the given public keys. -/
def step (env : Externals) (serde : Serde) (node : Bool → PublicKey) (self : Link) :
    LinkInput → Link × Outcome ManagerError
  | .call b i _ =>
    let (manager, out) := (self.manager b).step env serde i
    (self.setManager b manager, out.result)
  | .fetch b =>
    ({ manager := Function.update self.manager b ((self.manager b).getAndClearPendingMsg serde).1
       inFlight := Function.update self.inFlight (!b)
         (self.inFlight (!b) ++ (self.manager b).parcels serde (node (!b))) }, .ok)
  | .deliver b now =>
    match self.inFlight b with
    | [] => (self, .ok)
    | parcel :: rest =>
      let (manager, result) :=
        (self.manager b).handleCustomMessage env serde now parcel.text (node (!b))
      ({ manager := Function.update self.manager b manager
         inFlight := Function.update self.inFlight b rest }, result)

/-- A step returns. -/
def Returns (result : Outcome ManagerError) : Prop := result ≠ .panic

instance : DecidablePred Returns := fun result => inferInstanceAs (Decidable (result ≠ .panic))

/-- Two managers of the given public keys. -/
def machine (env : Externals) (serde : Serde) (node : Bool → PublicKey) :
    Machine Link LinkInput (Outcome ManagerError) := ⟨step env serde node⟩

/-! ## What a step does -/

/-- One manager is replaced, and what is under way to it and to the other one, which stays. -/
structure Replaces (s s' : Link) (b : Bool) (manager : LiquidityManager)
    (toSelf toOther : List Parcel) : Prop where
  self : s'.manager b = manager
  other : s'.manager (!b) = s.manager (!b)
  toSelf : s'.inFlight b = toSelf
  toOther : s'.inFlight (!b) = toOther

variable {s : Link} {b : Bool}

theorem replaces_call (env : Externals) (serde : Serde) (node : Bool → PublicKey) (s : Link)
    (b : Bool) (i : LiquidityManager.ManagerInput) (hpublic : i.call.IsPublic) :
    s.Replaces (s.step env serde node (.call b i hpublic)).1 b ((s.manager b).step env serde i).1
      (s.inFlight b) (s.inFlight !b) :=
  ⟨Function.update_self .., Function.update_of_ne (Bool.not_ne_self b) .., rfl, rfl⟩

theorem replaces_fetch (env : Externals) (serde : Serde) (node : Bool → PublicKey) (s : Link)
    (b : Bool) :
    s.Replaces (s.step env serde node (.fetch b)).1 b
      ((s.manager b).getAndClearPendingMsg serde).1 (s.inFlight b)
      (s.inFlight (!b) ++ (s.manager b).parcels serde (node !b)) :=
  ⟨Function.update_self .., Function.update_of_ne (Bool.not_ne_self b) ..,
    Function.update_of_ne (Bool.self_ne_not b) .., Function.update_self ..⟩

/-- Nothing is delivered if nothing is under way. -/
theorem step_deliver_nil (hc : s.inFlight b = []) (env : Externals) (serde : Serde)
    (node : Bool → PublicKey) (now : UInt64) :
    s.step env serde node (.deliver b now) = (s, .ok) := by
  simp only [step, hc]

theorem step_deliver {c : Parcel} {rest : List Parcel} (hc : s.inFlight b = c :: rest)
    (env : Externals) (serde : Serde) (node : Bool → PublicKey) (now : UInt64) :
    s.step env serde node (.deliver b now) =
      ({ manager := Function.update s.manager b
           ((s.manager b).handleCustomMessage env serde now c.text (node !b)).1
         inFlight := Function.update s.inFlight b rest },
        ((s.manager b).handleCustomMessage env serde now c.text (node !b)).2) := by
  simp only [step, hc]

theorem replaces_deliver {c : Parcel} {rest : List Parcel} (hc : s.inFlight b = c :: rest)
    (env : Externals) (serde : Serde) (node : Bool → PublicKey) (now : UInt64) :
    s.Replaces (s.step env serde node (.deliver b now)).1 b
      ((s.manager b).handleCustomMessage env serde now c.text (node !b)).1 rest
      (s.inFlight !b) := by
  rw [step_deliver hc]
  exact ⟨Function.update_self .., Function.update_of_ne (Bool.not_ne_self b) ..,
    Function.update_self .., Function.update_of_ne (Bool.not_ne_self b) ..⟩

end Link

end LightningLiquidity
