import LightningLiquidity.Lib.Machine
import LightningLiquidity.Manager

/-!
# The manager and the chain

A manager built with chain parameters keeps the best block of the chain
(`ChainManager`). Its callbacks for blocks assert that they are called in
chain order: a block connected builds on the best block, and a block
disconnected is the best block.

The chain itself is a machine of tips (`BestBlock.machine`), and calls in chain order are the
walks on it (`Walk`).

* `followsChain_iff`: on a walk, no assertion fails and the manager keeps the tip of the
  chain iff no block is ever connected;
* `blockStep_eq_none_of_connected`: the call after the first block is connected fails an
  assertion.

Only disconnecting a block changes the best block: the callback for connecting one
leaves this to `bestBlockUpdated`, which does nothing.
-/

namespace LightningLiquidity

/-- The hash of a block. -/
structure BlockHash where
  id : ℕ
  deriving DecidableEq, Repr

/-- What is read of the header of a block: its hash, and the hash of the block before. -/
structure Header where
  blockHash : BlockHash
  prevBlockhash : BlockHash
  deriving DecidableEq, Repr

/-- A block, by its hash and height. -/
structure BestBlock where
  blockHash : BlockHash
  height : UInt32
  deriving DecidableEq, Repr

/-- The parameters of the chain. -/
structure ChainParameters where
  bestBlock : BestBlock

/-- A manager that keeps the best block, if it was built with chain parameters. -/
structure ChainManager extends LiquidityManager where
  bestBlock : Option BestBlock

namespace ChainManager

/-- A new manager. -/
def new (chainParams : Option ChainParameters) (serviceConfig : Option LiquidityServiceConfig)
    (clientConfig : Option LiquidityClientConfig) : ChainManager :=
  { LiquidityManager.new serviceConfig clientConfig with
    bestBlock := chainParams.map ChainParameters.bestBlock }

/-- Transactions are confirmed: nothing is done. -/
def transactionsConfirmed (self : ChainManager) (_header : Header) (_height : UInt32) :
    ChainManager := self

/-- There is a new best block: nothing is done. -/
def bestBlockUpdated (self : ChainManager) (_header : Header) (_height : UInt32) : ChainManager :=
  self

/-- The height before, if there is one; a panic (of the subtraction) if not. -/
def predHeight (height : UInt32) : Option UInt32 := if height = 0 then none else some (height - 1)

/-- A block is connected; `none` if an assertion fails. -/
def filteredBlockConnected (self : ChainManager) (header : Header) (height : UInt32) :
    Option ChainManager :=
  let connect := (self.transactionsConfirmed header height).bestBlockUpdated header height
  match self.bestBlock with
  | some bestBlock =>
    if bestBlock.blockHash = header.prevBlockhash ∧ some bestBlock.height = predHeight height then
      some connect
    else none
  | none => some connect

/-- A block is disconnected; `none` if an assertion fails. -/
def blockDisconnected (self : ChainManager) (header : Header) (height : UInt32) :
    Option ChainManager :=
  (predHeight height).bind fun newHeight =>
    match self.bestBlock with
    | some bestBlock =>
      if bestBlock.blockHash = header.blockHash ∧ bestBlock.height = height then
        some { self with bestBlock := some ⟨header.prevBlockhash, newHeight⟩ }
      else none
    | none => some self

end ChainManager

/-! ## Walks on the chain -/

/-- A call for a block. -/
inductive BlockCall
  | connected (header : Header) (height : UInt32)
  | disconnected (header : Header) (height : UInt32)
  deriving DecidableEq, Repr

/-- A call for a block, to the manager. -/
def ChainManager.blockStep (self : ChainManager) : BlockCall → Option ChainManager
  | .connected header height => self.filteredBlockConnected header height
  | .disconnected header height => self.blockDisconnected header height

/-- The tip of the chain after a block is connected, or disconnected. -/
def BestBlock.next : BestBlock → BlockCall → BestBlock
  | _, .connected header height => ⟨header.blockHash, height⟩
  | _, .disconnected header height => ⟨header.prevBlockhash, height - 1⟩

/-- The call is in chain order: the block connected builds on the tip, with a height one
    greater, or the block disconnected is the tip and has one before it. -/
def BestBlock.Allows (tip : BestBlock) : BlockCall → Prop
  | .connected header height =>
    header.prevBlockhash = tip.blockHash ∧ height.toNat = tip.height.toNat + 1
  | .disconnected header height =>
    header.blockHash = tip.blockHash ∧ height = tip.height ∧ 0 < height

instance (tip : BestBlock) (call : BlockCall) : Decidable (tip.Allows call) := by
  cases call <;> exact inferInstanceAs (Decidable (_ ∧ _))

/-- The tips of a chain. -/
def BestBlock.machine : Machine BestBlock BlockCall Unit := ⟨fun tip call => (tip.next call, ())⟩

/-- All calls are in chain order, starting from the given tip. -/
abbrev Walk (tip : BestBlock) (calls : List BlockCall) : Prop :=
  BestBlock.machine.Along BestBlock.Allows tip calls

/-- The call connects a block. -/
def BlockCall.Connects : BlockCall → Prop
  | connected .. => True
  | disconnected .. => False

/-- The manager keeps the tip: no assertion has failed, and its best block is the tip. -/
def KeepsTip (m : Option ChainManager) (tip : BestBlock) : Prop :=
  ∃ self, m = some self ∧ self.bestBlock = some tip

/-- After each of the calls, the manager keeps the tip of the chain. -/
def FollowsChain (self : ChainManager) (tip : BestBlock) (calls : List BlockCall) : Prop :=
  ∀ pre post, calls = pre ++ post →
    KeepsTip (pre.foldlM ChainManager.blockStep self) (BestBlock.machine.exec tip pre)

namespace ChainManager

variable {self : ChainManager} {tip : BestBlock}

/-- A call for a block changes nothing but the best block. -/
theorem toLiquidityManager_blockStep {call : BlockCall} {self' : ChainManager}
    (h : self.blockStep call = some self') : self'.toLiquidityManager = self.toLiquidityManager := by
  cases call with
  | connected header height =>
    simp only [blockStep, filteredBlockConnected, transactionsConfirmed, bestBlockUpdated] at h
    split at h
    · rw [← Option.some.inj (Option.ite_none_right_eq_some.1 h).2]
    · rw [← Option.some.inj h]
  | disconnected header height =>
    obtain ⟨newHeight, -, hstep⟩ := Option.bind_eq_some_iff.1 h
    split at hstep
    · rw [← Option.some.inj (Option.ite_none_right_eq_some.1 hstep).2]
    · rw [← Option.some.inj hstep]

theorem predHeight_eq_some {height : UInt32} (h : 0 < height) :
    predHeight height = some (height - 1) :=
  if_neg (Ne.symm (UInt32.ne_of_lt h))

/-- A height that is one greater comes after the other. -/
theorem predHeight_eq_of_toNat {height height' : UInt32} (h : height.toNat = height'.toNat + 1) :
    predHeight height = some height' := by
  have hpos : 0 < height := UInt32.lt_iff_toNat_lt.2 (h ▸ Nat.succ_pos _)
  have hle : (1 : UInt32) ≤ height := by
    rw [UInt32.le_iff_toNat_le, h]
    exact Nat.le_add_left ..
  rw [predHeight_eq_some hpos, Option.some_inj, ← UInt32.toNat_inj,
    UInt32.toNat_sub_of_le _ _ hle, h]
  rfl

/-- A block disconnected in chain order leaves the manager with the tip. -/
theorem blockDisconnected_eq (hself : self.bestBlock = some tip) {header : Header}
    {height : UInt32} (hwalk : tip.Allows (.disconnected header height)) :
    ∃ self', self.blockDisconnected header height = some self' ∧
      self'.bestBlock = some (tip.next (.disconnected header height)) := by
  obtain ⟨hhash, rfl, hpos⟩ := hwalk
  refine ⟨{ self with bestBlock := some ⟨header.prevBlockhash, tip.height - 1⟩ }, ?_, rfl⟩
  simp [blockDisconnected, predHeight_eq_some hpos, hself, hhash]

/-- A block connected in chain order leaves the best block as it was. -/
theorem filteredBlockConnected_eq (hself : self.bestBlock = some tip) {header : Header}
    {height : UInt32} (hwalk : tip.Allows (.connected header height)) :
    self.filteredBlockConnected header height = some self := by
  obtain ⟨hhash, hheight⟩ := hwalk
  simp [filteredBlockConnected, hself, hhash, predHeight_eq_of_toNat hheight,
    transactionsConfirmed, bestBlockUpdated]

/-- After a block is connected, the next call in chain order fails an assertion: whatever
    it is, its height is not that of the best block. -/
theorem blockStep_eq_none_of_connected (hself : self.bestBlock = some tip) {header : Header}
    {height : UInt32} (hwalk : tip.Allows (.connected header height)) {call : BlockCall}
    (hnext : (tip.next (.connected header height)).Allows call) :
    (self.blockStep (.connected header height)).bind (·.blockStep call) = none := by
  have hlt : tip.height ≠ height := fun heq => by
    have := hwalk.2
    rw [heq] at this
    omega
  rw [blockStep, filteredBlockConnected_eq hself hwalk, Option.bind_some]
  cases call with
  | connected header' height' =>
    have hpred := predHeight_eq_of_toNat hnext.2
    simp [blockStep, filteredBlockConnected, hself, hpred, BestBlock.next, hlt]
  | disconnected header' height' =>
    obtain ⟨-, rfl, hpos⟩ := hnext
    simp [blockStep, blockDisconnected, predHeight_eq_some hpos, hself, hlt]

end ChainManager

open ChainManager

/-- A manager that keeps the tip follows a walk iff no block is connected. -/
theorem followsChain_iff_of_tip {self : ChainManager} {tip : BestBlock} {calls : List BlockCall}
    (hself : self.bestBlock = some tip) (hwalk : Walk tip calls) :
    FollowsChain self tip calls ↔ ∀ call ∈ calls, ¬call.Connects := by
  induction calls generalizing self tip with
  | nil =>
    refine iff_of_true (fun pre post h => ?_) (by simp)
    obtain ⟨rfl, rfl⟩ := List.append_eq_nil_iff.1 h.symm
    exact ⟨self, rfl, hself⟩
  | cons call calls ih =>
    cases call with
    | connected header height =>
      refine iff_of_false (fun h => ?_) fun h => h _ List.mem_cons_self trivial
      -- The best block is still the tip from before, of another height.
      obtain ⟨self', hstep, htip⟩ := h [.connected header height] calls rfl
      rw [List.foldlM_cons, blockStep, filteredBlockConnected_eq hself hwalk.1] at hstep
      obtain rfl := Option.some.inj hstep
      have hheight : tip.height = height :=
        congrArg BestBlock.height (Option.some.inj (hself.symm.trans htip))
      have := hwalk.1.2
      rw [hheight] at this
      omega
    | disconnected header height =>
      obtain ⟨self', hstep, hself'⟩ := blockDisconnected_eq hself hwalk.1
      have hfollows : FollowsChain self tip (.disconnected header height :: calls) ↔
          FollowsChain self' (tip.next (.disconnected header height)) calls := by
        constructor
        · rintro h pre post rfl
          have := h (.disconnected header height :: pre) post rfl
          rwa [List.foldlM_cons, blockStep, hstep] at this
        · rintro h (_ | ⟨call, pre⟩) post heq
          · exact ⟨self, rfl, hself⟩
          · obtain ⟨rfl, rfl⟩ := List.cons.inj heq
            rw [List.foldlM_cons, blockStep, hstep]
            exact h pre post rfl
      rw [hfollows, ih hself' hwalk.2, List.forall_mem_cons]
      exact (and_iff_right not_false).symm

/-- **Following the chain.** On every walk from the best block it was built with, a
    manager fails no assertion and keeps the tip of the chain, iff no block is ever
    connected. -/
theorem followsChain_iff (chainParams : ChainParameters) (serviceConfig : Option LiquidityServiceConfig)
    (clientConfig : Option LiquidityClientConfig) (calls : List BlockCall)
    (hwalk : Walk chainParams.bestBlock calls) :
    FollowsChain (.new chainParams serviceConfig clientConfig) chainParams.bestBlock calls ↔
      ∀ call ∈ calls, ¬call.Connects :=
  followsChain_iff_of_tip rfl hwalk

/-- Two blocks are disconnected, one after the other. -/
theorem followsChain_disconnected :
    FollowsChain (.new (some ⟨⟨⟨2⟩, 102⟩⟩) none none) ⟨⟨2⟩, 102⟩
      [.disconnected ⟨⟨2⟩, ⟨1⟩⟩ 102, .disconnected ⟨⟨1⟩, ⟨0⟩⟩ 101] :=
  (followsChain_iff ⟨⟨⟨2⟩, 102⟩⟩ none none _ (by decide)).2 (by simp [BlockCall.Connects])

/-- Two blocks connected in order: the second builds on the first. -/
theorem not_followsChain :
    ¬∀ (chainParams : ChainParameters) (serviceConfig : Option LiquidityServiceConfig)
      (clientConfig : Option LiquidityClientConfig) (calls : List BlockCall),
      Walk chainParams.bestBlock calls →
        FollowsChain (.new chainParams serviceConfig clientConfig) chainParams.bestBlock calls := by
  intro h
  obtain ⟨self, hself, -⟩ := h ⟨⟨⟨0⟩, 100⟩⟩ none none
    [.connected ⟨⟨1⟩, ⟨0⟩⟩ 101, .connected ⟨⟨2⟩, ⟨1⟩⟩ 102] (by decide) _ []
    (List.append_nil _).symm
  cases hself

end LightningLiquidity
