import LightningLiquidity.Lib.Machine
import LightningLiquidity.Lsps0.Reading
import LightningLiquidity.Manager

/-!
# Requests and their answers

What is exchanged with peers under the ids of requests: the messages fetched to be sent to
them, and the answers they give (`LiquidityManager.exchanges`). The map from the ids of
requests to their methods is determined by the exchanges so far
(`followsLog_exec`): an id has a method exactly if the latest exchange under it
is that a request of this method was fetched, to be sent to any peer.
-/

namespace LightningLiquidity

/-- A message fetched to be sent to a peer, with its text if it can be written; or an
    answer given by a peer. -/
inductive Exchange
  | fetched (p : PublicKey) (message : LSPSMessage) (text : Option String)
  | answered (p : PublicKey) (requestId : RequestId)
  deriving DecidableEq

namespace Exchange

/-- The id of the request sent or answered. -/
def requestId? : Exchange → Option RequestId
  | fetched _ message _ => message.getRequestIdAndMethod.map Prod.fst
  | answered _ requestId => some requestId

/-- The map of requests sent, after an exchange. -/
def apply (map : PartialMap RequestId LSPSMethod) : Exchange → PartialMap RequestId LSPSMethod
  | fetched _ message _ =>
    match message.getRequestIdAndMethod with
    | some (requestId, method) => map.insert requestId method
    | none => map
  | answered _ requestId => map.remove requestId

/-- The method of the request sent, under its id. -/
def method? : Exchange → Option LSPSMethod
  | fetched _ message _ => message.getRequestIdAndMethod.map Prod.snd
  | answered _ _ => none

/-- The latest exchange under an id. -/
def latest (l : List Exchange) (requestId : RequestId) : Option Exchange :=
  (l.filter fun e => e.requestId? = some requestId).getLast?

theorem latest_concat (l : List Exchange) (e : Exchange) (requestId : RequestId) :
    latest (l ++ [e]) requestId =
      if e.requestId? = some requestId then some e else latest l requestId := by
  rw [latest, List.filter_append]
  split
  · next h => rw [List.filter_singleton, decide_eq_true h, cond_true, List.getLast?_concat]
  · next h => rw [List.filter_singleton, decide_eq_false h, cond_false, List.append_nil, latest]

/-- Nothing is exchanged under an id after the latest exchange. -/
theorem exists_of_latest_eq_some {l : List Exchange} {e : Exchange} {requestId : RequestId}
    (h : latest l requestId = some e) :
    e.requestId? = some requestId ∧
      ∃ l₁ l₂, l = l₁ ++ e :: l₂ ∧ ∀ e' ∈ l₂, e'.requestId? ≠ some requestId := by
  induction l using List.reverseRecOn with
  | nil => cases h
  | append_singleton l e' ih =>
    rw [latest_concat] at h
    split at h
    · next hid =>
      obtain rfl := Option.some.inj h
      exact ⟨hid, l, [], rfl, nofun⟩
    · next hid =>
      obtain ⟨hide, l₁, l₂, rfl, hl₂⟩ := ih h
      refine ⟨hide, l₁, l₂ ++ [e'], by simp, fun e'' he'' => ?_⟩
      rcases List.mem_append.1 he'' with he'' | he''
      · exact hl₂ e'' he''
      · exact List.mem_singleton.1 he'' ▸ hid

theorem apply_apply_of_ne (map : PartialMap RequestId LSPSMethod) {e : Exchange}
    {requestId : RequestId} (h : e.requestId? ≠ some requestId) :
    e.apply map requestId = map requestId := by
  cases e with
  | fetched p message text =>
    rw [requestId?] at h
    rw [apply]
    generalize message.getRequestIdAndMethod = asked at h ⊢
    rcases asked with _ | ⟨requestId', method⟩
    · rfl
    · exact PartialMap.insert_of_ne _ _ fun heq => h (by rw [heq]; rfl)
  | answered p requestId' => exact PartialMap.remove_of_ne _ fun heq => h (by rw [heq]; rfl)

theorem apply_apply_self (map : PartialMap RequestId LSPSMethod) {e : Exchange}
    {requestId : RequestId} (h : e.requestId? = some requestId) :
    e.apply map requestId = e.method? := by
  cases e with
  | fetched p message text =>
    rw [requestId?] at h
    rw [apply, method?]
    generalize message.getRequestIdAndMethod = asked at h ⊢
    rcases asked with _ | ⟨requestId', method⟩
    · cases h
    · obtain rfl := Option.some.inj h
      exact PartialMap.insert_self ..
  | answered p requestId' =>
    obtain rfl := Option.some.inj h
    exact PartialMap.remove_self ..

/-- An id has the method of the latest exchange under it. -/
theorem foldl_apply (l : List Exchange) (requestId : RequestId) :
    l.foldl apply .empty requestId = (latest l requestId).bind method? := by
  induction l using List.reverseRecOn with
  | nil => rfl
  | append_singleton l e ih =>
    rw [List.foldl_concat, latest_concat]
    split
    · next h => exact apply_apply_self _ h
    · next h => rw [apply_apply_of_ne _ h, ih]

end Exchange

namespace LiquidityManager

/-- What a call exchanges with peers. The messages of peers ignored are not answers. -/
def exchanges (serde : Serde) (s : LiquidityManager) (i : ManagerInput) : List Exchange :=
  match i.call with
  | .getAndClearPendingMsg =>
    s.pendingMessages.map fun (p, message) =>
      .fetched p message (serde.writeJson (message.serialize serde))
  | .handleCustomMessage payload p =>
    if s.ignoredPeers p = none then
      ((LSPSMessage.answeredId serde payload).map (Exchange.answered p)).toList
    else []
  | _ => []

variable {env : Externals} {serde : Serde} {s : LiquidityManager}

theorem requestIdToMethodMap_handleLspsMessage (env : Externals) (now : UInt64)
    (s : LiquidityManager) (msg : LSPSMessage) (p : PublicKey) :
    (s.handleLspsMessage env now msg p).1.requestIdToMethodMap = s.requestIdToMethodMap := by
  rcases msg with _ | ⟨_ | _⟩ | ⟨_ | _⟩
  all_goals
    simp only [handleLspsMessage]
    repeat' split
    all_goals rfl

theorem requestIdToMethodMap_handleCustomMessage (env : Externals) (serde : Serde) (now : UInt64)
    (s : LiquidityManager) (payload : String) (p : PublicKey) :
    (s.handleCustomMessage env serde now payload p).1.requestIdToMethodMap =
      if s.ignoredPeers p = none then
        (LSPSMessage.answeredId serde payload).elim s.requestIdToMethodMap
          s.requestIdToMethodMap.remove
      else s.requestIdToMethodMap := by
  rw [handleCustomMessage]
  split
  · next h => rw [if_neg (Option.isSome_iff_ne_none.1 h)]
  · next h =>
    rw [if_pos (Option.not_isSome_iff_eq_none.1 h), ← LSPSMessage.snd_fromStrWithIdMap]
    rcases LSPSMessage.fromStrWithIdMap serde payload s.requestIdToMethodMap with
      ⟨_ | message, map⟩
    · rfl
    · exact requestIdToMethodMap_handleLspsMessage ..

/-- The map of requests sent changes by what is exchanged. -/
theorem requestIdToMethodMap_step (env : Externals) (serde : Serde) (s : LiquidityManager)
    (i : ManagerInput) :
    (s.step env serde i).1.requestIdToMethodMap =
      (s.exchanges serde i).foldl Exchange.apply s.requestIdToMethodMap := by
  obtain ⟨call, cm, now, entropy⟩ := i
  cases call with
  | handleCustomMessage payload p =>
    simp only [step, exchanges, requestIdToMethodMap_handleCustomMessage]
    split
    · cases LSPSMessage.answeredId serde payload <;> rfl
    · rfl
  | getAndClearPendingMsg =>
    simp only [step, exchanges, getAndClearPendingMsg, List.foldl_map, List.foldl_filterMap]
    refine congrArg (fun f => s.pendingMessages.foldl f s.requestIdToMethodMap) ?_
    funext map m
    obtain ⟨p, message⟩ := m
    rcases h : message.getRequestIdAndMethod with _ | ⟨requestId, method⟩ <;>
      simp only [Exchange.apply, h]
  | nextEvent | getAndClearPendingEvents | listProtocols => rfl
  | requestOpeningParams | selectOpeningParams | service =>
    simp only [step]
    split <;> rfl

/-- The calls to a manager, with a log of what is exchanged. -/
def logged (env : Externals) (serde : Serde) :
    Machine (List Exchange × LiquidityManager) ManagerInput ManagerOutput :=
  ⟨fun s i =>
    let (self, out) := s.2.step env serde i
    ((s.1 ++ s.2.exchanges serde i, self), out)⟩

/-- An id has the method of the latest exchange under it. -/
def FollowsLog (s : List Exchange × LiquidityManager) : Prop :=
  ∀ requestId, s.2.requestIdToMethodMap requestId =
    (Exchange.latest s.1 requestId).bind Exchange.method?

theorem followsLog_exec (env : Externals) (serde : Serde)
    (serviceConfig : Option LiquidityServiceConfig) (clientConfig : Option LiquidityClientConfig)
    (is : List ManagerInput) :
    FollowsLog ((logged env serde).exec ([], .new serviceConfig clientConfig) is) := by
  intro requestId
  rw [← Exchange.foldl_apply]
  refine congrFun ?_ requestId
  refine Machine.Along.invariant (m := logged env serde)
    (P := fun s => s.2.requestIdToMethodMap = s.1.foldl Exchange.apply .empty)
    (fun s i h _ => ?_) (Machine.along_true _ is) rfl
  show (s.2.step env serde i).1.requestIdToMethodMap = _
  rw [requestIdToMethodMap_step, h, ← List.foldl_append]
  rfl

end LiquidityManager

end LightningLiquidity
