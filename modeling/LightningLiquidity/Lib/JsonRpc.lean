import LightningLiquidity.Lib.Json
import LightningLiquidity.Lib.PartialMap

/-!
# JSON-RPC

How a party of a JSON-RPC 2.0 protocol (`Protocol`) reads the objects it receives
(`Protocol.decode`). The members of an object are read one after the other, in any order and
any number. With a method it is a request; without one it is a response, read by the method of
the request with its id, which the party keeps in a map and takes off with the response.

* What is written of a request, of a result and of an error is read back, if its parts are
  (`decode_writeRequest`, `decode_writeResult`, `decode_writeError`).
* Only an answer is read with the map, and takes its id off it (`message_answer`,
  `message_other`).
* A protocol with more methods (`Protocol.Extends`) reads every object as the smaller protocol
  does, if none of its members names a new method (`Extends.decode_eq`). The smaller one
  reads no others (`decode_of_namesNew`), and the larger one only reads requests from
  them (`decode_eq_of_namesNew`).
-/

namespace JsonRpc

/-- The members of an object, as read so far. -/
structure Members (ι μ ε : Type*) where
  id : Option ι := none
  method : Option μ := none
  params : Option Json := none
  result : Option Json := none
  error : Option ε := none

/-- The id answered: that of an object without a method. -/
def Members.answeredId {ι μ ε : Type*} (ms : Members ι μ ε) : Option ι :=
  match ms.method with
  | none => ms.id
  | some _ => none

/-- The messages of a protocol, and how their parts are read: ids in `ι`, methods in `μ`,
    errors in `ε`. -/
structure Protocol (ι μ ε M : Type*) where
  readId : Json → Option ι
  readMethod : Json → Option μ
  readError : Json → Option ε
  /-- The request of a method, with its parameters. -/
  request : ι → μ → Json → Option M
  /-- The response to a request of a method, with its result. -/
  result : ι → μ → Json → Option M
  /-- The response to a request of a method, with an error. -/
  error : ι → μ → ε → M
  /-- An error that answers no request. -/
  unknown : ε → Option M

variable {ι μ μ' ε M M' : Type*}

namespace Protocol

/-- Reads the next member. Its name is read as a slice of the text; it may repeat an earlier
    one, which it replaces. -/
def next (p : Protocol ι μ ε M) (ms : Members ι μ ε) (m : JsonString × Json) :
    Option (Members ι μ ε) :=
  if ¬m.1.borrowed then none
  else match m.1.value with
  | "id" => (m.2.asOption p.readId).map fun id => { ms with id }
  | "method" => (p.readMethod m.2).map fun method => { ms with method := some method }
  | "params" => some { ms with params := some m.2 }
  | "result" => some { ms with result := some m.2 }
  | "error" => (p.readError m.2).map fun error => { ms with error := some error }
  | _ => some ms

/-- The members of an object. -/
def read (p : Protocol ι μ ε M) (members : List (JsonString × Json)) : Option (Members ι μ ε) :=
  members.foldlM p.next {}

/-- The members of a value: it is an object. -/
def readValue (p : Protocol ι μ ε M) : Json → Option (Members ι μ ε)
  | .object members => p.read members
  | _ => none

/-- A response: with its error, or else with its result. -/
def response (p : Protocol ι μ ε M) (ms : Members ι μ ε) (id : ι) (method : μ) : Option M :=
  match ms.error, ms.result with
  | some error, _ => some (p.error id method error)
  | none, some result => p.result id method result
  | none, none => none

/-- An object without an id: it may only tell an error. -/
def withoutId (p : Protocol ι μ ε M) (ms : Members ι μ ε) : Option M :=
  match ms.method, ms.error with
  | none, some error => p.unknown error
  | _, _ => none

variable [DecidableEq ι]

/-- The message of all members, and the map after it. Parameters left out are those of an
    empty object. -/
def message (p : Protocol ι μ ε M) (ms : Members ι μ ε) (map : PartialMap ι μ) :
    Option M × PartialMap ι μ :=
  match ms.id with
  | none => (p.withoutId ms, map)
  | some id =>
    match ms.method with
    | some method => (p.request id method (ms.params.getD (.object [])), map)
    | none =>
      match map id with
      | some method => (p.response ms id method, map.remove id)
      | none => (none, map)

/-- The message of an object, and the map after it. -/
def decode (p : Protocol ι μ ε M) (v : Json) (map : PartialMap ι μ) : Option M × PartialMap ι μ :=
  match v with
  | .object members =>
    match p.read members with
    | some ms => p.message ms map
    | none => (none, map)
  | _ => (none, map)

end Protocol

/-! ## Writing -/

/-- A JSON-RPC object with the given members. -/
def object (members : List (String × Json)) : Json :=
  .ofMembers (("jsonrpc", .ofString "2.0") :: members)

/-- A request. -/
def writeRequest (id method params : Json) : Json :=
  object [("id", id), ("method", method), ("params", params)]

/-- A response with a result. -/
def writeResult (id result : Json) : Json := object [("id", id), ("result", result)]

/-- A response with an error. -/
def writeError (id error : Json) : Json := object [("id", id), ("error", error)]

/-! ## What is written is read back -/

section WrittenBack

variable {p : Protocol ι μ ε M} {ms : Members ι μ ε} {v : Json}

theorem next_id {id : Option ι} (h : v.asOption p.readId = some id) :
    p.next ms (.written "id", v) = some { ms with id } := by
  show (v.asOption p.readId).map (fun id => { ms with id }) = _
  rw [h, Option.map_some]

theorem next_method {method : μ} (h : p.readMethod v = some method) :
    p.next ms (.written "method", v) = some { ms with method := some method } := by
  show (p.readMethod v).map (fun method => { ms with method := some method }) = _
  rw [h, Option.map_some]

theorem next_error {error : ε} (h : p.readError v = some error) :
    p.next ms (.written "error", v) = some { ms with error := some error } := by
  show (p.readError v).map (fun error => { ms with error := some error }) = _
  rw [h, Option.map_some]

variable [DecidableEq ι] {map : PartialMap ι μ} {vid vmethod params result verror : Json} {id : ι}
  {method : μ} {error : ε} {m : M}

theorem decode_object {members : List (JsonString × Json)} (h : p.read members = some ms) :
    p.decode (.object members) map = p.message ms map := by
  simp only [Protocol.decode, h]

/-- A value is read by its members. -/
theorem decode_of_readValue (h : p.readValue v = some ms) : p.decode v map = p.message ms map := by
  cases v with
  | object members => exact decode_object h
  | _ => cases h

theorem decode_of_readValue_eq_none (h : p.readValue v = none) : p.decode v map = (none, map) := by
  cases v with
  | object members =>
    have hread : p.read members = none := h
    simp only [Protocol.decode, hread]
  | _ => rfl

theorem decode_writeRequest (hid : vid.asOption p.readId = some (some id))
    (hmethod : p.readMethod vmethod = some method) (hm : p.request id method params = some m) :
    p.decode (writeRequest vid vmethod params) map = (some m, map) := by
  have hread : p.read [(.written "jsonrpc", .ofString "2.0"), (.written "id", vid),
      (.written "method", vmethod), (.written "params", params)] =
      some { id := some id, method := some method, params := some params } := by
    show (p.next {} (.written "id", vid)).bind (fun ms =>
      (p.next ms (.written "method", vmethod)).bind fun ms =>
        some { ms with params := some params }) = _
    rw [next_id hid, Option.bind_some, next_method hmethod, Option.bind_some]
  refine (decode_object hread).trans ?_
  simp only [Protocol.message, Option.getD_some, hm]

/-- A result is read by the method its id leads to, which is taken off the map. -/
theorem decode_writeResult (hid : vid.asOption p.readId = some (some id))
    (hmap : map id = some method) (hm : p.result id method result = some m) :
    p.decode (writeResult vid result) map = (some m, map.remove id) := by
  have hread : p.read [(.written "jsonrpc", .ofString "2.0"), (.written "id", vid),
      (.written "result", result)] = some { id := some id, result := some result } := by
    show (p.next {} (.written "id", vid)).bind (fun ms =>
      some { ms with result := some result }) = _
    rw [next_id hid, Option.bind_some]
  refine (decode_object hread).trans ?_
  simp only [Protocol.message, Protocol.response, hmap, hm]

theorem decode_writeError (hid : vid.asOption p.readId = some (some id))
    (hmap : map id = some method) (herror : p.readError verror = some error) :
    p.decode (writeError vid verror) map = (some (p.error id method error), map.remove id) := by
  have hread : p.read [(.written "jsonrpc", .ofString "2.0"), (.written "id", vid),
      (.written "error", verror)] = some { id := some id, error := some error } := by
    show (p.next {} (.written "id", vid)).bind (fun ms =>
      (p.next ms (.written "error", verror)).bind some) = _
    rw [next_id hid, Option.bind_some, next_error herror, Option.bind_some]
  refine (decode_object hread).trans ?_
  simp only [Protocol.message, Protocol.response, hmap]

/-- An error without an id leaves the map as it is. -/
theorem decode_writeError_null (herror : p.readError verror = some error) :
    p.decode (writeError .null verror) map = (p.unknown error, map) := by
  have hread : p.read [(.written "jsonrpc", .ofString "2.0"), (.written "id", .null),
      (.written "error", verror)] = some { error := some error } := by
    show (p.next {} (.written "error", verror)).bind some = _
    rw [next_error herror, Option.bind_some]
  exact decode_object hread

end WrittenBack

/-! ## What reading depends on -/

section Answers

variable [DecidableEq ι] {p : Protocol ι μ ε M} {ms : Members ι μ ε} {id : ι}

/-- An answer is read with the method of its id, which is taken off the map. -/
theorem message_answer (h : ms.answeredId = some id) (map : PartialMap ι μ) :
    p.message ms map = ((map id).bind (p.response ms id), map.remove id) := by
  obtain ⟨_ | id, _ | method, params, result, error⟩ := ms
  · cases h
  · cases h
  · obtain rfl := Option.some.inj h
    simp only [Protocol.message]
    cases hid : map id with
    | some method => rfl
    | none => rw [PartialMap.remove_eq_self_iff.2 hid, Option.bind_none]
  · cases h

/-- What is no answer is read without the map: not at all, as an error, or as a request. -/
theorem message_other (p : Protocol ι μ ε M) (h : ms.answeredId = none) :
    ∃ m, (∀ map, p.message ms map = (m, map)) ∧
      (m = none ∨ (∃ error, m = p.unknown error) ∨
        ∃ id method params, m = p.request id method params) := by
  obtain ⟨_ | id, _ | method, params, result, _ | error⟩ := ms
  · exact ⟨none, fun _ => rfl, .inl rfl⟩
  · exact ⟨_, fun _ => rfl, .inr (.inl ⟨error, rfl⟩)⟩
  · exact ⟨none, fun _ => rfl, .inl rfl⟩
  · exact ⟨none, fun _ => rfl, .inl rfl⟩
  · cases h
  · cases h
  · exact ⟨_, fun _ => rfl, .inr (.inr ⟨id, method, _, rfl⟩)⟩
  · exact ⟨_, fun _ => rfl, .inr (.inr ⟨id, method, _, rfl⟩)⟩

end Answers

/-! ## More methods -/

/-- The members of a larger protocol. -/
def Members.map (f : μ → μ') (ms : Members ι μ ε) : Members ι μ' ε :=
  { ms with method := ms.method.map f }

/-- The protocol `q` has all that `p` has: its methods by way of `f`, its messages by way
    of `g`. -/
structure Protocol.Extends (p : Protocol ι μ ε M) (q : Protocol ι μ' ε M') (f : μ → μ')
    (g : M → M') : Prop where
  readId : q.readId = p.readId
  readError : q.readError = p.readError
  readMethod : ∀ v method, p.readMethod v = some method → q.readMethod v = some (f method)
  request : ∀ id method params, q.request id (f method) params = (p.request id method params).map g
  result : ∀ id method result, q.result id (f method) result = (p.result id method result).map g
  error : ∀ id method error, q.error id (f method) error = g (p.error id method error)
  unknown : ∀ error, q.unknown error = (p.unknown error).map g

/-- A member that names a method of `q` that `p` does not have. -/
def Protocol.IsNew (p : Protocol ι μ ε M) (q : Protocol ι μ' ε M') (m : JsonString × Json) : Prop :=
  m.1.value = "method" ∧ p.readMethod m.2 = none ∧ (q.readMethod m.2).isSome

/-- An object one of whose members names a method of `q` that `p` does not have. -/
def Protocol.NamesNew (p : Protocol ι μ ε M) (q : Protocol ι μ' ε M') : Json → Prop
  | .object members => ∃ m ∈ members, p.IsNew q m
  | _ => False

section Extends

variable {p : Protocol ι μ ε M} {q : Protocol ι μ' ε M'} {f : μ → μ'} {g : M → M'}

/-- A member that names no new method is read as before. -/
theorem Protocol.Extends.next_eq (h : p.Extends q f g) (ms : Members ι μ ε) {m : JsonString × Json}
    (hm : ¬p.IsNew q m) : q.next (ms.map f) m = (p.next ms m).map (Members.map f) := by
  by_cases hb : m.1.borrowed
  · have hnew : m.1.value = "method" → q.readMethod m.2 = (p.readMethod m.2).map f := by
      intro hkey
      cases hp : p.readMethod m.2 with
      | some method => rw [h.readMethod _ _ hp, Option.map_some]
      | none =>
        rw [Option.map_none]
        by_contra hq
        exact hm ⟨hkey, hp, Option.isSome_iff_ne_none.2 hq⟩
    simp only [next, hb, not_true_eq_false, if_false]
    split
    · rw [h.readId]
      cases m.2.asOption p.readId <;> rfl
    · rename_i hkey
      rw [hnew hkey]
      cases p.readMethod m.2 <;> rfl
    · rfl
    · rfl
    · rw [h.readError]
      cases p.readError m.2 <;> rfl
    · rfl
  · rw [next, next, if_pos hb, if_pos hb, Option.map_none]

/-- Members none of which names a new method are read as before. -/
theorem Protocol.Extends.foldlM_eq (h : p.Extends q f g) {members : List (JsonString × Json)}
    (hnew : ∀ m ∈ members, ¬p.IsNew q m) (ms : Members ι μ ε) :
    members.foldlM q.next (ms.map f) = (members.foldlM p.next ms).map (Members.map f) := by
  induction members generalizing ms with
  | nil => rfl
  | cons m members ih =>
    rw [List.foldlM_cons, List.foldlM_cons, h.next_eq ms (hnew m List.mem_cons_self)]
    cases p.next ms m with
    | none => rfl
    | some ms => exact ih (fun m hm => hnew m (List.mem_cons_of_mem _ hm)) ms

theorem Protocol.Extends.response_eq (h : p.Extends q f g) (ms : Members ι μ ε) (id : ι)
    (method : μ) : q.response (ms.map f) id (f method) = (p.response ms id method).map g := by
  obtain ⟨_, _, _, result, error⟩ := ms
  cases error with
  | some error => exact congrArg some (h.error id method error)
  | none =>
    cases result with
    | some result => exact h.result id method result
    | none => rfl

theorem Protocol.Extends.withoutId_eq (h : p.Extends q f g) (ms : Members ι μ ε) :
    q.withoutId (ms.map f) = (p.withoutId ms).map g := by
  obtain ⟨_, method, _, _, error⟩ := ms
  cases method with
  | some method => rfl
  | none =>
    cases error with
    | some error => exact h.unknown error
    | none => rfl

variable [DecidableEq ι]

theorem Protocol.Extends.message_eq (h : p.Extends q f g) (ms : Members ι μ ε)
    (map : PartialMap ι μ) : q.message (ms.map f) (map.mapValues f) =
      (p.message ms map).map (Option.map g) (PartialMap.mapValues f) := by
  obtain ⟨id, method, params, result, error⟩ := ms
  cases id with
  | none => exact Prod.ext (h.withoutId_eq _) rfl
  | some id =>
    cases method with
    | some method => exact Prod.ext (h.request id method _) rfl
    | none =>
      cases hmap : map id with
      | none => simp [message, Members.map, PartialMap.mapValues, hmap]
      | some method =>
        simp [message, Members.map, PartialMap.mapValues_apply, hmap, ← PartialMap.mapValues_remove,
          ← h.response_eq]

/-- **The larger protocol reads what the smaller one does.** An object that names no new
    method is read as the same message, or as none, and leaves the same map. -/
theorem Protocol.Extends.decode_eq (h : p.Extends q f g) {v : Json} (hnew : ¬p.NamesNew q v)
    (map : PartialMap ι μ) :
    q.decode v (map.mapValues f) =
      (p.decode v map).map (Option.map g) (PartialMap.mapValues f) := by
  cases v with
  | object members =>
    have hread : q.read members = (p.read members).map (Members.map f) :=
      h.foldlM_eq (fun m hm hm' => hnew ⟨m, hm, hm'⟩) {}
    simp only [decode, hread]
    cases p.read members with
    | none => rfl
    | some ms => exact h.message_eq ms map
  | _ => rfl

end Extends

section NamesNew

variable {p : Protocol ι μ ε M} {q : Protocol ι μ' ε M'}

/-- The smaller protocol does not read a member that names a new method. -/
theorem next_of_isNew {m : JsonString × Json} (h : p.IsNew q m) (ms : Members ι μ ε) :
    p.next ms m = none := by
  obtain ⟨hkey, hp, -⟩ := h
  rw [Protocol.next]
  split
  · rfl
  · simp only [hkey, hp, Option.map_none]

theorem foldlM_of_isNew {members : List (JsonString × Json)} (h : ∃ m ∈ members, p.IsNew q m)
    (ms : Members ι μ ε) : members.foldlM p.next ms = none := by
  induction members generalizing ms with
  | nil => simp at h
  | cons m members ih =>
    rw [List.foldlM_cons]
    rcases (List.exists_mem_cons_iff ..).1 h with hm | h
    · rw [next_of_isNew hm]
      rfl
    · cases p.next ms m with
      | none => rfl
      | some ms => exact ih h ms

/-- A method that was read stays, or is replaced by another. -/
theorem next_method_isSome {ms ms' : Members ι μ' ε} {m : JsonString × Json}
    (h : q.next ms m = some ms') (hmethod : ms.method.isSome ∨ p.IsNew q m) :
    ms'.method.isSome := by
  rw [Protocol.next] at h
  split at h
  · cases h
  · split at h
    · obtain ⟨id, -, rfl⟩ := Option.map_eq_some_iff.1 h
      exact hmethod.resolve_right fun hm => absurd hm.1 (by simp [*])
    · obtain ⟨method, -, rfl⟩ := Option.map_eq_some_iff.1 h
      rfl
    · cases h
      exact hmethod.resolve_right fun hm => absurd hm.1 (by simp [*])
    · cases h
      exact hmethod.resolve_right fun hm => absurd hm.1 (by simp [*])
    · obtain ⟨error, -, rfl⟩ := Option.map_eq_some_iff.1 h
      exact hmethod.resolve_right fun hm => absurd hm.1 (by simp [*])
    · cases h
      exact hmethod.resolve_right fun hm => absurd hm.1 ‹_›

theorem foldlM_method_isSome {members : List (JsonString × Json)} {ms ms' : Members ι μ' ε}
    (h : members.foldlM q.next ms = some ms')
    (hmethod : ms.method.isSome ∨ ∃ m ∈ members, p.IsNew q m) : ms'.method.isSome := by
  induction members generalizing ms with
  | nil =>
    cases h
    simpa using hmethod
  | cons m members ih =>
    rw [List.foldlM_cons] at h
    obtain ⟨ms₁, hnext, h⟩ := Option.bind_eq_some_iff.1 h
    refine ih h ?_
    rcases hmethod with hmethod | hmethod
    · exact .inl (next_method_isSome (p := p) hnext (.inl hmethod))
    · rcases (List.exists_mem_cons_iff ..).1 hmethod with hm | hm
      · exact .inl (next_method_isSome hnext (.inr hm))
      · exact .inr hm

variable [DecidableEq ι] {v : Json}

theorem decode_of_namesNew (h : p.NamesNew q v) (map : PartialMap ι μ) :
    p.decode v map = (none, map) := by
  cases v with
  | object members => simp only [Protocol.decode, Protocol.read, foldlM_of_isNew h]
  | _ => exact h.elim

/-- What names a new method is read as a request, or not at all. -/
theorem decode_eq_of_namesNew (h : p.NamesNew q v) (map : PartialMap ι μ') :
    q.decode v map = (none, map) ∨
      ∃ id method params, q.decode v map = (q.request id method params, map) := by
  cases v with
  | object members =>
    cases hread : q.read members with
    | none =>
      left
      simp only [Protocol.decode, hread]
    | some ms =>
      have hmethod := foldlM_method_isSome hread (.inr h)
      obtain ⟨method, hmethod⟩ := Option.isSome_iff_exists.1 hmethod
      rw [decode_object hread, Protocol.message]
      cases ms.id with
      | none =>
        left
        simp only [Protocol.withoutId, hmethod]
      | some id =>
        right
        simp only [hmethod]
        exact ⟨_, _, _, rfl⟩
  | _ => exact h.elim

end NamesNew

end JsonRpc
