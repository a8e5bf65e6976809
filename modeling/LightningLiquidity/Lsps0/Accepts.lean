import LightningLiquidity.Lsps0.Reading

/-!
# What is accepted as a message

A text is read by the members of the object it starts with: of each name only the last member
counts (`MessageMembers.ofLast`), if all of them can be read (`Readable`) and are written without
escape sequences where slices of the text are read (`Plain`).

Such members are accepted as a request of a known method with valid parameters, as a response to a
request sent, with an error or else a valid result, or as a notice that a message could not be
parsed (`MessageMembers.Accepted`). A text is read as a message iff its members are accepted
(`fromStrWithIdMap_isSome_iff`). Nothing else of JSON-RPC 2.0 is asked for (`not_jsonRpc`).
-/

namespace LightningLiquidity

open Json

/-! ## Members -/

/-- The method a value names, however it is spelled. -/
def LSPSMethod.ofValue (v : Json) : Option LSPSMethod := v.asString.bind fromStr

/-- The name of a member, and a method, are written without escape sequences. -/
def PlainMember (m : JsonString × Json) : Prop :=
  m.1.borrowed = true ∧
    (m.1.value = "method" → ∀ s, m.2 = .string s → s.borrowed = true)

/-- A member can be read, however it is spelled: an id is a string or `null`, a method is known, and
    an error is one. -/
@[mk_iff]
structure ReadableMember (m : JsonString × Json) : Prop where
  id : m.1.value = "id" → (m.2.asOption asString).isSome
  method : m.1.value = "method" → (LSPSMethod.ofValue m.2).isSome
  error : m.1.value = "error" → (readResponseError m.2).isSome

/-- Names, and methods, are written without escape sequences. -/
def Plain (members : List (JsonString × Json)) : Prop := ∀ m ∈ members, PlainMember m

/-- All members can be read, however they are spelled. -/
def Readable (members : List (JsonString × Json)) : Prop := ∀ m ∈ members, ReadableMember m

namespace MessageMembers

variable {serde : Serde}

/-- The members with one more, however it is spelled. -/
def put (self : MessageMembers) (m : JsonString × Json) : MessageMembers :=
  match m.1.value with
  | "id" => { self with id := m.2.asString.map RequestId.mk }
  | "method" => { self with method := LSPSMethod.ofValue m.2 }
  | "params" => { self with params := m.2 }
  | "result" => { self with result := m.2 }
  | "error" => { self with error := readResponseError m.2 }
  | _ => self

/-- What the last members of the names say, however they are spelled. -/
def ofLast (members : List (JsonString × Json)) : MessageMembers where
  id := ((lookup members "id").bind asString).map RequestId.mk
  method := (lookup members "method").bind LSPSMethod.ofValue
  params := lookup members "params"
  result := lookup members "result"
  error := (lookup members "error").bind readResponseError

theorem asOption_readId (v : Json) : v.asOption (LSPSMessage.protocol serde).readId =
    if (v.asOption asString).isSome then some (v.asString.map RequestId.mk) else none := by
  cases v <;> rfl

theorem read_eq_some_iff {v : Json} {method : LSPSMethod} :
    LSPSMethod.read v = some method ↔
      (∀ s, v = .string s → s.borrowed = true) ∧ LSPSMethod.ofValue v = some method := by
  cases v with
  | string s =>
    obtain ⟨value, borrowed⟩ := s
    cases borrowed <;> simp [LSPSMethod.read, LSPSMethod.ofValue, asBorrowed, asString]
  | _ => simp [LSPSMethod.read, LSPSMethod.ofValue, asBorrowed, asString]

/-- The next member is read iff it is plain and can be read. -/
theorem next_eq_some_iff {self self' : MessageMembers} {m : JsonString × Json} :
    (LSPSMessage.protocol serde).next self m = some self' ↔
      PlainMember m ∧ ReadableMember m ∧ self.put m = self' := by
  obtain ⟨⟨name, borrowed⟩, v⟩ := m
  cases borrowed with
  | false => simp [JsonRpc.Protocol.next, PlainMember]
  | true =>
    rw [JsonRpc.Protocol.next, if_neg (by simp)]
    dsimp only
    split
    · rw [asOption_readId]
      by_cases hid : (v.asOption asString).isSome
      · simp [PlainMember, readableMember_iff, put, hid]
      · simp [readableMember_iff, hid]
    · simp only [LSPSMessage.protocol, Option.map_eq_some_iff, read_eq_some_iff]
      cases hmethod : LSPSMethod.ofValue v with
      | none => simp [readableMember_iff, hmethod]
      | some method => simp [PlainMember, readableMember_iff, put, hmethod]
    · simp [PlainMember, readableMember_iff, put]
    · simp [PlainMember, readableMember_iff, put]
    · simp only [LSPSMessage.protocol]
      cases herror : readResponseError v with
      | none => simp [readableMember_iff, herror]
      | some error => simp [PlainMember, readableMember_iff, put, herror]
    · next hid hmethod hparams hresult herror =>
      simp_all [PlainMember, readableMember_iff, put]

/-- The members are read iff they are plain and can be read. -/
theorem foldlM_next_eq_some_iff {members : List (JsonString × Json)} {self self' : MessageMembers} :
    members.foldlM (LSPSMessage.protocol serde).next self = some self' ↔
      Plain members ∧ Readable members ∧ members.foldl put self = self' := by
  induction members generalizing self with
  | nil => simp [Plain, Readable]
  | cons m members ih =>
    rw [List.foldlM_cons, Option.bind_eq_bind, Option.bind_eq_some_iff]
    simp only [next_eq_some_iff, ih, Plain, Readable, List.forall_mem_cons, List.foldl_cons]
    constructor
    · rintro ⟨_, ⟨hm, hm', rfl⟩, h, h', rfl⟩
      exact ⟨⟨hm, h⟩, ⟨hm', h'⟩, rfl⟩
    · rintro ⟨⟨hm, h⟩, ⟨hm', h'⟩, rfl⟩
      exact ⟨_, ⟨hm, hm', rfl⟩, h, h', rfl⟩

theorem lookup_append_singleton (members : List (JsonString × Json)) (m : JsonString × Json)
    (key : String) :
    lookup (members ++ [m]) key = if m.1.value = key then some m.2 else lookup members key := by
  rw [lookup, List.reverse_append, List.reverse_singleton, List.singleton_append, List.find?_cons]
  by_cases h : m.1.value = key
  · simp [h]
  · simp [h, lookup]

theorem ofLast_append_singleton (members : List (JsonString × Json)) (m : JsonString × Json) :
    ofLast (members ++ [m]) = (ofLast members).put m := by
  obtain ⟨⟨name, borrowed⟩, v⟩ := m
  rw [put]
  dsimp only
  split
  all_goals simp_all [ofLast, lookup_append_singleton]

/-- What is put together in the order of the text is what the last members say. -/
theorem foldl_put (members : List (JsonString × Json)) : members.foldl put {} = ofLast members := by
  induction members using List.reverseRecOn with
  | nil => rfl
  | append_singleton members m ih =>
    rw [List.foldl_append, ih, ofLast_append_singleton]
    rfl

theorem read_eq_some_iff_ofLast {members : List (JsonString × Json)} {self : MessageMembers} :
    (LSPSMessage.protocol serde).read members = some self ↔
      Plain members ∧ Readable members ∧ ofLast members = self := by
  rw [JsonRpc.Protocol.read, foldlM_next_eq_some_iff, foldl_put]

end MessageMembers

/-! ## Messages -/

/-- The parameters are valid for a method. Those of `list_protocols` are not looked at. -/
def LSPSMethod.ValidParams (serde : Serde) (v : Json) : LSPSMethod → Prop
  | lsps0ListProtocols => True
  | lsps2GetInfo => (readGetInfoRequest v).isSome
  | lsps2Buy => (readBuyRequest serde v).isSome

/-- The result is valid for a method. -/
def LSPSMethod.ValidResult (serde : Serde) (v : Json) : LSPSMethod → Prop
  | lsps0ListProtocols => (readListProtocolsResponse v).isSome
  | lsps2GetInfo => (readGetInfoResponse serde v).isSome
  | lsps2Buy => (readBuyResponse v).isSome

namespace MessageMembers

/-- The members are those of a message, if requests of the methods in the map were sent. -/
inductive Accepted (serde : Serde) (map : PartialMap RequestId LSPSMethod) (ms : MessageMembers) :
    Prop
  | request {id : RequestId} {method : LSPSMethod} (hid : ms.id = some id)
      (hmethod : ms.method = some method)
      (hparams : method.ValidParams serde (ms.params.getD (.object [])))
  | error {id : RequestId} {method : LSPSMethod} {error : ResponseError} (hid : ms.id = some id)
      (hmethod : ms.method = none) (hmap : map id = some method) (herror : ms.error = some error)
  | result {id : RequestId} {method : LSPSMethod} {result : Json} (hid : ms.id = some id)
      (hmethod : ms.method = none) (hmap : map id = some method) (herror : ms.error = none)
      (hresult : ms.result = some result) (hvalid : method.ValidResult serde result)
  | notice {error : ResponseError} (hid : ms.id = none) (hmethod : ms.method = none)
      (herror : ms.error = some error) (hcode : error.code = jsonrpcInvalidMessageErrorCode)

variable {serde : Serde} {map : PartialMap RequestId LSPSMethod} {ms : MessageMembers}

theorem isSome_readRequest (id : RequestId) (method : LSPSMethod) (params : Json) :
    (LSPSMessage.readRequest serde id method params).isSome ↔ method.ValidParams serde params := by
  cases method <;> simp [LSPSMessage.readRequest, LSPSMethod.ValidParams]

theorem isSome_response (id : RequestId) (method : LSPSMethod) :
    ((LSPSMessage.protocol serde).response ms id method).isSome ↔
      ms.error.isSome ∨ ms.error = none ∧ ∃ v, ms.result = some v ∧ method.ValidResult serde v := by
  obtain ⟨_, _, _, result, error⟩ := ms
  cases error with
  | some error => simp [JsonRpc.Protocol.response]
  | none =>
    cases result with
    | none => simp [JsonRpc.Protocol.response]
    | some v =>
      cases method <;> simp [JsonRpc.Protocol.response, LSPSMessage.protocol,
        LSPSMessage.readResult, LSPSMethod.ValidResult]

/-- The members give a message iff they are accepted. -/
theorem isSome_message :
    ((LSPSMessage.protocol serde).message ms map).1.isSome ↔ ms.Accepted serde map := by
  constructor
  · intro h
    rw [JsonRpc.Protocol.message] at h
    split at h
    · next hid =>
      rw [JsonRpc.Protocol.withoutId] at h
      split at h
      · next error hmethod herror =>
        obtain ⟨m, hm⟩ := Option.isSome_iff_exists.1 h
        exact .notice hid hmethod herror (Option.ite_none_right_eq_some.1 hm).1
      · cases h
    · next id hid =>
      -- Whether there is a method tells requests from responses.
      split at h
      · next method hmethod => exact .request hid hmethod ((isSome_readRequest id method _).1 h)
      · next hmethod =>
        split at h
        · next method hmap =>
          rcases (isSome_response id method).1 h with herror | ⟨herror, v, hresult, hvalid⟩
          · obtain ⟨error, herror⟩ := Option.isSome_iff_exists.1 herror
            exact .error hid hmethod hmap herror
          · exact .result hid hmethod hmap herror hresult hvalid
        · cases h
  · rintro (⟨hid, hmethod, hparams⟩ | ⟨hid, hmethod, hmap, herror⟩ |
      ⟨hid, hmethod, hmap, herror, hresult, hvalid⟩ | ⟨hid, hmethod, herror, hcode⟩)
    · simp only [JsonRpc.Protocol.message, hid, hmethod]
      exact (isSome_readRequest ..).2 hparams
    · simp only [JsonRpc.Protocol.message, hid, hmethod, hmap]
      exact (isSome_response ..).2 (.inl (by rw [herror, Option.isSome_some]))
    · simp only [JsonRpc.Protocol.message, hid, hmethod, hmap]
      exact (isSome_response ..).2 (.inr ⟨herror, _, hresult, hvalid⟩)
    · simp only [JsonRpc.Protocol.message, JsonRpc.Protocol.withoutId, hid, hmethod, herror,
        LSPSMessage.protocol, hcode, if_true, Option.isSome_some]

end MessageMembers

open MessageMembers

namespace LSPSMessage

variable {serde : Serde} {text rest : String} {map : PartialMap RequestId LSPSMethod}
  {members : List (JsonString × Json)}

/-- A text that starts with an object is read by what its last members say, if all are plain and
    can be read. -/
theorem fromStrWithIdMap_of_readable (hparse : serde.parseJson text = some (.object members, rest))
    (hplain : Plain members) (hread : Readable members) (map : PartialMap RequestId LSPSMethod) :
    fromStrWithIdMap serde text map = (protocol serde).message (ofLast members) map :=
  (fromStrWithIdMap_eq_decode hparse map).trans
    (JsonRpc.decode_object (read_eq_some_iff_ofLast.2 ⟨hplain, hread, rfl⟩))

/-- A text that starts with an object is not read if some member is not plain or cannot be read. -/
theorem fromStrWithIdMap_of_not_readable
    (hparse : serde.parseJson text = some (.object members, rest))
    (h : ¬(Plain members ∧ Readable members)) (map : PartialMap RequestId LSPSMethod) :
    fromStrWithIdMap serde text map = (none, map) := by
  refine fromStrWithIdMap_of_members_eq_none ?_ map
  rw [LSPSMessage.members, hparse, Option.bind_some]
  refine Option.eq_none_iff_forall_ne_some.2 fun ms hms => h ?_
  obtain ⟨hplain, hread, -⟩ := read_eq_some_iff_ofLast.1 hms
  exact ⟨hplain, hread⟩

/-- **What is accepted.** A text is read as a message iff it starts with an object whose members
    are plain, can be read, and are accepted by what the last ones say. -/
theorem fromStrWithIdMap_isSome_iff (serde : Serde) (text : String)
    (map : PartialMap RequestId LSPSMethod) :
    (fromStrWithIdMap serde text map).1.isSome ↔
      ∃ members rest, serde.parseJson text = some (.object members, rest) ∧ Plain members ∧
        Readable members ∧ (ofLast members).Accepted serde map := by
  constructor
  · intro h
    obtain ⟨ms, hms⟩ : ∃ ms, LSPSMessage.members serde text = some ms := by
      refine Option.ne_none_iff_exists'.1 fun hnone => ?_
      rw [fromStrWithIdMap_of_members_eq_none hnone] at h
      cases h
    rw [fromStrWithIdMap_of_members_eq_some hms] at h
    obtain ⟨⟨v, rest⟩, hparse, hread⟩ := Option.bind_eq_some_iff.1 hms
    cases v with
    | object members =>
      obtain ⟨hplain, hreadable, rfl⟩ := read_eq_some_iff_ofLast.1 hread
      exact ⟨members, rest, hparse, hplain, hreadable, isSome_message.1 h⟩
    | _ => cases hread
  · rintro ⟨members, rest, hparse, hplain, hread, haccepted⟩
    rw [fromStrWithIdMap_of_readable hparse hplain hread]
    exact isSome_message.2 haccepted

end LSPSMessage

/-! ## What is not asked for -/

/-- Every text read as a message starts with an object of which, and of what follows it, `C` holds. -/
def Decodes (C : Serde → PartialMap RequestId LSPSMethod → List (JsonString × Json) → String → Prop) :
    Prop :=
  ∀ serde text map, (LSPSMessage.fromStrWithIdMap serde text map).1.isSome →
    ∃ members rest, serde.parseJson text = some (.object members, rest) ∧ C serde map members rest

/-- Nothing but white space follows. -/
def Whole (rest : String) : Prop := ∀ c ∈ rest.toList, c.isWhitespace = true

/-- The version of JSON-RPC is given. -/
def Versioned (members : List (JsonString × Json)) : Prop :=
  ∃ s, lookup members "jsonrpc" = some (.string s) ∧ s.value = "2.0"

/-- A request has neither a result nor an error. -/
def PureRequest (members : List (JsonString × Json)) : Prop :=
  (lookup members "method").isSome → lookup members "result" = none ∧ lookup members "error" = none

/-- The parameters of `list_protocols` are a record without fields. -/
def ListProtocolsParams (members : List (JsonString × Json)) : Prop :=
  (ofLast members).method = some .lsps0ListProtocols →
    ((lookup members "params").getD (.object [])).isRecord 0

/-- A response has only one of a result and an error. -/
def SingleResponse (members : List (JsonString × Json)) : Prop :=
  (ofLast members).id.isSome → lookup members "method" = none →
    ¬((lookup members "result").isSome ∧ (lookup members "error").isSome)

/-- A text is one JSON-RPC 2.0 object, of a request, a response or a notice. -/
structure JsonRpc (serde : Serde) (map : PartialMap RequestId LSPSMethod)
    (members : List (JsonString × Json)) (rest : String) : Prop where
  whole : Whole rest
  version : Versioned members
  request : PureRequest members
  params : ListProtocolsParams members
  response : SingleResponse members
  accepted : (ofLast members).Accepted serde map

/-- The text of the examples, which starts with an object. -/
def sampleText (text : String) (members : List (JsonString × Json)) (rest : String) : Serde :=
  { sampleMenuDates with
    parseJson := fun t => if t = text then some (.object members, rest) else none }

theorem not_decodes
    {C : Serde → PartialMap RequestId LSPSMethod → List (JsonString × Json) → String → Prop}
    (text : String) (members : List (JsonString × Json)) (rest : String)
    (map : PartialMap RequestId LSPSMethod)
    (h : (visitMap (sampleText text members rest) map members).1.isSome)
    (hC : ¬C (sampleText text members rest) map members rest) : ¬Decodes C := by
  intro hall
  have hparse : (sampleText text members rest).parseJson text = some (.object members, rest) :=
    if_pos rfl
  have hread : (LSPSMessage.fromStrWithIdMap (sampleText text members rest) text map).1.isSome := by
    rw [LSPSMessage.fromStrWithIdMap, hparse]
    exact h
  obtain ⟨members', rest', hparse', hC'⟩ := hall _ text map hread
  cases hparse.symm.trans hparse'
  exact hC hC'

/-- The members of the examples, none of which is written with escape sequences. -/
def named (members : List (String × Json)) : List (JsonString × Json) :=
  members.map fun (key, v) => (.written key, v)

/-- A request of the examples, and a member more. -/
def sampleRequest (member : String × Json) : List (JsonString × Json) :=
  named [("jsonrpc", ofString "2.0"), ("id", ofString "1"),
    ("method", ofString "lsps0.list_protocols"), member]

/-- A response of the examples, with an error and a result. -/
def sampleResponse : List (JsonString × Json) :=
  named [("jsonrpc", ofString "2.0"), ("id", ofString "1"),
    ("error", .ofMembers [("code", int 1), ("message", ofString "")]), ("result", null)]

/-- Texts that are no JSON-RPC 2.0 messages, each for one reason, are read as messages. -/
theorem not_jsonRpc :
    ¬Decodes JsonRpc ∧ ¬Decodes (fun _ _ members _ => Versioned members) ∧
      ¬Decodes (fun _ _ _ rest => Whole rest) ∧
      ¬Decodes (fun _ _ members _ => PureRequest members) ∧
      ¬Decodes (fun _ _ members _ => ListProtocolsParams members) ∧
      ¬Decodes (fun _ _ members _ => SingleResponse members) := by
  have hversion : ¬Decodes (fun _ _ members _ => Versioned members) := by
    refine not_decodes "\x7b\"id\":\"1\",\"method\":\"lsps0.list_protocols\"\x7d"
      (named [("id", ofString "1"), ("method", ofString "lsps0.list_protocols")]) "" .empty rfl ?_
    rintro ⟨s, hs, -⟩
    cases hs
  refine ⟨fun hall => hversion ?_, hversion, ?_, ?_, ?_, ?_⟩
  · intro serde text map h
    obtain ⟨members, rest, hparse, hjson⟩ := hall serde text map h
    exact ⟨members, rest, hparse, hjson.version⟩
  · exact not_decodes ("\x7b\"jsonrpc\":\"2.0\",\"id\":\"1\"," ++
      "\"method\":\"lsps0.list_protocols\",\"params\":\x7b\x7d\x7d\x7d")
      (sampleRequest ("params", .ofMembers [])) "\x7d" .empty rfl (by simp [Whole])
  · exact not_decodes ("\x7b\"jsonrpc\":\"2.0\",\"id\":\"1\"," ++
      "\"method\":\"lsps0.list_protocols\",\"result\":null\x7d")
      (sampleRequest ("result", null)) "" .empty rfl fun h => Option.some_ne_none _ (h rfl).1
  · exact not_decodes ("\x7b\"jsonrpc\":\"2.0\",\"id\":\"1\"," ++
      "\"method\":\"lsps0.list_protocols\",\"params\":1\x7d")
      (sampleRequest ("params", int 1)) "" .empty rfl fun h => Bool.false_ne_true (h rfl)
  · exact not_decodes ("\x7b\"jsonrpc\":\"2.0\",\"id\":\"1\"," ++
      "\"error\":\x7b\"code\":1,\"message\":\"\"\x7d,\"result\":null\x7d")
      sampleResponse "" (PartialMap.empty.insert ⟨"1"⟩ .lsps0ListProtocols) (by decide) fun h =>
        h rfl rfl ⟨rfl, rfl⟩

end LightningLiquidity
