import LightningLiquidity.Lib.Spelling
import LightningLiquidity.Lsps0.Accepts

/-!
# Spellings of a message

What members say does not depend on how they are spelled (`ofLast_message_eq`), but whether they
are read does: names and the method are slices of the text, which must not have escape sequences
(`Plain`).

Two texts of the same object are thus read the same iff both are plain, or both are not, or the
object would not be accepted, and answer no request, anyway (`fromStrWithIdMap_same_iff`).
-/

namespace LightningLiquidity

open Json

variable {serde : Serde}

/-! ## Readers -/

theorem LSPSMethod.respects_ofValue : Respects LSPSMethod.ofValue := respects_asString.bind _

theorem respects_readStringAmount : Respects readStringAmount := respects_asString.bind _

theorem respects_readDateTime : Respects (readDateTime serde) := respects_asString.bind _

theorem respects_readResponseError : Respects readResponseError := by
  intro v v' h
  have hcount : (∀ key ∈ ["code", "message", "data"], v.countMembers key ≤ 1) ↔
      ∀ key ∈ ["code", "message", "data"], v'.countMembers key ≤ 1 :=
    iff_of_true (fun key _ => (h.countMembers_le key).1) fun key _ => (h.countMembers_le key).2
  rw [readResponseError, readResponseError, h.isRecord, h.required _ _ respects_asInt32,
    h.required _ _ respects_asString, h.optional _ _ respects_asString]
  simp only [hcount]

theorem respects_readListProtocolsResponse : Respects readListProtocolsResponse := by
  intro v v' h
  rw [readListProtocolsResponse, readListProtocolsResponse, h.isRecord,
    h.required _ _ respects_asUInt16.asList]

theorem respects_readGetInfoRequest : Respects readGetInfoRequest := by
  intro v v' h
  rw [readGetInfoRequest, readGetInfoRequest, h.isRecord, h.optional _ _ respects_asString]

theorem respects_readOpeningFeeParams : Respects (readOpeningFeeParams serde) := by
  intro v v' h
  simp only [readOpeningFeeParams, h.isRecord, h.required _ _ respects_readStringAmount,
    h.required _ _ respects_asUInt32, h.required _ _ respects_readDateTime,
    h.required _ _ respects_asString]

theorem respects_readGetInfoResponse : Respects (readGetInfoResponse serde) := by
  intro v v' h
  rw [readGetInfoResponse, readGetInfoResponse, h.isRecord,
    h.required _ _ respects_readOpeningFeeParams.asList]

theorem respects_readBuyRequest : Respects (readBuyRequest serde) := by
  intro v v' h
  rw [readBuyRequest, readBuyRequest, h.isRecord, h.required _ _ respects_readOpeningFeeParams,
    h.defaulted _ _ respects_readStringAmount.asOption]

theorem respects_readBuyResponse : Respects readBuyResponse := by
  intro v v' h
  rw [readBuyResponse, readBuyResponse, h.isRecord, h.required _ _ respects_asString,
    h.required _ _ respects_asUInt32, h.defaulted _ _ respects_asBool]

/-! ## Members -/

/-- Members say the same, up to the spelling of parameters and results. -/
structure MessageMembers.Same (ms ms' : MessageMembers) : Prop where
  id : ms.id = ms'.id
  method : ms.method = ms'.method
  error : ms.error = ms'.error
  params : Option.Rel Json.Same ms.params ms'.params
  result : Option.Rel Json.Same ms.result ms'.result

/-- The members are those of an answer to a request sent: its id is taken off the map. -/
def MessageMembers.Answers (map : PartialMap RequestId LSPSMethod) (ms : MessageMembers) : Prop :=
  ms.method = none ∧ ∃ id, ms.id = some id ∧ map id ≠ none

namespace MessageMembers

variable {ms ms' : MessageMembers} {map : PartialMap RequestId LSPSMethod}
  {members members' : List (JsonString × Json)}

theorem respects_readRequest (id : RequestId) (method : LSPSMethod) :
    Respects (LSPSMessage.readRequest serde id method) := by
  cases method with
  | lsps0ListProtocols => exact fun _ _ _ => rfl
  | lsps2GetInfo => exact respects_readGetInfoRequest.map _
  | lsps2Buy => exact respects_readBuyRequest.map _

theorem respects_readResult (id : RequestId) (method : LSPSMethod) :
    Respects (LSPSMessage.readResult serde id method) := by
  cases method with
  | lsps0ListProtocols => exact respects_readListProtocolsResponse.map _
  | lsps2GetInfo => exact respects_readGetInfoResponse.map _
  | lsps2Buy => exact respects_readBuyResponse.map _

theorem Same.response_eq (h : ms.Same ms') (id : RequestId) (method : LSPSMethod) :
    (LSPSMessage.protocol serde).response ms id method =
      (LSPSMessage.protocol serde).response ms' id method := by
  rw [JsonRpc.Protocol.response, JsonRpc.Protocol.response, h.error]
  cases ms'.error with
  | some error => rfl
  | none =>
    have hread : Respects (LSPSMessage.readResult serde id method) := respects_readResult id method
    have hresult := hread.bind_eq h.result
    revert hresult
    cases ms.result <;> cases ms'.result <;> exact fun hresult => hresult

/-- Members that say the same are the same message. -/
theorem Same.message_eq (h : ms.Same ms') :
    (LSPSMessage.protocol serde).message ms map = (LSPSMessage.protocol serde).message ms' map := by
  have hrequest (id : RequestId) (method : LSPSMethod) :
      (LSPSMessage.protocol serde).request id method (ms.params.getD (.object [])) =
        (LSPSMessage.protocol serde).request id method (ms'.params.getD (.object [])) :=
    (respects_readRequest id method).getD_eq _ h.params
  simp only [JsonRpc.Protocol.message, JsonRpc.Protocol.withoutId, h.id, h.method, h.error, hrequest,
    h.response_eq]

/-- Objects that are the same up to spelling have members that say the same. -/
theorem same_ofLast (h : ∀ key, Option.Rel Json.Same (lookup members key) (lookup members' key)) :
    (ofLast members).Same (ofLast members') where
  id := congrArg (Option.map RequestId.mk) (respects_asString.bind_eq (h "id"))
  method := LSPSMethod.respects_ofValue.bind_eq (h "method")
  error := respects_readResponseError.bind_eq (h "error")
  params := h "params"
  result := h "result"

theorem snd_message_eq_iff :
    ((LSPSMessage.protocol serde).message ms map).2 = map ↔ ¬ms.Answers map := by
  cases hid : ms.answeredId with
  | some id =>
    obtain ⟨_ | id, _ | method, params, result, error⟩ := ms
    all_goals cases hid
    rw [JsonRpc.message_answer rfl, PartialMap.remove_eq_self_iff]
    simp [Answers]
  | none =>
    obtain ⟨m, hm, -⟩ := JsonRpc.message_other (LSPSMessage.protocol serde) hid
    refine iff_of_true (by rw [hm]) ?_
    rintro ⟨hmethod, id, hid', -⟩
    rw [JsonRpc.Members.answeredId, hmethod] at hid
    cases hid.symm.trans hid'

/-- Members are no message, and leave the map, iff they are neither accepted nor an answer. -/
theorem message_eq_none_iff :
    (LSPSMessage.protocol serde).message ms map = (none, map) ↔
      ¬(ms.Accepted serde map ∨ ms.Answers map) := by
  rw [Prod.ext_iff, snd_message_eq_iff, not_or, ← isSome_message, Option.not_isSome_iff_eq_none]

end MessageMembers

open MessageMembers

/-- The members of an object whose names are distinct can be read iff those found can. -/
theorem readable_iff {members : List (JsonString × Json)}
    (hnodup : (members.map fun m => m.1.value).Nodup) :
    Readable members ↔
      (∀ v, lookup members "id" = some v → (v.asOption asString).isSome) ∧
        (∀ v, lookup members "method" = some v → (LSPSMethod.ofValue v).isSome) ∧
        ∀ v, lookup members "error" = some v → (readResponseError v).isSome := by
  constructor
  · intro h
    refine ⟨fun v hv => ?_, fun v hv => ?_, fun v hv => ?_⟩
    all_goals obtain ⟨m, hm, hkey, rfl⟩ := mem_of_lookup hv
    · exact (h m hm).id hkey
    · exact (h m hm).method hkey
    · exact (h m hm).error hkey
  · rintro ⟨hid, hmethod, herror⟩ m hm
    have hlookup := lookup_of_mem hnodup hm
    exact ⟨fun hkey => hid _ (hkey ▸ hlookup), fun hkey => hmethod _ (hkey ▸ hlookup),
      fun hkey => herror _ (hkey ▸ hlookup)⟩

theorem forall_isSome_iff {α : Type} {read : Json → Option α} (hread : Respects read)
    {a a' : Option Json} (h : Option.Rel Json.Same a a') :
    (∀ v, a = some v → (read v).isSome) ↔ ∀ v, a' = some v → (read v).isSome := by
  cases h with
  | none => simp
  | some hv => simp [hread _ _ hv]

/-- Whether the members of an object can be read does not depend on their spelling. -/
theorem readable_congr {members members' : List (JsonString × Json)}
    (h : Json.Same (.object members) (.object members')) : Readable members ↔ Readable members' := by
  cases h with
  | object hnodup hnodup' h =>
    rw [readable_iff hnodup, readable_iff hnodup',
      forall_isSome_iff respects_asString.asOption (h "id"),
      forall_isSome_iff LSPSMethod.respects_ofValue (h "method"),
      forall_isSome_iff respects_readResponseError (h "error")]

/-! ## Texts -/

namespace LSPSMessage

variable {text text' rest rest' : String} {members members' : List (JsonString × Json)}

/-- A text with plain members gives nothing, and leaves the map, iff they cannot be read, or are
    neither accepted nor an answer to a request sent. -/
theorem fromStrWithIdMap_eq_none_iff
    (hparse : serde.parseJson text = some (.object members, rest)) (hplain : Plain members)
    (map : PartialMap RequestId LSPSMethod) :
    fromStrWithIdMap serde text map = (none, map) ↔
      ¬(Readable members ∧ ((ofLast members).Accepted serde map ∨ (ofLast members).Answers map)) := by
  by_cases hread : Readable members
  · rw [fromStrWithIdMap_of_readable hparse hplain hread, message_eq_none_iff, and_iff_right hread]
  · rw [fromStrWithIdMap_of_not_readable hparse fun h => hread h.2]
    exact iff_of_true rfl fun h => hread h.1

/-- **Spellings.** Two texts of the same object are read the same iff both are plain, or both are
    not, or the object cannot be read, or is neither accepted nor an answer to a request sent. -/
theorem fromStrWithIdMap_same_iff (serde : Serde) (text text' : String)
    (members members' : List (JsonString × Json)) (rest rest' : String)
    (hparse : serde.parseJson text = some (.object members, rest))
    (hparse' : serde.parseJson text' = some (.object members', rest'))
    (hsame : Json.Same (.object members) (.object members'))
    (map : PartialMap RequestId LSPSMethod) :
    fromStrWithIdMap serde text map = fromStrWithIdMap serde text' map ↔
      (Plain members ↔ Plain members') ∨
        ¬(Readable members ∧
          ((ofLast members).Accepted serde map ∨ (ofLast members).Answers map)) := by
  have hreadable := readable_congr hsame
  have hof : (ofLast members).Same (ofLast members') := by
    cases hsame with
    | object _ _ h => exact same_ofLast h
  have hmessage : (protocol serde).message (ofLast members) map =
      (protocol serde).message (ofLast members') map := hof.message_eq
  -- A text that is not plain is not read at all. So if only one of the two is plain, they are
  -- read the same iff this one is not read, either, and leaves the map.
  by_cases hplain : Plain members
  · by_cases hplain' : Plain members'
    · refine iff_of_true ?_ (.inl (iff_of_true hplain hplain'))
      by_cases hread : Readable members
      · rw [fromStrWithIdMap_of_readable hparse hplain hread,
          fromStrWithIdMap_of_readable hparse' hplain' (hreadable.1 hread), hmessage]
      · rw [fromStrWithIdMap_of_not_readable hparse fun h => hread h.2,
          fromStrWithIdMap_of_not_readable hparse' fun h => hread (hreadable.2 h.2)]
    · have hnot : ¬(Plain members ↔ Plain members') := fun h => hplain' (h.1 hplain)
      rw [fromStrWithIdMap_of_not_readable hparse' fun h => hplain' h.1, or_iff_right hnot,
        fromStrWithIdMap_eq_none_iff hparse hplain]
  · by_cases hplain' : Plain members'
    · have hnot : ¬(Plain members ↔ Plain members') := fun h => hplain (h.2 hplain')
      have hanswers : (ofLast members).Answers map ↔ (ofLast members').Answers map := by
        rw [Answers, Answers, hof.id, hof.method]
      have haccepted : (ofLast members).Accepted serde map ↔
          (ofLast members').Accepted serde map := by
        rw [← isSome_message, ← isSome_message, hmessage]
      rw [fromStrWithIdMap_of_not_readable hparse fun h => hplain h.1, or_iff_right hnot, eq_comm,
        fromStrWithIdMap_eq_none_iff hparse' hplain', hreadable, hanswers, haccepted]
    · rw [fromStrWithIdMap_of_not_readable hparse fun h => hplain h.1,
        fromStrWithIdMap_of_not_readable hparse' fun h => hplain' h.1]
      exact iff_of_true rfl (.inl (iff_of_false hplain hplain'))

/-- A request of the examples, by its text and its members. -/
def samplePlain : String × List (JsonString × Json) :=
  ("\x7b\"id\":\"1\",\"method\":\"lsps0.list_protocols\"\x7d",
    [(.written "id", ofString "1"), (.written "method", ofString "lsps0.list_protocols")])

/-- The request in another order, and with spaces. -/
def sampleOrdered : String × List (JsonString × Json) :=
  ("\x7b \"method\": \"lsps0.list_protocols\", \"id\": \"1\" \x7d",
    [(.written "method", ofString "lsps0.list_protocols"), (.written "id", ofString "1")])

/-- The request with an escape sequence in a name. -/
def sampleEscaped : String × List (JsonString × Json) :=
  ("\x7b\"id\":\"1\",\"\\u006dethod\":\"lsps0.list_protocols\"\x7d",
    [(.written "id", ofString "1"), (⟨"method", false⟩, ofString "lsps0.list_protocols")])

/-- The texts of the examples. -/
def sampleSpellings : Serde :=
  { sampleMenuDates with
    parseJson := fun text =>
      ([samplePlain, sampleOrdered, sampleEscaped].find? fun e => e.1 = text).map fun e =>
        (.object e.2, "") }

/-- The order of members does not matter. -/
theorem fromStrWithIdMap_same_ordered :
    fromStrWithIdMap sampleSpellings samplePlain.1 .empty =
      fromStrWithIdMap sampleSpellings sampleOrdered.1 .empty := by
  have hstring (s : String) : Json.Same (ofString s) (ofString s) := .string rfl
  have hsame : Json.Same (.object samplePlain.2) (.object sampleOrdered.2) := by
    refine .of_mem (by decide) (by decide) ?_ ?_
    · simp [samplePlain, sampleOrdered, JsonString.written, hstring]
    · simp [samplePlain, sampleOrdered, JsonString.written]
  refine (fromStrWithIdMap_same_iff sampleSpellings samplePlain.1 sampleOrdered.1 samplePlain.2
    sampleOrdered.2 "" "" rfl rfl hsame .empty).2 (.inl (iff_of_true ?_ ?_))
  · simp [Plain, samplePlain, PlainMember, JsonString.written, ofString]
  · simp [Plain, sampleOrdered, PlainMember, JsonString.written, ofString]

/-- A request is read, but not with an escape sequence in the name of its method. -/
theorem not_fromStrWithIdMap_same :
    ¬∀ (serde : Serde) (text text' : String) (members members' : List (JsonString × Json))
      (rest rest' : String), serde.parseJson text = some (.object members, rest) →
      serde.parseJson text' = some (.object members', rest') →
      Json.Same (.object members) (.object members') →
      ∀ map, fromStrWithIdMap serde text map = fromStrWithIdMap serde text' map := by
  intro h
  have hstring (s : String) : Json.Same (ofString s) (ofString s) := .string rfl
  have hsame : Json.Same (.object samplePlain.2) (.object sampleEscaped.2) := by
    refine .of_mem (by decide) (by decide) ?_ ?_
    · simp [samplePlain, sampleEscaped, JsonString.written, hstring]
    · simp [samplePlain, sampleEscaped, JsonString.written]
  have heq := h sampleSpellings samplePlain.1 sampleEscaped.1 samplePlain.2 sampleEscaped.2 "" ""
    rfl rfl hsame .empty
  exact absurd (congrArg (fun r => r.1.isSome) heq) (by decide)

end LSPSMessage

end LightningLiquidity
