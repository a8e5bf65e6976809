import LightningLiquidity.Lsps1.Messages

/-!
# The builds with and without LSPS1

Both builds read the same texts as the same messages, but for the methods of LSPS1
(`fromStrWithIdMap_builds`): a text that names none of them is read alike, and leaves the same
ids. Of a text that does, the build without LSPS1 reads nothing; the other reads at most a
request. Neither loses an id to it.

The JSON-RPC protocol of the build with LSPS1 extends that of the other one
(`protocol_extends`).
-/

namespace LightningLiquidity.Lsps1

/-- A method, in the build with LSPS1. -/
def LSPSMethod.ofDefault : LightningLiquidity.LSPSMethod → LSPSMethod
  | .lsps0ListProtocols => lsps0ListProtocols
  | .lsps2GetInfo => lsps2GetInfo
  | .lsps2Buy => lsps2Buy

/-- A method of LSPS1. -/
def LSPSMethod.IsLSPS1 (method : LSPSMethod) : Prop :=
  method = lsps1GetInfo ∨ method = lsps1GetOrder ∨ method = lsps1CreateOrder

/-- A message, in the build with LSPS1. -/
def LSPSMessage.ofDefault : LightningLiquidity.LSPSMessage → LSPSMessage
  | .invalid error => invalid error
  | .lsps0 message => lsps0 message
  | .lsps2 message => lsps2 message

/-- A text that names a method of LSPS1, in one of the members of its object. -/
def NamesLSPS1 (serde : Serde) (text : String) : Prop :=
  ∃ members rest, serde.parseJson text = some (.object members, rest) ∧
    ∃ m ∈ members, m.1.value = "method" ∧
      ∃ method, LSPSMethod.read m.2 = some method ∧ method.IsLSPS1

variable {serde : Serde}

theorem LSPSMethod.fromStr_ofDefault {s : String} {method : LightningLiquidity.LSPSMethod}
    (h : LightningLiquidity.LSPSMethod.fromStr s = some method) :
    fromStr s = some (ofDefault method) := by
  rw [LightningLiquidity.LSPSMethod.fromStr] at h
  split at h
  · cases h
    subst_vars
    decide
  · split at h
    · cases h
      subst_vars
      decide
    · split at h
      · cases h
        subst_vars
        decide
      · cases h

/-- A name of a method of LSPS1 is none of the other build, and is the only kind of such. -/
theorem LSPSMethod.isLSPS1_iff {s : String} {method : LSPSMethod} (h : fromStr s = some method) :
    method.IsLSPS1 ↔ LightningLiquidity.LSPSMethod.fromStr s = none := by
  have hs : s = method.display := by
    rw [fromStr] at h
    split at h
    · cases h
      assumption
    · split at h
      · cases h
        assumption
      · split at h
        · cases h
          assumption
        · split at h
          · cases h
            assumption
          · split at h
            · cases h
              assumption
            · split at h
              · cases h
                assumption
              · cases h
  rw [hs, IsLSPS1]
  cases method <;> decide

theorem protocol_extends (serde : Serde) :
    (LightningLiquidity.LSPSMessage.protocol serde.toSerde).Extends (LSPSMessage.protocol serde)
      LSPSMethod.ofDefault LSPSMessage.ofDefault where
  readId := rfl
  readError := rfl
  readMethod v method h := by
    obtain ⟨s, hs, hmethod⟩ := Option.bind_eq_some_iff.1 h
    exact Option.bind_eq_some_iff.2 ⟨s, hs, LSPSMethod.fromStr_ofDefault hmethod⟩
  request id method params := by
    -- Both builds read the parameters of a method they share by the same reader.
    cases method with
    | lsps0ListProtocols => rfl
    | lsps2GetInfo =>
      show (LightningLiquidity.readGetInfoRequest params).map _ = ((_ : Option _).map _).map _
      rw [Option.map_map]
      rfl
    | lsps2Buy =>
      show (readBuyRequest serde.toSerde params).map _ = ((_ : Option _).map _).map _
      rw [Option.map_map]
      rfl
  result id method result := by
    cases method with
    | lsps0ListProtocols =>
      show (readListProtocolsResponse result).map _ = ((_ : Option _).map _).map _
      rw [Option.map_map]
      rfl
    | lsps2GetInfo =>
      show (LightningLiquidity.readGetInfoResponse serde.toSerde result).map _ =
        ((_ : Option _).map _).map _
      rw [Option.map_map]
      rfl
    | lsps2Buy =>
      show (readBuyResponse result).map _ = ((_ : Option _).map _).map _
      rw [Option.map_map]
      rfl
  error id method error := by cases method <;> rfl
  unknown error := by
    simp only [LSPSMessage.protocol, LightningLiquidity.LSPSMessage.protocol]
    split <;> rfl

/-- A member names a method only the build with LSPS1 has iff it names a method of LSPS1. -/
theorem isNew_iff {m : JsonString × Json} :
    (LightningLiquidity.LSPSMessage.protocol serde.toSerde).IsNew (LSPSMessage.protocol serde) m ↔
      m.1.value = "method" ∧ ∃ method, LSPSMethod.read m.2 = some method ∧ method.IsLSPS1 := by
  refine and_congr_right fun _ => ?_
  show LightningLiquidity.LSPSMethod.read m.2 = none ∧ (LSPSMethod.read m.2).isSome ↔ _
  rw [LightningLiquidity.LSPSMethod.read, LSPSMethod.read]
  cases m.2.asBorrowed with
  | none => simp
  | some s =>
    rw [Option.bind_some, Option.bind_some]
    constructor
    · rintro ⟨hnone, hsome⟩
      obtain ⟨method, hmethod⟩ := Option.isSome_iff_exists.1 hsome
      exact ⟨method, hmethod, (LSPSMethod.isLSPS1_iff hmethod).2 hnone⟩
    · rintro ⟨method, hmethod, hnew⟩
      exact ⟨(LSPSMethod.isLSPS1_iff hmethod).1 hnew, Option.isSome_iff_exists.2 ⟨_, hmethod⟩⟩

/-- A text names a method of LSPS1 iff its value names one only the build with LSPS1 has. -/
theorem namesNew_iff {text rest : String} {v : Json}
    (hparse : serde.parseJson text = some (v, rest)) :
    (LightningLiquidity.LSPSMessage.protocol serde.toSerde).NamesNew (LSPSMessage.protocol serde)
      v ↔ NamesLSPS1 serde text := by
  constructor
  · intro h
    cases v with
    | object members =>
      obtain ⟨m, hmem, hm⟩ := h
      exact ⟨members, rest, hparse, m, hmem, isNew_iff.1 hm⟩
    | _ => exact h.elim
  · rintro ⟨members, rest', hparse', m, hmem, hm⟩
    obtain ⟨rfl, -⟩ := Prod.mk.inj (Option.some.inj (hparse.symm.trans hparse'))
    exact ⟨m, hmem, isNew_iff.2 hm⟩

/-- What is read as a request of a method is a request. -/
theorem LSPSMessage.isSome_of_readRequest {id : RequestId} {method : LSPSMethod} {params : Json}
    {m : LSPSMessage} (h : readRequest serde id method params = some m) :
    m.getRequestIdAndMethod.isSome := by
  cases method with
  | lsps0ListProtocols =>
    cases h
    rfl
  | _ =>
    obtain ⟨request, -, rfl⟩ := Option.map_eq_some_iff.1 h
    rfl

/-- **The builds agree on everything but LSPS1.** A text that names no method of LSPS1 is read
    as the same message by both builds, and leaves the same ids. A text that does is no message
    without LSPS1, and at most a request with it; it leaves the ids as they are. -/
theorem fromStrWithIdMap_builds (serde : Serde) (text : String)
    (map : PartialMap RequestId LightningLiquidity.LSPSMethod) :
    (¬NamesLSPS1 serde text →
      LSPSMessage.fromStrWithIdMap serde text (map.mapValues LSPSMethod.ofDefault) =
        (LightningLiquidity.LSPSMessage.fromStrWithIdMap serde.toSerde text map).map
          (Option.map LSPSMessage.ofDefault) (PartialMap.mapValues LSPSMethod.ofDefault)) ∧
    (NamesLSPS1 serde text →
      LightningLiquidity.LSPSMessage.fromStrWithIdMap serde.toSerde text map = (none, map) ∧
      ∀ map', (LSPSMessage.fromStrWithIdMap serde text map').2 = map' ∧
        ∀ m ∈ (LSPSMessage.fromStrWithIdMap serde text map').1,
          m.getRequestIdAndMethod.isSome) := by
  cases hparse : serde.parseJson text with
  | none =>
    simp only [LSPSMessage.fromStrWithIdMap, LightningLiquidity.LSPSMessage.fromStrWithIdMap, hparse]
    exact ⟨fun _ => rfl, fun h => by simp [NamesLSPS1, hparse] at h⟩
  | some parsed =>
    obtain ⟨v, rest⟩ := parsed
    rw [← namesNew_iff hparse,
      LightningLiquidity.LSPSMessage.fromStrWithIdMap_eq_decode hparse]
    simp only [LSPSMessage.fromStrWithIdMap, hparse]
    refine ⟨fun h => (protocol_extends serde).decode_eq h map, fun h => ⟨?_, fun map' => ?_⟩⟩
    · exact JsonRpc.decode_of_namesNew h map
    · rcases JsonRpc.decode_eq_of_namesNew h map' with hnone | ⟨id, method, params, hrequest⟩
      · simp [hnone]
      · simp only [hrequest, true_and]
        exact fun m hm => LSPSMessage.isSome_of_readRequest hm

end LightningLiquidity.Lsps1
