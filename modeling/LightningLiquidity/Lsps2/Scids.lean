import LightningLiquidity.Lsps2.Client
import LightningLiquidity.Lsps2.Service

/-!
# Human readable short channel ids

A short channel id is written as three numbers, `BBBxTTTxVVV` (`Names`), each in its range
(`InFormat`).

* `readsFormat_iff_not_strays`: strings are read as they are written, unless they are read without
  being in the format (`Strays`);
* `interceptScid_lossless`: any short channel id is written in the format, and read back by the
  client that is given it.
-/

namespace LightningLiquidity

/-! ## The format -/

/-- A number in decimal: digits, at least one. -/
structure IsNumeral (digits : List Char) : Prop where
  ne_nil : digits ≠ []
  digit : ∀ c ∈ digits, c.isDigit = true

/-- The value of a number in decimal. -/
def numeralValue (digits : List Char) : ℕ := Nat.ofDigitChars 10 digits 0

/-- A string is three numbers in decimal, separated by `x`. -/
def Names (s : String) (block txIndex vout : ℕ) : Prop :=
  ∃ b t v, s.toList = b ++ 'x' :: (t ++ 'x' :: v) ∧
    (IsNumeral b ∧ numeralValue b = block) ∧ (IsNumeral t ∧ numeralValue t = txIndex) ∧
      IsNumeral v ∧ numeralValue v = vout

/-- A string is three numbers in decimal, separated by `x`, that are each in their range. -/
structure InFormat (s : String) (block txIndex vout : ℕ) : Prop where
  names : Names s block txIndex vout
  block_lt : block < 2 ^ 24
  txIndex_le : txIndex ≤ maxScidTxIndex.toNat
  vout_le : vout ≤ maxScidVoutIndex.toNat

/-- A string is read iff it is in the format, and then as the numbers written. -/
structure ReadsFormat (s : String) : Prop where
  accepts : (scidFromHumanReadableString s).isSome ↔
    ∃ block txIndex vout, InFormat s block txIndex vout
  parts : ∀ scid block txIndex vout, scidFromHumanReadableString s = some scid →
    InFormat s block txIndex vout →
      (blockFromScid scid).toNat = block ∧ (txIndexFromScid scid).toNat = txIndex ∧
        (voutFromScid scid).toNat = vout

/-- A string that starts with three numbers that fit 64 bits, separated by `x`, has a plus sign
    before one of them, one of them is out of its range, or there is more after a further `x`. -/
def Strays (s : String) : Prop :=
  ∃ b t v rest block txIndex vout, s.toList.splitOn 'x' = b :: t :: v :: rest ∧
    parseU64 b = some block ∧ parseU64 t = some txIndex ∧ parseU64 v = some vout ∧
    (rest ≠ [] ∨ ('+' ∈ b ∨ '+' ∈ t ∨ '+' ∈ v) ∨
      2 ^ 24 ≤ block.toNat ∨ maxScidTxIndex < txIndex ∨ maxScidVoutIndex < vout)

/-! ## Numbers -/

theorem IsNumeral.not_mem {c : Char} {digits : List Char} (h : IsNumeral digits)
    (hc : c.isDigit = false) : c ∉ digits := by
  intro hmem
  cases (h.digit c hmem).symm.trans hc

/-- Without a plus sign, what is parsed is digits of a value that fits. -/
theorem parseU64_eq_some_iff {s : List Char} {x : UInt64} (hplus : '+' ∉ s) :
    parseU64 s = some x ↔ IsNumeral s ∧ numeralValue s = x.toNat := by
  rw [parseU64, ← Nat.ofDigitChars_eq_foldl]
  · change (if _ then if numeralValue s < 2 ^ 64 then _ else _ else _) = _ ↔ _
    constructor
    · intro h
      rw [Option.ite_none_right_eq_some, Option.ite_none_right_eq_some] at h
      obtain ⟨⟨hne, hall⟩, hlt, hx⟩ := h
      refine ⟨⟨hne, List.all_eq_true.1 hall⟩, ?_⟩
      rw [← Option.some.inj hx]
      exact (UInt64.toNat_ofNat_of_lt' hlt).symm
    · rintro ⟨⟨hne, hdigit⟩, hx⟩
      have hlt : numeralValue s < 2 ^ 64 := by
        rw [hx]
        exact x.toNat_lt
      rw [if_pos ⟨hne, List.all_eq_true.2 hdigit⟩, if_pos hlt, Option.some_inj, ← UInt64.toNat_inj,
        ← hx]
      exact UInt64.toNat_ofNat_of_lt' hlt
  · intro digits h
    exact hplus (h ▸ List.mem_cons_self)

/-- A string names three numbers iff these are all there is between its separators. -/
theorem names_iff {s : String} {block txIndex vout : ℕ} :
    Names s block txIndex vout ↔ ∃ b t v, s.toList.splitOn 'x' = [b, t, v] ∧
      (IsNumeral b ∧ numeralValue b = block) ∧ (IsNumeral t ∧ numeralValue t = txIndex) ∧
        IsNumeral v ∧ numeralValue v = vout := by
  refine exists₃_congr fun b t v => ⟨?_, ?_⟩
  · rintro ⟨hs, hb, ht, hv⟩
    refine ⟨?_, hb, ht, hv⟩
    rw [hs, List.splitOn_append_cons_self_of_not_mem (hb.1.not_mem rfl),
      List.splitOn_append_cons_self_of_not_mem (ht.1.not_mem rfl),
      List.splitOn_eq_singleton (hv.1.not_mem rfl)]
  · rintro ⟨hs, hnumerals⟩
    refine ⟨?_, hnumerals⟩
    have hjoin : ['x'].intercalate (s.toList.splitOn 'x') = s.toList :=
      List.intercalate_splitOn 'x'
    rw [hs] at hjoin
    simpa using hjoin.symm

/-! ## What is read -/

variable {s : String} {scid : Scid}

/-- What is read are the first three numbers, whatever follows. -/
theorem scidFromHumanReadableString_eq_some : scidFromHumanReadableString s = some scid ↔
    ∃ b t v rest block txIndex vout, s.toList.splitOn 'x' = b :: t :: v :: rest ∧
      (parseU64 b = some block ∧ parseU64 t = some txIndex ∧ parseU64 v = some vout) ∧
        (block <<< 40) ||| (txIndex <<< 16) ||| vout = scid := by
  rw [scidFromHumanReadableString]
  split
  · next b t v rest hsplit =>
    simp only [hsplit, Option.bind_eq_bind, Option.bind_eq_some_iff, Option.pure_def,
      Option.some_inj]
    constructor
    · rintro ⟨block, hblock, txIndex, htx, vout, hvout, hscid⟩
      exact ⟨b, t, v, rest, block, txIndex, vout, rfl, ⟨hblock, htx, hvout⟩, hscid⟩
    · rintro ⟨b', t', v', rest', block, txIndex, vout, heq, ⟨hblock, htx, hvout⟩, hscid⟩
      simp only [List.cons.injEq] at heq
      obtain ⟨rfl, rfl, rfl, -⟩ := heq
      exact ⟨block, hblock, txIndex, htx, vout, hvout, hscid⟩
  · next hno =>
    refine iff_of_false (Option.some_ne_none scid).symm ?_
    rintro ⟨b, t, v, rest, -, -, -, hsplit, -⟩
    exact hno b t v rest hsplit

/-- A string in the format is read, and put together of the numbers written. -/
theorem InFormat.read {block txIndex vout : ℕ} (h : InFormat s block txIndex vout) :
    ∃ scid, scidFromHumanReadableString s = some scid ∧
      (blockFromScid scid).toNat = block ∧ (txIndexFromScid scid).toNat = txIndex ∧
        (voutFromScid scid).toNat = vout := by
  obtain ⟨b, t, v, hsplit, ⟨hb, rfl⟩, ⟨ht, rfl⟩, hv, rfl⟩ := names_iff.1 h.names
  have hblock := h.block_lt
  have htx : numeralValue t ≤ 16777215 := h.txIndex_le
  have hvout : numeralValue v ≤ 65535 := h.vout_le
  have hparse {digits : List Char} (hdigits : IsNumeral digits)
      (hlt : numeralValue digits < 2 ^ 64) :
      parseU64 digits = some (UInt64.ofNat (numeralValue digits)) :=
    (parseU64_eq_some_iff (hdigits.not_mem rfl)).2 ⟨hdigits, (UInt64.toNat_ofNat_of_lt' hlt).symm⟩
  have hbvalue : (UInt64.ofNat (numeralValue b)).toNat = numeralValue b :=
    UInt64.toNat_ofNat_of_lt' (hblock.trans (by decide))
  have htvalue : (UInt64.ofNat (numeralValue t)).toNat = numeralValue t :=
    UInt64.toNat_ofNat_of_lt' (htx.trans_lt (by decide))
  have hvvalue : (UInt64.ofNat (numeralValue v)).toNat = numeralValue v :=
    UInt64.toNat_ofNat_of_lt' (hvout.trans_lt (by decide))
  refine ⟨_, scidFromHumanReadableString_eq_some.2 ⟨b, t, v, [], _, _, _, hsplit,
    ⟨hparse hb (by omega), hparse ht (by omega), hparse hv (by omega)⟩, rfl⟩, ?_⟩
  have hparts := toNat_parts (hbvalue ▸ hblock) (htvalue ▸ Nat.lt_succ_of_le htx)
    (hvvalue ▸ Nat.lt_succ_of_le hvout)
  rw [toNat_blockFromScid, toNat_txIndexFromScid, toNat_voutFromScid, hparts, hbvalue, htvalue,
    hvvalue]
  omega

/-- A string is read as it is written iff it is not read without being in the format. -/
theorem readsFormat_iff_not_strays (s : String) : ReadsFormat s ↔ ¬Strays s := by
  constructor
  · rintro h ⟨b, t, v, rest, block, txIndex, vout, hsplit, hb, ht, hv, hbad⟩
    have hread := scidFromHumanReadableString_eq_some.2
      ⟨b, t, v, rest, block, txIndex, vout, hsplit, ⟨hb, ht, hv⟩, rfl⟩
    obtain ⟨_, _, _, hformat⟩ := h.accepts.1 (hread ▸ rfl)
    obtain ⟨b', t', v', hsplit', ⟨hb', rfl⟩, ⟨ht', rfl⟩, hv', rfl⟩ := names_iff.1 hformat.names
    rw [hsplit] at hsplit'
    simp only [List.cons.injEq] at hsplit'
    obtain ⟨rfl, rfl, rfl, rfl⟩ := hsplit'
    have hblock := ((parseU64_eq_some_iff (hb'.not_mem rfl)).1 hb).2
    have htx := ((parseU64_eq_some_iff (ht'.not_mem rfl)).1 ht).2
    have hvout := ((parseU64_eq_some_iff (hv'.not_mem rfl)).1 hv).2
    -- The format leaves no room for further parts, signs, or numbers out of range.
    rcases hbad with hrest | hplus | hrange
    · exact hrest rfl
    · rcases hplus with hplus | hplus | hplus
      · exact hb'.not_mem rfl hplus
      · exact ht'.not_mem rfl hplus
      · exact hv'.not_mem rfl hplus
    · have hblock' := hformat.block_lt
      have htx' := hformat.txIndex_le
      have hvout' := hformat.vout_le
      simp only [UInt64.lt_iff_toNat_lt] at hrange
      omega
  · intro h
    constructor
    · constructor
      · intro hsome
        obtain ⟨scid, hscid⟩ := Option.isSome_iff_exists.1 hsome
        obtain ⟨b, t, v, rest, block, txIndex, vout, hsplit, ⟨hb, ht, hv⟩, -⟩ :=
          scidFromHumanReadableString_eq_some.1 hscid
        -- If what is read were not in the format, one of its parts would stray.
        by_contra hno
        refine h ⟨b, t, v, rest, block, txIndex, vout, hsplit, hb, ht, hv, ?_⟩
        by_contra hgood
        simp only [not_or, UInt64.not_lt, Classical.not_not] at hgood
        obtain ⟨rfl, ⟨hbplus, htplus, hvplus⟩, hblock, htx, hvout⟩ := hgood
        refine hno ⟨block.toNat, txIndex.toNat, vout.toNat, ⟨names_iff.2 ⟨b, t, v, hsplit,
          (parseU64_eq_some_iff hbplus).1 hb, (parseU64_eq_some_iff htplus).1 ht,
          (parseU64_eq_some_iff hvplus).1 hv⟩, Nat.not_le.1 hblock, ?_, ?_⟩⟩
        · exact UInt64.le_iff_toNat_le.1 htx
        · exact UInt64.le_iff_toNat_le.1 hvout
      · rintro ⟨block, txIndex, vout, hformat⟩
        obtain ⟨scid, hscid, -⟩ := hformat.read
        exact Option.isSome_iff_exists.2 ⟨scid, hscid⟩
    · intro scid block txIndex vout hscid hformat
      obtain ⟨scid', hscid', hparts⟩ := hformat.read
      obtain rfl := Option.some.inj (hscid.symm.trans hscid')
      exact hparts

/-- **Which strings are read as they are written.** A string is read iff it is in the format, and
    as the numbers it names, iff it does not stray. Strings that do not, and name different
    numbers, are not read as the same short channel id. -/
theorem readsFormat_iff (s s' : String) :
    (ReadsFormat s ↔ ¬Strays s) ∧
    ∀ scid, ¬Strays s → ¬Strays s' → scidFromHumanReadableString s = some scid →
      scidFromHumanReadableString s' = some scid →
      ∀ block txIndex vout block' txIndex' vout', InFormat s block txIndex vout →
        InFormat s' block' txIndex' vout' → (block, txIndex, vout) = (block', txIndex', vout') := by
  refine ⟨readsFormat_iff_not_strays s, ?_⟩
  intro scid hs hs' hscid hscid' block txIndex vout block' txIndex' vout' hformat hformat'
  obtain ⟨rfl, rfl, rfl⟩ :=
    ((readsFormat_iff_not_strays s).2 hs).parts scid block txIndex vout hscid hformat
  obtain ⟨rfl, rfl, rfl⟩ :=
    ((readsFormat_iff_not_strays s').2 hs').parts scid block' txIndex' vout' hscid' hformat'
  rfl

/-- The block 2^24 is read as the block 0. -/
theorem not_readsFormat : ¬∀ s, ReadsFormat s := by
  intro h
  refine (readsFormat_iff_not_strays "16777216x0x0").1 (h _) ?_
  exact ⟨"16777216".toList, ['0'], ['0'], [], 16777216, 0, 0, by decide⟩

/-! ## What is written -/

theorem isNumeral_toDigits (n : ℕ) : IsNumeral (Nat.toDigits 10 n) where
  ne_nil := Nat.toDigits_ne_nil
  digit _ hc := Nat.isDigit_of_mem_toDigits (by decide) (by decide) hc

/-- A short channel id is written in the format, as its parts. -/
theorem InterceptScid.inFormat_ofScid (scid : Scid) : InFormat (ofScid scid).scid
    (blockFromScid scid).toNat (txIndexFromScid scid).toNat (voutFromScid scid).toNat where
  names := ⟨_, _, _, toList_ofScid scid, ⟨isNumeral_toDigits _, Nat.ofDigitChars_ten_toDigits⟩,
    ⟨isNumeral_toDigits _, Nat.ofDigitChars_ten_toDigits⟩,
    isNumeral_toDigits _, Nat.ofDigitChars_ten_toDigits⟩
  block_lt := by
    have hlt := scid.toNat_lt
    rw [toNat_blockFromScid]
    omega
  txIndex_le := by
    have hlt : scid.toNat / 2 ^ 16 % 2 ^ 24 < 2 ^ 24 := Nat.mod_lt _ (by decide)
    rw [toNat_txIndexFromScid]
    exact Nat.le_of_lt_succ hlt
  vout_le := by
    have hlt : scid.toNat % 2 ^ 16 < 2 ^ 16 := Nat.mod_lt _ (by decide)
    rw [toNat_voutFromScid]
    exact Nat.le_of_lt_succ hlt

/-- The answer to a `buy` request names the short channel id that is registered for the peer. -/
theorem LSPS2ServiceHandler.buy_mem_messages {s : LSPS2ServiceHandler} {p : PublicKey}
    {requestId : RequestId} {cltvExpiryDelta : UInt32} {clientTrustsLsp : Bool}
    {userChannelId : UserChannelId} {result : BuyResponse}
    (h : (p, .response requestId (.buy result)) ∈ (s.invoiceParametersGenerated p requestId scid
      cltvExpiryDelta clientTrustsLsp userChannelId).2.messages) :
    (s.invoiceParametersGenerated p requestId scid cltvExpiryDelta clientTrustsLsp
        userChannelId).1.peerByInterceptScid scid = some p ∧
      result = { interceptScid := .ofScid scid, lspCltvExpiryDelta := cltvExpiryDelta,
                 clientTrustsLsp } := by
  simp only [invoiceParametersGenerated] at h ⊢
  split
  · next ps hps =>
    simp only [hps] at h
    split
    · next req hreq =>
      simp only [hreq, List.mem_singleton, Prod.mk.injEq, LSPS2Message.response.injEq,
        LSPS2Response.buy.injEq, true_and] at h
      exact ⟨PartialMap.insert_self .., h⟩
    · next hno =>
      split at h
      · next req hreq => exact absurd hreq (hno req)
      · cases h
  · next hps =>
    simp only [hps] at h
    cases h

/-- **Short channel ids are written without loss.** Every short channel id is written in the
    format and read back; and a client that is answered with the one a service has registered for
    it tells its user of that one. -/
theorem interceptScid_lossless :
    (∀ scid : Scid, (InterceptScid.ofScid scid).toScid = some scid ∧
      InFormat (InterceptScid.ofScid scid).scid (blockFromScid scid).toNat
        (txIndexFromScid scid).toNat (voutFromScid scid).toNat) ∧
    ∀ (s : LSPS2ServiceHandler) (c : LSPS2ClientHandler) (client service : PublicKey)
      (requestId : RequestId) (scid : Scid) (cltvExpiryDelta : UInt32) (clientTrustsLsp : Bool)
      (userChannelId : UserChannelId) (result : BuyResponse),
      let r := s.invoiceParametersGenerated client requestId scid cltvExpiryDelta clientTrustsLsp
        userChannelId
      (client, .response requestId (.buy result)) ∈ r.2.messages →
      r.1.peerByInterceptScid scid = some client ∧
        ∀ peerState jitChannel, c.perPeerState service = some peerState →
          peerState.pendingBuyRequests requestId = some jitChannel →
          (c.handleBuyResponse requestId service result).2.events =
            [.invoiceParametersReady requestId service scid cltvExpiryDelta
              jitChannel.paymentSizeMsat] := by
  constructor
  · exact fun scid => ⟨InterceptScid.toScid_ofScid scid, InterceptScid.inFormat_ofScid scid⟩
  · intro s c client service requestId scid cltvExpiryDelta clientTrustsLsp userChannelId result r
      hmem
    obtain ⟨hpeer, rfl⟩ := LSPS2ServiceHandler.buy_mem_messages hmem
    refine ⟨hpeer, fun peerState jitChannel hps hpending => ?_⟩
    simp only [LSPS2ClientHandler.handleBuyResponse, hps, hpending, InterceptScid.toScid_ofScid]

end LightningLiquidity
