import LightningLiquidity.Lsps2.PaymentQueue

/-!
# Splitting the opening fee over the HTLCs of a payment

When a payment is forwarded while skimming the opening fee, each of its HTLCs
gives a share of the fee in proportion to its amount, and the last one the rest
(`calculateAmountToForwardPerHtlc`).

* `calculateAmountToForwardPerHtlc_eq_none`: this panics exactly on a payment of
  HTLCs without any amount, and no fee;
* `map_fst_calculateAmountToForwardPerHtlc`: otherwise every HTLC is forwarded,
  in order, if they cover the fee.
-/

namespace LightningLiquidity

open UInt64

/-- The amounts to forward of the HTLCs left, of which the fee left is to be
    taken. The product is taken in 128 bits, and the quotient truncated to 64. -/
def forwardAmounts (totalFeeMsat totalExpectedOutboundMsat : UInt64) (feeRemainingMsat : UInt64) :
    List InterceptedHTLC → List (InterceptId × UInt64)
  | [] => []
  | htlc :: htlcs =>
    let proportionalFeeAmtMsat := UInt64.ofNat (totalFeeMsat.toNat *
      htlc.expectedOutboundAmountMsat.toNat / totalExpectedOutboundMsat.toNat)
    let actualFeeAmtMsat := min feeRemainingMsat proportionalFeeAmtMsat
    let actualFeeAmtMsat := min actualFeeAmtMsat htlc.expectedOutboundAmountMsat
    let feeRemainingMsat := feeRemainingMsat - actualFeeAmtMsat
    -- The last HTLC gives what is left of the fee.
    let actualFeeAmtMsat :=
      if htlcs = [] then actualFeeAmtMsat + feeRemainingMsat else actualFeeAmtMsat
    (htlc.interceptId, saturatingSub htlc.expectedOutboundAmountMsat actualFeeAmtMsat) ::
      forwardAmounts totalFeeMsat totalExpectedOutboundMsat feeRemainingMsat htlcs

/-- The amount to forward of each HTLC of a payment, after taking the given fee
    from all of them. `none` is the division by zero if they amount to nothing. -/
def calculateAmountToForwardPerHtlc (htlcs : List InterceptedHTLC) (totalFeeMsat : UInt64) :
    Option (List (InterceptId × UInt64)) :=
  let totalExpectedOutboundMsat := totalMsat htlcs
  if totalFeeMsat > totalExpectedOutboundMsat then
    some []
  else if totalExpectedOutboundMsat = 0 ∧ htlcs ≠ [] then
    none
  else
    some (forwardAmounts totalFeeMsat totalExpectedOutboundMsat totalFeeMsat htlcs)

theorem map_fst_forwardAmounts (fee total remaining : UInt64) (htlcs : List InterceptedHTLC) :
    (forwardAmounts fee total remaining htlcs).map Prod.fst =
      htlcs.map InterceptedHTLC.interceptId := by
  induction htlcs generalizing remaining with
  | nil => rfl
  | cons htlc htlcs ih => simp [forwardAmounts, ih]

variable {htlcs : List InterceptedHTLC} {fee : UInt64}

/-- The split panics exactly on HTLCs that amount to nothing, for no fee. -/
theorem calculateAmountToForwardPerHtlc_eq_none :
    calculateAmountToForwardPerHtlc htlcs fee = none ↔
      totalMsat htlcs = 0 ∧ fee = 0 ∧ htlcs ≠ [] := by
  rw [calculateAmountToForwardPerHtlc]
  split
  · next hlt =>
    have : ¬(totalMsat htlcs = 0 ∧ fee = 0) := fun ⟨htot, hfee⟩ => by
      rw [htot, hfee] at hlt
      exact UInt64.lt_irrefl 0 hlt
    simp only [reduceCtorEq, false_iff]
    exact fun ⟨htot, hfee, _⟩ => this ⟨htot, hfee⟩
  · next hle =>
    split
    · next h =>
      have hfee : fee = 0 := UInt64.le_zero_iff.1 (h.1 ▸ UInt64.not_lt.1 hle)
      simp [h, hfee]
    · next h =>
      simp only [reduceCtorEq, false_iff]
      exact fun ⟨htot, _, hne⟩ => h ⟨htot, hne⟩

/-- Every HTLC of a payment that covers the fee is forwarded, in order. -/
theorem map_fst_calculateAmountToForwardPerHtlc {amounts : List (InterceptId × UInt64)}
    (h : calculateAmountToForwardPerHtlc htlcs fee = some amounts) (hle : fee ≤ totalMsat htlcs) :
    amounts.map Prod.fst = htlcs.map InterceptedHTLC.interceptId := by
  rw [calculateAmountToForwardPerHtlc, if_neg (UInt64.not_lt.2 hle)] at h
  split at h
  · cases h
  · rw [← Option.some.inj h, map_fst_forwardAmounts]

end LightningLiquidity
