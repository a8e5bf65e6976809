import LightningLiquidity.Lib.Shares
import LightningLiquidity.Lsps2.Amounts

/-!
# What the split of the fee gives

The fee is split over the HTLCs of a payment in proportion to their amounts: all but the last give
their share, rounded down (`Shares.share`), and the last one gives the rest, as far as it can.

* No operation of the split overflows (`calculateAmountToForwardPerHtlcChecked`), and the amounts
  are what the shares leave (`calculateAmountToForwardPerHtlc_proportional`).
* The fee is collected in full iff the last HTLC can give the rest (`collectsFee_iff`).
-/

namespace LightningLiquidity

open UInt64 Shares

/-- The amounts of HTLCs. -/
def amountsMsat (htlcs : List InterceptedHTLC) : List ℕ :=
  htlcs.map fun htlc => htlc.expectedOutboundAmountMsat.toNat

/-! ## The split, with checks -/

/-- The total amount of HTLCs, if no addition overflows. -/
def checkedTotal (htlcs : List InterceptedHTLC) : Option UInt64 :=
  htlcs.foldlM (fun total htlc => checkedAdd total htlc.expectedOutboundAmountMsat) 0

/-- `forwardAmounts`, if no multiplication in 128 bits, conversion to 64 bits, subtraction from the
    rest of the fee or addition of it overflows. -/
def forwardAmountsChecked (totalFeeMsat totalExpectedOutboundMsat feeRemainingMsat : UInt64) :
    List InterceptedHTLC → Option (List (InterceptId × UInt64))
  | [] => some []
  | htlc :: htlcs => do
    let product := totalFeeMsat.toNat * htlc.expectedOutboundAmountMsat.toNat
    guard (product < 2 ^ 128)
    let proportionalFeeAmtMsat ← tryFrom (product / totalExpectedOutboundMsat.toNat)
    let actualFeeAmtMsat := min feeRemainingMsat proportionalFeeAmtMsat
    let actualFeeAmtMsat := min actualFeeAmtMsat htlc.expectedOutboundAmountMsat
    let feeRemainingMsat ← checkedSub feeRemainingMsat actualFeeAmtMsat
    let actualFeeAmtMsat ←
      if htlcs = [] then checkedAdd actualFeeAmtMsat feeRemainingMsat else some actualFeeAmtMsat
    let amounts ← forwardAmountsChecked totalFeeMsat totalExpectedOutboundMsat feeRemainingMsat htlcs
    return (htlc.interceptId, saturatingSub htlc.expectedOutboundAmountMsat actualFeeAmtMsat) ::
      amounts

/-- `calculateAmountToForwardPerHtlc`, if nothing overflows, no assertion fails, and nothing is
    divided by zero. -/
def calculateAmountToForwardPerHtlcChecked (htlcs : List InterceptedHTLC) (totalFeeMsat : UInt64) :
    Option (List (InterceptId × UInt64)) := do
  let totalExpectedOutboundMsat ← checkedTotal htlcs
  guard (totalFeeMsat ≤ totalExpectedOutboundMsat ∧ totalExpectedOutboundMsat ≠ 0)
  forwardAmountsChecked totalFeeMsat totalExpectedOutboundMsat totalFeeMsat htlcs

/-! ## The loop -/

variable {fee total remaining : UInt64} {htlc last : InterceptedHTLC} {htlcs init : List InterceptedHTLC}

@[simp] theorem amountsMsat_concat (init : List InterceptedHTLC) (last : InterceptedHTLC) :
    amountsMsat (init ++ [last]) = amountsMsat init ++ [last.expectedOutboundAmountMsat.toNat] :=
  List.map_append

/-- The share of an amount in the fee, as the code computes it. -/
abbrev proportionalFee (fee total amount : UInt64) : UInt64 :=
  .ofNat (fee.toNat * amount.toNat / total.toNat)

/-- The share of an HTLC is computed without loss. -/
theorem toNat_proportionalFee (hle : fee.toNat ≤ total.toNat) (amount : UInt64) :
    (proportionalFee fee total amount).toNat = share fee.toNat total.toNat amount.toNat :=
  UInt64.toNat_ofNat_of_lt' ((share_le hle amount.toNat).trans_lt amount.toNat_lt)

/-- The share is what an HTLC gives, if as much is left of the fee. -/
theorem min_min_proportionalFee (hle : fee.toNat ≤ total.toNat) {amount : UInt64}
    (hrem : share fee.toNat total.toNat amount.toNat ≤ remaining.toNat) :
    min (min remaining (proportionalFee fee total amount)) amount =
      proportionalFee fee total amount := by
  have hshare := share_le hle amount.toNat
  rw [← UInt64.toNat_inj, UInt64.toNat_min, UInt64.toNat_min, toNat_proportionalFee hle]
  omega

/-- What is left of the fee after a share. -/
theorem toNat_sub_proportionalFee (hle : fee.toNat ≤ total.toNat) {amount : UInt64}
    (hrem : share fee.toNat total.toNat amount.toNat ≤ remaining.toNat) :
    (remaining - proportionalFee fee total amount).toNat =
      remaining.toNat - share fee.toNat total.toNat amount.toNat := by
  rw [UInt64.toNat_sub_of_le, toNat_proportionalFee hle]
  rwa [UInt64.le_iff_toNat_le, toNat_proportionalFee hle]

/-- What an HTLC other than the last keeps. -/
def afterShare (fee total : ℕ) (htlc : InterceptedHTLC) : InterceptId × ℕ :=
  (htlc.interceptId, htlc.expectedOutboundAmountMsat.toNat -
    share fee total htlc.expectedOutboundAmountMsat.toNat)

/-- The loop takes their shares from all HTLCs but the last, and what is then left of the fee from
    that. -/
theorem forwardAmounts_concat (hle : fee.toNat ≤ total.toNat)
    (hrem : sumShare fee.toNat total.toNat (amountsMsat (init ++ [last])) ≤ remaining.toNat) :
    (forwardAmounts fee total remaining (init ++ [last])).map (Prod.map id UInt64.toNat) =
      init.map (afterShare fee.toNat total.toNat) ++
        [(last.interceptId, last.expectedOutboundAmountMsat.toNat -
          (remaining.toNat - sumShare fee.toNat total.toNat (amountsMsat init)))] := by
  induction init generalizing remaining with
  | nil =>
    have hshare : share fee.toNat total.toNat last.expectedOutboundAmountMsat.toNat ≤
        remaining.toNat := hrem
    simp only [List.nil_append, forwardAmounts, min_min_proportionalFee hle hshare, if_true]
    have hwhole (x y : UInt64) : x + (y - x) = y := by rw [UInt64.add_comm, UInt64.sub_add_cancel]
    rw [hwhole]
    simp [toNat_saturatingSub, amountsMsat]
  | cons htlc init ih =>
    simp only [amountsMsat, List.cons_append, List.map_cons, sumShare_cons] at hrem
    have hshare := (Nat.le_add_right _ _).trans hrem
    have hsub := toNat_sub_proportionalFee hle hshare
    have hne : init ++ [last] ≠ [] := List.append_ne_nil_of_right_ne_nil _ (List.cons_ne_nil _ _)
    simp only [List.cons_append, forwardAmounts, min_min_proportionalFee hle hshare, hne, if_false,
      List.map_cons]
    rw [ih (by rw [hsub]; exact Nat.le_sub_of_add_le' hrem), hsub]
    simp [afterShare, amountsMsat, toNat_saturatingSub, toNat_proportionalFee hle, Nat.sub_sub]

/-! ## Nothing overflows -/

theorem checkedTotal_eq (hfits : exactMsat htlcs < 2 ^ 64) :
    checkedTotal htlcs = some (totalMsat htlcs) := by
  suffices ∀ total : UInt64, total.toNat + exactMsat htlcs < 2 ^ 64 →
      htlcs.foldlM (fun total htlc => checkedAdd total htlc.expectedOutboundAmountMsat) total =
        some (total + totalMsat htlcs) by
    rw [checkedTotal, this 0 (by rwa [UInt64.toNat_zero, Nat.zero_add]), UInt64.zero_add]
  clear hfits
  induction htlcs with
  | nil =>
    intro total _
    exact congrArg some (UInt64.add_zero total).symm
  | cons htlc htlcs ih =>
    intro total hfits
    have hcons : exactMsat (htlc :: htlcs) =
      htlc.expectedOutboundAmountMsat.toNat + exactMsat htlcs := rfl
    have hadd : total.toNat + htlc.expectedOutboundAmountMsat.toNat < 2 ^ 64 := by omega
    rw [List.foldlM_cons, checkedAdd, if_pos hadd, Option.bind_eq_bind, Option.bind_some, ih]
    · rw [totalMsat, totalMsat, List.map_cons, List.sum_cons, UInt64.add_assoc]
    · rw [UInt64.toNat_add, Nat.mod_eq_of_lt hadd]
      omega

/-- No operation of the loop overflows, as long as the shares do not exceed what is left. -/
theorem forwardAmountsChecked_eq (hle : fee.toNat ≤ total.toNat)
    (hrem : sumShare fee.toNat total.toNat (amountsMsat htlcs) ≤ remaining.toNat) :
    forwardAmountsChecked fee total remaining htlcs =
      some (forwardAmounts fee total remaining htlcs) := by
  induction htlcs generalizing remaining with
  | nil => rfl
  | cons htlc htlcs ih =>
    simp only [amountsMsat, List.map_cons, sumShare_cons] at hrem
    have hshare := (Nat.le_add_right _ _).trans hrem
    have hsub := toNat_sub_proportionalFee hle hshare
    have hproduct : fee.toNat * htlc.expectedOutboundAmountMsat.toNat < 2 ^ 128 := by
      calc fee.toNat * htlc.expectedOutboundAmountMsat.toNat
        _ < 2 ^ 64 * 2 ^ 64 :=
          Nat.mul_lt_mul'' fee.toNat_lt htlc.expectedOutboundAmountMsat.toNat_lt
        _ = 2 ^ 128 := (Nat.pow_add 2 64 64).symm
    have hquotient : fee.toNat * htlc.expectedOutboundAmountMsat.toNat / total.toNat < 2 ^ 64 :=
      (share_le hle _).trans_lt htlc.expectedOutboundAmountMsat.toNat_lt
    have hsubLe : proportionalFee fee total htlc.expectedOutboundAmountMsat ≤ remaining := by
      rwa [UInt64.le_iff_toNat_le, toNat_proportionalFee hle]
    -- The last HTLC gives its share and what is then left: all that is left before.
    have hadd : (proportionalFee fee total htlc.expectedOutboundAmountMsat).toNat +
        (remaining - proportionalFee fee total htlc.expectedOutboundAmountMsat).toNat < 2 ^ 64 := by
      rw [hsub, toNat_proportionalFee hle, Nat.add_sub_cancel' hshare]
      exact remaining.toNat_lt
    have hrest := @ih (remaining - proportionalFee fee total htlc.expectedOutboundAmountMsat)
      (by rw [hsub]; exact Nat.le_sub_of_add_le' hrem)
    simp only [forwardAmountsChecked, guard, hproduct, if_true, tryFrom_of_lt hquotient,
      Option.pure_def, Option.bind_eq_bind, Option.bind_some, min_min_proportionalFee hle hshare,
      checkedSub_of_le hsubLe, checkedAdd, hadd, hrest, forwardAmounts]
    split <;> rfl

/-! ## The whole split -/

/-- The HTLCs of a payment amount to something, and the fee is no more than that. -/
structure Splittable (htlcs : List InterceptedHTLC) (fee : UInt64) : Prop where
  pos : 0 < exactMsat htlcs
  fits : exactMsat htlcs < 2 ^ 64
  le : fee.toNat ≤ exactMsat htlcs

instance (htlcs : List InterceptedHTLC) (fee : UInt64) : Decidable (Splittable htlcs fee) :=
  decidable_of_iff (0 < exactMsat htlcs ∧ exactMsat htlcs < 2 ^ 64 ∧ fee.toNat ≤ exactMsat htlcs)
    ⟨fun ⟨hpos, hfits, hle⟩ => ⟨hpos, hfits, hle⟩, fun ⟨hpos, hfits, hle⟩ => ⟨hpos, hfits, hle⟩⟩

namespace Splittable

theorem toNat_totalMsat (h : Splittable htlcs fee) : (totalMsat htlcs).toNat = exactMsat htlcs :=
  toNat_totalMsat_of_lt h.fits

/-- There is a last HTLC. -/
theorem exists_concat (h : Splittable htlcs fee) : ∃ init last, htlcs = init ++ [last] := by
  rcases List.eq_nil_or_concat' htlcs with rfl | hconcat
  · exact absurd h.pos (Nat.lt_irrefl 0)
  · exact hconcat

/-- The shares of the HTLCs are no more than the fee. -/
theorem sumShare_le (h : Splittable htlcs fee) :
    sumShare fee.toNat (exactMsat htlcs) (amountsMsat htlcs) ≤ fee.toNat :=
  Shares.sumShare_le h.pos (le_refl _)

/-- The loop goes through all HTLCs, taking the fee, and nothing overflows. -/
theorem calculateAmountToForwardPerHtlc_eq (h : Splittable htlcs fee) :
    calculateAmountToForwardPerHtlc htlcs fee =
        some (forwardAmounts fee (totalMsat htlcs) fee htlcs) ∧
      calculateAmountToForwardPerHtlcChecked htlcs fee =
        some (forwardAmounts fee (totalMsat htlcs) fee htlcs) := by
  have htotal := h.toNat_totalMsat
  have hle : fee ≤ totalMsat htlcs := by
    rw [UInt64.le_iff_toNat_le, htotal]
    exact h.le
  have hne : totalMsat htlcs ≠ 0 := fun h0 => by
    rw [h0, UInt64.toNat_zero] at htotal
    exact h.pos.ne htotal
  constructor
  · rw [calculateAmountToForwardPerHtlc, if_neg (UInt64.not_lt.2 hle), if_neg fun hzero => hne hzero.1]
  · have hloop : forwardAmountsChecked fee (totalMsat htlcs) fee htlcs = _ :=
      forwardAmountsChecked_eq (htotal ▸ h.le) (htotal ▸ h.sumShare_le)
    simp only [calculateAmountToForwardPerHtlcChecked, checkedTotal_eq h.fits, guard, hle, hne,
      ne_eq, not_false_eq_true, and_self, if_true, Option.pure_def, Option.bind_eq_bind,
      Option.bind_some, hloop]

/-- What the split gives: what the shares leave of all HTLCs but the last, and of that what the
    rest of the fee leaves. -/
theorem split_concat (h : Splittable (init ++ [last]) fee) :
    ∃ amounts, calculateAmountToForwardPerHtlc (init ++ [last]) fee = some amounts ∧
      calculateAmountToForwardPerHtlcChecked (init ++ [last]) fee = some amounts ∧
        amounts.map (Prod.map id UInt64.toNat) =
          init.map (afterShare fee.toNat (exactMsat (init ++ [last]))) ++
            [(last.interceptId, last.expectedOutboundAmountMsat.toNat - (fee.toNat -
              sumShare fee.toNat (exactMsat (init ++ [last])) (amountsMsat init)))] := by
  obtain ⟨hcalculate, hchecked⟩ := h.calculateAmountToForwardPerHtlc_eq
  refine ⟨_, hcalculate, hchecked, ?_⟩
  have hconcat : (forwardAmounts fee (totalMsat (init ++ [last])) fee (init ++ [last])).map _ = _ :=
    forwardAmounts_concat (h.toNat_totalMsat ▸ h.le) (h.toNat_totalMsat ▸ h.sumShare_le)
  rwa [h.toNat_totalMsat] at hconcat

end Splittable

/-- The amounts to forward are a proportional split of the fee. -/
structure ProportionalSplit (htlcs : List InterceptedHTLC) (fee : UInt64)
    (amounts : List (InterceptId × UInt64)) : Prop where
  /-- Nothing overflows on the way. -/
  checked : calculateAmountToForwardPerHtlcChecked htlcs fee = some amounts
  ids : amounts.map Prod.fst = htlcs.map InterceptedHTLC.interceptId
  /-- All HTLCs but the last give exactly their share. -/
  init : amounts.dropLast.map (Prod.map id UInt64.toNat) =
    htlcs.dropLast.map (afterShare fee.toNat (exactMsat htlcs))
  /-- The last gives its share, and at most one for each other HTLC. -/
  last : ∃ htlc amount, htlcs.getLast? = some htlc ∧
    amounts.getLast? = some (htlc.interceptId, amount) ∧
      htlc.expectedOutboundAmountMsat.toNat -
        share fee.toNat (exactMsat htlcs) htlc.expectedOutboundAmountMsat.toNat -
          (htlcs.length - 1) ≤ amount.toNat ∧
      amount.toNat ≤ htlc.expectedOutboundAmountMsat.toNat -
        share fee.toNat (exactMsat htlcs) htlc.expectedOutboundAmountMsat.toNat
  /-- All of them give no more than the fee. -/
  total : exactMsat htlcs ≤ (amounts.map fun amount => amount.2.toNat).sum + fee.toNat

/-- What is left of amounts after their shares. -/
theorem sum_afterShare {total : ℕ} (hle : fee.toNat ≤ total) (htlcs : List InterceptedHTLC) :
    ((htlcs.map (afterShare fee.toNat total)).map Prod.snd).sum +
      sumShare fee.toNat total (amountsMsat htlcs) = exactMsat htlcs := by
  induction htlcs with
  | nil => rfl
  | cons htlc htlcs ih =>
    have hshare := share_le hle htlc.expectedOutboundAmountMsat.toNat
    simp only [List.map_cons, List.sum_cons, afterShare, amountsMsat, sumShare_cons, exactMsat]
      at ih ⊢
    omega

/-- The sum of the amounts of a split. -/
theorem sum_split {amounts : List (InterceptId × UInt64)} {total amount : ℕ}
    (hle : fee.toNat ≤ total) (h : amounts.map (Prod.map id UInt64.toNat) =
      init.map (afterShare fee.toNat total) ++ [(last.interceptId, amount)]) :
    (amounts.map fun amount => amount.2.toNat).sum +
      sumShare fee.toNat total (amountsMsat init) = exactMsat init + amount := by
  have hsum : (amounts.map fun amount => amount.2.toNat) =
      (amounts.map (Prod.map id UInt64.toNat)).map Prod.snd := by
    rw [List.map_map]
    rfl
  rw [hsum, h, ← sum_afterShare hle init]
  simp
  omega

/-- The split of a fee that HTLCs cover is proportional and in order, takes no more than the fee,
    and no operation of it overflows. -/
theorem calculateAmountToForwardPerHtlc_proportional (h : Splittable htlcs fee) :
    ∃ amounts, calculateAmountToForwardPerHtlc htlcs fee = some amounts ∧
      ProportionalSplit htlcs fee amounts := by
  obtain ⟨init, last, rfl⟩ := h.exists_concat
  obtain ⟨amounts, hamounts, hchecked, hsplit⟩ := h.split_concat
  obtain ⟨front, a, rfl⟩ : ∃ front a, amounts = front ++ [a] := by
    rcases List.eq_nil_or_concat' amounts with rfl | hconcat
    · simp at hsplit
    · exact hconcat
  have hsum := sum_split h.le hsplit
  rw [List.map_append, List.map_singleton] at hsplit
  obtain ⟨hfront, hlast⟩ := List.append_inj' hsplit rfl
  have hamount : a.1 = last.interceptId ∧ a.2.toNat = last.expectedOutboundAmountMsat.toNat -
      (fee.toNat - sumShare fee.toNat (exactMsat (init ++ [last])) (amountsMsat init)) :=
    Prod.mk.inj (List.singleton_inj.1 hlast)
  -- The rest of the fee is the share of the last HTLC, and less than one for each HTLC.
  have hle := h.sumShare_le
  have hlt := lt_sumShare_add_length fee.toNat h.pos
    (rfl : (amountsMsat (init ++ [last])).sum = exactMsat (init ++ [last]))
  rw [amountsMsat_concat, sumShare_append, sumShare_cons, sumShare_nil] at hle hlt
  have hlength : (amountsMsat init).length = init.length := List.length_map ..
  rw [List.length_append, hlength, List.length_singleton] at hlt
  refine ⟨_, hamounts, hchecked, ?_, ?_, ⟨last, a.2, ?_, ?_, ?_, ?_⟩, ?_⟩
  · refine map_fst_calculateAmountToForwardPerHtlc hamounts ?_
    rw [UInt64.le_iff_toNat_le, h.toNat_totalMsat]
    exact h.le
  · rw [List.dropLast_concat, List.dropLast_concat]
    exact hfront
  · exact List.getLast?_concat
  · rw [List.getLast?_concat, ← hamount.1]
  · rw [hamount.2, List.length_append, List.length_singleton]
    omega
  · rw [hamount.2]
    omega
  · rw [exactMsat_append, exactMsat_singleton] at *
    omega

/-- A fee of 5 msat split over HTLCs of 2, 6 and 2 msat. -/
theorem calculateAmountToForwardPerHtlc_proportional_three :
    ∃ amounts, calculateAmountToForwardPerHtlc
        [⟨⟨0⟩, 2, ⟨0⟩⟩, ⟨⟨1⟩, 6, ⟨0⟩⟩, ⟨⟨2⟩, 2, ⟨0⟩⟩] 5 = some amounts ∧
      ProportionalSplit [⟨⟨0⟩, 2, ⟨0⟩⟩, ⟨⟨1⟩, 6, ⟨0⟩⟩, ⟨⟨2⟩, 2, ⟨0⟩⟩] 5 amounts :=
  calculateAmountToForwardPerHtlc_proportional (by decide)

/-! ## Is the fee collected? -/

/-- The split takes exactly the fee. -/
def CollectsFee (htlcs : List InterceptedHTLC) (fee : UInt64) : Prop :=
  ∃ amounts, calculateAmountToForwardPerHtlc htlcs fee = some amounts ∧
    (amounts.map fun amount => amount.2.toNat).sum = exactMsat htlcs - fee.toNat

/-- What rounding down the shares of the other HTLCs leaves of the fee is no more than the last one
    has: in units of one part in the total, the remainders are no more than what the last one keeps
    after an exact share. -/
def LastCovers (htlcs : List InterceptedHTLC) (fee : UInt64) : Prop :=
  ∃ last ∈ htlcs.getLast?,
    ((amountsMsat htlcs.dropLast).map fun amount => fee.toNat * amount % exactMsat htlcs).sum ≤
      (exactMsat htlcs - fee.toNat) * last.expectedOutboundAmountMsat.toNat

instance (htlcs : List InterceptedHTLC) (fee : UInt64) : Decidable (LastCovers htlcs fee) :=
  inferInstanceAs (Decidable (∃ last ∈ htlcs.getLast?, _))

/-- The fee is collected in full iff the last HTLC can give what rounding leaves of it. -/
theorem collectsFee_iff (h : Splittable htlcs fee) :
    CollectsFee htlcs fee ↔ LastCovers htlcs fee := by
  obtain ⟨init, last, rfl⟩ := h.exists_concat
  obtain ⟨amounts, hamounts, -, hsplit⟩ := h.split_concat
  have hsum := sum_split h.le hsplit
  have hfee := h.le
  have hshares := h.sumShare_le
  rw [amountsMsat_concat, sumShare_append] at hshares
  have hparts : (amountsMsat init).sum + last.expectedOutboundAmountMsat.toNat =
      exactMsat (init ++ [last]) := by
    rw [exactMsat_append, exactMsat_singleton]
    rfl
  have hcovers := le_sumShare_add_iff h.pos h.le hparts
  have hcollects : CollectsFee (init ++ [last]) fee ↔
      fee.toNat ≤ sumShare fee.toNat (exactMsat (init ++ [last])) (amountsMsat init) +
        last.expectedOutboundAmountMsat.toNat := by
    simp only [CollectsFee, hamounts, Option.some_inj, exists_eq_left']
    rw [exactMsat_append, exactMsat_singleton] at *
    omega
  rw [hcollects, hcovers, LastCovers, List.getLast?_concat, List.dropLast_concat]
  simp

/-- A fee of 5 msat is collected from HTLCs of 2, 6 and 2 msat. -/
theorem collectsFee_iff_three :
    CollectsFee [⟨⟨0⟩, 2, ⟨0⟩⟩, ⟨⟨1⟩, 6, ⟨0⟩⟩, ⟨⟨2⟩, 2, ⟨0⟩⟩] 5 ↔
      LastCovers [⟨⟨0⟩, 2, ⟨0⟩⟩, ⟨⟨1⟩, 6, ⟨0⟩⟩, ⟨⟨2⟩, 2, ⟨0⟩⟩] 5 :=
  collectsFee_iff (by decide)

/-- Three HTLCs of 1 msat pay 1 msat of a fee of 2 msat: their shares are rounded down to nothing,
    and the last one has no more to give. -/
theorem not_collectsFee :
    Splittable [⟨⟨0⟩, 1, ⟨0⟩⟩, ⟨⟨1⟩, 1, ⟨0⟩⟩, ⟨⟨2⟩, 1, ⟨0⟩⟩] 2 ∧
      ¬CollectsFee [⟨⟨0⟩, 1, ⟨0⟩⟩, ⟨⟨1⟩, 1, ⟨0⟩⟩, ⟨⟨2⟩, 1, ⟨0⟩⟩] 2 := by
  refine ⟨by decide, fun ⟨amounts, hamounts, hsum⟩ => ?_⟩
  have hcalculate : calculateAmountToForwardPerHtlc
      [⟨⟨0⟩, 1, ⟨0⟩⟩, ⟨⟨1⟩, 1, ⟨0⟩⟩, ⟨⟨2⟩, 1, ⟨0⟩⟩] 2 =
        some [(⟨0⟩, 1), (⟨1⟩, 1), (⟨2⟩, 0)] := by decide
  rw [hcalculate] at hamounts
  obtain rfl := Option.some.inj hamounts
  exact absurd hsum (by decide)

end LightningLiquidity
