import Mathlib.Algebra.Order.BigOperators.Group.List
import Mathlib.Algebra.Order.Group.Nat
import LightningLiquidity.Lib.GroupsOf
import LightningLiquidity.Lib.Machine
import LightningLiquidity.Lsps2.PaymentQueue

/-!
# The payment queue as a list of arrivals

What a payment queue is for, without its payments being built up: the HTLCs held are listed as
they arrived (`Arrivals`), a payment is all of them with its hash, and the payment taken out is that
of the first HTLC whose payment has the amount asked for.

The payments of a `PaymentQueue` are those of the arrivals, in the order in which the payments
started, at every point of a run of additions, removals and clearings, and both give the same
outputs (`refines_arrivals`). The exact totals are those computed, as long as the payments fit.
-/

namespace LightningLiquidity

open Groups

/-- A call of the queue. -/
inductive QueueOp
  | addHtlc (newHtlc : InterceptedHTLC)
  | popGreaterThanMsat (amountMsat : UInt64)
  | clear
  deriving DecidableEq

/-- What a call of the queue returns. -/
inductive QueueOutput
  | added (totalMsat count : ℕ)
  | popped (payment : Option (PaymentHash × List InterceptedHTLC))
  | cleared (htlcs : List InterceptedHTLC)
  deriving DecidableEq

/-- The HTLC added by a call, if any. -/
def QueueOp.added : QueueOp → List InterceptedHTLC
  | addHtlc newHtlc => [newHtlc]
  | popGreaterThanMsat _ | clear => []

/-- The outputs are the same, but for the order of HTLCs cleared, none of which is there twice. -/
def QueueOutput.Agrees : QueueOutput → QueueOutput → Prop
  | cleared htlcs, cleared held => htlcs.Perm held ∧ (htlcs.map InterceptedHTLC.interceptId).Nodup
  | out, out' => out = out'

/-! ## Arrivals -/

/-- The HTLCs held, in the order in which they arrived. -/
abbrev Arrivals := List InterceptedHTLC

namespace Arrivals

/-- The HTLCs held of the payment with the hash `h`. -/
def payment (held : Arrivals) (h : PaymentHash) : List InterceptedHTLC :=
  held.filter fun htlc => htlc.paymentHash = h

/-- One call. A payment starts with the first HTLC of it: the first one whose payment has the amount
    asked for is that of the payment which started earliest. -/
def call (held : Arrivals) : QueueOp → Arrivals × QueueOutput
  | .addHtlc newHtlc =>
    let payment := payment (held ++ [newHtlc]) newHtlc.paymentHash
    (held ++ [newHtlc], .added (exactMsat payment) payment.length)
  | .popGreaterThanMsat amountMsat =>
    match held.find? fun htlc => amountMsat.toNat ≤ exactMsat (held.payment htlc.paymentHash) with
    | some first =>
      (held.filter fun htlc => htlc.paymentHash ≠ first.paymentHash,
        .popped (some (first.paymentHash, held.payment first.paymentHash)))
    | none => (held, .popped none)
  | .clear => ([], .cleared held)

/-- The machine of the arrivals. -/
def calls : Machine Arrivals QueueOp QueueOutput := ⟨call⟩

/-- The payment of an HTLC added fits in 64 bits. -/
def Fits (held : Arrivals) (op : QueueOp) : Prop :=
  ∀ newHtlc ∈ op.added, exactMsat (payment (held ++ [newHtlc]) newHtlc.paymentHash) < 2 ^ 64

instance (held : Arrivals) (op : QueueOp) : Decidable (held.Fits op) :=
  inferInstanceAs (Decidable (∀ _ ∈ _, _))

/-- An HTLC added is not held already. -/
def Fresh (held : Arrivals) (op : QueueOp) : Prop :=
  ∀ newHtlc ∈ op.added, ∀ htlc ∈ held, htlc.interceptId ≠ newHtlc.interceptId

@[simp] theorem payment_concat (held : Arrivals) (htlc : InterceptedHTLC) (h : PaymentHash) :
    payment (held ++ [htlc]) h = held.payment h ++ if htlc.paymentHash = h then [htlc] else [] := by
  rw [payment, List.filter_append]
  split <;> simp [payment, *]

/-- The payment taken out is that of the first HTLC whose payment has the amount. -/
theorem call_popGreaterThanMsat (held : Arrivals) (amount : UInt64) :
    (held.call (.popGreaterThanMsat amount)).2 = .popped
      ((held.find? fun htlc => amount.toNat ≤ exactMsat (held.payment htlc.paymentHash)).map
        fun first => (first.paymentHash, held.payment first.paymentHash)) := by
  rw [call]
  split <;> next hfind => rw [hfind]; rfl

/-- A payment is worth no more if fewer HTLCs are held. -/
theorem exactMsat_payment_le {held held' : Arrivals} (hsub : held'.Sublist held) (h : PaymentHash) :
    exactMsat (held'.payment h) ≤ exactMsat (held.payment h) :=
  ((hsub.filter _).map _).sum_le_sum fun _ _ => Nat.zero_le _

/-- A call removes HTLCs, but for the one it adds. -/
theorem call_sublist (held : Arrivals) (op : QueueOp) : (held.call op).1.Sublist (held ++ op.added) := by
  cases op with
  | addHtlc newHtlc => exact List.Sublist.refl _
  | popGreaterThanMsat amountMsat =>
    rw [QueueOp.added, List.append_nil, call]
    split
    · exact List.filter_sublist
    · exact List.Sublist.refl _
  | clear => exact List.nil_sublist _

/-- HTLCs with distinct ids are fresh all along. -/
theorem along_fresh {held : Arrivals} {ops : List QueueOp}
    (h : ((held ++ ops.flatMap QueueOp.added).map InterceptedHTLC.interceptId).Nodup) :
    calls.Along Fresh held ops := by
  induction ops generalizing held with
  | nil => trivial
  | cons op ops ih =>
    rw [List.flatMap_cons, ← List.append_assoc] at h
    constructor
    · intro newHtlc hnew htlc hmem heq
      have hnodup := h.sublist ((List.sublist_append_left _ _).map _)
      rw [List.map_append] at hnodup
      exact List.disjoint_of_nodup_append hnodup (List.mem_map_of_mem hmem)
        (heq ▸ List.mem_map_of_mem hnew)
    · exact ih (h.sublist (((call_sublist held op).append_right _).map _))

end Arrivals

/-! ## The queue -/

namespace PaymentQueue

variable {q : PaymentQueue} {held : Arrivals}

/-- One call. -/
def call (q : PaymentQueue) : QueueOp → PaymentQueue × QueueOutput
  | .addHtlc newHtlc =>
    let (q, totalMsat, count) := q.addHtlc newHtlc
    (q, .added totalMsat.toNat count)
  | .popGreaterThanMsat amountMsat =>
    let (q, payment) := q.popGreaterThanMsat amountMsat
    (q, .popped payment)
  | .clear =>
    let (q, htlcs) := q.clear
    (q, .cleared htlcs)

/-- The machine of the queue. -/
def calls : Machine PaymentQueue QueueOp QueueOutput := ⟨call⟩

/-- The payments of the queue are those of the HTLCs held, in the order in which they started. -/
structure Holds (q : PaymentQueue) (held : Arrivals) : Prop where
  nodup : (q.payments.map Prod.fst).Nodup
  ne_nil : ∀ payment ∈ q.payments, payment.2 ≠ []
  htlcs : ∀ payment ∈ q.payments, payment.2 = held.payment payment.1
  started : q.payments.map Prod.fst = (held.map InterceptedHTLC.paymentHash).eraseDups

/-- Beside its output, a call does what it should: it meets the assertions on what is there already,
    takes a payment out from between the others or leaves the queue as it is, or empties it. -/
def Orderly (q : PaymentQueue) : QueueOp → Prop
  | .addHtlc newHtlc => ∀ htlc ∈ q.htlcsOf newHtlc.paymentHash,
      htlc.paymentHash = newHtlc.paymentHash ∧ htlc.interceptId ≠ newHtlc.interceptId
  | .popGreaterThanMsat amountMsat =>
    match q.popGreaterThanMsat amountMsat with
    | (q', some payment) => ∃ l r, q.payments = l ++ payment :: r ∧ q'.payments = l ++ r
    | (q', none) => q' = q
  | .clear => q.clear.1.payments = []

/-- The queue has the payments of the HTLCs held, each of which fits in 64 bits, and no HTLC is held
    twice. -/
structure Tracks (q : PaymentQueue) (held : Arrivals) : Prop where
  payments_eq : q.payments = groupsOf InterceptedHTLC.paymentHash held
  fits : ∀ h, exactMsat (held.payment h) < 2 ^ 64
  nodup : (held.map InterceptedHTLC.interceptId).Nodup

theorem holds_iff : q.Holds held ↔ q.payments = groupsOf InterceptedHTLC.paymentHash held := by
  constructor
  · exact fun h => eq_groupsOf h.started h.htlcs
  · intro h
    refine ⟨q.grouping.nodup, q.grouping.ne_nil, fun payment hmem => ?_, ?_⟩
    · rw [h] at hmem
      exact (mem_groupsOf.1 hmem).2
    · rw [h, map_fst_groupsOf]

theorem tracks_new : new.Tracks [] where
  payments_eq := rfl
  fits _ := Nat.two_pow_pos 64
  nodup := List.nodup_nil

/-- The payment taken out is the first one of at least the amount asked for. -/
theorem popGreaterThanMsat_snd (q : PaymentQueue) (amount : UInt64) :
    (q.popGreaterThanMsat amount).2 = q.payments.find? fun p => amount ≤ totalMsat p.2 := by
  cases h : q.popGreaterThanMsat amount with
  | mk q' popped =>
    cases popped with
    | some payment =>
      obtain ⟨l, r, hq, -, hamount, hl⟩ := popGreaterThanMsat_some h
      refine (List.find?_eq_some_iff_append.2 ⟨by simpa using hamount, l, r, hq, ?_⟩).symm
      exact fun p hp => by simpa using hl p hp
    | none =>
      obtain ⟨-, hall⟩ := popGreaterThanMsat_none h
      exact (List.find?_eq_none.2 fun p hp => by simpa using hall p hp).symm

namespace Tracks

variable (h : q.Tracks held)
include h

theorem htlcsOf_eq (hash : PaymentHash) : q.htlcsOf hash = held.payment hash := by
  rw [htlcsOf, h.payments_eq, getD_lookup?_groupsOf]
  rfl

/-- The totals computed are the exact ones. -/
theorem le_totalMsat_iff (amount : UInt64) (hash : PaymentHash) :
    amount ≤ totalMsat (held.payment hash) ↔ amount.toNat ≤ exactMsat (held.payment hash) := by
  rw [UInt64.le_iff_toNat_le, toNat_totalMsat_of_lt (h.fits hash)]

/-- The same payment is taken out as of the arrivals. -/
theorem popped_eq (amount : UInt64) :
    (q.popGreaterThanMsat amount).2 =
      (held.find? fun htlc => amount.toNat ≤ exactMsat (held.payment htlc.paymentHash)).map
        fun first => (first.paymentHash, held.payment first.paymentHash) := by
  rw [popGreaterThanMsat_snd, h.payments_eq, find?_groupsOf]
  simp only [← h.le_totalMsat_iff]
  rfl

theorem addHtlc (htlc : InterceptedHTLC) (hfresh : held.Fresh (.addHtlc htlc))
    (hfit : held.Fits (.addHtlc htlc)) : (q.push htlc).Tracks (held ++ [htlc]) where
  payments_eq := by
    rw [groupsOf_concat, ← h.payments_eq]
    rfl
  fits hash := by
    by_cases heq : htlc.paymentHash = hash
    · exact heq ▸ hfit htlc List.mem_cons_self
    · rw [Arrivals.payment_concat, if_neg heq, List.append_nil]
      exact h.fits hash
  nodup := by
    rw [List.map_append, List.map_singleton, ← List.concat_eq_append]
    refine h.nodup.concat fun hmem => ?_
    obtain ⟨htlc', hheld, heq⟩ := List.mem_map.1 hmem
    exact hfresh htlc List.mem_cons_self htlc' hheld heq

/-- Without some of the HTLCs, what is left still fits. -/
theorem of_sublist {q' : PaymentQueue} {held' : Arrivals} (hsub : held'.Sublist held)
    (heq : q'.payments = groupsOf InterceptedHTLC.paymentHash held') : q'.Tracks held' where
  payments_eq := heq
  fits hash := (Arrivals.exactMsat_payment_le hsub hash).trans_lt (h.fits hash)
  nodup := h.nodup.sublist (hsub.map _)

/-- A call keeps the payments in the queue those of the HTLCs held. -/
theorem call (op : QueueOp) (hfresh : held.Fresh op) (hfit : held.Fits op) :
    (q.call op).1.Tracks (held.call op).1 := by
  cases op with
  | addHtlc htlc =>
    rw [PaymentQueue.call, addHtlc_eq]
    exact h.addHtlc htlc hfresh hfit
  | popGreaterThanMsat amount =>
    have hpopped := h.popped_eq amount
    rw [PaymentQueue.call, Arrivals.call]
    cases hfind : held.find? fun htlc =>
        amount.toNat ≤ exactMsat (held.payment htlc.paymentHash) with
    | some first =>
      rw [hfind] at hpopped
      obtain ⟨l, r, hq, hq', -⟩ := popGreaterThanMsat_some (Prod.ext rfl hpopped)
      refine h.of_sublist List.filter_sublist (hq'.trans ?_)
      exact (groupsOf_split (h.payments_eq.symm.trans hq)).symm
    | none =>
      rw [hfind] at hpopped
      have hq := (popGreaterThanMsat_none (Prod.ext rfl hpopped)).1
      exact h.of_sublist (List.Sublist.refl _) ((congrArg payments hq).trans h.payments_eq)
  | clear => exact h.of_sublist (List.nil_sublist _) rfl

/-- A call returns what it does of the arrivals. -/
theorem agrees (op : QueueOp) (hfit : held.Fits op) : (q.call op).2.Agrees (held.call op).2 := by
  cases op with
  | addHtlc htlc =>
    have hpayment : (held ++ [htlc]).payment htlc.paymentHash =
        q.htlcsOf htlc.paymentHash ++ [htlc] := by
      rw [Arrivals.payment_concat, if_pos rfl, h.htlcsOf_eq]
    have hexact := hfit htlc List.mem_cons_self
    rw [hpayment] at hexact
    rw [PaymentQueue.call, addHtlc_eq, Arrivals.call, hpayment]
    simp only [toNat_totalMsat_of_lt hexact, List.length_append, List.length_singleton]
    rfl
  | popGreaterThanMsat amount =>
    rw [Arrivals.call_popGreaterThanMsat, ← h.popped_eq]
    rfl
  | clear =>
    have hperm : (values q.payments).Perm held := h.payments_eq ▸ values_groupsOf
    exact ⟨hperm, ((hperm.map _).nodup_iff).2 h.nodup⟩

theorem orderly (op : QueueOp) (hfresh : held.Fresh op) : q.Orderly op := by
  cases op with
  | addHtlc htlc =>
    intro htlc' hmem
    rw [h.htlcsOf_eq] at hmem
    obtain ⟨hheld, hhash⟩ := List.mem_filter.1 hmem
    exact ⟨of_decide_eq_true hhash, hfresh htlc List.mem_cons_self htlc' hheld⟩
  | popGreaterThanMsat amount =>
    rw [Orderly]
    split
    · next hpop =>
      obtain ⟨l, r, hq, hq', -⟩ := popGreaterThanMsat_some hpop
      exact ⟨l, r, hq, hq'⟩
    · next hpop => exact (popGreaterThanMsat_none hpop).1
  | clear => rfl

end Tracks

/-- In a run of calls that add fresh HTLCs, whose payments fit, the queue keeps the payments of the
    arrivals. -/
theorem tracks_exec {ops : List QueueOp} (hfresh : Arrivals.calls.Along Arrivals.Fresh [] ops)
    (hfits : Arrivals.calls.Along Arrivals.Fits [] ops) :
    (calls.exec new ops).Tracks (Arrivals.calls.exec [] ops) :=
  (hfresh.and hfits).simulation (fun _ _ op h hop => h.call op hop.1 hop.2) tracks_new

/-- At every point of a run of calls that add HTLCs with distinct ids, whose payments fit, the
    queue has the payments of the HTLCs that arrived and were not taken out, in the order in which
    these payments started, and a call returns what it does of the arrivals. -/
theorem refines_arrivals {ops : List QueueOp}
    (hids : ((ops.flatMap QueueOp.added).map InterceptedHTLC.interceptId).Nodup)
    (hfits : Arrivals.calls.Along Arrivals.Fits [] ops) :
    (calls.exec new ops).Holds (Arrivals.calls.exec [] ops) ∧
      ∀ pre op post, ops = pre ++ op :: post →
        ((calls.exec new pre).call op).2.Agrees ((Arrivals.calls.exec [] pre).call op).2 ∧
          (calls.exec new pre).Orderly op := by
  have hfresh : Arrivals.calls.Along Arrivals.Fresh [] ops := Arrivals.along_fresh hids
  refine ⟨holds_iff.2 (tracks_exec hfresh hfits).payments_eq, ?_⟩
  rintro pre op post rfl
  obtain ⟨hfreshPre, hfreshOp, -⟩ := Machine.along_append.1 hfresh
  obtain ⟨hfitsPre, hfitsOp, -⟩ := Machine.along_append.1 hfits
  have htracks := tracks_exec hfreshPre hfitsPre
  exact ⟨htracks.agrees op hfitsOp, htracks.orderly op hfreshOp⟩

/-- The calls of the unit test of the queue. -/
def sampleOps : List QueueOp :=
  [.addHtlc ⟨⟨0⟩, 200000000, ⟨100⟩⟩, .popGreaterThanMsat 500000000,
    .addHtlc ⟨⟨1⟩, 300000000, ⟨101⟩⟩, .popGreaterThanMsat 500000000,
    .addHtlc ⟨⟨2⟩, 300000000, ⟨100⟩⟩, .popGreaterThanMsat 500000000, .clear]

theorem refines_arrivals_sample :
    (calls.exec new sampleOps).Holds (Arrivals.calls.exec [] sampleOps) ∧
      ∀ pre op post, sampleOps = pre ++ op :: post →
        ((calls.exec new pre).call op).2.Agrees ((Arrivals.calls.exec [] pre).call op).2 ∧
          (calls.exec new pre).Orderly op :=
  refines_arrivals (by decide) (by decide)

example : (calls.trace new sampleOps).map Prod.snd =
    [.added 200000000 1, .popped none, .added 300000000 1, .popped none, .added 500000000 2,
      .popped (some (⟨100⟩, [⟨⟨0⟩, 200000000, ⟨100⟩⟩, ⟨⟨2⟩, 300000000, ⟨100⟩⟩])),
      .cleared [⟨⟨1⟩, 300000000, ⟨101⟩⟩]] := by decide

end PaymentQueue

end LightningLiquidity
