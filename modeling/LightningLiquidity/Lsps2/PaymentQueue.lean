import LightningLiquidity.Basic
import LightningLiquidity.Lib.CheckedArith
import LightningLiquidity.Lib.Groups

/-!
# The payment queue

Holds the intercepted HTLCs of a JIT channel, grouped into payments by their
payment hash, until one of the payments can pay the channel opening fee.

The groups of a `PaymentQueue` are a `Groups.Grouping`: payment hashes are
distinct, no payment is empty, and the HTLCs of a payment have its hash.

The totals computed by the code (`totalMsat`) wrap around at `2 ^ 64`;
`exactMsat` is the exact sum, and the two agree when that fits.
-/

namespace LightningLiquidity

open Groups

/-- An HTLC intercepted on the way to a JIT channel. -/
structure InterceptedHTLC where
  interceptId : InterceptId
  expectedOutboundAmountMsat : UInt64
  paymentHash : PaymentHash
  deriving DecidableEq, Repr

/-- The sum of the amounts of HTLCs, as computed by the code. -/
def totalMsat (htlcs : List InterceptedHTLC) : UInt64 :=
  (htlcs.map InterceptedHTLC.expectedOutboundAmountMsat).sum

/-- The exact sum of the amounts of HTLCs. -/
def exactMsat (htlcs : List InterceptedHTLC) : ℕ :=
  (htlcs.map fun htlc => htlc.expectedOutboundAmountMsat.toNat).sum

@[simp] theorem exactMsat_nil : exactMsat [] = 0 := rfl

@[simp] theorem exactMsat_append (l r : List InterceptedHTLC) :
    exactMsat (l ++ r) = exactMsat l + exactMsat r := by
  simp [exactMsat]

@[simp] theorem exactMsat_singleton (htlc : InterceptedHTLC) :
    exactMsat [htlc] = htlc.expectedOutboundAmountMsat.toNat := by
  simp [exactMsat]

theorem exactMsat_perm {l r : List InterceptedHTLC} (h : l.Perm r) : exactMsat l = exactMsat r :=
  (h.map _).sum_eq

@[simp] theorem totalMsat_singleton (htlc : InterceptedHTLC) :
    totalMsat [htlc] = htlc.expectedOutboundAmountMsat := by
  simp [totalMsat]

theorem toNat_totalMsat (htlcs : List InterceptedHTLC) :
    (totalMsat htlcs).toNat = exactMsat htlcs % 2 ^ 64 := by
  rw [totalMsat, UInt64.toNat_sum, List.map_map]
  rfl

theorem toNat_totalMsat_of_lt {htlcs : List InterceptedHTLC} (h : exactMsat htlcs < 2 ^ 64) :
    (totalMsat htlcs).toNat = exactMsat htlcs := by
  rw [toNat_totalMsat, Nat.mod_eq_of_lt h]

/-- Intercepted HTLCs held back, grouped into payments. -/
structure PaymentQueue where
  payments : List (PaymentHash × List InterceptedHTLC)
  grouping : Grouping InterceptedHTLC.paymentHash payments
  deriving DecidableEq

namespace PaymentQueue

/-- The empty queue. -/
def new : PaymentQueue := ⟨[], .nil⟩

/-- The queue with an HTLC appended to its payment, or starting a new one. -/
def push (q : PaymentQueue) (newHtlc : InterceptedHTLC) : PaymentQueue where
  payments := Groups.push newHtlc.paymentHash newHtlc q.payments
  grouping := q.grouping.push rfl

/-- The queue without its payment at the given position. -/
def removeAt (q : PaymentQueue) (position : ℕ) : PaymentQueue where
  payments := q.payments.eraseIdx position
  grouping := q.grouping.sublist (List.eraseIdx_sublist ..)

/-- Adds an HTLC to its payment; gives the total amount of the payment and the
    number of its HTLCs. -/
def addHtlc (q : PaymentQueue) (newHtlc : InterceptedHTLC) : PaymentQueue × UInt64 × ℕ :=
  match lookup? newHtlc.paymentHash q.payments with
  | some htlcs =>
    (q.push newHtlc, totalMsat (htlcs ++ [newHtlc]), (htlcs ++ [newHtlc]).length)
  | none => (q.push newHtlc, newHtlc.expectedOutboundAmountMsat, 1)

/-- Takes out the first payment of at least the given amount, if there is one. -/
def popGreaterThanMsat (q : PaymentQueue) (amountMsat : UInt64) :
    PaymentQueue × Option (PaymentHash × List InterceptedHTLC) :=
  match q.payments.findIdx? fun payment => totalMsat payment.2 ≥ amountMsat with
  | some position => (q.removeAt position, q.payments[position]?)
  | none => (q, none)

/-- Empties the queue, giving all its HTLCs. -/
def clear (q : PaymentQueue) : PaymentQueue × List InterceptedHTLC := (new, values q.payments)

/-! ## What the operations do -/

/-- All HTLCs held in the queue. -/
abbrev htlcs (q : PaymentQueue) : List InterceptedHTLC := values q.payments

/-- The HTLCs held of the payment with the hash `h`. -/
def htlcsOf (q : PaymentQueue) (h : PaymentHash) : List InterceptedHTLC :=
  (lookup? h q.payments).getD []

/-- The queue can take `htlc` without its payment overflowing. -/
def Fits (q : PaymentQueue) (htlc : InterceptedHTLC) : Prop :=
  exactMsat (q.htlcsOf htlc.paymentHash ++ [htlc]) < 2 ^ 64

instance (q : PaymentQueue) (htlc : InterceptedHTLC) : Decidable (q.Fits htlc) :=
  inferInstanceAs (Decidable (_ < _))

@[simp] theorem new_payments : new.payments = [] := rfl

/-- Adding an HTLC pushes it, and gives the total and the length of its payment
    with it. -/
theorem addHtlc_eq (q : PaymentQueue) (htlc : InterceptedHTLC) :
    q.addHtlc htlc = (q.push htlc, totalMsat (q.htlcsOf htlc.paymentHash ++ [htlc]),
      (q.htlcsOf htlc.paymentHash).length + 1) := by
  rw [addHtlc, htlcsOf]
  split <;> next h => simp [h]

/-- The payments after adding an HTLC: its payment with it, and the others. -/
theorem mem_push_iff {q : PaymentQueue} {htlc : InterceptedHTLC}
    {payment : PaymentHash × List InterceptedHTLC} :
    payment ∈ (q.push htlc).payments ↔
      payment = (htlc.paymentHash, q.htlcsOf htlc.paymentHash ++ [htlc]) ∨
        (payment ∈ q.payments ∧ payment.1 ≠ htlc.paymentHash) :=
  Groups.mem_push_iff q.grouping.nodup

/-- Adding an HTLC adds it to the HTLCs held. -/
theorem htlcs_push (q : PaymentQueue) (htlc : InterceptedHTLC) :
    (q.push htlc).htlcs.Perm (htlc :: q.htlcs) := values_push ..

/-- The HTLCs held with a payment hash are those of its payment. -/
theorem filter_htlcs (q : PaymentQueue) (h : PaymentHash) :
    q.htlcs.filter (fun htlc => htlc.paymentHash = h) = q.htlcsOf h := q.grouping.filter_values h

/-- A payment is taken out from between others, and is the first of at least the
    amount asked for. -/
theorem popGreaterThanMsat_some {q q' : PaymentQueue} {amount : UInt64}
    {payment : PaymentHash × List InterceptedHTLC}
    (h : q.popGreaterThanMsat amount = (q', some payment)) :
    ∃ l r, q.payments = l ++ payment :: r ∧ q'.payments = l ++ r ∧ amount ≤ totalMsat payment.2 ∧
      ∀ p ∈ l, totalMsat p.2 < amount := by
  rw [popGreaterThanMsat] at h
  split at h
  · next n hn =>
    obtain ⟨rfl, hget⟩ := Prod.mk.inj h
    obtain ⟨l, g, r, hq, hget', herase, hp, hl⟩ := findIdx?_split hn
    obtain rfl : g = payment := Option.some.inj (hget'.symm.trans hget)
    exact ⟨l, r, hq, herase, of_decide_eq_true hp, fun p hpl =>
      UInt64.not_le.1 (of_decide_eq_false (hl p hpl))⟩
  · cases (Prod.mk.inj h).2

/-- No payment is taken out iff none is of the amount asked for; the queue is
    then as it was. -/
theorem popGreaterThanMsat_none {q q' : PaymentQueue} {amount : UInt64}
    (h : q.popGreaterThanMsat amount = (q', none)) :
    q' = q ∧ ∀ p ∈ q.payments, totalMsat p.2 < amount := by
  rw [popGreaterThanMsat] at h
  split at h
  · next n hn =>
    -- There is a payment at every position found.
    obtain ⟨l, g, r, -, hget, -⟩ := findIdx?_split hn
    rw [hget] at h
    cases (Prod.mk.inj h).2
  · next hn =>
    obtain ⟨rfl, -⟩ := Prod.mk.inj h
    refine ⟨rfl, fun p hp => UInt64.not_le.1 ?_⟩
    simpa using List.findIdx?_eq_none_iff.1 hn p hp

end PaymentQueue

end LightningLiquidity
