import Mathlib.Data.UInt

/-!
# Identifiers, times and outcomes

What the crate takes from the node it runs in, as far as its code looks into
it:

* the identifiers of peers, channels, payments and HTLCs, which are only ever
  compared (`PublicKey`, `ChannelId`, `PaymentHash`, `InterceptId`);
* a date-time, of which the code reads the timestamp (`DateTime`);
* how a call ends (`Outcome`): as a Rust `Result` without a value, or in a
  panic.

The functions the code calls but does not define are the fields of
`Externals`.
-/

namespace LightningLiquidity

/-- The public key of a node. -/
structure PublicKey where
  id : ℕ
  deriving DecidableEq, Repr

/-- The identifier of a Lightning channel. -/
structure ChannelId where
  id : ℕ
  deriving DecidableEq, Repr

/-- The hash of a payment, shared by its HTLCs. -/
structure PaymentHash where
  id : ℕ
  deriving DecidableEq, Repr

/-- The identifier of an intercepted HTLC. -/
structure InterceptId where
  id : ℕ
  deriving DecidableEq, Repr

/-- The `u128` the user tracks a channel by. -/
abbrev UserChannelId := BitVec 128

/-- A short channel id, as the 64-bit integer used by the node. -/
abbrev Scid := UInt64

/-- A `chrono::DateTime<Utc>`: the seconds since the Unix epoch and, within the
    second, the nanoseconds. -/
structure DateTime where
  timestamp : ℤ
  nanos : ℕ
  deriving DecidableEq, Repr

/-- How a call returning `Result<(), ε>` ends. -/
inductive Outcome (ε : Type*)
  | ok
  | err (e : ε)
  | panic
  deriving DecidableEq, Repr

theorem Outcome.ok_ne_panic {ε : Type*} : (ok : Outcome ε) ≠ panic := nofun

theorem Outcome.err_ne_panic {ε : Type*} (e : ε) : err e ≠ panic := nofun

/-- The functions called by the code that are defined in other crates. -/
structure Externals where
  /-- HMAC-SHA256 of a message under a key. -/
  hmacSha256 : List UInt8 → List UInt8 → List UInt8
  /-- `DateTime::to_rfc3339`, as bytes. -/
  toRfc3339 : DateTime → List UInt8

end LightningLiquidity
