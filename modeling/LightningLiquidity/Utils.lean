import LightningLiquidity.Basic

/-!
# Short channel ids, hexadecimal and big-endian bytes

The helpers shared by the protocols (`utils.rs`), with the conversions of the
Rust standard library they and their callers use: `to_be_bytes`, and the
parsing of a `u64` from a string.
-/

namespace LightningLiquidity

/-- The bytes of a `u32`, most significant first. -/
def toBeBytes32 (x : UInt32) : List UInt8 :=
  [(x >>> 24).toUInt8, (x >>> 16).toUInt8, (x >>> 8).toUInt8, x.toUInt8]

/-- The bytes of a `u64`, most significant first. -/
def toBeBytes64 (x : UInt64) : List UInt8 :=
  [(x >>> 56).toUInt8, (x >>> 48).toUInt8, (x >>> 40).toUInt8, (x >>> 32).toUInt8,
    (x >>> 24).toUInt8, (x >>> 16).toUInt8, (x >>> 8).toUInt8, x.toUInt8]

/-- Bytes as lowercase hexadecimal digits. -/
def hexStr (value : List UInt8) : String :=
  String.ofList (value.flatMap fun v => [(v / 16).toNat.digitChar, (v % 16).toNat.digitChar])

@[simp] theorem length_toBeBytes32 (x : UInt32) : (toBeBytes32 x).length = 4 := rfl

@[simp] theorem length_toBeBytes64 (x : UInt64) : (toBeBytes64 x).length = 8 := rfl

theorem toBeBytes32_injective : Function.Injective toBeBytes32 := by
  intro x y h
  have hx := x.toNat_lt
  have hy := y.toNat_lt
  simp only [toBeBytes32, List.cons.injEq, and_true, ← UInt8.toNat_inj, UInt32.toNat_toUInt8,
    UInt32.toNat_shiftRight] at h
  simp [Nat.shiftRight_eq_div_pow] at h
  rw [← UInt32.toNat_inj]
  omega

theorem toBeBytes64_injective : Function.Injective toBeBytes64 := by
  intro x y h
  have hx := x.toNat_lt
  have hy := y.toNat_lt
  simp only [toBeBytes64, List.cons.injEq, and_true, ← UInt8.toNat_inj, UInt64.toNat_toUInt8,
    UInt64.toNat_shiftRight] at h
  simp [Nat.shiftRight_eq_div_pow] at h
  rw [← UInt64.toNat_inj]
  omega

theorem digitChar_inj : ∀ a < 16, ∀ b < 16, Nat.digitChar a = Nat.digitChar b → a = b := by decide

/-- A byte is given by its two hexadecimal digits. -/
theorem eq_of_digitChar {a b : UInt8}
    (hhi : (a / 16).toNat.digitChar = (b / 16).toNat.digitChar)
    (hlo : (a % 16).toNat.digitChar = (b % 16).toNat.digitChar) : a = b := by
  have ha := a.toNat_lt
  have hb := b.toNat_lt
  have hdiv : a.toNat / 16 = b.toNat / 16 := digitChar_inj _ (by omega) _ (by omega) hhi
  have hmod : a.toNat % 16 = b.toNat % 16 := digitChar_inj _ (by omega) _ (by omega) hlo
  rw [← UInt8.toNat_inj]
  omega

theorem hexStr_injective : Function.Injective hexStr := by
  intro v w h
  replace h := String.ofList_injective h
  induction v generalizing w with
  | nil =>
    cases w with
    | nil => rfl
    | cons b w => cases h
  | cons a v ih =>
    cases w with
    | nil => cases h
    | cons b w =>
      simp only [List.flatMap_cons, List.cons_append, List.nil_append, List.cons.injEq] at h
      obtain ⟨hhi, hlo, h⟩ := h
      rw [eq_of_digitChar hhi hlo, ih h]

/-- The largest transaction index in a short channel id. -/
def maxScidTxIndex : UInt64 := 0x00ffffff

/-- The largest output index in a short channel id. -/
def maxScidVoutIndex : UInt64 := 0xffff

/-- The block height in a short channel id. -/
def blockFromScid (shortChannelId : Scid) : UInt32 := (shortChannelId >>> 40).toUInt32

/-- The transaction index in a short channel id. -/
def txIndexFromScid (shortChannelId : Scid) : UInt32 :=
  ((shortChannelId >>> 16) &&& maxScidTxIndex).toUInt32

/-- The output index in a short channel id. -/
def voutFromScid (shortChannelId : Scid) : UInt16 := (shortChannelId &&& maxScidVoutIndex).toUInt16

/-- Parsing a `u64`: decimal digits, at least one, possibly after a plus sign,
    of a number that fits. -/
def parseU64 (s : List Char) : Option UInt64 :=
  let digits := match s with
    | '+' :: digits => digits
    | digits => digits
  if digits ≠ [] ∧ digits.all Char.isDigit then
    let n := digits.foldl (fun n c => 10 * n + (c.toNat - '0'.toNat)) 0
    if n < 2 ^ 64 then some (UInt64.ofNat n) else none
  else none

/-- A number written in decimal is read back. -/
theorem parseU64_toDigits (x : UInt64) : parseU64 (Nat.toDigits 10 x.toNat) = some x := by
  have hdigit : ∀ c ∈ Nat.toDigits 10 x.toNat, c.isDigit := fun _ hc =>
    Nat.isDigit_of_mem_toDigits (by decide) (by decide) hc
  have hvalue : (Nat.toDigits 10 x.toNat).foldl
      (fun n c => 10 * n + (c.toNat - '0'.toNat)) 0 = x.toNat := by
    rw [← Nat.ofDigitChars_eq_foldl, Nat.ofDigitChars_ten_toDigits]
  rw [parseU64]
  split
  · rw [hvalue, if_pos x.toNat_lt, UInt64.ofNat_toNat]
  · next h => exact absurd ⟨Nat.toDigits_ne_nil, List.all_eq_true.2 hdigit⟩ h
  -- The first digit is no sign.
  · intro digits h
    have := hdigit '+' (h ▸ List.mem_cons_self)
    cases this

/-- The short channel id written as its block, transaction index and output
    index, separated by `x`. What comes after a further `x` is not looked at. -/
def scidFromHumanReadableString (humanReadableScid : String) : Option Scid :=
  match humanReadableScid.toList.splitOn 'x' with
  | block :: txIndex :: voutIndex :: _ => do
    let block ← parseU64 block
    let txIndex ← parseU64 txIndex
    let voutIndex ← parseU64 voutIndex
    return (block <<< 40) ||| (txIndex <<< 16) ||| voutIndex
  | _ => none

/-- The short channel id put together of its parts. -/
theorem toNat_parts {block txIndex vout : UInt64} (hblock : block.toNat < 2 ^ 24)
    (htx : txIndex.toNat < 2 ^ 24) (hvout : vout.toNat < 2 ^ 16) :
    ((block <<< 40) ||| (txIndex <<< 16) ||| vout).toNat =
      block.toNat * 2 ^ 40 + (txIndex.toNat * 2 ^ 16 + vout.toNat) := by
  have hor {a b i : ℕ} (hb : b < 2 ^ i) : a * 2 ^ i ||| b = a * 2 ^ i + b := by
    rw [Nat.mul_comm, Nat.two_pow_add_eq_or_of_lt hb]
  simp only [UInt64.toNat_or, UInt64.toNat_shiftLeft, UInt64.reduceToNat, Nat.reduceMod,
    Nat.shiftLeft_eq]
  rw [Nat.mod_eq_of_lt (by omega), Nat.mod_eq_of_lt (by omega), Nat.or_assoc, hor hvout,
    hor (by omega)]

theorem toNat_blockFromScid (scid : Scid) : (blockFromScid scid).toNat = scid.toNat / 2 ^ 40 := by
  have hlt := scid.toNat_lt
  simp only [blockFromScid, UInt64.toNat_toUInt32, UInt64.toNat_shiftRight, UInt64.reduceToNat,
    Nat.reduceMod, Nat.shiftRight_eq_div_pow]
  omega

theorem toNat_txIndexFromScid (scid : Scid) :
    (txIndexFromScid scid).toNat = scid.toNat / 2 ^ 16 % 2 ^ 24 := by
  have hand : ∀ n, n &&& 16777215 = n % 2 ^ 24 := fun n => Nat.and_two_pow_sub_one_eq_mod n 24
  simp only [txIndexFromScid, maxScidTxIndex, UInt64.toNat_toUInt32, UInt64.toNat_and,
    UInt64.toNat_shiftRight, UInt64.reduceToNat, Nat.reduceMod, hand, Nat.shiftRight_eq_div_pow]
  omega

theorem toNat_voutFromScid (scid : Scid) : (voutFromScid scid).toNat = scid.toNat % 2 ^ 16 := by
  have hand : ∀ n, n &&& 65535 = n % 2 ^ 16 := fun n => Nat.and_two_pow_sub_one_eq_mod n 16
  simp only [voutFromScid, maxScidVoutIndex, UInt64.toNat_toUInt16, UInt64.toNat_and,
    UInt64.reduceToNat, hand, Nat.mod_mod]

/-- A short channel id is put together of its parts. -/
theorem scid_eq_parts (scid : Scid) :
    ((blockFromScid scid).toUInt64 <<< 40) ||| ((txIndexFromScid scid).toUInt64 <<< 16) |||
      (voutFromScid scid).toUInt64 = scid := by
  have hlt := scid.toNat_lt
  have hblock : (blockFromScid scid).toUInt64.toNat = scid.toNat / 2 ^ 40 := by
    rw [UInt32.toNat_toUInt64, toNat_blockFromScid]
  have htx : (txIndexFromScid scid).toUInt64.toNat = scid.toNat / 2 ^ 16 % 2 ^ 24 := by
    rw [UInt32.toNat_toUInt64, toNat_txIndexFromScid]
  have hvout : (voutFromScid scid).toUInt64.toNat = scid.toNat % 2 ^ 16 := by
    rw [UInt16.toNat_toUInt64, toNat_voutFromScid]
  rw [← UInt64.toNat_inj, toNat_parts (by omega) (by omega) (by omega), hblock, htx, hvout]
  omega

end LightningLiquidity
