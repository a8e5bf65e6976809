import LightningLiquidity.Lib.Json
import Mathlib.Data.List.Forall2

/-!
# JSON values up to their spelling

Two values are the same up to spelling (`Json.Same`) if they differ only in which strings are
written with escape sequences, and in the order of the members of objects, whose names are
distinct.

A reader *respects* this (`Json.Respects`) if it reads the same from such values. The readers of
strings, numbers, arrays and records do, if those of their parts do. The reader of slices
(`Json.asBorrowed`) does not.
-/

namespace Json

/-- The values are the same up to spelling. -/
inductive Same : Json → Json → Prop
  | null : Same null null
  | bool (b : Bool) : Same (bool b) (bool b)
  | int (n : ℤ) : Same (int n) (int n)
  | float : Same float float
  | string {s s' : JsonString} (h : s.value = s'.value) : Same (string s) (string s')
  | array {elems elems' : List Json} (h : List.Forall₂ Same elems elems') :
      Same (array elems) (array elems')
  | object {members members' : List (JsonString × Json)}
      (hnodup : (members.map fun m => m.1.value).Nodup)
      (hnodup' : (members'.map fun m => m.1.value).Nodup)
      (h : ∀ key, Option.Rel Same (lookup members key) (lookup members' key)) :
      Same (object members) (object members')

/-- The reader reads the same from values that are the same up to spelling. -/
def Respects {α : Type*} (read : Json → Option α) : Prop := ∀ v v', Same v v' → read v = read v'

/-- Objects are the same if each member of one is the same as one of the other of its name. -/
theorem Same.of_mem {members members' : List (JsonString × Json)}
    (hnodup : (members.map fun m => m.1.value).Nodup)
    (hnodup' : (members'.map fun m => m.1.value).Nodup)
    (h : ∀ m ∈ members, ∃ m' ∈ members', m'.1.value = m.1.value ∧ Same m.2 m'.2)
    (h' : ∀ m' ∈ members', ∃ m ∈ members, m.1.value = m'.1.value) :
    Same (.object members) (.object members') := by
  refine .object hnodup hnodup' fun key => ?_
  cases hlookup : lookup members key with
  | some v =>
    obtain ⟨m, hm, rfl, rfl⟩ := mem_of_lookup hlookup
    obtain ⟨m', hm', hkey, hsame⟩ := h m hm
    rw [← hkey, lookup_of_mem hnodup' hm']
    exact .some hsame
  | none =>
    cases hlookup' : lookup members' key with
    | none => exact .none
    | some v' =>
      obtain ⟨m', hm', rfl, rfl⟩ := mem_of_lookup hlookup'
      obtain ⟨m, hm, hkey⟩ := h' m' hm'
      cases hlookup.symm.trans (hkey ▸ lookup_of_mem hnodup hm)

variable {α β : Type*} {v v' : Json} {read : Json → Option α}

/-! ## Readers of values -/

theorem respects_asString : Respects asString := by
  rintro _ _ (_ | _ | _ | _ | h | _ | _)
  case string => exact congrArg some h
  all_goals rfl

theorem respects_asBool : Respects asBool := by
  rintro _ _ (_ | _ | _ | _ | _ | _ | _) <;> rfl

theorem respects_asInt (lo hi : ℤ) : Respects (asInt lo hi) := by
  rintro _ _ (_ | _ | _ | _ | _ | _ | _) <;> rfl

theorem Respects.bind (h : Respects read) (f : α → Option β) :
    Respects fun v => (read v).bind f :=
  fun v v' hv => congrArg (·.bind f) (h v v' hv)

theorem Respects.map (h : Respects read) (f : α → β) : Respects fun v => (read v).map f :=
  fun v v' hv => congrArg (Option.map f) (h v v' hv)

theorem respects_asUInt16 : Respects asUInt16 := (respects_asInt _ _).map _

theorem respects_asUInt32 : Respects asUInt32 := (respects_asInt _ _).map _

theorem respects_asInt32 : Respects asInt32 := (respects_asInt _ _).map _

theorem Respects.asOption (h : Respects read) : Respects (asOption read) := by
  intro v v' hv
  have hmap := congrArg (Option.map some) (h v v' hv)
  cases hv with
  | null => rfl
  | _ => exact hmap

theorem Respects.asList (h : Respects read) : Respects (asList read) := by
  rintro _ _ (_ | _ | _ | _ | _ | hl | _)
  case array =>
    rw [Json.asList, Json.asList]
    induction hl with
    | nil => rfl
    | cons hv _ ih => rw [List.mapM_cons, List.mapM_cons, h _ _ hv, ih]
  all_goals rfl

/-! ## Readers of records -/

theorem Same.isRecord (h : Same v v') (n : ℕ) : v.isRecord n = v'.isRecord n := by
  cases h with
  | array hl => rw [Json.isRecord, Json.isRecord, hl.length_eq]
  | _ => rfl

theorem rel_getElem? {R : Json → Json → Prop} {elems elems' : List Json}
    (h : List.Forall₂ R elems elems') (i : ℕ) : Option.Rel R elems[i]? elems'[i]? := by
  induction h generalizing i with
  | nil => exact .none
  | cons hv _ ih =>
    cases i with
    | zero => exact .some hv
    | succ i => exact ih i

theorem Same.member (h : Same v v') (i : ℕ) (key : String) :
    Option.Rel Same (v.member i key) (v'.member i key) := by
  cases h with
  | object _ _ h => exact h key
  | array hl => exact rel_getElem? hl i
  | _ => exact .none

theorem Respects.elim_eq (h : Respects read) (b : Option α) {a a' : Option Json}
    (ha : Option.Rel Same a a') : a.elim b read = a'.elim b read := by
  cases ha with
  | none => rfl
  | some hv => exact h _ _ hv

theorem Respects.bind_eq (h : Respects read) {a a' : Option Json} (ha : Option.Rel Same a a') :
    a.bind read = a'.bind read := by
  cases ha with
  | none => rfl
  | some hv => exact h _ _ hv

theorem Respects.getD_eq (h : Respects read) (d : Json) {a a' : Option Json}
    (ha : Option.Rel Same a a') : read (a.getD d) = read (a'.getD d) := by
  cases ha with
  | none => rfl
  | some hv => exact h _ _ hv

theorem Same.required (h : Same v v') (i : ℕ) (key : String) (hread : Respects read) :
    v.required i key read = v'.required i key read := hread.bind_eq (h.member i key)

theorem Same.defaulted (h : Same v v') (i : ℕ) (key : String) (hread : Respects read) (a : α) :
    v.defaulted i key read a = v'.defaulted i key read a :=
  hread.elim_eq _ (h.member i key)

theorem Same.optional (h : Same v v') (i : ℕ) (key : String) (hread : Respects read) :
    v.optional i key read = v'.optional i key read := by
  have hdefaulted := h.defaulted i key hread.asOption none
  have hrequired := h.required i key hread.asOption
  cases h with
  | object => exact hdefaulted
  | _ => exact hrequired

theorem Same.countMembers_le (h : Same v v') (key : String) :
    v.countMembers key ≤ 1 ∧ v'.countMembers key ≤ 1 := by
  cases h with
  | object hnodup hnodup' =>
    exact ⟨Json.countMembers_le hnodup key, Json.countMembers_le hnodup' key⟩
  | _ => exact ⟨Nat.zero_le _, Nat.zero_le _⟩

end Json
