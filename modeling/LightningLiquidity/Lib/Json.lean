import Mathlib.Data.UInt

/-!
# JSON values and how they are read

The values of JSON texts (`Json`), as a reader of a data type finds them.

* A string keeps whether it is written without escape sequences (`JsonString`):
  only then it can be read as a slice of the text.
* A number is an integer of 64 bits, signed or unsigned, or any other number;
  readers of integers only take the former.
* An object keeps all its members in the order of the text, also those of the
  same name; looking one up finds the last (`Json.lookup`).

A record is read from an object, or from an array of its fields in order, the
last of which may be left out if they have a default (`Json.isRecord`,
`Json.member`). Readers give `none` if the value is not what they read.
-/

/-- A string of a JSON text, and whether it is written without escape sequences. -/
structure JsonString where
  value : String
  borrowed : Bool
  deriving DecidableEq, Repr

/-- The value of a JSON text. -/
inductive Json
  | null
  | bool (b : Bool)
  | int (n : ℤ)
  /-- A number that is no integer, or one that does not fit in 64 bits. -/
  | float
  | string (s : JsonString)
  | array (elems : List Json)
  | object (members : List (JsonString × Json))

/-- A string as it is written: without escape sequences, if it has no character that
    needs one. -/
def JsonString.written (s : String) : JsonString where
  value := s
  borrowed := s.toList.all fun c => c ≠ '"' ∧ c ≠ '\\' ∧ 32 ≤ c.toNat

namespace Json

/-! ## Writing -/

/-- A string, as it is written. -/
def ofString (s : String) : Json := string (.written s)

/-- A natural number. -/
def ofNat (n : ℕ) : Json := int n

/-- A value, or `null` if there is none. -/
def ofOption {α : Type*} (write : α → Json) (a : Option α) : Json := a.elim null write

/-- An object with members of the given names. -/
def ofMembers (members : List (String × Json)) : Json :=
  object (members.map fun (key, v) => (.written key, v))

/-! ## Reading -/

/-- The value of the last member of a name. -/
def lookup (members : List (JsonString × Json)) (key : String) : Option Json :=
  (members.reverse.find? fun m => m.1.value = key).map Prod.snd

/-- The number of members of a name. -/
def countMembers (key : String) : Json → ℕ
  | object members => members.countP fun m => m.1.value = key
  | _ => 0

/-- A record of `n` fields can be read: from an object, or from an array of at most
    `n` elements. -/
def isRecord (n : ℕ) : Json → Bool
  | object _ => true
  | array elems => elems.length ≤ n
  | _ => false

/-- The `i`-th field of a record, of the given name. -/
def member (i : ℕ) (key : String) : Json → Option Json
  | object members => lookup members key
  | array elems => elems[i]?
  | _ => none

/-- Reads a field that has to be there. -/
def required {α : Type*} (v : Json) (i : ℕ) (key : String) (read : Json → Option α) : Option α :=
  (v.member i key).bind read

/-- Reads a value that may be `null`. -/
def asOption {α : Type*} (read : Json → Option α) : Json → Option (Option α)
  | null => some none
  | v => (read v).map some

/-- Reads a field with a default for when it is left out. -/
def defaulted {α : Type*} (v : Json) (i : ℕ) (key : String) (read : Json → Option α) (a : α) :
    Option α := (v.member i key).elim (some a) read

/-- Reads a field that may be `null`, or a member left out of an object; an array has to
    have it. -/
def optional {α : Type*} (v : Json) (i : ℕ) (key : String) (read : Json → Option α) :
    Option (Option α) :=
  match v with
  | object _ => v.defaulted i key (asOption read) none
  | _ => v.required i key (asOption read)

/-- Reads a string. -/
def asString : Json → Option String
  | string s => some s.value
  | _ => none

/-- Reads a string as a slice of the text. -/
def asBorrowed : Json → Option String
  | string s => if s.borrowed then some s.value else none
  | _ => none

/-- Reads a boolean. -/
def asBool : Json → Option Bool
  | bool b => some b
  | _ => none

/-- Reads an integer between two bounds. -/
def asInt (lo hi : ℤ) : Json → Option ℤ
  | int n => if lo ≤ n ∧ n ≤ hi then some n else none
  | _ => none

def asUInt8 (v : Json) : Option UInt8 := (v.asInt 0 (2 ^ 8 - 1)).map fun n => .ofNat n.toNat

def asUInt16 (v : Json) : Option UInt16 := (v.asInt 0 (2 ^ 16 - 1)).map fun n => .ofNat n.toNat

def asUInt32 (v : Json) : Option UInt32 := (v.asInt 0 (2 ^ 32 - 1)).map fun n => .ofNat n.toNat

def asInt32 (v : Json) : Option Int32 := (v.asInt (-2 ^ 31) (2 ^ 31 - 1)).map .ofInt

/-- Reads an array, element by element. -/
def asList {α : Type*} (read : Json → Option α) : Json → Option (List α)
  | array elems => elems.mapM read
  | _ => none

/-- Reads a variant without fields: its name, or an object with `null` under its name. -/
def asVariant {α : Type*} (ofName : String → Option α) : Json → Option α
  | string s => ofName s.value
  | object members =>
    match members.getLast? with
    | some (key, null) => if members.all (·.1.value = key.value) then ofName key.value else none
    | _ => none
  | _ => none

/-! ## What is written is read back -/

@[simp] theorem asString_ofString (s : String) : (ofString s).asString = some s := rfl

theorem asInt_int {lo hi n : ℤ} (hlo : lo ≤ n) (hhi : n ≤ hi) : (int n).asInt lo hi = some n :=
  if_pos ⟨hlo, hhi⟩

@[simp] theorem asUInt8_ofNat (n : UInt8) : (ofNat n.toNat).asUInt8 = some n := by
  have hlt := n.toNat_lt
  rw [asUInt8, ofNat, asInt_int (by omega) (by omega)]
  simp

@[simp] theorem asUInt16_ofNat (n : UInt16) : (ofNat n.toNat).asUInt16 = some n := by
  have hlt := n.toNat_lt
  rw [asUInt16, ofNat, asInt_int (by omega) (by omega)]
  simp

@[simp] theorem asUInt32_ofNat (n : UInt32) : (ofNat n.toNat).asUInt32 = some n := by
  have hlt := n.toNat_lt
  rw [asUInt32, ofNat, asInt_int (by omega) (by omega)]
  simp

@[simp] theorem asInt32_int (n : Int32) : (int n.toInt).asInt32 = some n := by
  have hle := n.le_toInt
  have hlt := n.toInt_lt
  rw [asInt32, asInt_int (by omega) (by omega)]
  simp

/-- Reading an array that was written element by element, each of which is read back. -/
theorem asList_array {α : Type*} {read : Json → Option α} {write : α → Json} {l : List α}
    (h : ∀ a ∈ l, read (write a) = some a) : (array (l.map write)).asList read = some l := by
  rw [asList]
  induction l with
  | nil => rfl
  | cons a l ih =>
    rw [List.forall_mem_cons] at h
    rw [List.map_cons, List.mapM_cons, h.1, ih h.2]
    rfl

@[simp] theorem asVariant_ofString {α : Type*} (ofName : String → Option α) (name : String) :
    (ofString name).asVariant ofName = ofName name := rfl

/-- Reading an option that was written by its value, which is read back and is not `null`. -/
theorem asOption_ofOption {α : Type*} {read : Json → Option α} {write : α → Json} {o : Option α}
    (hread : ∀ a ∈ o, read (write a) = some a) (hnull : read null = none) :
    (ofOption write o).asOption read = some o := by
  cases o with
  | none => rfl
  | some a =>
    have ha := hread a rfl
    rw [ofOption, Option.elim_some, asOption, ha, Option.map_some]
    rintro h
    rw [h, hnull] at ha
    cases ha

@[simp] theorem asOption_asString_ofOption (s : Option String) :
    (ofOption ofString s).asOption asString = some s := by
  cases s <;> rfl

theorem isRecord_ofMembers (n : ℕ) (members : List (String × Json)) :
    (ofMembers members).isRecord n = true := rfl

theorem mem_of_lookup {members : List (JsonString × Json)} {key : String} {v : Json}
    (h : lookup members key = some v) : ∃ m ∈ members, m.1.value = key ∧ m.2 = v := by
  obtain ⟨m, hm, hv⟩ := Option.map_eq_some_iff.1 h
  have hkey : m.1.value = key := by simpa using List.find?_some hm
  exact ⟨m, List.mem_reverse.1 (List.mem_of_find?_eq_some hm), hkey, hv⟩

/-- A member of an object whose names are distinct is what is found under its name. -/
theorem lookup_of_mem {members : List (JsonString × Json)}
    (hnodup : (members.map fun m => m.1.value).Nodup) {m : JsonString × Json} (h : m ∈ members) :
    lookup members m.1.value = some m.2 := by
  cases hlookup : lookup members m.1.value with
  | none =>
    rw [lookup, Option.map_eq_none_iff, List.find?_eq_none] at hlookup
    exact absurd (decide_eq_true rfl) (hlookup m (List.mem_reverse.2 h))
  | some v =>
    obtain ⟨m', hm', hkey, rfl⟩ := mem_of_lookup hlookup
    rw [List.inj_on_of_nodup_map hnodup hm' h hkey]

/-- An object whose names are distinct has no two members of a name. -/
theorem countMembers_le {members : List (JsonString × Json)}
    (h : (members.map fun m => m.1.value).Nodup) (key : String) :
    (object members).countMembers key ≤ 1 := by
  have hcount := List.nodup_iff_count_le_one.1 h key
  rw [List.count, List.countP_map] at hcount
  refine le_of_eq_of_le (List.countP_congr fun m _ => ?_) hcount
  simp

section Members

variable {members : List (String × Json)} (hnodup : (members.map Prod.fst).Nodup)
include hnodup

/-- A member written under a name of its own is what is found under it. -/
theorem lookup_ofMembers {key : String} {v : Json} (h : (key, v) ∈ members) :
    lookup (members.map fun (key, v) => (.written key, v)) key = some v := by
  refine lookup_of_mem ?_ (List.mem_map_of_mem h)
  rwa [List.map_map]

/-- Names that differ are members once. -/
theorem countMembers_ofMembers (key : String) : countMembers key (ofMembers members) ≤ 1 := by
  refine countMembers_le ?_ key
  rwa [List.map_map]

variable {i : ℕ} {key : String} (h : members[i]?.map Prod.fst = some key)
include h

/-- Fields written in order are found. -/
theorem member_ofMembers : (ofMembers members).member i key = members[i]?.map Prod.snd := by
  obtain ⟨⟨key', v⟩, hi, rfl⟩ := Option.map_eq_some_iff.1 h
  rw [ofMembers, member, lookup_ofMembers hnodup (List.mem_of_getElem? hi), hi]
  rfl

theorem required_ofMembers {α : Type*} (read : Json → Option α) :
    (ofMembers members).required i key read = (members[i]?.map Prod.snd).bind read := by
  rw [required, member_ofMembers hnodup h]

theorem defaulted_ofMembers {α : Type*} (read : Json → Option α) (a : α) :
    (ofMembers members).defaulted i key read a =
      (members[i]?.map Prod.snd).elim (some a) read := by
  rw [defaulted, member_ofMembers hnodup h]

theorem optional_ofMembers {α : Type*} (read : Json → Option α) :
    (ofMembers members).optional i key read =
      (members[i]?.map Prod.snd).elim (some none) (asOption read) :=
  defaulted_ofMembers hnodup h (asOption read) none

end Members

/-- A member that was not written is given its default. -/
theorem defaulted_ofMembers_of_not_mem {α : Type*} {members : List (String × Json)} {key : String}
    (h : key ∉ members.map Prod.fst) (i : ℕ) (read : Json → Option α) (a : α) :
    (ofMembers members).defaulted i key read a = some a := by
  have hlookup : lookup (members.map fun (key, v) => (.written key, v)) key = none := by
    rw [lookup, Option.map_eq_none_iff, List.find?_eq_none]
    intro m hm hkey
    obtain ⟨m', hm', rfl⟩ := List.mem_map.1 (List.mem_reverse.1 hm)
    exact h (of_decide_eq_true hkey ▸ List.mem_map_of_mem hm')
  rw [defaulted, ofMembers, member, hlookup, Option.elim_none]

end Json
