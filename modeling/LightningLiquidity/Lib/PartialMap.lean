import Mathlib.Data.Set.Basic
import Mathlib.Logic.Function.Basic

/-!
# Partial maps

Maps from keys to values, given by their lookups (`PartialMap`), with the
updates of a hash map: `insert` and `remove`.

A map whose values contain maps themselves is one map under pairs of keys
(`flatten`). Replacing a value is then an update of that map, if it is one of the
map in the value.

What a map holds outside of a set of keys is a map itself (`off`). Updates within the set
do not show there; others are the same there.
-/

/-- A map from `κ` to `ν`: the value of every key, if it has one. -/
abbrev PartialMap (κ ν : Type*) := κ → Option ν

namespace PartialMap

variable {κ ν : Type*}

/-- The map without any entry. -/
def empty : PartialMap κ ν := fun _ => none

@[simp] theorem empty_apply (k : κ) : (empty : PartialMap κ ν) k = none := rfl

/-- The map with its values changed. -/
def mapValues {ν' : Type*} (f : ν → ν') (m : PartialMap κ ν) : PartialMap κ ν' :=
  fun k => (m k).map f

@[simp] theorem mapValues_apply {ν' : Type*} (f : ν → ν') (m : PartialMap κ ν) (k : κ) :
    m.mapValues f k = (m k).map f := rfl

variable [DecidableEq κ]

/-- The map `m` with the value of `k` set to `v`. -/
def insert (m : PartialMap κ ν) (k : κ) (v : ν) : PartialMap κ ν := Function.update m k (some v)

/-- The map `m` without the entry of `k`. -/
def remove (m : PartialMap κ ν) (k : κ) : PartialMap κ ν := Function.update m k none

@[simp] theorem insert_self (m : PartialMap κ ν) (k : κ) (v : ν) : m.insert k v k = some v :=
  Function.update_self ..

@[simp] theorem remove_self (m : PartialMap κ ν) (k : κ) : m.remove k k = none :=
  Function.update_self ..

@[simp] theorem insert_of_ne (m : PartialMap κ ν) {k k' : κ} (v : ν) (h : k' ≠ k) :
    m.insert k v k' = m k' := Function.update_of_ne h ..

@[simp] theorem remove_of_ne (m : PartialMap κ ν) {k k' : κ} (h : k' ≠ k) :
    m.remove k k' = m k' := Function.update_of_ne h ..

theorem insert_eq_some {m : PartialMap κ ν} {k k' : κ} {v v' : ν} :
    m.insert k v k' = some v' ↔ k' = k ∧ v = v' ∨ k' ≠ k ∧ m k' = some v' := by
  by_cases hk : k' = k
  · simp [hk]
  · simp [hk]

theorem remove_eq_some {m : PartialMap κ ν} {k k' : κ} {v : ν} :
    m.remove k k' = some v ↔ k' ≠ k ∧ m k' = some v := by
  by_cases hk : k' = k
  · simp [hk]
  · simp [hk]

/-- Setting a value keeps all entries, if the key has no other value. -/
theorem insert_of_eq_some {m : PartialMap κ ν} {k k' : κ} {v v' : ν}
    (h : ∀ w, m k = some w → w = v) (hk' : m k' = some v') : m.insert k v k' = some v' := by
  by_cases hk : k' = k
  · subst hk
    rw [insert_self, h v' hk']
  · rwa [insert_of_ne m v hk]

/-- What holds of all entries, and of a new one, holds of all after setting it. -/
theorem forall_insert {P : κ → ν → Prop} {m : PartialMap κ ν} (h : ∀ k v, m k = some v → P k v)
    {k : κ} {v : ν} (hv : P k v) : ∀ k' v', m.insert k v k' = some v' → P k' v' := by
  intro k' v' hk'
  by_cases hk : k' = k
  · subst hk
    rw [insert_self] at hk'
    exact Option.some.inj hk' ▸ hv
  · rw [insert_of_ne m v hk] at hk'
    exact h k' v' hk'

theorem forall_remove {P : κ → ν → Prop} {m : PartialMap κ ν} (h : ∀ k v, m k = some v → P k v)
    {k : κ} : ∀ k' v', m.remove k k' = some v' → P k' v' := by
  intro k' v' hk'
  by_cases hk : k' = k
  · subst hk
    rw [remove_self] at hk'
    cases hk'
  · rw [remove_of_ne m hk] at hk'
    exact h k' v' hk'

section Elim

variable {ε : Type*} {o : Option ε} {m : PartialMap κ ν} {key : ε → κ} {val : ε → ν} {k : κ} {v : ν}

/-- After setting at most one entry, an entry is an old one or that one. -/
theorem eq_some_of_elim_insert (h : (o.elim m fun e => m.insert (key e) (val e)) k = some v) :
    m k = some v ∨ ∃ e, o = some e ∧ key e = k ∧ val e = v := by
  cases o with
  | none => exact .inl h
  | some e =>
    rcases insert_eq_some.1 h with ⟨rfl, rfl⟩ | ⟨-, h⟩
    · exact .inr ⟨e, rfl, rfl, rfl⟩
    · exact .inl h

theorem elim_insert_of_eq_some (h : ∀ e, o = some e → ∀ w, m (key e) = some w → w = val e)
    (hk : m k = some v) : (o.elim m fun e => m.insert (key e) (val e)) k = some v := by
  cases o with
  | none => exact hk
  | some e => exact insert_of_eq_some (h e rfl) hk

end Elim

theorem remove_insert (m : PartialMap κ ν) (k : κ) (v : ν) : (m.insert k v).remove k = m.remove k :=
  Function.update_idem ..

theorem insert_remove (m : PartialMap κ ν) (k : κ) (v : ν) : (m.remove k).insert k v = m.insert k v :=
  Function.update_idem ..

theorem mapValues_remove {ν' : Type*} (f : ν → ν') (m : PartialMap κ ν) (k : κ) :
    (m.remove k).mapValues f = (m.mapValues f).remove k := by
  funext k'
  by_cases hk : k' = k
  · simp [hk]
  · simp [hk]

/-- Setting a value changes nothing iff the key has it already. -/
theorem insert_eq_self_iff {m : PartialMap κ ν} {k : κ} {v : ν} :
    m.insert k v = m ↔ m k = some v := by
  rw [insert, Function.update_eq_self_iff, eq_comm]

/-- Removing an entry changes nothing iff there is none. -/
theorem remove_eq_self_iff {m : PartialMap κ ν} {k : κ} : m.remove k = m ↔ m k = none := by
  rw [remove, Function.update_eq_self_iff, eq_comm]

/-- Setting entries of other keys leaves the value of a key. -/
theorem foldl_insert_of_forall_ne {l : List (κ × ν)} {k : κ} (h : ∀ e ∈ l, e.1 ≠ k)
    (m : PartialMap κ ν) : l.foldl (fun m e => m.insert e.1 e.2) m k = m k := by
  induction l generalizing m with
  | nil => rfl
  | cons e l ih =>
    have hne : k ≠ e.1 := (h e List.mem_cons_self).symm
    rw [List.foldl_cons, ih fun e' he' => h e' (List.mem_cons_of_mem e he'), insert_of_ne _ _ hne]

/-- Setting entries, of which those of a key have one value, gives the key this value. -/
theorem foldl_insert_of_mem {l : List (κ × ν)} {k : κ} {v : ν} (h : (k, v) ∈ l)
    (hl : ∀ v', (k, v') ∈ l → v' = v) (m : PartialMap κ ν) :
    l.foldl (fun m e => m.insert e.1 e.2) m k = some v := by
  induction l generalizing m with
  | nil => cases h
  | cons e l ih =>
    replace ih := fun h => ih h fun v' hv' => hl v' (List.mem_cons_of_mem e hv')
    rw [List.foldl_cons]
    by_cases hmem : ∃ v', (k, v') ∈ l
    · obtain ⟨v', hv'⟩ := hmem
      obtain rfl := hl v' (List.mem_cons_of_mem e hv')
      exact ih hv' _
    · rcases List.mem_cons.1 h with rfl | h
      · rw [foldl_insert_of_forall_ne, insert_self]
        rintro e' he' rfl
        exact hmem ⟨e'.2, he'⟩
      · exact absurd ⟨v, h⟩ hmem

/-! ## Maps of maps -/

section Flatten

variable {α κ' : Type*} {f : α → PartialMap κ' ν} {m : PartialMap κ α} {k : κ} {a b : α}

omit [DecidableEq κ] in
/-- The map under pairs of keys, of a map whose values contain maps. -/
def flatten (f : α → PartialMap κ' ν) (m : PartialMap κ α) : PartialMap (κ × κ') ν :=
  fun k => (m k.1).bind fun a => f a k.2

omit [DecidableEq κ] in
theorem flatten_apply (h : m k = some a) (k' : κ') : flatten f m (k, k') = f a k' := by
  rw [flatten, h, Option.bind_some]

omit [DecidableEq κ] in
/-- A value that is missing counts as one that contains the empty map. -/
theorem flatten_getD {d : α} (hd : f d = empty) (m : PartialMap κ α) (k : κ) (k' : κ') :
    flatten f m (k, k') = f ((m k).getD d) k' := by
  rw [flatten]
  cases m k with
  | none => rw [Option.getD_none, hd, Option.bind_none, empty_apply]
  | some a => rw [Option.getD_some, Option.bind_some]

theorem flatten_insert_apply (f : α → PartialMap κ' ν) (m : PartialMap κ α) (k : κ) (b : α)
    (l : κ × κ') : flatten f (m.insert k b) l = if l.1 = k then f b l.2 else flatten f m l := by
  by_cases hl : l.1 = k
  · rw [flatten, hl, insert_self, if_pos rfl, Option.bind_some]
  · rw [flatten, insert_of_ne m b hl, if_neg hl, flatten]

/-- Replacing a value changes nothing if it contains the same map. -/
theorem flatten_insert (h : ∀ k', flatten f m (k, k') = f a k') (hb : f b = f a) :
    flatten f (m.insert k b) = flatten f m := by
  funext ⟨l, k'⟩
  rw [flatten_insert_apply, hb]
  split
  · next hl => rw [show l = k from hl, h]
  · rfl

variable [DecidableEq κ']

/-- Replacing a value is an update if it is one of the map contained. -/
theorem flatten_insert_update {k' : κ'} {v : Option ν} (h : ∀ k', flatten f m (k, k') = f a k')
    (hb : f b = Function.update (f a) k' v) :
    flatten f (m.insert k b) = Function.update (flatten f m) (k, k') v := by
  funext ⟨l, l'⟩
  rw [flatten_insert_apply, hb]
  by_cases hl : l = k
  · subst hl
    by_cases hl' : l' = k'
    · subst hl'
      simp
    · simp [Function.update_of_ne, hl', h]
  · simp [Function.update_of_ne, hl]

theorem flatten_insert_insert {k' : κ'} {v : ν} (h : ∀ k', flatten f m (k, k') = f a k')
    (hb : f b = (f a).insert k' v) :
    flatten f (m.insert k b) = (flatten f m).insert (k, k') v := flatten_insert_update h hb

theorem flatten_insert_remove {k' : κ'} (h : ∀ k', flatten f m (k, k') = f a k')
    (hb : f b = (f a).remove k') : flatten f (m.insert k b) = (flatten f m).remove (k, k') :=
  flatten_insert_update h hb

end Flatten

/-! ## Maps off a set of keys -/

section Off

variable {m : PartialMap κ ν} {S : Set κ} {k : κ}

open Classical in
omit [DecidableEq κ] in
/-- The map `m` without the entries of the keys in `S`. -/
noncomputable def off (m : PartialMap κ ν) (S : Set κ) : PartialMap κ ν :=
  fun k => if k ∈ S then none else m k

omit [DecidableEq κ] in
theorem off_apply (h : k ∉ S) : m.off S k = m k := if_neg h

omit [DecidableEq κ] in
theorem off_apply_of_mem (h : k ∈ S) : m.off S k = none := if_pos h

omit [DecidableEq κ] in
@[simp] theorem off_off (m : PartialMap κ ν) (S : Set κ) : (m.off S).off S = m.off S := by
  funext k
  by_cases h : k ∈ S
  · rw [off_apply_of_mem h, off_apply_of_mem h]
  · rw [off_apply h]

/-- Setting a value off the set. -/
theorem off_insert (h : k ∉ S) (v : ν) : (m.insert k v).off S = (m.off S).insert k v := by
  funext k'
  by_cases hk : k' = k
  · rw [hk, off_apply h, insert_self, insert_self]
  · by_cases hk' : k' ∈ S
    · rw [off_apply_of_mem hk', insert_of_ne _ _ hk, off_apply_of_mem hk']
    · rw [off_apply hk', insert_of_ne _ _ hk, insert_of_ne _ _ hk, off_apply hk']

/-- Setting a value in the set. -/
theorem off_insert_of_mem (h : k ∈ S) (v : ν) : (m.insert k v).off S = m.off S := by
  funext k'
  by_cases hk' : k' ∈ S
  · rw [off_apply_of_mem hk', off_apply_of_mem hk']
  · rw [off_apply hk', off_apply hk', insert_of_ne]
    rintro rfl
    exact hk' h

theorem off_remove (k : κ) : (m.remove k).off S = (m.off S).remove k := by
  funext k'
  by_cases hk' : k' ∈ S
  · rw [off_apply_of_mem hk']
    by_cases hk : k' = k
    · rw [hk, remove_self]
    · rw [remove_of_ne _ hk, off_apply_of_mem hk']
  · rw [off_apply hk']
    by_cases hk : k' = k
    · rw [hk, remove_self, remove_self]
    · rw [remove_of_ne _ hk, remove_of_ne _ hk, off_apply hk']

theorem off_remove_of_mem (h : k ∈ S) : (m.remove k).off S = m.off S := by
  rw [off_remove, remove_eq_self_iff, off_apply_of_mem h]

end Off

end PartialMap
