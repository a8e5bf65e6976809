import Mathlib.Data.List.Perm.Basic
import Mathlib.Data.List.Nodup
import Mathlib.Tactic.Common

/-!
# Lists of groups

Values collected in a list of groups, each under a key, in the order in which
the keys first came (`List (κ × List α)`).

* `push k v`: add the value `v` to the group of `k`, or start a new last group;
* `values`: all values, group by group;
* `lookup? k`: the values under `k`;
* `Grouping key`: the lists of groups that do arise so. Keys are distinct, no
  group is empty, and every value is in the group of its key.

The first group with a property is found by `List.findIdx?` and removed by
`List.eraseIdx`; `findIdx?_split` says what this does.
-/

namespace Groups

variable {κ α : Type*}

/-- All values, group by group. -/
def values (gs : List (κ × List α)) : List α := gs.flatMap Prod.snd

@[simp] theorem values_nil : values ([] : List (κ × List α)) = [] := rfl

@[simp] theorem values_cons (g : κ × List α) (gs : List (κ × List α)) :
    values (g :: gs) = g.2 ++ values gs := rfl

@[simp] theorem values_append (gs hs : List (κ × List α)) :
    values (gs ++ hs) = values gs ++ values hs := List.flatMap_append

/-- A list of groups of values with the keys `key`. -/
structure Grouping (key : α → κ) (gs : List (κ × List α)) : Prop where
  nodup : (gs.map Prod.fst).Nodup
  ne_nil : ∀ g ∈ gs, g.2 ≠ []
  key_eq : ∀ g ∈ gs, ∀ v ∈ g.2, key v = g.1

theorem Grouping.nil {key : α → κ} : Grouping key [] where
  nodup := List.nodup_nil
  ne_nil _ hg := absurd hg List.not_mem_nil
  key_eq _ hg := absurd hg List.not_mem_nil

theorem Grouping.sublist {key : α → κ} {gs hs : List (κ × List α)} (h : Grouping key gs)
    (hsub : hs.Sublist gs) : Grouping key hs where
  nodup := h.nodup.sublist (hsub.map _)
  ne_nil g hg := h.ne_nil g (hsub.subset hg)
  key_eq g hg := h.key_eq g (hsub.subset hg)

/-- The values of a group are in no other one. -/
theorem Grouping.not_mem_values {key : α → κ} {l r : List (κ × List α)} {g : κ × List α}
    (h : Grouping key (l ++ g :: r)) {v : α} (hv : v ∈ g.2) : v ∉ values (l ++ r) := by
  intro hmem
  obtain ⟨g', hg', hv'⟩ := List.mem_flatMap.1 hmem
  have hsub : (l ++ r).Sublist (l ++ g :: r) := (List.sublist_cons_self g r).append_left l
  have hkey : g'.1 = g.1 := by
    rw [← h.key_eq g' (hsub.subset hg') v hv', h.key_eq g List.mem_append_cons_self v hv]
  have hnodup := h.nodup
  rw [List.map_append, List.map_cons, List.nodup_middle, List.nodup_cons, ← List.map_append]
    at hnodup
  exact hnodup.1 (hkey ▸ List.mem_map_of_mem hg')

/-- Removing the first group with the property `p`: the groups around it stay,
    in order, and those before it do not have the property. -/
theorem findIdx?_split {p : κ × List α → Bool} {gs : List (κ × List α)} {n : ℕ}
    (h : gs.findIdx? p = some n) :
    ∃ l g r, gs = l ++ g :: r ∧ gs[n]? = some g ∧ gs.eraseIdx n = l ++ r ∧ p g = true ∧
      ∀ g' ∈ l, p g' = false := by
  induction gs generalizing n with
  | nil => simp at h
  | cons g gs ih =>
    rw [List.findIdx?_cons] at h
    split at h
    · next hg =>
      obtain rfl := Option.some.inj h
      exact ⟨[], g, gs, rfl, rfl, rfl, hg, fun _ h => absurd h List.not_mem_nil⟩
    · next hg =>
      obtain ⟨k, hk, rfl⟩ := Option.map_eq_some_iff.1 h
      obtain ⟨l, g', r, rfl, hget, herase, hp, hl⟩ := ih hk
      refine ⟨g :: l, g', r, rfl, by simpa using hget, by simp [herase], hp, ?_⟩
      intro x hx
      rcases List.mem_cons.1 hx with rfl | hx
      · exact Bool.not_eq_true _ ▸ hg
      · exact hl x hx

variable [DecidableEq κ]

/-- The values under `k`. -/
def lookup? (k : κ) (gs : List (κ × List α)) : Option (List α) :=
  (gs.find? fun g => g.1 = k).map Prod.snd

/-- Adding `v` under `k`: to the first group of `k`, or else as a new last one. -/
def push (k : κ) (v : α) : List (κ × List α) → List (κ × List α)
  | [] => [(k, [v])]
  | g :: gs => if g.1 = k then (g.1, g.2 ++ [v]) :: gs else g :: push k v gs

theorem mem_of_lookup? {k : κ} {vs : List α} {gs : List (κ × List α)}
    (h : lookup? k gs = some vs) : (k, vs) ∈ gs := by
  obtain ⟨g, hg, rfl⟩ := Option.map_eq_some_iff.1 h
  obtain rfl : g.1 = k := by simpa using List.find?_some hg
  exact List.mem_of_find?_eq_some hg

theorem Grouping.lookup?_of_mem {key : α → κ} {gs : List (κ × List α)} (h : Grouping key gs)
    {k : κ} {vs : List α} (hmem : (k, vs) ∈ gs) : lookup? k gs = some vs := by
  -- Of the grouping, the induction needs only that the keys are distinct.
  have hnd := h.nodup
  clear h
  induction gs with
  | nil => exact absurd hmem List.not_mem_nil
  | cons g gs ih =>
    rw [List.map_cons, List.nodup_cons] at hnd
    rw [lookup?, List.find?_cons]
    rcases List.mem_cons.1 hmem with rfl | hmem
    · simp
    · have hne : g.1 ≠ k := fun hk => hnd.1 (hk ▸ List.mem_map_of_mem (f := Prod.fst) hmem)
      simpa [hne, lookup?] using ih hmem hnd.2

theorem lookup?_eq_none {k : κ} {gs : List (κ × List α)} (h : k ∉ gs.map Prod.fst) :
    lookup? k gs = none := by
  refine Option.map_eq_none_iff.2 (List.find?_eq_none.2 fun g hg hk => h ?_)
  exact of_decide_eq_true hk ▸ List.mem_map_of_mem hg

/-- The values with a key are those under it. -/
theorem Grouping.filter_values {key : α → κ} {gs : List (κ × List α)} (h : Grouping key gs) (k : κ) :
    (values gs).filter (fun v => key v = k) = (lookup? k gs).getD [] := by
  induction gs with
  | nil => rfl
  | cons g gs ih =>
    have hnd := List.nodup_cons.1 h.nodup
    have hkey : ∀ v ∈ g.2, key v = g.1 := h.key_eq g List.mem_cons_self
    rw [values_cons, List.filter_append, ih (h.sublist (List.sublist_cons_self g gs))]
    by_cases hk : g.1 = k
    · -- The first group is that of `k`, and the others have no values with this key.
      have hself : g.2.filter (fun v => key v = k) = g.2 :=
        List.filter_eq_self.2 fun v hv => decide_eq_true ((hkey v hv).trans hk)
      rw [hself, lookup?_eq_none (hk ▸ hnd.1)]
      simp [lookup?, hk]
    · have hnone : g.2.filter (fun v => key v = k) = [] :=
        List.filter_eq_nil_iff.2 fun v hv hv' => hk ((hkey v hv).symm.trans (of_decide_eq_true hv'))
      rw [hnone]
      simp [lookup?, hk]

/-- The groups of distinct keys after adding `v` under `k`: that of `k`, and
    those of other keys as they were. -/
theorem mem_push_iff {k : κ} {v : α} {gs : List (κ × List α)} (hnd : (gs.map Prod.fst).Nodup)
    {g : κ × List α} :
    g ∈ push k v gs ↔ g = (k, (lookup? k gs).getD [] ++ [v]) ∨ (g ∈ gs ∧ g.1 ≠ k) := by
  induction gs with
  | nil => simp [push, lookup?]
  | cons g' gs ih =>
    rw [List.map_cons, List.nodup_cons] at hnd
    by_cases hk : g'.1 = k
    · -- `k` is the key of the first group, and so of no other.
      have hne : g ∈ gs → g.1 ≠ k := fun hg hgk =>
        hnd.1 (hk ▸ hgk ▸ List.mem_map_of_mem (f := Prod.fst) hg)
      simp only [push, lookup?, hk, if_true, List.mem_cons, List.find?_cons, decide_true,
        Option.map_some, Option.getD_some]
      refine or_congr_right ⟨fun hg => ⟨.inr hg, hne hg⟩, fun ⟨hg, hgk⟩ => ?_⟩
      exact hg.resolve_left fun h => hgk (h ▸ hk)
    · have hl : lookup? k (g' :: gs) = lookup? k gs := by simp [lookup?, hk]
      rw [push, if_neg hk, List.mem_cons, ih hnd.2, hl, List.mem_cons]
      constructor
      · rintro (rfl | h | h)
        exacts [.inr ⟨.inl rfl, hk⟩, .inl h, .inr ⟨.inr h.1, h.2⟩]
      · rintro (h | ⟨rfl | h, hgk⟩)
        exacts [.inr (.inl h), .inl rfl, .inr (.inr ⟨h, hgk⟩)]

/-- Adding a value changes the keys at most by that of the value. -/
theorem map_fst_push (k : κ) (v : α) (gs : List (κ × List α)) :
    (push k v gs).map Prod.fst =
      if k ∈ gs.map Prod.fst then gs.map Prod.fst else gs.map Prod.fst ++ [k] := by
  induction gs with
  | nil => simp [push]
  | cons g gs ih =>
    by_cases hk : g.1 = k
    · simp [push, hk]
    · rw [push, if_neg hk, List.map_cons, ih]
      split <;> simp_all [Ne.symm hk]

/-- Adding a value adds it to the values. -/
theorem values_push (k : κ) (v : α) (gs : List (κ × List α)) :
    (values (push k v gs)).Perm (v :: values gs) := by
  induction gs with
  | nil => simp [push]
  | cons g gs ih =>
    by_cases hk : g.1 = k
    · simp only [push, hk, if_true, values_cons, List.append_assoc, List.singleton_append]
      exact List.perm_middle
    · rw [push, if_neg hk, values_cons, values_cons]
      exact (ih.append_left g.2).trans List.perm_middle

theorem Grouping.push {key : α → κ} {gs : List (κ × List α)} (h : Grouping key gs) {k : κ} {v : α}
    (hk : key v = k) : Grouping key (push k v gs) where
  nodup := by
    rw [map_fst_push]
    split
    · exact h.nodup
    · next hmem =>
      -- A group is added only for a key that is not there.
      refine List.nodup_append.2 ⟨h.nodup, List.nodup_singleton k, fun k' hk' k'' hk'' heq => ?_⟩
      exact hmem (List.mem_singleton.1 hk'' ▸ heq ▸ hk')
  ne_nil g hg := by
    rcases (mem_push_iff h.nodup).1 hg with rfl | ⟨hg, -⟩
    · simp
    · exact h.ne_nil g hg
  key_eq g hg := by
    rcases (mem_push_iff h.nodup).1 hg with rfl | ⟨hg, -⟩
    · intro w hw
      rcases List.mem_append.1 hw with hw | hw
      · cases hl : lookup? k gs with
        | none => simp [hl] at hw
        | some vs => exact h.key_eq _ (mem_of_lookup? hl) w (by simpa [hl] using hw)
      · rw [List.mem_singleton.1 hw, hk]
    · exact h.key_eq g hg

end Groups
