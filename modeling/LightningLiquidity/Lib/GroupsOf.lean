import Mathlib.Data.List.Induction
import LightningLiquidity.Lib.Groups

/-!
# The groups of a list

A list of values grouped by a key, in the order in which the keys first occur
(`Groups.groupsOf`), without regard to how the groups are built up.

* `eq_groupsOf`: they are determined by their keys and by the values under each;
* `groupsOf_concat`: they arise by `Groups.push` from one value after the other;
* `groupsOf_filter_ne`: without the values of a key, the other groups stay;
* `find?_groupsOf`: the first group with a property is that of the first value
  whose group has it;
* `values_groupsOf`: they contain each value as often as the list does.
-/

namespace Groups

section EraseDups

variable {α : Type*} [DecidableEq α]

/-- A last element is kept iff it occurs for the first time. -/
theorem eraseDups_concat (l : List α) (a : α) :
    (l ++ [a]).eraseDups = if a ∈ l then l.eraseDups else l.eraseDups ++ [a] := by
  rw [List.eraseDups_append]
  split <;> simp [List.removeAll, List.eraseDups_cons, *]

theorem nodup_eraseDups (l : List α) : l.eraseDups.Nodup := by
  induction l using List.reverseRecOn with
  | nil => exact List.nodup_nil
  | append_singleton l a ih =>
    rw [eraseDups_concat]
    split
    · exact ih
    · next ha =>
      rw [← List.concat_eq_append]
      exact ih.concat (mt List.mem_eraseDups.1 ha)

theorem eraseDups_filter (p : α → Bool) (l : List α) :
    (l.filter p).eraseDups = l.eraseDups.filter p := by
  induction l using List.reverseRecOn with
  | nil => rfl
  | append_singleton l a ih =>
    rw [List.filter_append, eraseDups_concat]
    cases hp : p a with
    | true =>
      have hmem : a ∈ l.filter p ↔ a ∈ l := by simp [hp]
      rw [List.filter_singleton, hp, cond_true, eraseDups_concat, ih]
      simp only [hmem]
      split <;> simp [hp]
    | false =>
      rw [List.filter_singleton, hp, cond_false, List.append_nil, ih]
      split <;> simp [hp]

/-- The first element with a property is not a repeated one. -/
theorem find?_eraseDups (p : α → Bool) (l : List α) : l.eraseDups.find? p = l.find? p := by
  induction l using List.reverseRecOn with
  | nil => rfl
  | append_singleton l a ih =>
    rw [eraseDups_concat, List.find?_append]
    split
    · next ha =>
      rw [ih]
      cases hl : l.find? p with
      | some _ => rfl
      | none => simp [List.find?_eq_none.1 hl a ha]
    · rw [List.find?_append, ih]

end EraseDups

variable {κ α : Type*} [DecidableEq κ] {key : α → κ} {l : List α}

/-- The groups of the values of `l`, in the order in which their keys first occur. -/
def groupsOf (key : α → κ) (l : List α) : List (κ × List α) :=
  (l.map key).eraseDups.map fun k => (k, l.filter fun v => key v = k)

@[simp] theorem map_fst_groupsOf (key : α → κ) (l : List α) :
    (groupsOf key l).map Prod.fst = (l.map key).eraseDups := by
  rw [groupsOf, List.map_map]
  exact List.map_id _

theorem nodup_groupsOf : ((groupsOf key l).map Prod.fst).Nodup := by
  rw [map_fst_groupsOf]
  exact nodup_eraseDups _

theorem mem_groupsOf {g : κ × List α} :
    g ∈ groupsOf key l ↔ g.1 ∈ l.map key ∧ g.2 = l.filter fun v => key v = g.1 := by
  rw [groupsOf, List.mem_map]
  constructor
  · rintro ⟨k, hk, rfl⟩
    exact ⟨List.mem_eraseDups.1 hk, rfl⟩
  · rintro ⟨hk, hg⟩
    exact ⟨g.1, List.mem_eraseDups.2 hk, Prod.ext rfl hg.symm⟩

/-- The groups of a list are determined by their keys and the values under each. -/
theorem eq_groupsOf {gs : List (κ × List α)} (hkeys : gs.map Prod.fst = (l.map key).eraseDups)
    (hvalues : ∀ g ∈ gs, g.2 = l.filter fun v => key v = g.1) : gs = groupsOf key l := by
  rw [groupsOf, ← hkeys, List.map_map]
  refine (List.map_id gs).symm.trans (List.map_congr_left fun g hg => ?_)
  exact Prod.ext rfl (hvalues g hg)

theorem getD_lookup?_groupsOf (k : κ) :
    (lookup? k (groupsOf key l)).getD [] = l.filter fun v => key v = k := by
  cases hk : lookup? k (groupsOf key l) with
  | some vs => exact (mem_groupsOf.1 (mem_of_lookup? hk)).2
  | none =>
    refine (List.filter_eq_nil_iff.2 fun v hv hkey => ?_).symm
    -- The group of a value with this key would be found.
    have hg : (k, l.filter fun v => key v = k) ∈ groupsOf key l :=
      mem_groupsOf.2 ⟨of_decide_eq_true hkey ▸ List.mem_map_of_mem hv, rfl⟩
    have hfind := List.find?_eq_none.1 (Option.map_eq_none_iff.1 hk) _ hg
    exact hfind (decide_eq_true rfl)

/-- A last value is added to the group of its key, or starts a new last group. -/
theorem groupsOf_concat (l : List α) (v : α) :
    groupsOf key (l ++ [v]) = push (key v) v (groupsOf key l) := by
  symm
  apply eq_groupsOf
  · rw [map_fst_push, map_fst_groupsOf, List.map_append, List.map_singleton, eraseDups_concat]
    simp only [List.mem_eraseDups]
  · intro g hg
    rw [List.filter_append]
    rcases (mem_push_iff nodup_groupsOf).1 hg with rfl | ⟨hg, hne⟩
    · rw [getD_lookup?_groupsOf]
      simp
    · rw [(mem_groupsOf.1 hg).2]
      simp [Ne.symm hne]

/-- The groups contain each value as often as the list. -/
theorem values_groupsOf : (values (groupsOf key l)).Perm l := by
  induction l using List.reverseRecOn with
  | nil => exact List.Perm.refl _
  | append_singleton l v ih =>
    rw [groupsOf_concat]
    exact (values_push ..).trans ((ih.cons v).trans (List.perm_append_singleton v l).symm)

/-- Without the values of a key, the other groups stay, in their order. -/
theorem groupsOf_filter_ne (k : κ) :
    groupsOf key (l.filter fun v => key v ≠ k) = (groupsOf key l).filter fun g => g.1 ≠ k := by
  symm
  apply eq_groupsOf
  · have hkeys : (l.filter fun v => key v ≠ k).map key = (l.map key).filter fun k' => k' ≠ k := by
      rw [List.filter_map]
      rfl
    rw [hkeys, eraseDups_filter, ← map_fst_groupsOf, List.filter_map]
    rfl
  · intro g hg
    obtain ⟨hg, hne⟩ := List.mem_filter.1 hg
    rw [(mem_groupsOf.1 hg).2, List.filter_filter]
    refine List.filter_congr fun v _ => ?_
    by_cases hv : key v = g.1 <;> simp_all

/-- A group between others is that of its key, which they do not have. -/
theorem groupsOf_split {a b : List (κ × List α)} {g : κ × List α}
    (h : groupsOf key l = a ++ g :: b) :
    groupsOf key (l.filter fun v => key v ≠ g.1) = a ++ b := by
  have hnodup : ((a ++ g :: b).map Prod.fst).Nodup := h ▸ nodup_groupsOf
  rw [List.map_append, List.map_cons, List.nodup_middle, List.nodup_cons, ← List.map_append]
    at hnodup
  have hself : (a ++ b).filter (fun g' => g'.1 ≠ g.1) = a ++ b :=
    List.filter_eq_self.2 fun g' hg' => decide_eq_true fun heq =>
      hnodup.1 (heq ▸ List.mem_map_of_mem hg')
  rw [groupsOf_filter_ne, h]
  simpa using hself

/-- The first group with a property is that of the first value whose group has it. -/
theorem find?_groupsOf (p : κ × List α → Bool) :
    (groupsOf key l).find? p =
      (l.find? fun v => p (key v, l.filter fun w => key w = key v)).map fun v =>
        (key v, l.filter fun w => key w = key v) := by
  rw [groupsOf, List.find?_map, find?_eraseDups, List.find?_map, Option.map_map]
  rfl

end Groups
