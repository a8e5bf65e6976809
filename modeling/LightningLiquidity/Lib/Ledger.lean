import LightningLiquidity.Lib.PartialMap
import Mathlib.Data.List.Nodup
import Mathlib.Data.List.Perm.Subperm

/-!
# Ledgers

Tokens are taken in, kept in the stores of a map, and given out. `Ledger` says that
each token is in at most one place at a time: it is kept once, in one store, or has
been given out, once; and all of them have been taken in.

A ledger is kept by opening an empty store, dropping one, and taking new tokens into a
store that gives some of its tokens out (`Ledger.transfer`).
-/

/-- The tokens `tokens a` kept in the stores, and those given out, each once, are among those taken
    in. -/
structure Ledger {κ α τ : Type*} (tokens : α → List τ) (stores : PartialMap κ α)
    (given taken : List τ) : Prop where
  given_nodup : given.Nodup
  nodup : ∀ k a, stores k = some a → (tokens a).Nodup
  disjoint : ∀ k a, stores k = some a → (tokens a).Disjoint given
  apart : ∀ k k' a a', k ≠ k' → stores k = some a → stores k' = some a' →
    (tokens a).Disjoint (tokens a')
  given_subset : given ⊆ taken
  subset : ∀ k a, stores k = some a → tokens a ⊆ taken

namespace Ledger

variable {κ α τ : Type*} {tokens : α → List τ} {stores : PartialMap κ α} {given taken : List τ}

theorem empty : Ledger tokens (PartialMap.empty : PartialMap κ α) [] [] where
  given_nodup := List.nodup_nil
  nodup _ _ h := nomatch h
  disjoint _ _ h := nomatch h
  apart _ _ _ _ _ h := nomatch h
  given_subset := List.nil_subset _
  subset _ _ h := nomatch h

/-- More tokens may have been taken in. -/
theorem mono (h : Ledger tokens stores given taken) {taken' : List τ} (htaken : taken ⊆ taken') :
    Ledger tokens stores given taken' :=
  { h with
    given_subset := List.Subset.trans h.given_subset htaken
    subset := fun k a hk => List.Subset.trans (h.subset k a hk) htaken }

/-- Tokens that are not kept any more are given out. -/
theorem give (h : Ledger tokens stores given taken) {out : List τ} (hnodup : out.Nodup)
    (hdisjoint : given.Disjoint out)
    (hstores : ∀ k a, stores k = some a → (tokens a).Disjoint out) (hsubset : out ⊆ taken) :
    Ledger tokens stores (given ++ out) taken :=
  { h with
    given_nodup := List.nodup_append'.2 ⟨h.given_nodup, hnodup, hdisjoint⟩
    disjoint := fun k a hk => List.disjoint_append_right.2 ⟨h.disjoint k a hk, hstores k a hk⟩
    given_subset := List.append_subset.2 ⟨h.given_subset, hsubset⟩ }

variable [DecidableEq κ]

/-- A store is dropped. -/
theorem remove (h : Ledger tokens stores given taken) (k : κ) :
    Ledger tokens (stores.remove k) given taken where
  given_nodup := h.given_nodup
  nodup k' a hk' := h.nodup k' a (PartialMap.remove_eq_some.1 hk').2
  disjoint k' a hk' := h.disjoint k' a (PartialMap.remove_eq_some.1 hk').2
  apart k₁ k₂ a₁ a₂ hne h₁ h₂ :=
    h.apart k₁ k₂ a₁ a₂ hne (PartialMap.remove_eq_some.1 h₁).2 (PartialMap.remove_eq_some.1 h₂).2
  given_subset := h.given_subset
  subset k' a hk' := h.subset k' a (PartialMap.remove_eq_some.1 hk').2

/-- A store gets tokens that are neither given out nor in other stores. -/
theorem insert (h : Ledger tokens stores given taken) {k : κ} {a : α} (hnodup : (tokens a).Nodup)
    (hdisjoint : (tokens a).Disjoint given)
    (hapart : ∀ k' a', k' ≠ k → stores k' = some a' → (tokens a).Disjoint (tokens a'))
    (hsubset : tokens a ⊆ taken) : Ledger tokens (stores.insert k a) given taken where
  given_nodup := h.given_nodup
  nodup := PartialMap.forall_insert h.nodup hnodup
  disjoint := PartialMap.forall_insert h.disjoint hdisjoint
  apart k₁ k₂ a₁ a₂ hne h₁ h₂ := by
    rcases PartialMap.insert_eq_some.1 h₁ with ⟨rfl, rfl⟩ | ⟨hne₁, hk₁⟩ <;>
      rcases PartialMap.insert_eq_some.1 h₂ with ⟨rfl, rfl⟩ | ⟨hne₂, hk₂⟩
    · exact absurd rfl hne
    · exact hapart k₂ a₂ hne₂ hk₂
    · exact fun t ht₁ ht₂ => hapart k₁ a₁ hne₁ hk₁ ht₂ ht₁
    · exact h.apart k₁ k₂ a₁ a₂ hne hk₁ hk₂
  given_subset := h.given_subset
  subset := PartialMap.forall_insert h.subset hsubset

/-- A store takes in new tokens, and gives out some of those it has then. -/
theorem transfer (h : Ledger tokens stores given taken) {k : κ} {a a' : α} {new out : List τ}
    (hk : stores k = some a) (hnodup : new.Nodup) (hfresh : new.Disjoint taken)
    (hsub : (tokens a' ++ out).Subperm (tokens a ++ new)) :
    Ledger tokens (stores.insert k a') (given ++ out) (taken ++ new) := by
  have hall : (tokens a' ++ out).Nodup := by
    obtain ⟨l, hperm, hsub⟩ := hsub
    refine hperm.nodup_iff.1 (List.Nodup.sublist hsub ?_)
    exact List.nodup_append'.2 ⟨h.nodup k a hk, hnodup,
      fun t ht hn => hfresh hn (h.subset k a hk ht)⟩
  obtain ⟨hstore, hout, hapart⟩ := List.nodup_append'.1 hall
  -- What the store has then is neither given out nor kept elsewhere.
  have hmem {t : τ} (ht : t ∈ tokens a' ++ out) : t ∈ tokens a ∨ t ∈ new :=
    List.mem_append.1 (hsub.subset ht)
  have hgiven {t : τ} (ht : t ∈ tokens a' ++ out) (hg : t ∈ given) : False := by
    rcases hmem ht with ha | hn
    · exact h.disjoint k a hk ha hg
    · exact hfresh hn (h.given_subset hg)
  have helse {t : τ} (ht : t ∈ tokens a' ++ out) {k' : κ} {b : α} (hne : k' ≠ k)
      (hb : stores k' = some b) (htb : t ∈ tokens b) : False := by
    rcases hmem ht with ha | hn
    · exact h.apart k k' a b hne.symm hk hb ha htb
    · exact hfresh hn (h.subset k' b hb htb)
  have htaken : tokens a' ++ out ⊆ taken ++ new := by
    intro t ht
    rcases hmem ht with ha | hn
    · exact List.mem_append_left _ (h.subset k a hk ha)
    · exact List.mem_append_right _ hn
  -- The store is emptied, gives out what it does, and gets what it keeps.
  have hgive := ((h.remove k).mono (List.subset_append_left taken new)).give hout
    (fun t hg ho => hgiven (List.mem_append_right _ ho) hg)
    (fun k' b hb t htb ho => by
      obtain ⟨hne, hb⟩ := PartialMap.remove_eq_some.1 hb
      exact helse (List.mem_append_right _ ho) hne hb htb)
    (List.append_subset.1 htaken).2
  have hinsert := hgive.insert (k := k) hstore
    (List.disjoint_append_right.2 ⟨fun t ht => hgiven (List.mem_append_left _ ht), hapart⟩)
    (fun k' b hne hb t ht => helse (List.mem_append_left _ ht) hne
      (PartialMap.remove_eq_some.1 hb).2)
    (List.append_subset.1 htaken).1
  rwa [PartialMap.insert_remove] at hinsert

end Ledger
