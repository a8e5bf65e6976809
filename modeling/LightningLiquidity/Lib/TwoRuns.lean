import LightningLiquidity.Lib.Machine

/-!
# Runs with inserted inputs

Two runs of a machine, one of which has further inputs inserted anywhere (`Inserts`).
What is observed of both is the same, if the inputs inserted give nothing to observe, and
a relation between the states of the two runs is kept, at the inputs of both, where the
same is observed, and at those inserted (`Inserts.unwind`).
-/

/-- The second list is the first one with elements of `P` inserted. -/
inductive Inserts {ι : Type*} (P : ι → Prop) : List ι → List ι → Prop
  | nil : Inserts P [] []
  | both {is js : List ι} (i : ι) (h : Inserts P is js) : Inserts P (i :: is) (i :: js)
  | insert {is js : List ι} {i : ι} (hi : P i) (h : Inserts P is js) : Inserts P is (i :: js)

namespace Inserts

variable {σ ι ο β : Type*} {m : Machine σ ι ο} {P : ι → Prop} {Q : σ → ι → Prop} {R : σ → σ → Prop}
  {observe : σ → ι → List β} {is js : List ι}

theorem subset (h : Inserts P is js) : is ⊆ js := by
  induction h with
  | nil => exact List.Subset.refl _
  | both i _ ih => exact List.cons_subset_cons i ih
  | insert _ _ ih => exact List.subset_cons_of_subset _ ih

/-- Two runs are observed to be the same, if each step keeps a relation of their states. -/
theorem unwind
    (hboth : ∀ s t i, R s t → Q s i → Q t i →
      R (m.step s i).1 (m.step t i).1 ∧ observe s i = observe t i)
    (hinsert : ∀ s t i, R s t → P i → Q t i → R s (m.step t i).1 ∧ observe t i = [])
    (h : Inserts P is js) {s t : σ} (hst : R s t) (hs : m.Along Q s is) (ht : m.Along Q t js) :
    R (m.exec s is) (m.exec t js) ∧ m.gather observe s is = m.gather observe t js := by
  induction h generalizing s t with
  | nil => exact ⟨hst, rfl⟩
  | both i _ ih =>
    obtain ⟨hR, hobserve⟩ := hboth s t i hst hs.1 ht.1
    obtain ⟨hR, hgather⟩ := ih hR hs.2 ht.2
    exact ⟨hR, by rw [Machine.gather_cons, Machine.gather_cons, hobserve, hgather]⟩
  | @insert _ _ i hi _ ih =>
    obtain ⟨hR, hobserve⟩ := hinsert s t i hst hi ht.1
    obtain ⟨hR, hgather⟩ := ih hR hs ht.2
    exact ⟨hR, by rw [Machine.gather_cons, hobserve, List.nil_append, hgather]⟩

end Inserts
