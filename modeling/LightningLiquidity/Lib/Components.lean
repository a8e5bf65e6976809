import LightningLiquidity.Lib.Machine

/-!
# Machines made of components

A machine is made of components (`Machine.Componentwise`) where each input is for one
component at most: it does the same to it in any two states of which it is the same
(`part`), and gives the same there; to the other components it does nothing.

* `Componentwise.alone`: the inputs of one component do and give the same as if they
  were the only ones.
* `Componentwise.interleaving`: of two runs that have the same inputs of each
  component, in the same order, the components end the same, and their inputs give
  the same, in whatever order those of different components come.
-/

namespace Machine

variable {σ ι ο κ α : Type*}

/-- Each allowed input is for one component, or none: in states of the invariant it reads and
    changes no other. -/
structure Componentwise (m : Machine σ ι ο) (component : ι → Option κ) (part : κ → σ → α)
    (Inv : σ → Prop) (Allowed : ι → Prop) : Prop where
  inv : ∀ {s i}, Inv s → Allowed i → Inv (m.step s i).1
  here : ∀ {k s t i}, Inv s → Inv t → Allowed i → component i = some k → part k s = part k t →
    part k (m.step s i).1 = part k (m.step t i).1 ∧ (m.step s i).2 = (m.step t i).2
  elsewhere : ∀ {k s i}, Inv s → Allowed i → component i ≠ some k →
    part k (m.step s i).1 = part k s

namespace Componentwise

variable {m : Machine σ ι ο} {component : ι → Option κ} {part : κ → σ → α} {Inv : σ → Prop}
  {Allowed : ι → Prop} [DecidableEq κ]

/-- The inputs of one component do and give the same as if they were the only ones. -/
theorem alone (hm : m.Componentwise component part Inv Allowed) (k : κ) {s t : σ} {is : List ι}
    (hs : Inv s) (ht : Inv t) (his : ∀ i ∈ is, Allowed i) (hst : part k s = part k t) :
    part k (m.exec s is) = part k (m.exec t (is.filter fun i => component i = some k)) ∧
      (m.trace s is).filter (fun e => component e.1 = some k) =
        m.trace t (is.filter fun i => component i = some k) := by
  induction is generalizing s t with
  | nil => exact ⟨hst, rfl⟩
  | cons i is ih =>
    have hi := his i List.mem_cons_self
    have his' : ∀ j ∈ is, Allowed j := fun j hj => his j (List.mem_cons_of_mem _ hj)
    by_cases hk : component i = some k
    · obtain ⟨hpart, hout⟩ := hm.here hs ht hi hk hst
      obtain ⟨hexec, htrace⟩ := ih (hm.inv hs hi) (hm.inv ht hi) his' hpart
      rw [List.filter_cons_of_pos (by simpa using hk), exec_cons, exec_cons, trace_cons, trace_cons,
        List.filter_cons_of_pos (by simpa using hk), hout]
      exact ⟨hexec, congrArg _ htrace⟩
    · rw [List.filter_cons_of_neg (by simpa using hk), exec_cons, trace_cons,
        List.filter_cons_of_neg (by simpa using hk)]
      exact ih (hm.inv hs hi) ht his' ((hm.elsewhere hs hi hk).trans hst)

/-- Runs that interleave the same inputs of each component end in the same components, and each
    component is given the same. -/
theorem interleaving (hm : m.Componentwise component part Inv Allowed) {s : σ} {is js : List ι}
    (hs : Inv s) (his : ∀ i ∈ is, Allowed i) (hjs : ∀ i ∈ js, Allowed i)
    (h : ∀ k, is.filter (fun i => component i = some k) = js.filter fun i => component i = some k)
    (k : κ) : part k (m.exec s is) = part k (m.exec s js) ∧
      (m.trace s is).filter (fun e => component e.1 = some k) =
        (m.trace s js).filter fun e => component e.1 = some k := by
  obtain ⟨hexec, htrace⟩ := hm.alone k hs hs his rfl
  obtain ⟨hexec', htrace'⟩ := hm.alone k hs hs hjs rfl
  rw [h k] at hexec htrace
  exact ⟨hexec.trans hexec'.symm, htrace.trans htrace'.symm⟩

end Componentwise

end Machine
