import Mathlib.Data.List.Infix
import Mathlib.Data.List.Perm.Subperm
import Mathlib.Tactic.Common

/-!
# Machines and their runs

A deterministic machine with outputs (`Machine`): at each input it moves to a
next state and gives an output. A list of inputs determines a *run*: the state
it ends in (`Machine.exec`) and its *trace*, the inputs paired with the outputs
they got (`Machine.trace`). What its steps add to a list is gathered along a run
(`Machine.gather`).

What a run assumes of its environment, or what is claimed of its steps, is a
predicate on the state before a step and the input of the step, required all
along the run (`Machine.Along`). If a run ends with the first step whose output is
not allowed, it is required up to this step only (`Machine.AlongWhile`).

* `Along.invariant`: what holds initially and is preserved by every step of a
  run holds where it ends; `Along.invariant_trace` is the same for a relation
  between the trace so far and the state.
* `along_iff_forall`: a predicate holds along a run iff it holds at every
  split of its inputs, for the state reached there; `alongWhile_iff_forall`: it holds along a
  run until an output is not allowed iff it does at those splits before which all outputs are.
* `exists_of_exec`: what some steps can bring about holds at the end of a run only if it
  does at the start or the run has such a step.
* `exec_iff_exists`: what is brought about by some steps, and undone by none, holds
  at the end of a run iff it does at the start or the run has such a step.
* `Along.count_gather_add_le`: what is given out only against what was taken in, or is kept
  in reserve, is given out at most as often as it was taken in.
* `Along.count_gather_add_eq`: the same, if nothing is lost: what is given out or in reserve in the
  end was taken in or in reserve before.
* `Along.simulation`: a relation between the states of two machines that every step on the
  same input keeps holds at the ends of their runs on the same inputs.
* `Reaches.invariant`: what holds initially and is preserved by every step with an
  allowed output holds of the states such steps lead to (`Machine.Reaches`).
* `since_of_exec`: what only some steps bring about, and others end, holds at the end of a run
  because of one of the first kind, with none of the second kind since then (`Machine.Since`).
* `trace_eq_append_cons`: an entry of a trace is a step of the run, from the
  state reached by the inputs before it.
-/

/-- A deterministic machine: at each input, the next state and an output. -/
structure Machine (σ ι ο : Type*) where
  /-- One step. -/
  step : σ → ι → σ × ο

namespace Machine

variable {σ ι ο : Type*} (m : Machine σ ι ο)

/-- The state a run ends in. -/
def exec (s : σ) : List ι → σ
  | [] => s
  | i :: is => exec (m.step s i).1 is

/-- The trace of a run: its inputs, each with the output it got. -/
def trace (s : σ) : List ι → List (ι × ο)
  | [] => []
  | i :: is => (i, (m.step s i).2) :: trace (m.step s i).1 is

/-- `Q` holds at every step of the run, of the state before it and its input. -/
def Along (Q : σ → ι → Prop) (s : σ) : List ι → Prop
  | [] => True
  | i :: is => Q s i ∧ Along Q (m.step s i).1 is

instance Along.decidable {Q : σ → ι → Prop} [∀ s i, Decidable (Q s i)] :
    ∀ (s : σ) (is : List ι), Decidable (m.Along Q s is)
  | _, [] => .isTrue trivial
  | s, i :: is => @instDecidableAnd _ _ _ (Along.decidable (m.step s i).1 is)

/-- All outputs of the run satisfy `ok`. -/
def Outputs (ok : ο → Prop) (s : σ) (is : List ι) : Prop := m.Along (fun s i => ok (m.step s i).2) s is

instance Outputs.decidable {ok : ο → Prop} [DecidablePred ok] (s : σ) (is : List ι) :
    Decidable (m.Outputs ok s is) := inferInstanceAs (Decidable (m.Along _ s is))

/-- `Q` holds at every step of the run up to the first with an output that does not satisfy `ok`,
    and at this one. -/
def AlongWhile (ok : ο → Prop) (Q : σ → ι → Prop) (s : σ) : List ι → Prop
  | [] => True
  | i :: is => Q s i ∧ (ok (m.step s i).2 → AlongWhile ok Q (m.step s i).1 is)

/-- Some step of the run is one of `Q`, and since then all are of `R`. -/
def Since (Q R : σ → ι → Prop) (s : σ) (is : List ι) : Prop :=
  ∃ pre i post, is = pre ++ i :: post ∧ Q (m.exec s pre) i ∧
    m.Along R (m.step (m.exec s pre) i).1 post

/-- What the steps of a run add to a list, one after the other. -/
def gather {β : Type*} (f : σ → ι → List β) (s : σ) : List ι → List β
  | [] => []
  | i :: is => f s i ++ gather f (m.step s i).1 is

/-- The states reached by steps whose outputs satisfy `ok`. -/
inductive Reaches (ok : ο → Prop) (s₀ : σ) : σ → Prop
  | refl : Reaches ok s₀ s₀
  | step {s : σ} {i : ι} (hs : Reaches ok s₀ s) (hok : ok (m.step s i).2) :
      Reaches ok s₀ (m.step s i).1

variable {m}

@[simp] theorem exec_nil (s : σ) : m.exec s [] = s := rfl

@[simp] theorem exec_cons (s : σ) (i : ι) (is : List ι) :
    m.exec s (i :: is) = m.exec (m.step s i).1 is := rfl

@[simp] theorem trace_nil (s : σ) : m.trace s [] = [] := rfl

@[simp] theorem trace_cons (s : σ) (i : ι) (is : List ι) :
    m.trace s (i :: is) = (i, (m.step s i).2) :: m.trace (m.step s i).1 is := rfl

@[simp] theorem along_nil (Q : σ → ι → Prop) (s : σ) : m.Along Q s [] := trivial

@[simp] theorem along_cons (Q : σ → ι → Prop) (s : σ) (i : ι) (is : List ι) :
    m.Along Q s (i :: is) ↔ Q s i ∧ m.Along Q (m.step s i).1 is := Iff.rfl

@[simp] theorem map_fst_trace (s : σ) (is : List ι) : (m.trace s is).map Prod.fst = is := by
  induction is generalizing s with
  | nil => rfl
  | cons i is ih => rw [trace_cons, List.map_cons, ih]

theorem exec_append (s : σ) (is js : List ι) :
    m.exec s (is ++ js) = m.exec (m.exec s is) js := by
  induction is generalizing s with
  | nil => rfl
  | cons i is ih => exact ih _

@[simp] theorem gather_nil {β : Type*} (f : σ → ι → List β) (s : σ) : m.gather f s [] = [] := rfl

@[simp] theorem gather_cons {β : Type*} (f : σ → ι → List β) (s : σ) (i : ι) (is : List ι) :
    m.gather f s (i :: is) = f s i ++ m.gather f (m.step s i).1 is := rfl

theorem along_append {Q : σ → ι → Prop} {s : σ} {is js : List ι} :
    m.Along Q s (is ++ js) ↔ m.Along Q s is ∧ m.Along Q (m.exec s is) js := by
  induction is generalizing s with
  | nil => simp
  | cons i is ih => simp [ih, and_assoc]

/-- A predicate holds along a run iff it holds at every split of its inputs. -/
theorem along_iff_forall {Q : σ → ι → Prop} {s : σ} {is : List ι} :
    m.Along Q s is ↔ ∀ pre i post, is = pre ++ i :: post → Q (m.exec s pre) i := by
  constructor
  · rintro h pre i post rfl
    exact (along_append.1 h).2.1
  · intro h
    induction is generalizing s with
    | nil => trivial
    | cons i is ih =>
      refine ⟨h [] i is rfl, ih fun pre j post hj => ?_⟩
      exact h (i :: pre) j post (by rw [hj, List.cons_append])

/-- A predicate holds along a run until an output is not allowed iff it holds at every split of its
    inputs before which all outputs are. -/
theorem alongWhile_iff_forall {ok : ο → Prop} {Q : σ → ι → Prop} {s : σ} {is : List ι} :
    m.AlongWhile ok Q s is ↔
      ∀ pre i post, is = pre ++ i :: post → m.Outputs ok s pre → Q (m.exec s pre) i := by
  constructor
  · rintro h pre i post rfl hpre
    induction pre generalizing s with
    | nil => exact h.1
    | cons j pre ih => exact ih (h.2 hpre.1) hpre.2
  · intro h
    induction is generalizing s with
    | nil => trivial
    | cons i is ih =>
      refine ⟨h [] i is rfl trivial, fun hi => ih fun pre j post hj hpre => ?_⟩
      exact h (i :: pre) j post (by rw [hj, List.cons_append]) ⟨hi, hpre⟩

theorem Along.mono {Q R : σ → ι → Prop} (hQR : ∀ s i, Q s i → R s i) {s : σ} {is : List ι}
    (h : m.Along Q s is) : m.Along R s is := by
  rw [along_iff_forall] at h ⊢
  exact fun pre i post hi => hQR _ _ (h pre i post hi)

theorem Along.and {Q R : σ → ι → Prop} {s : σ} {is : List ι} (hQ : m.Along Q s is)
    (hR : m.Along R s is) : m.Along (fun s i => Q s i ∧ R s i) s is := by
  rw [along_iff_forall] at hQ hR ⊢
  exact fun pre i post hi => ⟨hQ pre i post hi, hR pre i post hi⟩

theorem Along.and_forall {Q : σ → ι → Prop} {P : ι → Prop} {s : σ} {is : List ι} (h : m.Along Q s is)
    (hP : ∀ i ∈ is, P i) : m.Along (fun s i => Q s i ∧ P i) s is := by
  rw [along_iff_forall] at h ⊢
  rintro pre i post rfl
  exact ⟨h pre i post rfl, hP i (List.mem_append_right _ List.mem_cons_self)⟩

/-- Predicates that agree at every step agree along every run. -/
theorem along_congr {Q R : σ → ι → Prop} (h : ∀ s i, Q s i ↔ R s i) {s : σ} {is : List ι} :
    m.Along Q s is ↔ m.Along R s is :=
  ⟨.mono fun s i => (h s i).1, .mono fun s i => (h s i).2⟩

theorem along_true (s : σ) (is : List ι) : m.Along (fun _ _ => True) s is :=
  along_iff_forall.2 fun _ _ _ _ => trivial

/-- What holds initially and is preserved by every step holds in the end. -/
theorem Along.invariant {Q : σ → ι → Prop} {P : σ → Prop}
    (hstep : ∀ s i, P s → Q s i → P (m.step s i).1) {s : σ} {is : List ι} (h : m.Along Q s is)
    (hs : P s) : P (m.exec s is) := by
  induction is generalizing s with
  | nil => exact hs
  | cons i is ih => exact ih h.2 (hstep s i hs h.1)

/-- What holds of the empty trace and the initial state, and is preserved by
    every step, holds of the trace and the state in the end. -/
theorem Along.invariant_trace {Q : σ → ι → Prop} {P : List (ι × ο) → σ → Prop}
    (hstep : ∀ tr s i, P tr s → Q s i → P (tr ++ [(i, (m.step s i).2)]) (m.step s i).1)
    {s : σ} {is : List ι} (h : m.Along Q s is) (hs : P [] s) :
    P (m.trace s is) (m.exec s is) := by
  suffices ∀ tr, P tr s → P (tr ++ m.trace s is) (m.exec s is) by simpa using this [] hs
  clear hs
  induction is generalizing s with
  | nil => intro tr htr; simpa using htr
  | cons i is ih =>
    intro tr htr
    simpa using ih h.2 _ (hstep tr s i htr h.1)

/-- A relation between the states of two machines, kept by every step of both on the same
    input, holds where their runs on the same inputs end. -/
theorem Along.simulation {τ π : Type*} {n : Machine τ ι π} {Q : τ → ι → Prop} {R : σ → τ → Prop}
    (hstep : ∀ s t i, R s t → Q t i → R (m.step s i).1 (n.step t i).1) {s : σ} {t : τ} {is : List ι}
    (h : n.Along Q t is) (hst : R s t) : R (m.exec s is) (n.exec t is) := by
  induction is generalizing s t with
  | nil => exact hst
  | cons i is ih => exact ih h.2 (hstep s t i hst h.1)

theorem gather_append {β : Type*} (f : σ → ι → List β) (s : σ) (is js : List ι) :
    m.gather f s (is ++ js) = m.gather f s is ++ m.gather f (m.exec s is) js := by
  induction is generalizing s with
  | nil => rfl
  | cons i is ih => rw [List.cons_append, gather_cons, gather_cons, ih, List.append_assoc, exec_cons]

/-- What is gathered along a run was added by one of its steps. -/
theorem exists_of_mem_gather {β : Type*} {f : σ → ι → List β} {s : σ} {is : List ι} {b : β}
    (h : b ∈ m.gather f s is) :
    ∃ pre i post, is = pre ++ i :: post ∧ b ∈ f (m.exec s pre) i := by
  induction is generalizing s with
  | nil => cases h
  | cons i is ih =>
    rcases List.mem_append.1 h with h | h
    · exact ⟨[], i, is, rfl, h⟩
    · obtain ⟨pre, j, post, rfl, hj⟩ := ih h
      exact ⟨i :: pre, j, post, rfl, hj⟩

/-- If no step gives out more than it takes in or takes from the reserve, no more is given out in
    a run than was taken in or in reserve before. -/
theorem Along.count_gather_add_le {β : Type*} [BEq β] {Q : σ → ι → Prop}
    {out taken : σ → ι → List β} (reserve : σ → ℕ) {b : β}
    (hstep : ∀ s i, Q s i →
      (out s i).count b + reserve (m.step s i).1 ≤ (taken s i).count b + reserve s)
    {s : σ} {is : List ι} (h : m.Along Q s is) :
    (m.gather out s is).count b + reserve (m.exec s is) ≤
      (m.gather taken s is).count b + reserve s := by
  induction is generalizing s with
  | nil => simp
  | cons i is ih =>
    have hi := hstep s i h.1
    have his := ih h.2
    rw [gather_cons, gather_cons, List.count_append, List.count_append, exec_cons]
    omega

/-- If every step gives out what it takes in, or takes from the reserve or adds to it, as much is given
    out in a run or in reserve in the end as was taken in or in reserve before. -/
theorem Along.count_gather_add_eq {β : Type*} [BEq β] {out taken : σ → ι → List β} (reserve : σ → ℕ)
    {b : β} {s : σ} {is : List ι}
    (h : m.Along (fun s i =>
      (out s i).count b + reserve (m.step s i).1 = (taken s i).count b + reserve s) s is) :
    (m.gather out s is).count b + reserve (m.exec s is) =
      (m.gather taken s is).count b + reserve s := by
  induction is generalizing s with
  | nil => rfl
  | cons i is ih =>
    have hi := h.1
    have his := ih h.2
    rw [gather_cons, gather_cons, List.count_append, List.count_append, exec_cons]
    omega

/-- What is gathered of two kinds is gathered of each. -/
theorem count_gather_add {β : Type*} [BEq β] (f g : σ → ι → List β) (b : β) (s : σ) (is : List ι) :
    (m.gather (fun s i => f s i ++ g s i) s is).count b =
      (m.gather f s is).count b + (m.gather g s is).count b := by
  induction is generalizing s with
  | nil => rfl
  | cons i is ih =>
    simp only [gather_cons, List.count_append, ih]
    omega

/-- What occurs no more often in a list than in another does not after mapping both. -/
theorem count_map_le {α β : Type*} [BEq α] [LawfulBEq α] [BEq β] {l l' : List α}
    (h : ∀ a, l.count a ≤ l'.count a) (f : α → β) (b : β) :
    (l.map f).count b ≤ (l'.map f).count b := by
  obtain ⟨l'', hperm, hsub⟩ := List.subperm_ext_iff.2 fun a _ => h a
  rw [← (hperm.map f).count_eq]
  exact (hsub.map f).count_le b

theorem Reaches.invariant {ok : ο → Prop} {P : σ → Prop}
    (hstep : ∀ s i, P s → ok (m.step s i).2 → P (m.step s i).1) {s₀ s : σ}
    (h : m.Reaches ok s₀ s) (hs₀ : P s₀) : P s := by
  induction h with
  | refl => exact hs₀
  | step _ hok ih => exact hstep _ _ ih hok

/-- What only the steps of `Q` bring about holds in the end only if it does at the start or
    some step is one of `Q`. -/
theorem exists_of_exec {P : σ → Prop} {Q : σ → ι → Prop}
    (hstep : ∀ s i, P (m.step s i).1 → P s ∨ Q s i) {s : σ} {is : List ι} (h : P (m.exec s is)) :
    P s ∨ ∃ pre i post, is = pre ++ i :: post ∧ Q (m.exec s pre) i := by
  induction is generalizing s with
  | nil => exact .inl h
  | cons i is ih =>
    rcases ih h with h | ⟨pre, j, post, rfl, hQ⟩
    · exact (hstep s i h).imp_right fun hQ => ⟨[], i, is, rfl, hQ⟩
    · exact .inr ⟨i :: pre, j, post, rfl, hQ⟩

/-- What only the steps of `Q` bring about, and only those of `R` leave as it is, holds in the end
    only if some step was one of `Q` and all since then of `R`, or it does at the start and all
    steps are of `R`. -/
theorem since_of_exec {P : σ → Prop} {Q R : σ → ι → Prop}
    (hstep : ∀ s i, P (m.step s i).1 → Q s i ∨ (P s ∧ R s i)) {s : σ} {is : List ι}
    (h : P (m.exec s is)) : (P s ∧ m.Along R s is) ∨ m.Since Q R s is := by
  induction is generalizing s with
  | nil => exact .inl ⟨h, trivial⟩
  | cons i is ih =>
    rcases ih h with ⟨hP, hR⟩ | ⟨pre, j, post, rfl, hQ, hR⟩
    · rcases hstep s i hP with hQ | ⟨hs, hi⟩
      · exact .inr ⟨[], i, is, rfl, hQ, hR⟩
      · exact .inl ⟨hs, hi, hR⟩
    · exact .inr ⟨i :: pre, j, post, rfl, hQ, hR⟩

/-- What is brought about exactly by the steps of `Q`, and lasts, holds in the end iff
    it does at the start or some step is one of `Q`. -/
theorem exec_iff_exists {P : σ → Prop} {Q : σ → ι → Prop}
    (hstep : ∀ s i, P (m.step s i).1 ↔ P s ∨ Q s i) (s : σ) (is : List ι) :
    P (m.exec s is) ↔ P s ∨ ∃ pre i post, is = pre ++ i :: post ∧ Q (m.exec s pre) i := by
  induction is generalizing s with
  | nil => simp
  | cons i is ih =>
    rw [exec_cons, ih, hstep, or_assoc]
    refine or_congr_right ⟨?_, ?_⟩
    · rintro (h | ⟨pre, j, post, rfl, h⟩)
      · exact ⟨[], i, is, rfl, h⟩
      · exact ⟨i :: pre, j, post, rfl, h⟩
    · rintro ⟨_ | ⟨j, pre⟩, k, post, heq, h⟩
      · obtain ⟨rfl, rfl⟩ := List.cons.inj heq
        exact .inl h
      · obtain ⟨rfl, rfl⟩ := List.cons.inj heq
        exact .inr ⟨pre, k, post, rfl, h⟩

/-- An entry of a trace is a step of the run, from the state the inputs before
    it lead to. -/
theorem trace_eq_append_cons {s : σ} {is : List ι} {pre post : List (ι × ο)} {e : ι × ο}
    (h : m.trace s is = pre ++ e :: post) :
    ∃ is₁ is₂, is = is₁ ++ e.1 :: is₂ ∧ m.trace s is₁ = pre ∧
      (m.step (m.exec s is₁) e.1).2 = e.2 := by
  induction is generalizing s pre with
  | nil => simp at h
  | cons i is ih =>
    cases pre with
    | nil =>
      obtain ⟨rfl, -⟩ := List.cons.inj h
      exact ⟨[], is, rfl, rfl, rfl⟩
    | cons e' pre =>
      obtain ⟨rfl, htr⟩ := List.cons.inj h
      obtain ⟨is₁, is₂, rfl, rfl, he⟩ := ih htr
      exact ⟨i :: is₁, is₂, rfl, rfl, he⟩

/-- All outputs of a run satisfy `ok` iff those of its trace do. -/
theorem outputs_iff_trace {ok : ο → Prop} {s : σ} {is : List ι} :
    m.Outputs ok s is ↔ ∀ e ∈ m.trace s is, ok e.2 := by
  induction is generalizing s with
  | nil => simp [Outputs]
  | cons i is ih =>
    rw [trace_cons, List.forall_mem_cons]
    exact and_congr_right fun _ => ih

end Machine
