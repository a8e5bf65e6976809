import LightningLiquidity.Lib.Machine
import Mathlib.Data.Fintype.Basic
import Mathlib.Data.Set.Basic

/-!
# Threads that acquire and release locks

Threads that run programs of acquisitions and releases of reader/writer locks
(`LockOp`), interleaved in any way (`lockMachine`). A lock that is only ever
written is a mutex. A thread is blocked on a lock that another holds in a mode
that conflicts; where writers come first, a reader is also blocked by a writer
that waits (`Blocked`). Threads each of which is blocked on a lock that another
one of them holds are deadlocked (`Deadlocked`).

* `always_exec`: what holds of the locks held and the operations to come, all
  along every program, holds of every thread in every run.
* `exclusive_exec`: no two threads ever hold a lock in modes that conflict.
* `pairwise_exec`: a relation between any two threads lasts, if no start, release or
  acquisition ends it.
* `Deadlocked.exists_rank_le`: among deadlocked threads, one is about to acquire
  a lock while it holds one whose rank is not smaller.
* `deadlocked_pair`: two threads each about to write a lock that the other one holds
  are deadlocked.
-/

/-- How a lock is held: by any number of threads that read, or by one that writes. -/
inductive LockMode
  | read
  | write
  deriving DecidableEq

/-- Two modes in which a lock cannot be held by two threads. -/
def LockMode.Conflicts (m m' : LockMode) : Prop := m = write ∨ m' = write

instance (m m' : LockMode) : Decidable (m.Conflicts m') := inferInstanceAs (Decidable (_ ∨ _))

theorem LockMode.Conflicts.symm {m m' : LockMode} (h : m.Conflicts m') : m'.Conflicts m := Or.symm h

/-- An acquisition or a release of a lock. -/
inductive LockOp (κ : Type*)
  | acquire (l : κ) (m : LockMode)
  | release (l : κ)
  deriving DecidableEq

/-- A thread: the locks it holds, and the operations to come. -/
structure LockThread (κ : Type*) where
  held : List (κ × LockMode)
  todo : List (LockOp κ)

/-- What threads do: one starts a program, or makes its next operation. -/
inductive LockInput (τ π : Type*)
  | start (t : τ) (prog : π)
  | go (t : τ)

variable {τ κ π : Type*}

/-- A program that acquires locks, and releases them in reverse. -/
def LockOp.nested (ls : List (κ × LockMode)) : List (LockOp κ) :=
  ls.map (fun l => .acquire l.1 l.2) ++ ls.reverse.map fun l => .release l.1

@[simp] theorem LockOp.acquire_mem_nested {l : κ} {m : LockMode} {ls : List (κ × LockMode)} :
    acquire l m ∈ nested ls ↔ (l, m) ∈ ls := by
  simp [nested]

/-- Threads that have not started. -/
def idleThreads : τ → LockThread κ := fun _ => { held := [], todo := [] }

/-- No thread but the given one holds the lock in a mode that conflicts. -/
def LockFree (s : τ → LockThread κ) (t : τ) (l : κ) (m : LockMode) : Prop :=
  ∀ t', t' ≠ t → ∀ h ∈ (s t').held, h.1 = l → ¬m.Conflicts h.2

/-- No two threads hold a lock in modes that conflict. -/
def Exclusive (s : τ → LockThread κ) : Prop := ∀ t, ∀ h ∈ (s t).held, LockFree s t h.1 h.2

/-- A lock that a thread reads is free to be read. -/
theorem Exclusive.lockFree_read {s : τ → LockThread κ} (hs : Exclusive s) {t : τ} {l : κ}
    (hread : (l, .read) ∈ (s t).held) (hwrite : (l, .write) ∉ (s t).held) (u : τ) :
    LockFree s u l .read := by
  rintro t' - ⟨l', m'⟩ he rfl hc
  obtain rfl : m' = .write := hc.resolve_left (by decide)
  by_cases hne : t' = t
  · subst hne
    exact hwrite he
  · exact hs t' _ he t (Ne.symm hne) _ hread rfl (.inl rfl)

/-- A thread cannot acquire a lock: it is not free, or a writer that waits for it
    comes first. -/
def Blocked (writersFirst : Prop) (s : τ → LockThread κ) (t : τ) (l : κ) (m : LockMode) : Prop :=
  ¬LockFree s t l m ∨
    writersFirst ∧ m = .read ∧ ∃ t' todo, (s t').todo = .acquire l .write :: todo

/-- Threads each of which waits for a lock that another one of them holds. -/
structure Deadlocked (writersFirst : Prop) (s : τ → LockThread κ) (S : Set τ) : Prop where
  nonempty : S.Nonempty
  waits : ∀ t ∈ S, ∃ l m todo, (s t).todo = .acquire l m :: todo ∧ Blocked writersFirst s t l m ∧
    ∃ t' ∈ S, t' ≠ t ∧ ∃ h ∈ (s t').held, h.1 = l

/-- Among threads that are deadlocked, one is about to acquire a lock while it holds one
    whose rank is not smaller. -/
theorem Deadlocked.exists_rank_le {writersFirst : Prop} {s : τ → LockThread κ} {S : Set τ}
    (h : Deadlocked writersFirst s S) (rank : κ → ℕ) {n : ℕ} (hrank : ∀ l, rank l < n) :
    ∃ t ∈ S, ∃ l m todo, (s t).todo = .acquire l m :: todo ∧ ∃ h ∈ (s t).held, rank l ≤ rank h.1 := by
  by_contra hne
  push Not at hne
  -- Otherwise the holder of a lock waits for one of greater rank, and so on without end.
  have hchain : ∀ k, ∃ t ∈ S, ∃ l m todo, (s t).todo = .acquire l m :: todo ∧ k ≤ rank l := by
    intro k
    induction k with
    | zero =>
      obtain ⟨t, ht⟩ := h.nonempty
      obtain ⟨l, m, todo, htodo, -⟩ := h.waits t ht
      exact ⟨t, ht, l, m, todo, htodo, Nat.zero_le _⟩
    | succ k ih =>
      obtain ⟨t, ht, l, m, todo, htodo, hk⟩ := ih
      obtain ⟨l₁, m₁, todo₁, htodo₁, -, t', ht', -, e, he, hel⟩ := h.waits t ht
      rw [htodo] at htodo₁
      obtain ⟨⟨rfl, rfl⟩, rfl⟩ := by simpa using htodo₁
      obtain ⟨l', m', todo', htodo', -⟩ := h.waits t' ht'
      have hlt := hne t' ht' l' m' todo' htodo' e he
      rw [hel] at hlt
      exact ⟨t', ht', l', m', todo', htodo', hk.trans_lt hlt⟩
  obtain ⟨t, -, l, m, todo, -, hn⟩ := hchain n
  exact absurd (hrank l) (not_lt.2 hn)

/-- Two threads each about to write a lock that the other one holds are deadlocked. -/
theorem deadlocked_pair {writersFirst : Prop} {s : τ → LockThread κ} {t u : τ} (hne : u ≠ t)
    {l l' : κ} {todo todo' : List (LockOp κ)} (htodo : (s t).todo = .acquire l .write :: todo)
    (hheld : ∃ e ∈ (s u).held, e.1 = l) (htodo' : (s u).todo = .acquire l' .write :: todo')
    (hheld' : ∃ e ∈ (s t).held, e.1 = l') : Deadlocked writersFirst s {t, u} := by
  refine ⟨⟨t, .inl rfl⟩, ?_⟩
  rintro v (rfl | rfl)
  · obtain ⟨e, he, hel⟩ := hheld
    exact ⟨_, _, _, htodo, .inl fun hfree => hfree u hne e he hel (.inl rfl), u, .inr rfl, hne, e,
      he, hel⟩
  · obtain ⟨e, he, hel⟩ := hheld'
    exact ⟨_, _, _, htodo', .inl fun hfree => hfree t hne.symm e he hel (.inl rfl), t, .inl rfl,
      hne.symm, e, he, hel⟩

variable [DecidableEq κ]

/-- The locks held after an operation. -/
def LockOp.apply (held : List (κ × LockMode)) : LockOp κ → List (κ × LockMode)
  | acquire l m => (l, m) :: held
  | release l => held.filter fun h => h.1 ≠ l

/-- `F` holds of the locks held and the operations to come, now and after each operation. -/
def LockAlways (F : List (κ × LockMode) → List (LockOp κ) → Prop) :
    List (κ × LockMode) → List (LockOp κ) → Prop
  | held, [] => F held []
  | held, op :: todo => F held (op :: todo) ∧ LockAlways F (op.apply held) todo

theorem LockAlways.now {F : List (κ × LockMode) → List (LockOp κ) → Prop}
    {held : List (κ × LockMode)} {todo : List (LockOp κ)} (h : LockAlways F held todo) :
    F held todo := by
  cases todo with
  | nil => exact h
  | cons op todo => exact h.1

variable [DecidableEq τ] [Fintype τ]

instance (s : τ → LockThread κ) (t : τ) (l : κ) (m : LockMode) : Decidable (LockFree s t l m) :=
  inferInstanceAs (Decidable (∀ _, _ → ∀ _ ∈ _, _ → _))

/-- The threads, once one has made its next operation. An acquisition is only made if the
    lock is free. -/
def lockGo (s : τ → LockThread κ) (t : τ) : τ → LockThread κ :=
  match (s t).todo with
  | [] => s
  | .acquire l m :: todo =>
    if LockFree s t l m then Function.update s t { held := (l, m) :: (s t).held, todo } else s
  | .release l :: todo => Function.update s t { held := (LockOp.release l).apply (s t).held, todo }

/-- Threads that run programs, the operations of which are given. A thread starts a program
    once it has finished the one before. -/
def lockMachine (ops : π → List (LockOp κ)) : Machine (τ → LockThread κ) (LockInput τ π) Unit where
  step s i :=
    (match i with
      | .start t prog =>
        if (s t).todo = [] then Function.update s t { held := (s t).held, todo := ops prog } else s
      | .go t => lockGo s t, ())

/-- A step of a thread is none, an acquisition of a lock that is free, or a release. -/
theorem lockGo_cases (s : τ → LockThread κ) (t : τ) :
    lockGo s t = s ∨
    (∃ l m todo, (s t).todo = .acquire l m :: todo ∧ LockFree s t l m ∧
      lockGo s t = Function.update s t { held := (l, m) :: (s t).held, todo }) ∨
    ∃ l todo, (s t).todo = .release l :: todo ∧
      lockGo s t = Function.update s t { held := (LockOp.release l).apply (s t).held, todo } := by
  rw [lockGo]
  split
  · exact .inl rfl
  · next l m todo htodo =>
    split
    · next hfree => exact .inr (.inl ⟨l, m, todo, htodo, hfree, rfl⟩)
    · exact .inl rfl
  · next l todo htodo => exact .inr (.inr ⟨l, todo, htodo, rfl⟩)

section Runs

variable {ops : π → List (LockOp κ)} {F : List (κ × LockMode) → List (LockOp κ) → Prop}
  {s : τ → LockThread κ}

omit [DecidableEq κ] [Fintype τ] in
/-- What holds of a thread and of all others holds of all threads. -/
theorem forall_update {P : τ → LockThread κ → Prop} {t : τ} {th : LockThread κ} (ht : P t th)
    (hs : ∀ t', t' ≠ t → P t' (s t')) : ∀ t', P t' (Function.update s t th t') := by
  intro t'
  by_cases h : t' = t
  · subst h
    rwa [Function.update_self]
  · rw [Function.update_of_ne h]
    exact hs t' h

/-- What holds along every program holds of every thread. -/
theorem always_exec (hops : ∀ prog, LockAlways F [] (ops prog)) (hdone : F [] [])
    (hnil : ∀ held, F held [] → held = []) (is : List (LockInput τ π)) :
    ∀ t, LockAlways F ((lockMachine ops).exec idleThreads is t).held
      ((lockMachine ops).exec idleThreads is t).todo := by
  refine Machine.Along.invariant (m := lockMachine ops)
    (P := fun s => ∀ t, LockAlways F (s t).held (s t).todo) (fun s i hs _ => ?_)
    (Machine.along_true _ is) fun _ => hdone
  cases i with
  | start t prog =>
    show ∀ t', LockAlways F ((if (s t).todo = [] then Function.update s t _ else s) t').held
      ((if (s t).todo = [] then Function.update s t _ else s) t').todo
    split
    · next hempty =>
      have hnow := (hs t).now
      rw [hempty] at hnow
      refine forall_update (P := fun _ th => LockAlways F th.held th.todo) ?_ fun t' _ => hs t'
      rw [hnil _ hnow]
      exact hops prog
    · exact hs
  | go t =>
    show ∀ t', LockAlways F (lockGo s t t').held (lockGo s t t').todo
    have ht := hs t
    rcases lockGo_cases s t with h | ⟨l, m, todo, htodo, -, h⟩ | ⟨l, todo, htodo, h⟩
    · rw [h]
      exact hs
    · rw [htodo] at ht
      rw [h]
      exact forall_update (P := fun _ th => LockAlways F th.held th.todo) ht.2 fun t' _ => hs t'
    · rw [htodo] at ht
      rw [h]
      exact forall_update (P := fun _ th => LockAlways F th.held th.todo) ht.2 fun t' _ => hs t'

/-- A relation between threads that is symmetric, and that no start, release or acquisition
    of a run ends, is kept. -/
theorem pairwise_exec {R : LockThread κ → LockThread κ → Prop}
    {Q : (τ → LockThread κ) → LockInput τ π → Prop} (hsymm : ∀ a b, R a b → R b a)
    (hidle : R { held := [], todo := [] } { held := [], todo := [] })
    (hstart : ∀ s t prog, Q s (.start t prog) → (s t).todo = [] → ∀ t', t' ≠ t →
      R (s t) (s t') → R { held := (s t).held, todo := ops prog } (s t'))
    (hacquire : ∀ s t l m todo, Q s (.go t) → (s t).todo = .acquire l m :: todo →
      LockFree s t l m → ∀ t', t' ≠ t → R (s t) (s t') →
      R { held := (l, m) :: (s t).held, todo } (s t'))
    (hrelease : ∀ held l todo b, R { held, todo := .release l :: todo } b →
      R { held := (LockOp.release l).apply held, todo } b)
    {is : List (LockInput τ π)} (h : (lockMachine ops).Along Q idleThreads is) :
    ∀ t t', t' ≠ t →
      R ((lockMachine ops).exec idleThreads is t) ((lockMachine ops).exec idleThreads is t') := by
  -- A step changes one thread: the pairs without it are as before, those with it by symmetry.
  have hupdate : ∀ (s : τ → LockThread κ) t th, (∀ t₁ t₂, t₂ ≠ t₁ → R (s t₁) (s t₂)) →
      (∀ t', t' ≠ t → R th (s t')) →
      ∀ t₁ t₂, t₂ ≠ t₁ → R (Function.update s t th t₁) (Function.update s t th t₂) := by
    intro s t th hs hth t₁ t₂ hne
    by_cases h₁ : t₁ = t
    · subst h₁
      rw [Function.update_self, Function.update_of_ne hne]
      exact hth t₂ hne
    · rw [Function.update_of_ne h₁]
      refine forall_update (P := fun t₂ th => t₂ ≠ t₁ → R (s t₁) th) ?_ (fun t₂ _ => hs t₁ t₂) t₂ hne
      exact fun _ => hsymm _ _ (hth t₁ h₁)
  refine Machine.Along.invariant (m := lockMachine ops)
    (P := fun s => ∀ t t', t' ≠ t → R (s t) (s t')) (fun s i hs hi => ?_) h fun _ _ _ => hidle
  cases i with
  | start t prog =>
    show ∀ t₁ t₂, t₂ ≠ t₁ → R ((if (s t).todo = [] then Function.update s t _ else s) t₁)
      ((if (s t).todo = [] then Function.update s t _ else s) t₂)
    split
    · next hempty => exact hupdate s t _ hs fun t' ht' => hstart s t prog hi hempty t' ht' (hs t t' ht')
    · exact hs
  | go t =>
    show ∀ t₁ t₂, t₂ ≠ t₁ → R (lockGo s t t₁) (lockGo s t t₂)
    rcases lockGo_cases s t with h | ⟨l, m, todo, htodo, hfree, h⟩ | ⟨l, todo, htodo, h⟩
    · rw [h]
      exact hs
    · rw [h]
      exact hupdate s t _ hs fun t' ht' => hacquire s t l m todo hi htodo hfree t' ht' (hs t t' ht')
    · rw [h]
      refine hupdate s t _ hs fun t' ht' => hrelease _ _ _ _ ?_
      rw [← htodo]
      exact hs t t' ht'

theorem exclusive_exec (is : List (LockInput τ π)) :
    Exclusive ((lockMachine ops).exec (idleThreads (τ := τ)) is) := by
  have hpair := pairwise_exec (τ := τ)
    (R := fun a b => ∀ h ∈ a.held, ∀ h' ∈ b.held, h'.1 = h.1 → ¬h.2.Conflicts h'.2)
    (fun a b hab h hh h' hh' heq hc => hab h' hh' h hh heq.symm hc.symm)
    (fun h hh => absurd hh List.not_mem_nil)
    (fun s t prog _ _ t' _ hR => hR) ?_ ?_ (Machine.along_true (m := lockMachine ops) _ is)
  · exact fun t h hh t' ht' h' hh' heq => hpair t t' ht' h hh h' hh' heq
  · intro s t l m todo _ _ hfree t' ht' hR h hh h' hh' heq
    rcases List.mem_cons.1 hh with rfl | hh
    · exact hfree t' ht' h' hh' heq
    · exact hR h hh h' hh' heq
  · exact fun held l todo b hR h hh => hR h (List.mem_filter.1 hh).1

end Runs
