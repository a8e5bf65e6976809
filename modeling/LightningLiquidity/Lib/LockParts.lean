import LightningLiquidity.Lib.Locks
import Mathlib.Data.PEquiv

/-!
# Locks of a part of a program

Programs are put together of critical sections (`LockOp.around`); what a section
acquires, by the locks held, is checked section by section (`KeepsHeld`).

Some of the locks are those of a part of the program: what threads do to these is
what threads of the part alone do (`LockThread.part`). Where the other locks are
acquired in the order of a rank, and none of the part while one of the others is
held (`Outranks`), a deadlock is one of the part.

* `always_of_keepsHeld`: what holds of the locks held by sections that are checked,
  holds all along a program.
* `Deadlocked.part`: threads that are deadlocked are so over the locks of the part.
-/

variable {τ κ κ' ι : Type*}

/-! ## Critical sections -/

/-- Operations made while locks are held, which are acquired before them and released
    after them in reverse. -/
def LockOp.around (ls : List (κ × LockMode)) (body : List (LockOp κ)) : List (LockOp κ) :=
  ls.map (fun l => .acquire l.1 l.2) ++ body ++ ls.reverse.map fun l => .release l.1

/-- The lock of an operation. -/
def LockOp.lock : LockOp κ → κ
  | acquire l _ => l
  | release l => l

theorem LockOp.nested_eq_around (ls : List (κ × LockMode)) : nested ls = around ls [] := by
  rw [nested, around, List.append_nil]

@[simp] theorem LockOp.around_nil (body : List (LockOp κ)) : around [] body = body := by
  simp [around]

theorem LockOp.around_cons (l : κ × LockMode) (ls : List (κ × LockMode)) (body : List (LockOp κ)) :
    around (l :: ls) body = .acquire l.1 l.2 :: (around ls body ++ [.release l.1]) := by
  simp [around]

@[simp] theorem LockOp.acquire_mem_around {l : κ} {m : LockMode} {ls : List (κ × LockMode)}
    {body : List (LockOp κ)} : acquire l m ∈ around ls body ↔ (l, m) ∈ ls ∨ acquire l m ∈ body := by
  simp [around]

/-- What holds of the locks of a section. -/
theorem LockOp.forall_mem_around {P : κ → Prop} {ls : List (κ × LockMode)} {body : List (LockOp κ)}
    (hls : ∀ l ∈ ls, P l.1) (hbody : ∀ op ∈ body, P op.lock) : ∀ op ∈ around ls body, P op.lock := by
  simp only [around, List.mem_append, List.mem_map, List.mem_reverse]
  rintro op ((⟨l, hl, rfl⟩ | hop) | ⟨l, hl, rfl⟩)
  · exact hls l hl
  · exact hbody op hop
  · exact hls l hl

theorem LockOp.forall_mem_nested {P : κ → Prop} {ls : List (κ × LockMode)} (hls : ∀ l ∈ ls, P l.1) :
    ∀ op ∈ nested ls, P op.lock := by
  rw [nested_eq_around]
  exact forall_mem_around hls fun op hop => absurd hop List.not_mem_nil

variable [DecidableEq κ]

/-- Every lock acquired is one that `G` allows to be acquired, by the locks held. -/
def LockAcquires (G : List (κ × LockMode) → κ → LockMode → Prop) :
    List (κ × LockMode) → List (LockOp κ) → Prop
  | _, [] => True
  | held, .acquire l m :: ops => G held l m ∧ LockAcquires G ((l, m) :: held) ops
  | held, .release l :: ops => LockAcquires G ((LockOp.release l).apply held) ops

/-- Operations that acquire locks as `G` allows, and in the end hold those held before. -/
structure KeepsHeld (G : List (κ × LockMode) → κ → LockMode → Prop) (held : List (κ × LockMode))
    (ops : List (LockOp κ)) : Prop where
  acquires : LockAcquires G held ops
  held_eq : ops.foldl LockOp.apply held = held

section Sections

variable {G : List (κ × LockMode) → κ → LockMode → Prop} {held : List (κ × LockMode)}
  {ops ops' : List (LockOp κ)}

theorem lockAcquires_append : LockAcquires G held (ops ++ ops') ↔
    LockAcquires G held ops ∧ LockAcquires G (ops.foldl LockOp.apply held) ops' := by
  induction ops generalizing held with
  | nil => simp [LockAcquires]
  | cons op ops ih =>
    cases op with
    | acquire l m => simp only [List.cons_append, LockAcquires, ih, List.foldl_cons, and_assoc]; rfl
    | release l => simp only [List.cons_append, LockAcquires, ih, List.foldl_cons]

theorem keepsHeld_nil : KeepsHeld G held [] := ⟨trivial, rfl⟩

theorem KeepsHeld.append (h : KeepsHeld G held ops) (h' : KeepsHeld G held ops') :
    KeepsHeld G held (ops ++ ops') where
  acquires := lockAcquires_append.2 ⟨h.acquires, h.held_eq.symm ▸ h'.acquires⟩
  held_eq := by rw [List.foldl_append, h.held_eq, h'.held_eq]

theorem KeepsHeld.flatMap {xs : List ι} {f : ι → List (LockOp κ)}
    (h : ∀ x ∈ xs, KeepsHeld G held (f x)) : KeepsHeld G held (xs.flatMap f) := by
  induction xs with
  | nil => exact keepsHeld_nil
  | cons x xs ih =>
    rw [List.flatMap_cons]
    exact (h x List.mem_cons_self).append (ih fun y hy => h y (List.mem_cons_of_mem _ hy))

/-- A critical section, of a lock not held, may be entered if what is done in it may be done
    while its lock is held. -/
theorem KeepsHeld.around_cons {l : κ} {m : LockMode} {ls : List (κ × LockMode)} (hl : G held l m)
    (hheld : ∀ e ∈ held, e.1 ≠ l) (h : KeepsHeld G ((l, m) :: held) (LockOp.around ls ops)) :
    KeepsHeld G held (LockOp.around ((l, m) :: ls) ops) := by
  rw [LockOp.around_cons]
  have hrelease : (LockOp.release l).apply ((l, m) :: held) = held := by
    simpa [LockOp.apply] using hheld
  refine ⟨⟨hl, lockAcquires_append.2 ⟨h.acquires, trivial⟩⟩, ?_⟩
  show (LockOp.around ls ops ++ [LockOp.release l]).foldl LockOp.apply ((l, m) :: held) = held
  rw [List.foldl_append, h.held_eq]
  exact hrelease

/-- What `G` keeps of the locks held, and no release ends, holds all along operations that
    acquire locks as `G` allows; at each acquisition of these, `G` allows it. -/
theorem always_of_acquires {H : List (κ × LockMode) → Prop}
    (hacquire : ∀ held l m, H held → G held l m → H ((l, m) :: held))
    (hrelease : ∀ held l, H held → H ((LockOp.release l).apply held)) (hheld : H held)
    (h : LockAcquires G held ops) (hdone : ops.foldl LockOp.apply held = []) :
    LockAlways (fun held todo => H held ∧ (todo = [] → held = []) ∧
      ∀ l m todo', todo = .acquire l m :: todo' → G held l m) held ops := by
  induction ops generalizing held with
  | nil => exact ⟨hheld, fun _ => hdone, fun l m todo' hcons => absurd hcons (by simp)⟩
  | cons op ops ih =>
    cases op with
    | acquire l m =>
      refine ⟨⟨hheld, fun hnil => absurd hnil (by simp), fun l' m' todo' hcons => ?_⟩,
        ih (hacquire held l m hheld h.1) h.2 hdone⟩
      obtain ⟨⟨rfl, rfl⟩, -⟩ := by simpa using hcons
      exact h.1
    | release l =>
      refine ⟨⟨hheld, fun hnil => absurd hnil (by simp), fun l' m' todo' hcons => ?_⟩, ?_⟩
      · exact absurd hcons (by simp)
      · exact ih (hrelease held l hheld) h hdone

/-- What `G` keeps of the locks held, and no release ends, holds all along a program that
    acquires locks as `G` allows, and releases them. -/
theorem always_of_keepsHeld {H : List (κ × LockMode) → Prop}
    (hacquire : ∀ held l m, H held → G held l m → H ((l, m) :: held))
    (hrelease : ∀ held l, H held → H ((LockOp.release l).apply held)) (hnil : H [])
    (h : KeepsHeld G [] ops) :
    LockAlways (fun held todo => H held ∧ (todo = [] → held = []) ∧
      ∀ l m todo', todo = .acquire l m :: todo' → G held l m) [] ops :=
  always_of_acquires hacquire hrelease hnil h.acquires h.held_eq

theorem LockAlways.and {F F' : List (κ × LockMode) → List (LockOp κ) → Prop}
    (h : LockAlways F held ops) (h' : LockAlways F' held ops) :
    LockAlways (fun held todo => F held todo ∧ F' held todo) held ops := by
  induction ops generalizing held with
  | nil => exact ⟨h, h'⟩
  | cons op ops ih => exact ⟨⟨h.1, h'.1⟩, ih h.2 h'.2⟩

end Sections

/-! ## The locks of a part -/

section Part

variable (π : κ ≃. κ')

/-- The locks of the part, of those held. -/
def heldPart (held : List (κ × LockMode)) : List (κ' × LockMode) :=
  held.filterMap fun e => (π e.1).map fun l => (l, e.2)

/-- An operation on a lock of the part. -/
def LockOp.part? : LockOp κ → Option (LockOp κ')
  | acquire l m => (π l).map fun l' => acquire l' m
  | release l => (π l).map release

/-- The operation on the lock that one of the part is. -/
def LockOp.map (f : κ' → κ) : LockOp κ' → LockOp κ
  | acquire l m => acquire (f l) m
  | release l => release (f l)

/-- What a thread does to the locks of the part. -/
def LockThread.part (th : LockThread κ) : LockThread κ' where
  held := heldPart π th.held
  todo := th.todo.filterMap (LockOp.part? π)

/-- A lock may be acquired while locks are held: if one of these is not of the part, it is not
    of the part either, and its rank is greater. -/
def Outranks (rank : κ → ℕ) (held : List (κ × LockMode)) (l : κ) : Prop :=
  ∀ e ∈ held, π e.1 = none → π l = none ∧ rank e.1 < rank l

variable {π}

omit [DecidableEq κ] in
theorem LockOp.map_nested (f : κ' → κ) (ls : List (κ' × LockMode)) :
    (nested ls).map (LockOp.map f) = nested (ls.map fun l => (f l.1, l.2)) := by
  simp [nested, map, Function.comp_def, ← List.map_reverse]

omit [DecidableEq κ] in
theorem LockOp.map_around (f : κ' → κ) (ls : List (κ' × LockMode)) (body : List (LockOp κ')) :
    (around ls body).map (LockOp.map f) =
      around (ls.map fun l => (f l.1, l.2)) (body.map (LockOp.map f)) := by
  simp [around, map, Function.comp_def, ← List.map_reverse]

omit [DecidableEq κ] in
/-- Operations on other locks than those of the part. -/
theorem LockOp.filterMap_part?_eq_nil {ops : List (LockOp κ)} (h : ∀ op ∈ ops, π op.lock = none) :
    ops.filterMap (part? π) = [] := by
  refine List.filterMap_eq_nil_iff.2 fun op hop => ?_
  have hnone := h op hop
  cases op with
  | acquire l m => exact congrArg (Option.map _) hnone
  | release l => exact congrArg (Option.map _) hnone

omit [DecidableEq κ] in
/-- Operations on locks of the part, as operations on locks of the part. -/
theorem LockOp.filterMap_part?_map {f : κ' → κ} (hf : ∀ l, π (f l) = some l)
    (ops : List (LockOp κ')) : (ops.map (LockOp.map f)).filterMap (part? π) = ops := by
  have hid : (fun op => part? π (op.map f)) = some := by
    funext op
    cases op <;> simp [map, part?, hf]
  rw [List.filterMap_map, Function.comp_def, hid, List.filterMap_some]

omit [DecidableEq κ] in
theorem mem_heldPart {held : List (κ × LockMode)} {e : κ × LockMode} {l : κ'} (he : e ∈ held)
    (hl : π e.1 = some l) : (l, e.2) ∈ heldPart π held :=
  List.mem_filterMap.2 ⟨e, he, by rw [hl]; rfl⟩

/-- An operation on a lock that is not of the part leaves those of the part. -/
theorem heldPart_apply_of_none {held : List (κ × LockMode)} {op : LockOp κ}
    (hop : op.part? π = none) : heldPart π (op.apply held) = heldPart π held := by
  cases op with
  | acquire l m =>
    have hl : π l = none := Option.map_eq_none_iff.1 hop
    simp [LockOp.apply, heldPart, hl]
  | release l =>
    have hl : π l = none := Option.map_eq_none_iff.1 hop
    induction held with
    | nil => rfl
    | cons e held ih =>
      by_cases he : e.1 = l
      · have hnone : π e.1 = none := he ▸ hl
        simpa [LockOp.apply, heldPart, he, hl] using ih
      · simp only [LockOp.apply, ne_eq, he, not_false_eq_true, decide_true, List.filter_cons_of_pos,
          heldPart, List.filterMap_cons] at ih ⊢
        rw [ih]

variable [DecidableEq κ']

/-- An operation on a lock of the part is made on the locks of the part. -/
theorem heldPart_apply_of_some {held : List (κ × LockMode)} {op : LockOp κ} {op' : LockOp κ'}
    (hop : op.part? π = some op') :
    heldPart π (op.apply held) = op'.apply (heldPart π held) := by
  cases op with
  | acquire l m =>
    obtain ⟨l', hl, rfl⟩ := Option.map_eq_some_iff.1 hop
    simp [LockOp.apply, heldPart, hl]
  | release l =>
    obtain ⟨l', hl, rfl⟩ := Option.map_eq_some_iff.1 hop
    induction held with
    | nil => rfl
    | cons e held ih =>
      -- No other lock is the same one of the part.
      have hiff : ∀ k, π e.1 = some k → (k ≠ l' ↔ e.1 ≠ l) := fun k hk =>
        ⟨fun hne heq => hne (Option.some.inj (hk.symm.trans (heq ▸ hl))),
          fun hne heq => hne (π.inj (Option.mem_def.2 hk) (Option.mem_def.2 (heq ▸ hl)))⟩
      simp only [LockOp.apply, heldPart] at ih ⊢
      cases hk : π e.1 with
      | none =>
        by_cases he : e.1 = l
        · simp [he, hl] at hk
        · simpa [he, hk] using ih
      | some k =>
        by_cases he : e.1 = l
        · have hkl : k = l' := by_contra fun hne => (hiff k hk).1 hne he
          simpa [he, hl, hkl] using ih
        · have hkl : k ≠ l' := (hiff k hk).2 he
          simpa [he, hk, hkl] using ih

/-- What holds all along what a program does to the locks of the part. -/
theorem LockAlways.of_part {F : List (κ' × LockMode) → List (LockOp κ') → Prop}
    {held : List (κ × LockMode)} {ops : List (LockOp κ)}
    (h : LockAlways F (heldPart π held) (ops.filterMap (LockOp.part? π))) :
    LockAlways (fun held todo => F (heldPart π held) (todo.filterMap (LockOp.part? π)))
      held ops := by
  induction ops generalizing held with
  | nil => exact h
  | cons op ops ih =>
    refine ⟨h.now, ih ?_⟩
    cases hop : op.part? π with
    | none =>
      rw [List.filterMap_cons_none hop] at h
      rwa [heldPart_apply_of_none hop]
    | some op' =>
      rw [List.filterMap_cons_some hop] at h
      rw [heldPart_apply_of_some hop]
      exact h.2

omit [DecidableEq κ] [DecidableEq κ'] in
/-- Locks of the part are held by no two threads in modes that conflict. -/
theorem Exclusive.part {s : τ → LockThread κ} (h : Exclusive s) :
    Exclusive fun t => (s t).part π := by
  rintro t e he t' hne e' he' heq hc
  obtain ⟨d, hd, hde⟩ := List.mem_filterMap.1 he
  obtain ⟨l, hl, rfl⟩ := Option.map_eq_some_iff.1 hde
  obtain ⟨d', hd', hde'⟩ := List.mem_filterMap.1 he'
  obtain ⟨l', hl', rfl⟩ := Option.map_eq_some_iff.1 hde'
  obtain rfl : l' = l := heq
  exact h t d hd t' hne d' hd' (π.inj (Option.mem_def.2 hl') (Option.mem_def.2 hl)) hc

omit [DecidableEq κ] [DecidableEq κ'] in
/-- Threads that are deadlocked are so over the locks of the part, if the others are acquired in
    the order of a rank, and none of the part while one of the others is held. -/
theorem Deadlocked.part {writersFirst : Prop} {s : τ → LockThread κ} {S : Set τ} (rank : κ → ℕ)
    {n : ℕ} (hrank : ∀ l, rank l < n)
    (hout : ∀ t l m todo, (s t).todo = .acquire l m :: todo → Outranks π rank (s t).held l)
    (h : Deadlocked writersFirst s S) : Deadlocked writersFirst (fun t => (s t).part π) S := by
  -- Threads that wait for locks that are not of the part wait for each other, against the rank.
  have hpart : ∀ t ∈ S, ∀ l m todo, (s t).todo = .acquire l m :: todo → π l ≠ none := by
    intro t ht l m todo htodo hnone
    have hdead : Deadlocked writersFirst s
        {u ∈ S | ∃ l m todo, (s u).todo = .acquire l m :: todo ∧ π l = none} := by
      refine ⟨⟨t, ht, l, m, todo, htodo, hnone⟩, ?_⟩
      rintro u ⟨hu, l, m, todo, htodo, hnone⟩
      obtain ⟨l₁, m₁, todo₁, htodo₁, hblocked, v, hv, hne, e, he, hel⟩ := h.waits u hu
      rw [htodo] at htodo₁
      obtain ⟨⟨rfl, rfl⟩, rfl⟩ := by simpa using htodo₁
      obtain ⟨l₂, m₂, todo₂, htodo₂, -⟩ := h.waits v hv
      exact ⟨l, m, todo, htodo, hblocked, v,
        ⟨hv, l₂, m₂, todo₂, htodo₂, (hout v l₂ m₂ todo₂ htodo₂ e he (hel ▸ hnone)).1⟩,
        hne, e, he, hel⟩
    obtain ⟨u, ⟨hu, l, m, todo, htodo, hnone⟩, l₁, m₁, todo₁, htodo₁, e, he, hle⟩ :=
      hdead.exists_rank_le (fun l => if π l = none then rank l + 1 else 0)
        (n := n + 1) fun l => by have := hrank l; split <;> omega
    rw [htodo] at htodo₁
    obtain ⟨⟨rfl, rfl⟩, rfl⟩ := by simpa using htodo₁
    rw [if_pos hnone] at hle
    by_cases hpe : π e.1 = none
    · have hlt := (hout u l m todo htodo e he hpe).2
      rw [if_pos hpe] at hle
      omega
    · rw [if_neg hpe] at hle
      omega
  refine ⟨h.nonempty, fun t ht => ?_⟩
  obtain ⟨l, m, todo, htodo, hblocked, u, hu, hne, e, he, rfl⟩ := h.waits t ht
  obtain ⟨l', hl⟩ := Option.ne_none_iff_exists'.1 (hpart t ht _ _ _ htodo)
  have hhead : ∀ {v l m todo}, (s v).todo = .acquire l m :: todo → π l = some l' →
      ((s v).part π).todo = .acquire l' m :: todo.filterMap (LockOp.part? π) := by
    intro v l m todo hv hl
    show (s v).todo.filterMap _ = _
    rw [hv]
    exact List.filterMap_cons_some (by rw [LockOp.part?, hl]; rfl)
  refine ⟨l', m, _, hhead htodo hl, ?_, u, hu, hne, _, mem_heldPart he hl, rfl⟩
  rcases hblocked with hheld | ⟨hw, rfl, v, todo', hv⟩
  · refine .inl fun hfree => hheld fun v hv d hd hdl => ?_
    exact hfree v hv _ (mem_heldPart hd (hdl ▸ hl)) rfl
  · exact .inr ⟨hw, rfl, v, _, hhead hv hl⟩

end Part
