import Mathlib.Data.List.Forall2

set_option autoImplicit false

/-! # Outcomes

What is known of the parts of a computation when it has succeeded: each of its steps has, and so has
each item of a list that was gone through.
-/

namespace TokenBridge.Outcome

variable {ε ε' α β : Type}

theorem bind_eq_ok {x : Except ε α} {f : α → Except ε β} {b : β} :
    x >>= f = .ok b ↔ ∃ a, x = .ok a ∧ f a = .ok b := by
  cases x with
  | error e =>
      constructor
      · intro h
        cases h
      · rintro ⟨a, ha, -⟩
        cases ha
  | ok a =>
      constructor
      · exact fun h => ⟨a, rfl, h⟩
      · rintro ⟨_, ⟨⟩, h⟩
        exact h

theorem bind_eq_error {x : Except ε α} {f : α → Except ε β} {e : ε} :
    x >>= f = .error e ↔ x = .error e ∨ ∃ a, x = .ok a ∧ f a = .error e := by
  cases x with
  | error e' =>
      constructor
      · intro h
        cases h
        exact .inl rfl
      · rintro (⟨⟨⟩⟩ | ⟨a, ha, -⟩)
        · rfl
        · cases ha
  | ok a =>
      constructor
      · exact fun h => .inr ⟨a, rfl, h⟩
      · rintro (h | ⟨_, ⟨⟩, h⟩)
        · cases h
        · exact h

theorem map_eq_ok {x : Except ε α} {f : α → β} {b : β} :
    x.map f = .ok b ↔ ∃ a, x = .ok a ∧ f a = b := by
  cases x <;> simp [Except.map]

theorem map_eq_error {x : Except ε α} {f : α → β} {e : ε} :
    x.map f = .error e ↔ x = .error e := by
  cases x <;> simp [Except.map]

theorem mapError_eq_ok {x : Except ε α} {f : ε → ε'} {a : α} :
    x.mapError f = .ok a ↔ x = .ok a := by
  cases x <;> simp [Except.mapError]

theorem mapError_eq_error {x : Except ε α} {f : ε → ε'} {e : ε'} :
    x.mapError f = .error e ↔ ∃ e', x = .error e' ∧ f e' = e := by
  cases x <;> simp [Except.mapError]

theorem mapM_eq_ok {f : α → Except ε β} {xs : List α} {ys : List β} :
    xs.mapM f = .ok ys ↔ List.Forall₂ (fun x y => f x = .ok y) xs ys := by
  induction xs generalizing ys with
  | nil =>
      rw [List.mapM_nil, List.forall₂_nil_left_iff]
      exact ⟨fun h => (Except.ok.inj h).symm, fun h => h ▸ rfl⟩
  | cons x xs ih =>
      rw [List.mapM_cons, bind_eq_ok, List.forall₂_cons_left_iff]
      constructor
      · rintro ⟨y, hy, h⟩
        obtain ⟨rest, hrest, h⟩ := bind_eq_ok.1 h
        exact ⟨y, rest, hy, ih.1 hrest, (Except.ok.inj h).symm⟩
      · rintro ⟨y, rest, hy, hrest, rfl⟩
        exact ⟨y, hy, bind_eq_ok.2 ⟨rest, ih.2 hrest, rfl⟩⟩

theorem mapM_eq_error {f : α → Except ε β} {xs : List α} {e : ε} (h : xs.mapM f = .error e) :
    ∃ x ∈ xs, f x = .error e := by
  induction xs with
  | nil => cases h
  | cons x xs ih =>
      rw [List.mapM_cons] at h
      rcases bind_eq_error.1 h with hx | ⟨y, -, h⟩
      · exact ⟨x, List.mem_cons_self, hx⟩
      · rcases bind_eq_error.1 h with hrest | ⟨ys, -, h⟩
        · obtain ⟨x', hmem, hx'⟩ := ih hrest
          exact ⟨x', List.mem_cons_of_mem _ hmem, hx'⟩
        · cases h

theorem forM_eq_ok {f : α → Except ε Unit} {xs : List α} {u : Unit} :
    xs.forM f = .ok u ↔ ∀ x ∈ xs, f x = .ok () := by
  induction xs with
  | nil => exact ⟨fun _ x hx => (nomatch hx), fun _ => rfl⟩
  | cons x xs ih =>
      show (f x >>= fun _ => xs.forM f) = .ok u ↔ _
      rw [bind_eq_ok, List.forall_mem_cons, ← ih]
      exact ⟨fun ⟨_, hx, hrest⟩ => ⟨hx, hrest⟩, fun ⟨hx, hrest⟩ => ⟨(), hx, hrest⟩⟩

/-- Every item that a fold went through was taken at some point. -/
theorem exists_of_foldlM {step : β → α → Except ε β} {xs : List α} {b b' : β}
    (h : xs.foldlM step b = .ok b') {x : α} (hx : x ∈ xs) : ∃ c c', step c x = .ok c' := by
  induction xs generalizing b with
  | nil => cases hx
  | cons y ys ih =>
      rw [List.foldlM_cons] at h
      obtain ⟨b₁, hstep, hrest⟩ := bind_eq_ok.1 h
      rcases List.mem_cons.1 hx with rfl | hx
      · exact ⟨b, b₁, hstep⟩
      · exact ih hrest hx

/-- A fold fails at the first item that its step fails at. -/
theorem foldlM_eq_error {step : β → α → Except ε β} {xs : List α} {b : β} {e : ε} :
    xs.foldlM step b = .error e ↔
      ∃ before x after b', xs = before ++ x :: after ∧ before.foldlM step b = .ok b' ∧
        step b' x = .error e := by
  constructor
  · intro h
    induction xs generalizing b with
    | nil => cases h
    | cons x xs ih =>
        rw [List.foldlM_cons] at h
        rcases bind_eq_error.1 h with hx | ⟨b₁, hb₁, hrest⟩
        · exact ⟨[], x, xs, b, rfl, rfl, hx⟩
        · obtain ⟨before, y, after, b', rfl, hbefore, hy⟩ := ih hrest
          refine ⟨x :: before, y, after, b', rfl, ?_, hy⟩
          rw [List.foldlM_cons, hb₁]
          exact hbefore
  · rintro ⟨before, x, after, b', rfl, hbefore, hx⟩
    rw [List.foldlM_append, hbefore]
    show ((x :: after).foldlM step b' : Except ε β) = .error e
    rw [List.foldlM_cons, hx]
    rfl

/-- That something has come out can be seen, also where the errors cannot be compared. -/
instance decidableEqOk [DecidableEq α] (x : Except ε α) (a : α) : Decidable (x = .ok a) :=
  match x with
  | .ok b => decidable_of_iff (b = a) ⟨congrArg _, Except.ok.inj⟩
  | .error _ => .isFalse fun h => nomatch h

/-- That it has failed can be seen, also where results cannot be compared. -/
instance decidableEqError [DecidableEq ε] (x : Except ε α) (e : ε) : Decidable (x = .error e) :=
  match x with
  | .ok _ => .isFalse fun h => nomatch h
  | .error e' => decidable_of_iff (e' = e) ⟨congrArg _, Except.error.inj⟩

/-! ## The first item without a property -/

/-- The first item without a property is the same one wherever a list is cut. -/
theorem eq_of_first {p : α → Prop} {before before' after after' : List α} {x x' : α}
    (h : before ++ x :: after = before' ++ x' :: after') (hbefore : ∀ b ∈ before, p b)
    (hx : ¬p x) (hbefore' : ∀ b ∈ before', p b) (hx' : ¬p x') : x = x' := by
  induction before generalizing before' with
  | nil =>
      cases before' with
      | nil => exact (List.cons.inj h).1
      | cons b' rest' =>
          have hfirst : x = b' := (List.cons.inj h).1
          exact absurd (hbefore' b' List.mem_cons_self) (hfirst ▸ hx)
  | cons b rest ih =>
      cases before' with
      | nil =>
          have hfirst : b = x' := (List.cons.inj h).1
          exact absurd (hbefore b List.mem_cons_self) (hfirst ▸ hx')
      | cons b' rest' =>
          refine ih (List.cons.inj h).2 ?_ ?_
          · intro c hc
            exact hbefore c (List.mem_cons_of_mem _ hc)
          · intro c hc
            exact hbefore' c (List.mem_cons_of_mem _ hc)

/-! ## Lookups -/

/-- A filter that lets a key pass does not change what is found under it. -/
theorem lookup_filter {κ : Type} [BEq κ] [LawfulBEq κ] {p : κ → Bool} {k : κ} (hk : p k = true)
    (entries : List (κ × α)) :
    (entries.filter fun e => p e.1).lookup k = entries.lookup k := by
  induction entries with
  | nil => rfl
  | cons e rest ih =>
      obtain ⟨k', a⟩ := e
      by_cases heq : k = k'
      · subst heq
        simp [hk]
      · have hne : (k == k') = false := beq_eq_false_iff_ne.2 heq
        cases hk' : p k' <;> simp [hk', List.lookup_cons, hne, ih]

/-! ## Lists that match item by item -/

variable {γ : Type} {R : α → β → Prop} {S : β → γ → Prop}

theorem exists_forall₂_and {xs : List α} {zs : List γ} :
    (∃ ys, List.Forall₂ R xs ys ∧ List.Forall₂ S ys zs) ↔
      List.Forall₂ (fun x z => ∃ y, R x y ∧ S y z) xs zs := by
  constructor
  · rintro ⟨ys, hxs, hys⟩
    induction hxs generalizing zs with
    | nil =>
        cases hys
        exact .nil
    | cons hx _ ih =>
        cases hys with
        | cons hy hys => exact .cons ⟨_, hx, hy⟩ (ih hys)
  · intro h
    induction h with
    | nil => exact ⟨[], .nil, .nil⟩
    | cons hxz _ ih =>
        obtain ⟨y, hx, hy⟩ := hxz
        obtain ⟨ys, hxs, hys⟩ := ih
        exact ⟨y :: ys, .cons hx hxs, .cons hy hys⟩

theorem forall₂_zipIdx_left {xs : List α} {ys : List β} {k : Nat} :
    List.Forall₂ (fun x y => R x.1 y) (xs.zipIdx k) ys ↔ List.Forall₂ R xs ys := by
  rw [← List.forall₂_map_left_iff, List.zipIdx_map_fst]

theorem exists_forall₂_zipIdx {T : β × Nat → γ → Prop} {xs : List α} {zs : List γ} {k : Nat} :
    (∃ ys, List.Forall₂ R xs ys ∧ List.Forall₂ T (ys.zipIdx k) zs) ↔
      List.Forall₂ (fun x z => ∃ y, R x.1 y ∧ T (y, x.2) z) (xs.zipIdx k) zs := by
  induction xs generalizing zs k with
  | nil =>
      simp only [List.forall₂_nil_left_iff, List.zipIdx_nil]
      constructor
      · rintro ⟨_, rfl, h⟩
        exact List.forall₂_nil_left_iff.1 h
      · rintro rfl
        exact ⟨[], rfl, .nil⟩
  | cons x xs ih =>
      simp only [List.zipIdx_cons, List.forall₂_cons_left_iff, ← ih]
      constructor
      · rintro ⟨_, ⟨y, ys, hx, hxs, rfl⟩, h⟩
        obtain ⟨z, zs, hy, hys, rfl⟩ := List.forall₂_cons_left_iff.1 h
        exact ⟨z, zs, ⟨y, hx, hy⟩, ⟨ys, hxs, hys⟩, rfl⟩
      · rintro ⟨z, zs, ⟨y, hx, hy⟩, ⟨ys, hxs, hys⟩, rfl⟩
        exact ⟨y :: ys, ⟨y, ys, hx, hxs, rfl⟩, .cons hy hys⟩

theorem forall₂_const_and {p : Prop} {xs : List α} {ys : List β} (hne : xs ≠ []) :
    List.Forall₂ (fun x y => p ∧ R x y) xs ys ↔ p ∧ List.Forall₂ R xs ys := by
  constructor
  · intro h
    refine ⟨?_, h.imp fun _ _ h => h.2⟩
    cases h with
    | nil => exact absurd rfl hne
    | cons hxy _ => exact hxy.1
  · rintro ⟨hp, h⟩
    exact h.imp fun _ _ hxy => ⟨hp, hxy⟩

theorem exists_forall₂ {xs : List α} (h : ∀ x ∈ xs, ∃ y, R x y) :
    ∃ ys, List.Forall₂ R xs ys := by
  induction xs with
  | nil => exact ⟨[], .nil⟩
  | cons x xs ih =>
      obtain ⟨y, hy⟩ := h x List.mem_cons_self
      obtain ⟨ys, hys⟩ := ih fun x hx => h x (List.mem_cons_of_mem _ hx)
      exact ⟨y :: ys, .cons hy hys⟩

theorem exists_of_mem_left {xs : List α} {ys : List β} (h : List.Forall₂ R xs ys) {x : α}
    (hx : x ∈ xs) : ∃ y ∈ ys, R x y := by
  induction h with
  | nil => cases hx
  | cons hxy _ ih =>
      rcases List.mem_cons.1 hx with rfl | hx
      · exact ⟨_, List.mem_cons_self, hxy⟩
      · obtain ⟨y, hy, hxy⟩ := ih hx
        exact ⟨y, List.mem_cons_of_mem _ hy, hxy⟩

theorem exists_of_mem_right {xs : List α} {ys : List β} (h : List.Forall₂ R xs ys) {y : β}
    (hy : y ∈ ys) : ∃ x ∈ xs, R x y :=
  exists_of_mem_left h.flip hy

/-- An item has a place, and what matches it there. -/
theorem exists_of_mem_zipIdx {T : α × Nat → β → Prop} {xs : List α} {ys : List β}
    (h : List.Forall₂ T xs.zipIdx ys) {x : α} (hx : x ∈ xs) : ∃ k, ∃ y ∈ ys, T (x, k) y := by
  obtain ⟨k, hk⟩ := List.mem_iff_getElem?.1 hx
  exact ⟨k, exists_of_mem_left h (List.mk_mem_zipIdx_iff_getElem?.2 hk)⟩

/-- What matches a list in two parts has two parts as well. -/
theorem exists_append_of_forall₂ {xs xs' : List α} {ys : List β}
    (h : List.Forall₂ R (xs ++ xs') ys) :
    ∃ front back, ys = front ++ back ∧ List.Forall₂ R xs front ∧ List.Forall₂ R xs' back := by
  induction xs generalizing ys with
  | nil => exact ⟨[], ys, rfl, .nil, h⟩
  | cons x xs ih =>
      obtain ⟨y, rest, hxy, hrest, rfl⟩ := List.forall₂_cons_left_iff.1 h
      obtain ⟨front, back, rfl, hfront, hback⟩ := ih hrest
      exact ⟨y :: front, back, rfl, .cons hxy hfront, hback⟩

/-- What matches a beginning of one list is a beginning of the other. -/
theorem exists_prefix_of_forall₂ {xs : List α} {ys ys' : List β}
    (h : List.Forall₂ R xs ys) (hbegin : ys' <+: ys) :
    ∃ xs', xs' <+: xs ∧ List.Forall₂ R xs' ys' := by
  rw [List.prefix_iff_eq_take.1 hbegin]
  exact ⟨xs.take ys'.length, List.take_prefix _ _, List.forall₂_take _ h⟩

end TokenBridge.Outcome
