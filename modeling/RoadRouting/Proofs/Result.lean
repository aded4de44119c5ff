import Mathlib.Data.List.Forall2

/-!
# Computations that may fail

What it means for a chain of computations to succeed, and what a loop over a list keeps when every
turn of it succeeds.

* `bind_eq_ok_iff`: both parts of a chain succeed.
* `mapM_eq_ok_map`: a loop none of whose turns fails.
* `forall₂_of_mapM`: a loop that succeeds gives its results item by item.
* `foldlM_induct`: an invariant of the turns is one of the loop.
* `foldlM_eq_error_iff`: a loop fails at the first turn that does.
* `Alongside`: two computations with related results, or with the same error.
-/

namespace RoadRouting

variable {ε ε' α β σ : Type}

theorem bind_eq_ok_iff {x : Except ε α} {f : α → Except ε β} {b : β} :
    x >>= f = .ok b ↔ ∃ a, x = .ok a ∧ f a = .ok b := by
  cases x with
  | error e =>
    constructor
    · intro h
      cases h
    · rintro ⟨a, ha, -⟩
      cases ha
  | ok a =>
    constructor
    · exact fun h => ⟨a, rfl, h⟩
    · rintro ⟨a, ha, h⟩
      cases ha
      exact h

/-- A chain whose last part cannot fail fails as its first part does. -/
theorem bind_ok_eq_error_iff {x : Except ε α} {f : α → β} {e : ε} :
    (x >>= fun a => .ok (f a)) = .error e ↔ x = .error e := by
  cases x <;> simp [bind, Except.bind]

theorem map_eq_ok_iff {x : Except ε α} {f : α → β} {b : β} :
    x.map f = .ok b ↔ ∃ a, x = .ok a ∧ f a = b := by
  cases x <;> simp [Except.map]

theorem map_eq_error_iff {x : Except ε α} {f : α → β} {e : ε} :
    x.map f = .error e ↔ x = .error e := by
  cases x <;> simp [Except.map]

theorem mapError_ok (f : ε → ε') (a : α) : (.ok a : Except ε α).mapError f = .ok a := rfl

theorem mapM_eq_ok_map {f : α → Except ε β} {g : α → β} {l : List α}
    (h : ∀ a ∈ l, f a = .ok (g a)) : l.mapM f = .ok (l.map g) := by
  induction l with
  | nil => rfl
  | cons a l ih =>
    have hl : l.mapM f = .ok (l.map g) := ih fun b hb => h b (List.mem_cons_of_mem a hb)
    rw [List.mapM_cons, h a List.mem_cons_self, hl]
    rfl

theorem forall₂_of_mapM {f : α → Except ε β} {l : List α} {l' : List β}
    (h : l.mapM f = .ok l') : List.Forall₂ (fun a b => f a = .ok b) l l' := by
  induction l generalizing l' with
  | nil =>
    cases h
    exact .nil
  | cons a l ih =>
    rw [List.mapM_cons] at h
    obtain ⟨b, hb, h⟩ := bind_eq_ok_iff.mp h
    obtain ⟨bs, hbs, h⟩ := bind_eq_ok_iff.mp h
    cases h
    exact .cons hb (ih hbs)

theorem foldlM_induct {M : σ → Prop} {f : σ → α → Except ε σ} {l : List α} {s s' : σ}
    (h : l.foldlM f s = .ok s') (hs : M s)
    (hstep : ∀ a ∈ l, ∀ s s', M s → f s a = .ok s' → M s') : M s' := by
  induction l generalizing s with
  | nil =>
    cases h
    exact hs
  | cons a l ih =>
    rw [List.foldlM_cons, bind_eq_ok_iff] at h
    obtain ⟨s₁, hf, h⟩ := h
    exact ih h (hstep a List.mem_cons_self s s₁ hs hf)
      fun b hb => hstep b (List.mem_cons_of_mem a hb)

/-- A loop fails with the error of the first turn that fails. -/
theorem foldlM_eq_error_iff {f : σ → α → Except ε σ} {l : List α} {s : σ} {e : ε} :
    l.foldlM f s = .error e ↔ ∃ before a after s', l = before ++ a :: after ∧
      before.foldlM f s = .ok s' ∧ f s' a = .error e := by
  constructor
  · intro h
    induction l generalizing s with
    | nil => cases h
    | cons a l ih =>
      rw [List.foldlM_cons] at h
      cases hf : f s a with
      | error e' =>
        rw [hf] at h
        cases h
        exact ⟨[], a, l, s, rfl, rfl, hf⟩
      | ok s₁ =>
        rw [hf] at h
        obtain ⟨before, b, after, s', rfl, hbefore, hb⟩ := ih h
        refine ⟨a :: before, b, after, s', rfl, ?_, hb⟩
        rw [List.foldlM_cons, hf]
        exact hbefore
  · rintro ⟨before, a, after, s', rfl, hbefore, ha⟩
    rw [List.foldlM_append, hbefore]
    show (a :: after).foldlM f s' = .error e
    rw [List.foldlM_cons, ha]
    rfl

/-! ## Two computations -/

/-- Both computations fail in the same way, or succeed with related results. -/
inductive Alongside (R : α → β → Prop) : Except ε α → Except ε β → Prop
  | ok {a : α} {b : β} : R a b → Alongside R (.ok a) (.ok b)
  | error (e : ε) : Alongside R (.error e) (.error e)

theorem Alongside.mono {R S : α → β → Prop} {x : Except ε α} {y : Except ε β}
    (h : Alongside R x y) (hRS : ∀ a b, R a b → S a b) : Alongside S x y := by
  cases h with
  | ok hR => exact .ok (hRS _ _ hR)
  | error e => exact .error e

theorem Alongside.bind {α' β' : Type} {R : α → α' → Prop} {S : β → β' → Prop}
    {x : Except ε α} {x' : Except ε α'} {f : α → Except ε β} {f' : α' → Except ε β'}
    (h : Alongside R x x') (hf : ∀ a a', R a a' → Alongside S (f a) (f' a')) :
    Alongside S (x >>= f) (x' >>= f') := by
  cases h with
  | ok hR => exact hf _ _ hR
  | error e => exact .error e

/-- Two loops over one list run alongside each other if their turns do. -/
theorem Alongside.foldlM {σ' : Type} {R : σ → σ' → Prop} {f : σ → α → Except ε σ}
    {f' : σ' → α → Except ε σ'} {l : List α} {s : σ} {s' : σ'} (hs : R s s')
    (hstep : ∀ a s s', R s s' → Alongside R (f s a) (f' s' a)) :
    Alongside R (l.foldlM f s) (l.foldlM f' s') := by
  induction l generalizing s s' with
  | nil => exact .ok hs
  | cons a l ih =>
    rw [List.foldlM_cons, List.foldlM_cons]
    exact (hstep a s s' hs).bind fun _ _ h => ih h

end RoadRouting
