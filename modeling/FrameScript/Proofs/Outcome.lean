/-!
# Chains of steps that may fail

Reading and moving are chains of steps of which each may fail. A chain succeeds exactly if all its
steps do, and it fails exactly if one of them does after those before it have succeeded. That is how
every proof about such a chain takes it apart.
-/

namespace FrameScript

namespace Outcome

variable {ε α β : Type}

theorem bind_eq_ok_iff {x : Except ε α} {f : α → Except ε β} {b : β} :
    (x >>= f) = .ok b ↔ ∃ a, x = .ok a ∧ f a = .ok b := by
  cases x with
  | error e =>
    constructor
    · intro h
      cases h
    · rintro ⟨a, h, -⟩
      cases h
  | ok a =>
    constructor
    · intro h
      exact ⟨a, rfl, h⟩
    · rintro ⟨_, hx, h⟩
      cases hx
      exact h

theorem bind_eq_error_iff {x : Except ε α} {f : α → Except ε β} {e : ε} :
    (x >>= f) = .error e ↔ x = .error e ∨ ∃ a, x = .ok a ∧ f a = .error e := by
  cases x with
  | error e' =>
    constructor
    · intro h
      cases h
      exact Or.inl rfl
    · rintro (h | ⟨a, h, -⟩)
      · cases h
        rfl
      · cases h
  | ok a =>
    constructor
    · intro h
      exact Or.inr ⟨a, rfl, h⟩
    · rintro (h | ⟨_, hx, h⟩)
      · cases h
      · cases hx
        exact h

theorem ok_bind (a : α) (f : α → Except ε β) : (Except.ok a >>= f) = f a := rfl

theorem map_eq_ok_iff {x : Except ε α} {f : α → β} {b : β} :
    x.map f = .ok b ↔ ∃ a, x = .ok a ∧ f a = b := by
  cases x <;> simp [Except.map]

theorem map_eq_error_iff {x : Except ε α} {f : α → β} {e : ε} :
    x.map f = .error e ↔ x = .error e := by
  cases x <;> simp [Except.map]

/-- Two outcomes look the same from outside if both are the same failure or both are successes that
look the same. -/
theorem map_eq_map_iff {γ : Type} {x : Except ε α} {y : Except ε β} {f : α → γ} {g : β → γ} :
    x.map f = y.map g ↔ (∃ e, x = .error e ∧ y = .error e) ∨
      ∃ a b, x = .ok a ∧ y = .ok b ∧ f a = g b := by
  cases x <;> cases y <;> simp [Except.map, eq_comm]

theorem exists_ok_iff_of_map_eq {γ : Type} {x : Except ε α} {y : Except ε β} {f : α → γ}
    {g : β → γ} (h : x.map f = y.map g) : (∃ a, x = .ok a) ↔ ∃ b, y = .ok b := by
  rcases map_eq_map_iff.mp h with ⟨e, rfl, rfl⟩ | ⟨a, b, rfl, rfl, -⟩
  · simp
  · exact iff_of_true ⟨a, rfl⟩ ⟨b, rfl⟩

theorem map_map_congr {γ : Type} {x : Except ε α} {f g : α → β} {look : β → γ}
    (h : ∀ a, look (f a) = look (g a)) : (x.map f).map look = (x.map g).map look := by
  cases x with
  | error e => rfl
  | ok a => exact congrArg Except.ok (h a)

theorem toOption_eq_some_iff {x : Except ε α} {a : α} : x.toOption = some a ↔ x = .ok a := by
  cases x <;> simp [Except.toOption]

/-! ### Long chains -/

section Chain

variable {step : β → α → Except ε β} {steps more : List α} {b : β} {e : ε}

theorem foldlM_append_eq_ok_iff {b' : β} : (steps ++ more).foldlM step b = .ok b' ↔
    ∃ mid, steps.foldlM step b = .ok mid ∧ more.foldlM step mid = .ok b' := by
  rw [List.foldlM_append, bind_eq_ok_iff]

theorem foldlM_append_of_ok {mid : β} (h : steps.foldlM step b = .ok mid) :
    (steps ++ more).foldlM step b = more.foldlM step mid := by
  rw [List.foldlM_append, h, ok_bind]

/-- **A long chain fails** at the first step that does, whatever steps were to follow. -/
theorem foldlM_eq_error_iff : steps.foldlM step b = .error e ↔
    ∃ before a after mid, steps = before ++ a :: after ∧ before.foldlM step b = .ok mid ∧
      step mid a = .error e := by
  induction steps generalizing b with
  | nil =>
    constructor
    · intro h
      cases h
    · rintro ⟨before, a, after, mid, hnil, -⟩
      exact absurd hnil.symm (List.append_ne_nil_of_right_ne_nil _ (List.cons_ne_nil _ _))
  | cons a steps ih =>
    rw [List.foldlM_cons, bind_eq_error_iff]
    constructor
    · rintro (h | ⟨next, hnext, h⟩)
      · exact ⟨[], a, steps, b, rfl, rfl, h⟩
      · obtain ⟨before, a', after, mid, rfl, hbefore, hfails⟩ := ih.mp h
        refine ⟨a :: before, a', after, mid, rfl, ?_, hfails⟩
        rw [List.foldlM_cons, hnext]
        exact hbefore
    · rintro ⟨before, a', after, mid, hsteps, hbefore, hfails⟩
      rcases List.cons_eq_append_iff.mp hsteps with ⟨rfl, hcons⟩ | ⟨before', rfl, rfl⟩
      · cases hcons
        cases hbefore
        exact Or.inl hfails
      · rw [List.foldlM_cons, bind_eq_ok_iff] at hbefore
        obtain ⟨next, hnext, hrest⟩ := hbefore
        exact Or.inr ⟨next, hnext, ih.mpr ⟨before', a', after, mid, rfl, hrest, hfails⟩⟩

end Chain

end Outcome

end FrameScript
