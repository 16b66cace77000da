import Mathlib.Data.List.Forall2

/-! # Steps that can fail

A sequence of steps succeeds when every step does, and then its result consists of theirs.
-/

namespace RubyClasses

variable {ε α β : Type}

/-- Two steps succeed if the first one does and then the second one with its result. -/
theorem bind_eq_ok_iff {step : Except ε α} {next : α → Except ε β} {b : β} :
    step >>= next = .ok b ↔ ∃ a, step = .ok a ∧ next a = .ok b := by
  cases step with
  | error e => simp [bind, Except.bind]
  | ok a => simp [bind, Except.bind]

theorem map_eq_ok_iff {step : Except ε α} {f : α → β} {b : β} :
    step.map f = .ok b ↔ ∃ a, step = .ok a ∧ f a = b := by
  cases step with
  | error e => simp [Except.map]
  | ok a => simp [Except.map]

theorem mapError_eq_ok_iff {ε' : Type} {step : Except ε α} {f : ε → ε'} {a : α} :
    step.mapError f = .ok a ↔ step = .ok a := by
  cases step <;> simp [Except.mapError]

theorem mapError_eq_error_iff {ε' : Type} {step : Except ε α} {f : ε → ε'} {e' : ε'} :
    step.mapError f = .error e' ↔ ∃ e, step = .error e ∧ f e = e' := by
  cases step <;> simp [Except.mapError]

theorem toOption_eq_some_iff {step : Except ε α} {a : α} :
    step.toOption = some a ↔ step = .ok a := by
  cases step <;> simp [Except.toOption]

/-- A sequence succeeds with the results of its steps. -/
theorem mapM_eq_ok_iff {step : α → Except ε β} {items : List α} {results : List β} :
    items.mapM step = .ok results ↔
      List.Forall₂ (fun item result => step item = .ok result) items results := by
  induction items generalizing results with
  | nil => cases results <;> simp [pure, Except.pure]
  | cons item rest ih =>
      rw [List.mapM_cons, bind_eq_ok_iff, List.forall₂_cons_left_iff]
      constructor
      · rintro ⟨result, hitem, h⟩
        obtain ⟨others, hrest, h⟩ := bind_eq_ok_iff.mp h
        cases h
        exact ⟨result, others, hitem, ih.mp hrest, rfl⟩
      · rintro ⟨result, others, hitem, hrest, rfl⟩
        exact ⟨result, hitem, bind_eq_ok_iff.mpr ⟨others, ih.mpr hrest, rfl⟩⟩

/-- Two steps fail if the first one does, or else the second one. -/
theorem bind_eq_error_iff {step : Except ε α} {next : α → Except ε β} {e : ε} :
    step >>= next = .error e ↔ step = .error e ∨ ∃ a, step = .ok a ∧ next a = .error e := by
  cases step with
  | error e => simp [bind, Except.bind]
  | ok a => simp [bind, Except.bind]

/-- A step that cannot fail adds no fault. -/
theorem bind_pure_eq_error_iff {step : Except ε α} {f : α → β} {e : ε} :
    (step >>= fun a => pure (f a)) = .error e ↔ step = .error e := by
  cases step with
  | error e => simp [bind, Except.bind]
  | ok a => simp [bind, Except.bind, pure, Except.pure]

theorem map_eq_error_iff {step : Except ε α} {f : α → β} {e : ε} :
    step.map f = .error e ↔ step = .error e := by
  cases step with
  | error e => simp [Except.map]
  | ok a => simp [Except.map]

/-- A sequence fails as the first of its steps that fails. -/
theorem mapM_eq_error_iff {step : α → Except ε β} {items : List α} {e : ε} :
    items.mapM step = .error e ↔ ∃ before item after, items = before ++ item :: after ∧
      (∀ earlier ∈ before, ∃ result, step earlier = .ok result) ∧ step item = .error e := by
  induction items with
  | nil => simp [pure, Except.pure]
  | cons first rest ih =>
      rw [List.mapM_cons, bind_eq_error_iff]
      constructor
      · rintro (hfirst | ⟨result, hfirst, h⟩)
        · exact ⟨[], first, rest, rfl, by simp, hfirst⟩
        · obtain ⟨before, item, after, rfl, hbefore, hitem⟩ :=
            ih.mp (bind_pure_eq_error_iff.mp h)
          refine ⟨first :: before, item, after, rfl, ?_, hitem⟩
          intro earlier hmem
          rcases List.mem_cons.mp hmem with rfl | hmem
          · exact ⟨result, hfirst⟩
          · exact hbefore earlier hmem
      · rintro ⟨before, item, after, hparts, hbefore, hitem⟩
        cases before with
        | nil =>
            cases hparts
            exact .inl hitem
        | cons _ before =>
            obtain ⟨rfl, rfl⟩ := List.cons.inj hparts
            obtain ⟨result, hfirst⟩ := hbefore first List.mem_cons_self
            have hrest := ih.mpr ⟨before, item, after, rfl,
              fun earlier hmem => hbefore earlier (List.mem_cons_of_mem _ hmem), hitem⟩
            exact .inr ⟨result, hfirst, bind_pure_eq_error_iff.mpr hrest⟩

/-- Steps that fail alike make sequences that fail alike. -/
theorem mapM_eq_error_congr {γ : Type} {step : α → Except ε β} {other : α → Except ε γ}
    (hsame : ∀ item e, step item = .error e ↔ other item = .error e) {items : List α} {e : ε} :
    items.mapM step = .error e ↔ items.mapM other = .error e := by
  have hok : ∀ item, (∃ result, step item = .ok result) ↔ ∃ result, other item = .ok result := by
    intro item
    have hitem := hsame item
    cases hstep : step item with
    | error e =>
        have hother := (hitem e).mp hstep
        simp [hother]
    | ok result =>
        cases hother : other item with
        | error e => simp [(hitem e).mpr hother] at hstep
        | ok _ => simp
  simp only [mapM_eq_error_iff, hok, hsame]

/-- Steps that are grouped fail as they do one after the other. -/
theorem mapM_flatMap_eq_error_iff {γ : Type} {step : α → Except ε β} {group : γ → List α}
    {groups : List γ} {e : ε} :
    (groups.flatMap group).mapM step = .error e ↔
      groups.mapM (fun item => (group item).mapM step) = .error e := by
  induction groups with
  | nil => simp [pure, Except.pure]
  | cons first rest ih =>
      rw [List.flatMap_cons, List.mapM_append, List.mapM_cons, bind_eq_error_iff, bind_eq_error_iff]
      apply or_congr_right
      apply exists_congr
      intro results
      rw [bind_pure_eq_error_iff, bind_pure_eq_error_iff, ih]

end RubyClasses
