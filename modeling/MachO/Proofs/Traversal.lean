import Mathlib.Tactic

/-!
# Traversals that may fail

A traversal of a list succeeds when every step does, and otherwise fails with
the error of the first step that does not.
-/

namespace MachO.Traversal

variable {α β ε : Type} (step : α → Except ε β)

theorem exists_mapM_cons_iff (first : α) (rest : List α) :
    (∃ results, (first :: rest).mapM step = .ok results) ↔
      (∃ result, step first = .ok result) ∧
        ∃ results, rest.mapM step = .ok results := by
  rw [List.mapM_cons]
  cases hfirst : step first with
  | error failure => simp [bind, Except.bind]
  | ok result =>
      cases hrest : rest.mapM step <;>
        simp [bind, Except.bind, pure, Except.pure]

theorem mapM_cons_eq_error_iff (first : α) (rest : List α) (failure : ε) :
    (first :: rest).mapM step = .error failure ↔
      step first = .error failure ∨
        (∃ result, step first = .ok result) ∧
          rest.mapM step = .error failure := by
  rw [List.mapM_cons]
  cases hfirst : step first with
  | error other => simp [bind, Except.bind]
  | ok result =>
      cases hrest : rest.mapM step <;>
        simp [bind, Except.bind, pure, Except.pure]

theorem exists_mapM_iff (list : List α) :
    (∃ results, list.mapM step = .ok results) ↔
      ∀ element ∈ list, ∃ result, step element = .ok result := by
  induction list with
  | nil => simp [pure, Except.pure]
  | cons first rest ih =>
      rw [exists_mapM_cons_iff, ih, List.forall_mem_cons]

theorem mapM_eq_ok {value : α → β}
    (hstep : ∀ element, step element = .ok (value element)) (list : List α) :
    list.mapM step = .ok (list.map value) := by
  have hpure : step = fun element => pure (value element) :=
    funext hstep
  rw [hpure, List.mapM_pure]
  rfl

theorem mapM_congr {step other : α → Except ε β} {list : List α}
    (hsteps : ∀ element ∈ list, step element = other element) :
    list.mapM step = list.mapM other := by
  induction list with
  | nil => rfl
  | cons first rest ih =>
      obtain ⟨hfirst, hrest⟩ := List.forall_mem_cons.mp hsteps
      rw [List.mapM_cons, List.mapM_cons, hfirst, ih hrest]

theorem exists_of_mem_mapM {list : List α} {results : List β}
    (hresults : list.mapM step = .ok results) {result : β}
    (hmem : result ∈ results) :
    ∃ element ∈ list, step element = .ok result := by
  induction list generalizing results with
  | nil =>
      cases hresults
      cases hmem
  | cons first rest ih =>
      rw [List.mapM_cons] at hresults
      cases hfirst : step first with
      | error failure => simp [hfirst, bind, Except.bind] at hresults
      | ok head =>
          cases hrest : rest.mapM step with
          | error failure =>
              simp [hfirst, hrest, bind, Except.bind] at hresults
          | ok tail =>
              simp only [hfirst, hrest, bind, Except.bind, pure, Except.pure,
                Except.ok.injEq] at hresults
              subst hresults
              rcases List.mem_cons.mp hmem with rfl | htail
              · exact ⟨first, List.mem_cons_self, hfirst⟩
              · obtain ⟨element, helement, hstep⟩ := ih hrest htail
                exact ⟨element, List.mem_cons_of_mem first helement, hstep⟩

theorem mapM_eq_error_iff (list : List α) (failure : ε) :
    list.mapM step = .error failure ↔
      ∃ before element after, list = before ++ element :: after ∧
        (∀ other ∈ before, ∃ result, step other = .ok result) ∧
          step element = .error failure := by
  induction list with
  | nil => simp [pure, Except.pure]
  | cons first rest ih =>
      rw [mapM_cons_eq_error_iff, ih]
      constructor
      · rintro (hfirst |
          ⟨hfirst, before, element, after, rfl, hbefore, hfail⟩)
        · exact ⟨[], first, rest, rfl, by simp, hfirst⟩
        · refine ⟨first :: before, element, after, rfl, ?_, hfail⟩
          exact List.forall_mem_cons.mpr ⟨hfirst, hbefore⟩
      · rintro ⟨before, element, after, hlist, hbefore, hfail⟩
        cases before with
        | nil =>
            cases hlist
            exact Or.inl hfail
        | cons head before =>
            cases hlist
            obtain ⟨hhead, htail⟩ := List.forall_mem_cons.mp hbefore
            exact Or.inr ⟨hhead, before, element, after, rfl, htail, hfail⟩

theorem range_eq_append_cons_iff (count i : Nat) (before after : List Nat) :
    List.range count = before ++ i :: after ↔
      i < count ∧ before = List.range i ∧
        after = List.range' (i + 1) (count - i - 1) := by
  rw [List.range_eq_range', List.range'_eq_append_iff]
  constructor
  · rintro ⟨k, hk, hbefore, hafter⟩
    obtain ⟨hi, hpos, hrest⟩ := List.range'_eq_cons_iff.mp hafter.symm
    simp only [Nat.zero_add, Nat.mul_one] at hi
    subst hi
    refine ⟨by omega, ?_, ?_⟩
    · rw [hbefore, List.range_eq_range']
    · simpa using hrest
  · rintro ⟨hi, hbefore, hafter⟩
    refine ⟨i, hi.le, by rw [hbefore, List.range_eq_range'], ?_⟩
    symm
    rw [List.range'_eq_cons_iff]
    exact ⟨by simp, by omega, by simpa using hafter⟩

/-- Over the numbers below a bound, the first step that fails is the least
one. -/
theorem mapM_range_eq_error_iff (step : Nat → Except ε β) (count : Nat)
    (failure : ε) :
    (List.range count).mapM step = .error failure ↔
      ∃ i < count, (∀ j < i, ∃ result, step j = .ok result) ∧
        step i = .error failure := by
  simp only [mapM_eq_error_iff, range_eq_append_cons_iff]
  constructor
  · rintro ⟨before, i, after, ⟨hi, rfl, rfl⟩, hbefore, hfail⟩
    exact ⟨i, hi, fun j hj => hbefore j (List.mem_range.mpr hj), hfail⟩
  · rintro ⟨i, hi, hbefore, hfail⟩
    exact ⟨_, i, _, ⟨hi, rfl, rfl⟩,
      fun j hj => hbefore j (List.mem_range.mp hj), hfail⟩

end MachO.Traversal
