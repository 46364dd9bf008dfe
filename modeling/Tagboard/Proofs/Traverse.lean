import Mathlib.Data.List.Forall2

/-!
# Computations that may fail, in sequence

A query is read and compiled token by token, from left to right, and the first failure is the failure
of the whole. These are the laws of such sequences: what a success says of every step, and which
step a failure comes from.
-/

namespace Tagboard

variable {ε α β γ : Type}

@[simp] theorem pure_eq_ok (result : α) : (pure result : Except ε α) = .ok result := rfl

@[simp] theorem throw_eq_error (failure : ε) : (throw failure : Except ε α) = .error failure := rfl

@[simp] theorem ok_bind (value : α) (next : α → Except ε β) : Except.ok value >>= next = next value :=
  rfl

@[simp] theorem error_bind (failure : ε) (next : α → Except ε β) :
    Except.error failure >>= next = .error failure := rfl

/-- Two computations in sequence succeed exactly if both do. -/
theorem bind_eq_ok_iff {first : Except ε α} {next : α → Except ε β} {result : β} :
    first >>= next = .ok result ↔ ∃ value, first = .ok value ∧ next value = .ok result := by
  cases first <;> simp

/-- Two computations in sequence fail as the first one, or as the second one after the first. -/
theorem bind_eq_error_iff {first : Except ε α} {next : α → Except ε β} {failure : ε} :
    first >>= next = .error failure ↔
      first = .error failure ∨ ∃ value, first = .ok value ∧ next value = .error failure := by
  cases first <;> simp

theorem map_eq_ok_iff {first : Except ε α} {f : α → β} {result : β} :
    first.map f = .ok result ↔ ∃ value, first = .ok value ∧ f value = result := by
  cases first <;> simp [Except.map]

theorem map_eq_error_iff {first : Except ε α} {f : α → β} {failure : ε} :
    first.map f = .error failure ↔ first = .error failure := by
  cases first <;> simp [Except.map]

/-- A sequence succeeds exactly if every step does, with the results in order. -/
theorem mapM_eq_ok_iff {step : α → Except ε β} {items : List α} {results : List β} :
    items.mapM step = .ok results ↔
      List.Forall₂ (fun item result => step item = .ok result) items results := by
  induction items generalizing results with
  | nil => cases results <;> simp
  | cons item rest ih =>
      simp only [List.mapM_cons, bind_eq_ok_iff, ih]
      constructor
      · rintro ⟨result, hitem, later, hrest, hresults⟩
        cases hresults
        exact .cons hitem hrest
      · rintro (_ | ⟨hitem, hrest⟩)
        exact ⟨_, hitem, _, hrest, rfl⟩

/-- A sequence succeeds exactly if each of its steps does. -/
theorem exists_mapM_eq_ok_iff {step : α → Except ε β} {items : List α} :
    (∃ results, items.mapM step = .ok results) ↔ ∀ item ∈ items, ∃ result, step item = .ok result := by
  induction items with
  | nil => simp
  | cons item rest ih =>
      simp only [List.mapM_cons, bind_eq_ok_iff, List.forall_mem_cons, ← ih]
      constructor
      · rintro ⟨_, result, hitem, later, hrest, -⟩
        exact ⟨⟨result, hitem⟩, later, hrest⟩
      · rintro ⟨⟨result, hitem⟩, later, hrest⟩
        exact ⟨result :: later, result, hitem, later, hrest, rfl⟩

/-- A sequence of steps that succeed collects their results. -/
theorem mapM_eq_ok_filterMap (result? : α → Option β) {step : α → Except ε β} {items : List α}
    (steps : ∀ item ∈ items, ∃ result, result? item = some result ∧ step item = .ok result) :
    items.mapM step = .ok (items.filterMap result?) := by
  induction items with
  | nil => rfl
  | cons item rest ih =>
      rw [List.forall_mem_cons] at steps
      obtain ⟨⟨result, found, success⟩, later⟩ := steps
      rw [List.mapM_cons, success, ih later, List.filterMap_cons_some found]
      rfl

/-- A sequence fails as the first of its steps that fails. -/
theorem mapM_eq_error_iff {step : α → Except ε β} {items : List α} {failure : ε} :
    items.mapM step = .error failure ↔
      ∃ before item after, items = before ++ item :: after ∧
        (∀ earlier ∈ before, ∃ result, step earlier = .ok result) ∧ step item = .error failure := by
  induction items with
  | nil => simp
  | cons item rest ih =>
      simp only [List.mapM_cons, bind_eq_error_iff, ih]
      constructor
      · rintro (hitem |
          ⟨result, hitem, ⟨before, failing, after, hrest, hbefore, hfailing⟩ | ⟨_, _, hpure⟩⟩)
        · exact ⟨[], item, rest, rfl, by simp, hitem⟩
        · subst hrest
          exact ⟨item :: before, failing, after, rfl,
            List.forall_mem_cons.mpr ⟨⟨result, hitem⟩, hbefore⟩, hfailing⟩
        · cases hpure
      · rintro ⟨before, failing, after, hitems, hbefore, hfailing⟩
        cases before with
        | nil =>
            cases hitems
            exact .inl hfailing
        | cons first before =>
            obtain ⟨rfl, rfl⟩ := List.cons.inj hitems
            rw [List.forall_mem_cons] at hbefore
            obtain ⟨⟨result, hfirst⟩, hbefore⟩ := hbefore
            exact .inr ⟨result, hfirst, .inl ⟨before, failing, after, rfl, hbefore, hfailing⟩⟩

/-- A sequence depends on its steps for its own items only. -/
theorem mapM_congr {step other : α → Except ε β} {items : List α}
    (same : ∀ item ∈ items, step item = other item) : items.mapM step = items.mapM other := by
  induction items with
  | nil => rfl
  | cons item rest ih =>
      rw [List.forall_mem_cons] at same
      rw [List.mapM_cons, List.mapM_cons, same.1, ih same.2]

/-- Steps for the parts that some items have are steps for these items, and none for the others. -/
theorem mapM_filterMap_eq {part? : α → Option β} {step : β → Except ε γ} (items : List α) :
    (items.filterMap part?).mapM step =
      items.mapM (fun item => (part? item).mapM step) >>= fun results =>
        .ok (results.filterMap id) := by
  induction items with
  | nil => rfl
  | cons item rest ih =>
      rw [List.mapM_cons]
      cases part : part? item with
      | none =>
          rw [List.filterMap_cons_none part, ih]
          cases rest.mapM fun item => (part? item).mapM step <;> simp
      | some value =>
          rw [List.filterMap_cons_some part, List.mapM_cons, ih, Option.mapM_some]
          cases step value <;> cases rest.mapM fun item => (part? item).mapM step <;> simp

/-- What holds of every result of a sequence is what each step establishes. -/
theorem forall_mem_results_iff {step : α → Except ε β} {items : List α} {results : List β}
    {P : β → Prop} (success : items.mapM step = .ok results) :
    (∀ result ∈ results, P result) ↔ ∀ item ∈ items, ∀ result, step item = .ok result → P result := by
  rw [mapM_eq_ok_iff] at success
  induction success with
  | nil => simp
  | cons hitem _ ih => simp [hitem, ih]

/-- Steps of which each gives a result give all results. -/
theorem mapM_eq_some_map {step : α → Option β} {f : α → β} {items : List α}
    (each : ∀ x ∈ items, step x = some (f x)) : items.mapM step = some (items.map f) := by
  induction items with
  | nil => rfl
  | cons x items ih =>
      rw [List.forall_mem_cons] at each
      rw [List.mapM_cons, each.1, ih each.2]
      rfl

end Tagboard
