import Mathlib.Data.List.Perm.Basic

/-! Traversals that stop at the first failure. They succeed exactly if every step does, and
then their results stand in the order of the items.
-/

namespace ObjectGrants

namespace Traversal

variable {ε α β γ : Type}

/-- A sequence succeeds exactly if both of its steps do. -/
theorem bind_eq_ok_iff {first : Except ε α} {second : α → Except ε β} {result : β}
    : first >>= second = .ok result
      ↔ ∃ value, first = .ok value ∧ second value = .ok result := by
  cases first <;> simp [Bind.bind, Except.bind]

/-- A change of the result leaves a failure as it is. -/
theorem map_eq_ok_iff {first : Except ε α} {change : α → β} {result : β}
    : first.map change = .ok result ↔ ∃ value, first = .ok value ∧ change value = result := by
  cases first <;> simp [Except.map]

/-- An item of a list that is related to another has a partner there. -/
theorem exists_partner {related : α → β → Prop} {items : List α} {results : List β} {item : α}
    (pairs : List.Forall₂ related items results) (member : item ∈ items)
    : ∃ result ∈ results, related item result := by
  induction pairs with
  | nil => exact nomatch member
  | cons pair _ ih =>
      rcases List.mem_cons.mp member with rfl | later
      · exact ⟨_, List.mem_cons_self, pair⟩
      · obtain ⟨result, member, pair⟩ := ih later
        exact ⟨result, List.mem_cons_of_mem _ member, pair⟩

/-- The partner of the item at some place is at the same place. -/
theorem exists_partner_at {related : α → β → Prop} {items : List α} {results : List β}
    (pairs : List.Forall₂ related items results) {place : Nat} {item : α}
    (found : items[place]? = some item)
    : ∃ result, results[place]? = some result ∧ related item result := by
  induction pairs generalizing place with
  | nil => exact nomatch found
  | cons pair _ ih =>
      cases place with
      | zero =>
          obtain rfl := Option.some.inj found
          exact ⟨_, rfl, pair⟩
      | succ place => exact ih found

/-- Lists of which each pair agrees in something agree in it as a whole. -/
theorem map_eq_map {left : α → γ} {right : β → γ} {items : List α} {results : List β}
    (pairs : List.Forall₂ (fun item result => right result = left item) items results)
    : results.map right = items.map left := by
  induction pairs with
  | nil => rfl
  | cons pair _ ih => rw [List.map_cons, List.map_cons, pair, ih]

/-- A traversal succeeds exactly if every item gives its result, by list induction. -/
theorem mapM_eq_ok_iff {step : α → Except ε β} {items : List α} {results : List β}
    : items.mapM step = .ok results
      ↔ List.Forall₂ (fun item result => step item = .ok result) items results := by
  induction items generalizing results with
  | nil => cases results <;> simp [pure, Except.pure]
  | cons item rest ih =>
      rw [List.mapM_cons]
      simp only [bind_eq_ok_iff, List.forall₂_cons_left_iff]
      constructor
      · intro holds
        obtain ⟨value, given, values, remaining, same⟩ := holds
        exact ⟨value, values, given, ih.mp remaining, (Except.ok.inj same).symm⟩
      · intro holds
        obtain ⟨value, values, given, remaining, rfl⟩ := holds
        exact ⟨value, given, values, ih.mpr remaining, rfl⟩

/-- A traversal succeeds exactly if every step does, by list induction. -/
theorem exists_mapM_eq_ok_iff {step : α → Except ε β} {items : List α}
    : (∃ results, items.mapM step = .ok results)
      ↔ ∀ item ∈ items, ∃ result, step item = .ok result := by
  simp only [mapM_eq_ok_iff]
  induction items with
  | nil => simp
  | cons item rest ih =>
      rw [List.forall_mem_cons, ← ih]
      constructor
      · intro holds
        obtain ⟨_, pairs⟩ := holds
        cases pairs with
        | cons given others => exact ⟨⟨_, given⟩, _, others⟩
      · intro holds
        obtain ⟨⟨_, given⟩, _, others⟩ := holds
        exact ⟨_, .cons given others⟩

/-- Steps that agree on all items make the same traversal. -/
theorem mapM_congr {step other : α → Except ε β} {items : List α}
    (same : ∀ item ∈ items, step item = other item)
    : items.mapM step = items.mapM other := by
  induction items with
  | nil => rfl
  | cons item rest ih =>
      rw [List.mapM_cons, List.mapM_cons, same item List.mem_cons_self,
        ih fun later member => same later (List.mem_cons_of_mem item member)]

/-- A traversal that succeeds does so in every order of the items, with its results in another
order.
-/
theorem mapM_perm {step : α → Except ε β} {items others : List α} (perm : items.Perm others)
    {results : List β} (given : items.mapM step = .ok results)
    : ∃ results', others.mapM step = .ok results' ∧ results.Perm results' := by
  obtain ⟨results', pairs, same⟩ := List.perm_comp_forall₂ perm.symm (mapM_eq_ok_iff.mp given)
  exact ⟨results', mapM_eq_ok_iff.mpr pairs, same.symm⟩

/-- A traversal fails exactly with the fault of the first item that fails, by list induction. -/
theorem mapM_eq_error_iff {step : α → Except ε β} {items : List α} {fault : ε}
    : items.mapM step = .error fault
      ↔ ∃ before item behind results,
          items = before ++ item :: behind
          ∧ List.Forall₂ (fun item result => step item = .ok result) before results
          ∧ step item = .error fault := by
  induction items with
  | nil => simp [pure, Except.pure]
  | cons first rest ih =>
      rw [List.mapM_cons]
      cases given : step first with
      | error cause =>
          constructor
          · intro holds
            obtain rfl := Except.error.inj holds
            exact ⟨[], first, rest, [], rfl, .nil, given⟩
          · rintro ⟨before, item, behind, results, same, passed, failed⟩
            cases passed with
            | nil =>
                obtain ⟨rfl, rfl⟩ := List.cons.inj same
                exact congrArg Except.error (Except.error.inj (given.symm.trans failed))
            | cons head _ =>
                obtain ⟨rfl, _⟩ := List.cons.inj same
                exact nomatch given.symm.trans head
      | ok value =>
          have onwards : (do let others ← rest.mapM step; pure (value :: others))
              = Except.error fault ↔ rest.mapM step = .error fault := by
            cases rest.mapM step <;> simp [Bind.bind, Except.bind, pure, Except.pure]
          refine onwards.trans (ih.trans ?_)
          constructor
          · rintro ⟨before, item, behind, results, rfl, passed, failed⟩
            exact ⟨first :: before, item, behind, value :: results, rfl, .cons given passed,
              failed⟩
          · rintro ⟨before, item, behind, results, same, passed, failed⟩
            cases passed with
            | nil =>
                obtain ⟨rfl, _⟩ := List.cons.inj same
                exact nomatch given.symm.trans failed
            | cons _ others =>
                obtain ⟨_, rfl⟩ := List.cons.inj same
                exact ⟨_, item, behind, _, rfl, others, failed⟩

/-- A traversal of what may be missing succeeds exactly if every item gives its result, by list
induction.
-/
theorem mapM_eq_some_iff {step : α → Option β} {items : List α} {results : List β}
    : items.mapM step = some results
      ↔ List.Forall₂ (fun item result => step item = some result) items results := by
  induction items generalizing results with
  | nil => cases results <;> simp
  | cons item rest ih =>
      simp only [List.mapM_cons, Option.bind_eq_bind, Option.bind_eq_some_iff, Option.pure_def,
        List.forall₂_cons_left_iff, ih, Option.some.injEq]
      constructor
      · intro holds
        obtain ⟨value, given, values, remaining, rfl⟩ := holds
        exact ⟨value, values, given, remaining, rfl⟩
      · intro holds
        obtain ⟨value, values, given, remaining, rfl⟩ := holds
        exact ⟨value, given, values, remaining, rfl⟩

/-- A traversal that undoes the form of every item gives the items back. -/
theorem mapM_map_eq_some {step : β → Option α} {form : α → β} {items : List α}
    (undoes : ∀ item ∈ items, step (form item) = some item)
    : (items.map form).mapM step = some items := by
  induction items with
  | nil => rfl
  | cons item items ih =>
      rw [List.map_cons, List.mapM_cons, undoes item List.mem_cons_self,
        ih fun other member => undoes other (List.mem_cons_of_mem item member)]
      rfl

/-- `results` are those of the items that have one, in the order of the items, and nothing else. -/
inductive Gathers (gives : α → β → Prop) : List α → List β → Prop
  | nil : Gathers gives [] []
  | given {item result items results} (here : gives item result)
    (rest : Gathers gives items results)
    : Gathers gives (item :: items) (result :: results)
  | skipped {item items results} (never : ∀ result, ¬ gives item result)
    (rest : Gathers gives items results)
    : Gathers gives (item :: items) results

/-- A filter that maps gathers the results, by list induction. -/
theorem gathers_filterMap {step : α → Option β} {gives : α → β → Prop}
    (gives_iff : ∀ {item result}, step item = some result ↔ gives item result) (items : List α)
    : Gathers gives items (items.filterMap step) := by
  induction items with
  | nil => exact .nil
  | cons item rest ih =>
      cases found : step item with
      | none =>
          rw [List.filterMap_cons_none found]
          exact .skipped (fun _ gives => nomatch found.symm.trans (gives_iff.mpr gives)) ih
      | some result =>
          rw [List.filterMap_cons_some found]
          exact .given (gives_iff.mp found) ih

end Traversal

end ObjectGrants
