import Mathlib.Data.List.Forall2

namespace Foundation

variable {α β ε : Type} {read : α → Except ε β} {values : List α} {results : List β}

theorem mapM_eq_ok_iff :
    values.mapM read = .ok results ↔
      List.Forall₂ (fun value result => read value = .ok result) values results := by
  induction values generalizing results with
  | nil => cases results <;> simp [pure, Except.pure]
  | cons value values ih =>
      rw [List.mapM_cons]
      cases head : read value with
      | error reason => cases results <;> simp [bind, Except.bind, head]
      | ok result =>
          cases tail : values.mapM read with
          | error reason => cases results <;> simp [bind, Except.bind, head, ← ih, tail]
          | ok rest => cases results <;> simp [bind, Except.bind, pure, Except.pure, head, ← ih, tail]

theorem mapM_eq_map {pureRead : α → β} (values : List α)
    (reads : ∀ value ∈ values, read value = .ok (pureRead value)) :
    values.mapM read = .ok (values.map pureRead) := by
  rw [mapM_eq_ok_iff, List.forall₂_map_right_iff, List.forall₂_same]
  exact reads

theorem exists_left_of_forall₂ {related : α → β → Prop} {value : β}
    (pairs : List.Forall₂ related values results) (member : value ∈ results) :
    ∃ source ∈ values, related source value := by
  induction pairs with
  | nil => simp at member
  | cons head _ ih =>
      rcases List.mem_cons.mp member with rfl | member
      · exact ⟨_, List.mem_cons_self, head⟩
      · obtain ⟨source, inside, tail⟩ := ih member
        exact ⟨source, List.mem_cons_of_mem _ inside, tail⟩

theorem exists_forall₂ {related : α → β → Prop} (total : ∀ value ∈ values, ∃ result, related value result) :
    ∃ results, List.Forall₂ related values results := by
  induction values with
  | nil => exact ⟨[], .nil⟩
  | cons value values ih =>
      obtain ⟨result, head⟩ := total value List.mem_cons_self
      obtain ⟨results, tail⟩ := ih fun other member => total other (List.mem_cons_of_mem _ member)
      exact ⟨result :: results, .cons head tail⟩

theorem filterAuxM_eq_ok {test : α → Except ε Bool} {found chosen : List α}
    (filtered : values.filterAuxM test found = .ok chosen) :
    chosen = (values.filter fun value => (test value).toOption = some true).reverse ++ found := by
  induction values generalizing found with
  | nil =>
      cases filtered
      rfl
  | cons value values ih =>
      rw [List.filterAuxM] at filtered
      cases head : test value with
      | error reason => simp [head, bind, Except.bind] at filtered
      | ok kept =>
          simp only [head, bind, Except.bind] at filtered
          rw [ih filtered]
          cases kept <;> simp [head, Except.toOption]

/-- A filter that returns has kept the values that pass, in their order. -/
theorem filterM_eq_ok {test : α → Except ε Bool} {chosen : List α}
    (filtered : values.filterM test = .ok chosen) :
    chosen = values.filter fun value => (test value).toOption = some true := by
  rw [List.filterM] at filtered
  cases collected : values.filterAuxM test [] with
  | error reason => simp [collected, bind, Except.bind] at filtered
  | ok found =>
      simp only [collected, bind, Except.bind, pure, Except.pure, Except.ok.injEq] at filtered
      rw [← filtered, filterAuxM_eq_ok collected, List.append_nil, List.reverse_reverse]

theorem filterM_sound {test : α → Except ε Bool} {chosen : List α}
    (filtered : values.filterM test = .ok chosen) : ∀ value ∈ chosen, test value = .ok true := by
  intro value member
  rw [filterM_eq_ok filtered, List.mem_filter, decide_eq_true_eq] at member
  cases outcome : test value with
  | error reason => simp [outcome, Except.toOption] at member
  | ok kept => simpa [outcome, Except.toOption] using member.2

theorem filterM_subset {test : α → Except ε Bool} {chosen : List α}
    (filtered : values.filterM test = .ok chosen) : chosen ⊆ values := by
  rw [filterM_eq_ok filtered]
  exact List.filter_subset_self _

theorem filterAuxM_eq_filter {test : α → Except ε Bool} {decision : α → Bool} (found : List α)
    (tests : ∀ value ∈ values, test value = .ok (decision value)) :
    values.filterAuxM test found = .ok ((values.filter decision).reverse ++ found) := by
  induction values generalizing found with
  | nil => rfl
  | cons value values ih =>
      have rest := fun found => ih found fun other member => tests other (List.mem_cons_of_mem _ member)
      rw [List.filterAuxM, tests value List.mem_cons_self]
      simp only [bind, Except.bind]
      cases kept : decision value with
      | false => rw [cond_false, rest, List.filter_cons_of_neg (by simp [kept])]
      | true =>
          rw [cond_true, rest, List.filter_cons_of_pos kept, List.reverse_cons, List.append_assoc]
          rfl

theorem filterM_eq_filter {test : α → Except ε Bool} {decision : α → Bool}
    (tests : ∀ value ∈ values, test value = .ok (decision value)) :
    values.filterM test = .ok (values.filter decision) := by
  rw [List.filterM, filterAuxM_eq_filter [] tests]
  simp [bind, Except.bind, pure, Except.pure]

end Foundation
