import Mathlib.Data.List.Forall2

set_option autoImplicit false

namespace Stages

variable {E : Type}

/-- Behind the last event that resets a history, one that opens it, the conditions are met in order. -/
def Staged (opens resets : E -> Prop) (conditions : List (E -> Prop)) (history : List E) : Prop :=
  exists earlier first later, history = earlier ++ first :: later /\ opens first /\
    (∀ event ∈ later, ¬ resets event) /\
    List.SublistForall₂ (fun condition event => condition event) conditions later

/-- The history is not reset from a place on. -/
def Fresh (resets : E -> Prop) (history : List E) (place : Nat) : Prop :=
  ∀ event ∈ history.drop place, ¬ resets event

variable {opens resets : E -> Prop} {conditions : List (E -> Prop)} {history : List E}

theorem staged_opened (first : E) (opened : opens first) (history : List E) :
    Staged opens resets [] (history ++ [first]) :=
  ⟨history, first, [], rfl, opened, by simp, .nil⟩

theorem Staged.quiet (passed : Staged opens resets conditions history) (more : List E)
    (quiet : ∀ event ∈ more, ¬ resets event) : Staged opens resets conditions (history ++ more) := by
  obtain ⟨earlier, first, later, rfl, opened, kept, met⟩ := passed
  obtain ⟨chosen, holds, within⟩ := List.sublistForall₂_iff.mp met
  refine ⟨earlier, first, later ++ more, by simp, opened, ?_, ?_⟩
  next =>
    intro event inside
    exact (List.mem_append.mp inside).elim (kept event) (quiet event)
  next => exact List.sublistForall₂_iff.mpr ⟨chosen, holds, within.trans (List.sublist_append_left _ _)⟩

theorem Staged.met (passed : Staged opens resets conditions history) {condition : E -> Prop}
    {event : E} (holds : condition event) (quiet : ¬ resets event) :
    Staged opens resets (conditions ++ [condition]) (history ++ [event]) := by
  obtain ⟨earlier, first, later, rfl, opened, kept, met⟩ := passed
  obtain ⟨chosen, all, within⟩ := List.sublistForall₂_iff.mp met
  refine ⟨earlier, first, later ++ [event], by simp, opened, ?_, ?_⟩
  next =>
    intro other inside
    cases List.mem_append.mp inside with
    | inl inside => exact kept other inside
    | inr inside => exact List.mem_singleton.mp inside ▸ quiet
  next =>
    exact List.sublistForall₂_iff.mpr ⟨chosen ++ [event],
      List.rel_append all (List.Forall₂.cons holds .nil), within.append (List.Sublist.refl [event])⟩

/-- Each of the conditions is met by an event of the history. -/
theorem Staged.occurs (passed : Staged opens resets conditions history) (condition : E -> Prop)
    (inside : condition ∈ conditions) : ∃ event ∈ history, condition event := by
  obtain ⟨earlier, first, later, rfl, _, _, met⟩ := passed
  obtain ⟨chosen, all, within⟩ := List.sublistForall₂_iff.mp met
  obtain ⟨place, known, rfl⟩ := List.mem_iff_getElem.mp inside
  have known' : place < chosen.length := all.length_eq ▸ known
  exact ⟨chosen.get ⟨place, known'⟩, by simp [within.subset (List.getElem_mem known')], all.get known known'⟩

theorem Fresh.before {more : List E} {place : Nat} (fresh : Fresh resets (history ++ more) place) :
    Fresh resets history place := by
  intro event inside
  apply fresh event
  rw [List.drop_append]
  exact List.mem_append_left _ inside

theorem not_fresh {more : List E} {place : Nat} {event : E} (within : place ≤ history.length)
    (inside : event ∈ more) (reset : resets event) : ¬ Fresh resets (history ++ more) place := by
  intro fresh
  apply fresh event _ reset
  rw [List.drop_append_of_le_length within]
  exact List.mem_append_right _ inside

end Stages
