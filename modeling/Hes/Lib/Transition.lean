import Mathlib.Data.Option.Basic
import Mathlib.Data.List.Basic

set_option autoImplicit false

namespace Transition

variable {S A : Type}

/-- A partial step: `none` when the action is not enabled in the state. -/
abbrev Step (S A : Type) := S -> A -> Option S

def run (step : Step S A) : S -> List A -> Option S
  | state, [] => some state
  | state, action :: rest => (step state action).bind fun next => run step next rest

/-- Every action of the run is taken in a state where `allowed` holds of it. -/
def AllAllowed (step : Step S A) (allowed : S -> A -> Prop) : S -> List A -> Prop
  | _, [] => True
  | state, action :: rest =>
    allowed state action /\
      match step state action with
      | some next => AllAllowed step allowed next rest
      | none => True

instance AllAllowed.decidable (step : Step S A) (allowed : S -> A -> Prop)
    [forall state action, Decidable (allowed state action)] :
    forall (state : S) (actions : List A), Decidable (AllAllowed step allowed state actions)
  | _, [] => isTrue trivial
  | state, action :: rest =>
    match known : step state action with
    | some next =>
      have := AllAllowed.decidable step allowed next rest
      decidable_of_iff (allowed state action /\ AllAllowed step allowed next rest)
        (by simp [AllAllowed, known])
    | none => decidable_of_iff (allowed state action) (by simp [AllAllowed, known])

@[simp]
theorem run_nil (step : Step S A) (state : S) : run step state [] = some state := rfl

theorem run_cons (step : Step S A) (state last : S) (action : A) (rest : List A) :
    run step state (action :: rest) = some last <->
      exists next, step state action = some next /\ run step next rest = some last := by
  simp [run, Option.bind_eq_some_iff]

theorem run_append (step : Step S A) (state middle : S) (first second : List A)
    (reached : run step state first = some middle) :
    run step state (first ++ second) = run step middle second := by
  induction first generalizing state with
  | nil =>
    have same : state = middle := by simpa using reached
    rw [List.nil_append, same]
  | cons action rest ih =>
    obtain ⟨next, stepped, later⟩ := (run_cons step state middle action rest).mp reached
    simp [run, stepped, ih next later]

theorem run_guarded_invariant (step : Step S A) (allowed : S -> A -> Prop) (inv : S -> Prop)
    (keeps : forall state action next, inv state -> allowed state action ->
      step state action = some next -> inv next)
    (state last : S) (actions : List A) (initial : inv state)
    (permitted : AllAllowed step allowed state actions)
    (finished : run step state actions = some last) : inv last := by
  induction actions generalizing state with
  | nil =>
    have same : state = last := by simpa using finished
    exact same ▸ initial
  | cons action rest ih =>
    obtain ⟨next, stepped, later⟩ := (run_cons step state last action rest).mp finished
    have kept : inv next := keeps state action next initial permitted.1 stepped
    have remaining := permitted.2
    simp only [stepped] at remaining
    exact ih next kept remaining later

theorem allAllowed_congr (step : Step S A) (first second : S -> A -> Prop)
    (same : forall state action, first state action <-> second state action) (state : S)
    (actions : List A) : AllAllowed step first state actions <-> AllAllowed step second state actions := by
  have equal : first = second := funext fun state => funext fun action => propext (same state action)
  rw [equal]

theorem allAllowed_mono (step : Step S A) (first second : S -> A -> Prop)
    (weaker : forall state action, first state action -> second state action) (state : S)
    (actions : List A) (allowed : AllAllowed step first state actions) :
    AllAllowed step second state actions := by
  induction actions generalizing state with
  | nil => trivial
  | cons action rest ih =>
    obtain ⟨now, later⟩ := allowed
    refine ⟨weaker state action now, ?_⟩
    cases stepped : step state action with
    | none => trivial
    | some next =>
      rw [stepped] at later
      exact ih next later

theorem allAllowed_true (step : Step S A) (state : S) (actions : List A) :
    AllAllowed step (fun _ _ => True) state actions := by
  induction actions generalizing state with
  | nil => trivial
  | cons action rest ih =>
    refine ⟨trivial, ?_⟩
    cases step state action with
    | none => trivial
    | some next => exact ih next

theorem run_invariant (step : Step S A) (inv : S -> Prop)
    (keeps : forall state action next, inv state -> step state action = some next -> inv next)
    (state last : S) (actions : List A) (initial : inv state)
    (finished : run step state actions = some last) : inv last :=
  run_guarded_invariant step (fun _ _ => True) inv
    (fun before action next held _ stepped => keeps before action next held stepped)
    state last actions initial (allAllowed_true step state actions) finished

/-- Where a step keeps the invariant exactly when it is allowed, a run does in all of its states. -/
theorem run_invariant_iff (step : Step S A) (inv : S -> Prop) (allowed : S -> A -> Prop)
    (exact_ : forall state action next, inv state -> step state action = some next ->
      (inv next <-> allowed state action))
    (disabled : forall state action, step state action = none -> allowed state action)
    (state : S) (initial : inv state) (actions : List A) :
    (forall first reached, first <+: actions -> run step state first = some reached -> inv reached) <->
      AllAllowed step allowed state actions := by
  induction actions generalizing state with
  | nil =>
    constructor
    next => exact fun _ => trivial
    next =>
      intro _ first reached inside ran
      have same : first = [] := List.prefix_nil.mp inside
      rw [same] at ran
      have kept : state = reached := by simpa using ran
      exact kept ▸ initial
  | cons action rest ih =>
    cases stepped : step state action with
    | none =>
      have trivially : AllAllowed step allowed state (action :: rest) :=
        ⟨disabled state action stepped, by rw [stepped]; trivial⟩
      constructor
      next => exact fun _ => trivially
      next =>
        intro _ first reached inside ran
        cases first with
        | nil =>
          have kept : state = reached := by simpa using ran
          exact kept ▸ initial
        | cons head tail =>
          have same : head = action := (List.cons_prefix_cons.mp inside).1
          simp [run, same, stepped] at ran
    | some next =>
      constructor
      next =>
        intro always
        have kept : inv next := always [action] next ⟨rest, rfl⟩ (by simp [run, stepped])
        refine ⟨(exact_ state action next initial stepped).mp kept, ?_⟩
        rw [stepped]
        apply (ih next kept).mp
        intro first reached inside ran
        exact always (action :: first) reached (List.cons_prefix_cons.mpr ⟨rfl, inside⟩)
          (by simp [run, stepped, ran])
      next =>
        intro permitted first reached inside ran
        have kept : inv next := (exact_ state action next initial stepped).mpr permitted.1
        have behind := permitted.2
        rw [stepped] at behind
        cases first with
        | nil =>
          have same : state = reached := by simpa using ran
          exact same ▸ initial
        | cons head tail =>
          obtain ⟨same, within⟩ := List.cons_prefix_cons.mp inside
          have later : run step next tail = some reached := by simpa [run, same, stepped] using ran
          exact (ih next kept).mpr behind tail reached within later

end Transition
