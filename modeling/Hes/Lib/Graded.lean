import Hes.Lib.Prog
import Hes.Lib.Transition

set_option autoImplicit false

namespace Prog

variable {S A B L : Type}

/-- Relations with a cost: costs add up, and more than a cost will do for it. -/
structure Graded (rel : Nat -> S -> S -> Prop) : Prop where
  refl : forall state, rel 0 state state
  trans : forall cost more first second third, rel cost first second -> rel more second third ->
    rel (cost + more) first third
  mono : forall cost more before after, cost ≤ more -> rel cost before after -> rel more before after

section Rules

variable {rel : Nat -> S -> S -> Prop} (graded : Graded rel)

include graded

theorem graded_most {prog : Prog S A} {cost : Nat} (most : Nat) (less : cost ≤ most)
    (costs : Respects (rel cost) prog) : Respects (rel most) prog :=
  fun state => graded.mono cost most _ _ less (costs state)

theorem graded_free {prog : Prog S A} (cost : Nat) (free : Respects (rel 0) prog) :
    Respects (rel cost) prog := graded_most graded cost (Nat.zero_le _) free

theorem graded_pure (value : A) : Respects (rel 0) (pure value : Prog S A) := fun state => graded.refl state

theorem graded_observe (view : S -> A) : Respects (rel 0) (observe view) := fun state => graded.refl state

theorem graded_waiting : Respects (rel 0) (waiting : Prog S A) := fun state => graded.refl state

theorem graded_bind {first : Prog S A} {next : A -> Prog S B} (cost more : Nat)
    (before : Respects (rel cost) first) (behind : forall value, Respects (rel more) (next value)) :
    Respects (rel (cost + more)) (first >>= next) := by
  intro state
  have moved := before state
  simp only [bind]
  cases ran : first state with
  | mk outcome middle =>
    rw [ran] at moved
    cases outcome with
    | none => exact graded.mono _ _ _ _ (Nat.le_add_right _ _) moved
    | some value => exact graded.trans _ _ _ _ _ moved (behind value middle)

/-- A turn of a loop that pays for its cost, and for the potential of the next turn, from a budget. -/
def Paid (rel : Nat -> S -> S -> Prop) (potential : L -> Nat) (budget : Nat) (state : S) :
    Option (Turn L A) × S -> Prop
  | (some (.again next), after) =>
    exists cost, rel cost state after /\ cost + potential next ≤ budget
  | (_, after) => rel budget state after

theorem Paid.behind {potential : L -> Nat} {budget : Nat} {first second : S}
    {turned : Option (Turn L A) × S} (free : rel 0 first second)
    (paid : Paid rel potential budget second turned) : Paid rel potential budget first turned := by
  have moved (cost : Nat) (last : S) (costs : rel cost second last) : rel cost first last :=
    Nat.zero_add cost ▸ graded.trans _ _ _ _ _ free costs
  match turned, paid with
  | (some (.again next), after), ⟨cost, costs, less⟩ => exact ⟨cost, moved cost after costs, less⟩
  | (some (.done result), after), costs => exact moved budget after costs
  | (none, after), costs => exact moved budget after costs

/-- A loop costs what its potential is in front of it, where every turn pays from its own. Of states
that are not asked about the relation says nothing. -/
theorem graded_loop (body : L -> Prog S (Turn L A)) (potential : L -> Nat) (asked : S -> Prop)
    (unasked : forall cost state after, ¬ asked state -> rel cost state after)
    (turns : forall vars state, asked state ->
      Paid rel potential (potential vars) state (body vars state))
    (fuel : Nat) (vars : L) : Respects (rel (potential vars)) (loop body fuel vars) := by
  induction fuel generalizing vars with
  | zero => exact graded_free graded _ (graded_waiting graded)
  | succ fuel ih =>
    intro state
    by_cases known : asked state
    next =>
      have turn := turns vars state known
      simp only [loop, bind]
      cases ran : body vars state with
      | mk outcome after =>
        rw [ran] at turn
        cases outcome with
        | none => exact turn
        | some outcome =>
          cases outcome with
          | done result => exact turn
          | again next =>
            obtain ⟨cost, moved, paid⟩ := turn
            exact graded.mono _ _ _ _ paid (graded.trans _ _ _ _ _ moved (ih next after))
    next => exact unasked _ _ _ known

end Rules

end Prog

namespace Transition

variable {S A : Type}

/-- What the steps of a run cost together. -/
def spent (step : Step S A) (cost : S -> A -> Nat) : S -> List A -> Nat
  | _, [] => 0
  | state, action :: rest =>
    cost state action + match step state action with
      | some next => spent step cost next rest
      | none => 0

/-- Where every step is paid for by the height it goes down, a run costs no more than the height it
begins at. A step behind which the run cannot go on is paid for too. -/
theorem spent_le (step : Step S A) (cost : S -> A -> Nat) (height : S -> Nat)
    (allowed : S -> A -> Prop) (inv : S -> Prop)
    (pays : forall state action, inv state -> allowed state action ->
      match step state action with
      | some next => inv next /\ height next + cost state action ≤ height state
      | none => cost state action ≤ height state)
    (state : S) (actions : List A) (initial : inv state)
    (permitted : AllAllowed step allowed state actions) :
    spent step cost state actions ≤ height state := by
  induction actions generalizing state with
  | nil => exact Nat.zero_le _
  | cons action rest ih =>
    have paid := pays state action initial permitted.1
    have later := permitted.2
    rw [spent]
    cases stepped : step state action with
    | none =>
      rw [stepped] at paid
      exact paid
    | some next =>
      rw [stepped] at paid later
      have remaining := ih next paid.1 later
      have less := paid.2
      dsimp only at remaining ⊢
      omega

end Transition
