import Hes.Lib.Prog
import Mathlib.Order.WellFounded

set_option autoImplicit false

namespace Prog

variable {S A B L : Type}

/-- Where the state holds the fuel of the loops: from some fuel on the program returns, and fuel is
all that the states it reaches differ in. -/
def Settles (fuelled : Nat -> S -> S) (prog : Prog S A) (state : S) : Prop :=
  exists enough result after, forall fuel, enough ≤ fuel ->
    prog (fuelled fuel state) = (some result, fuelled fuel after)

/-- The program returns with any fuel. -/
def Steadies (fuelled : Nat -> S -> S) (prog : Prog S A) (state : S) : Prop :=
  exists result after, forall fuel, prog (fuelled fuel state) = (some result, fuelled fuel after)

variable {fuelled : Nat -> S -> S}

theorem Steadies.settles {prog : Prog S A} {state : S} (steady : Steadies fuelled prog state) :
    Settles fuelled prog state := by
  obtain ⟨result, after, ran⟩ := steady
  exact ⟨0, result, after, fun fuel _ => ran fuel⟩

theorem steadies_pure (value : A) (state : S) : Steadies fuelled (pure value) state :=
  ⟨value, state, fun _ => rfl⟩

theorem steadies_observe (view : S -> A) (state : S)
    (blind : forall fuel, view (fuelled fuel state) = view state) :
    Steadies fuelled (observe view) state :=
  ⟨view state, state, fun fuel => by rw [observe, blind]⟩

theorem steadies_update (change : S -> S) (state : S)
    (blind : forall fuel, change (fuelled fuel state) = fuelled fuel (change state)) :
    Steadies fuelled (update change) state :=
  ⟨(), change state, fun fuel => by rw [update, blind]⟩

theorem steadies_bind {first : Prog S A} {next : A -> Prog S B} {state : S}
    (before : Steadies fuelled first state)
    (behind : forall value after, Steadies fuelled (next value) after) :
    Steadies fuelled (first >>= next) state := by
  obtain ⟨value, middle, ran⟩ := before
  obtain ⟨result, after, later⟩ := behind value middle
  exact ⟨result, after, fun fuel => by rw [ran_bind (ran fuel), later]⟩

theorem settles_bind {first : Prog S A} {next : A -> Prog S B} {state : S}
    (before : Settles fuelled first state)
    (behind : forall value after, Settles fuelled (next value) after) :
    Settles fuelled (first >>= next) state := by
  obtain ⟨enough, value, middle, ran⟩ := before
  obtain ⟨more, result, after, later⟩ := behind value middle
  refine ⟨max enough more, result, after, fun fuel above => ?_⟩
  rw [ran_bind (ran fuel (le_trans (le_max_left _ _) above))]
  exact later fuel (le_trans (le_max_right _ _) above)

/-- A loop whose turns go down a well-founded relation ends. -/
theorem loop_ends (body : L -> Prog S (Turn L A)) (below : L -> L -> Prop) (ranked : WellFounded below)
    (turns : forall vars state, exists outcome after,
      (forall fuel, body vars (fuelled fuel state) = (some outcome, fuelled fuel after)) /\
        forall next, outcome = .again next -> below next vars)
    (vars : L) (state : S) :
    exists enough result after, forall count, enough ≤ count -> forall fuel,
      loop body count vars (fuelled fuel state) = (some result, fuelled fuel after) := by
  induction vars using ranked.induction generalizing state with
  | h vars ih =>
    obtain ⟨outcome, middle, ran, lower⟩ := turns vars state
    cases outcome with
    | done result =>
      refine ⟨1, result, middle, fun count above fuel => ?_⟩
      obtain ⟨fewer, rfl⟩ : exists fewer, count = fewer + 1 := ⟨count - 1, by omega⟩
      rw [loop, ran_bind (ran fuel)]
      rfl
    | again next =>
      obtain ⟨enough, result, after, later⟩ := ih next (lower next rfl) middle
      refine ⟨enough + 1, result, after, fun count above fuel => ?_⟩
      obtain ⟨fewer, rfl⟩ : exists fewer, count = fewer + 1 := ⟨count - 1, by omega⟩
      rw [loop, ran_bind (ran fuel)]
      exact later fewer (by omega) fuel

end Prog
