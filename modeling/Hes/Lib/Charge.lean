import Hes.Lib.Prog
import Mathlib.Algebra.GroupWithZero.Nat
import Mathlib.Data.List.Chain
import Mathlib.Data.Set.Basic

set_option autoImplicit false

namespace Charge

open Prog

variable {S L A T C : Type}

section Turns

variable (body : L -> Prog S (Turn L A))

/-- The turn behind a turn of a loop. -/
def Follows (turn next : L × S) : Prop := body turn.1 turn.2 = (some (.again next.1), next.2)

theorem entered_follows (fuel : Nat) (vars : L) (state : S) :
    List.IsChain (Follows body) (entered body fuel vars state) := by
  induction fuel generalizing vars state with
  | zero => exact .nil
  | succ fuel ih =>
    rw [entered]
    split
    next next after ran =>
      apply List.IsChain.cons (ih next after)
      intro turn first
      cases fuel with
      | zero => simp [entered] at first
      | succ fuel =>
        obtain rfl : (next, after) = turn := by simpa [entered] using first
        exact ran
    next => exact .singleton _

theorem entered_keeps (inv : S -> Prop)
    (keeps : forall turn next, inv turn.2 -> Follows body turn next -> inv next.2)
    (fuel : Nat) (vars : L) (state : S) (known : inv state) :
    ∀ turn ∈ entered body fuel vars state, inv turn.2 := by
  induction fuel generalizing vars state with
  | zero => simp [entered]
  | succ fuel ih =>
    intro turn inside
    rcases List.mem_cons.mp inside with rfl | later
    next => exact known
    next =>
      split at later
      next next after ran => exact ih next after (keeps (vars, state) (next, after) known ran) turn later
      next => simp at later

end Turns

section Accounts

variable {R : T -> T -> Prop} (height cost gain : T -> Nat)

/-- A turn costs no more than it gains and its height goes down by. -/
def Pays (R : T -> T -> Prop) (height cost gain : T -> Nat) (turn : T) : Prop :=
  forall next, R turn next -> height next + cost turn ≤ height turn + gain turn

theorem cost_from (first : T) (turns : List T) (last : T)
    (chain : List.IsChain R (first :: (turns ++ [last])))
    (pays : ∀ turn ∈ first :: turns, Pays R height cost gain turn) :
    ((first :: turns).map cost).sum + height last ≤ height first + ((first :: turns).map gain).sum := by
  induction turns generalizing first with
  | nil =>
    have paid := pays first (by simp) last (by simpa using chain)
    simpa [Nat.add_comm] using paid
  | cons next rest ih =>
    rw [List.cons_append, List.isChain_cons_cons] at chain
    have paid := pays first (by simp) next chain.1
    have later := ih next chain.2 fun turn inside => pays turn (by simp [List.mem_cons.mp inside])
    simp only [List.map_cons, List.sum_cons] at later ⊢
    omega

/-- What the turns in front of the last one cost, where the height has a bound. -/
theorem cost_le (cap : Nat) (capped : forall turn, height turn ≤ cap) (turns : List T) (last : T)
    (chain : List.IsChain R (turns ++ [last]))
    (pays : ∀ turn ∈ turns, Pays R height cost gain turn) :
    (turns.map cost).sum + height last ≤ cap + (turns.map gain).sum := by
  cases turns with
  | nil => simpa using capped last
  | cons first rest =>
    have paid := cost_from height cost gain first rest last chain pays
    have low := capped first
    omega

theorem sum_charged (charge : Nat) (free : T -> Bool) (turns : List T) :
    (turns.map fun turn => if free turn then charge else 0).sum = charge * turns.countP free := by
  induction turns with
  | nil => rfl
  | cons turn rest ih =>
    rw [List.map_cons, List.sum_cons, ih, List.countP_cons]
    split <;> simp [Nat.mul_add, Nat.add_comm]

end Accounts

section Pages

/-- Some turns of a run, from one page to the next. -/
structure Between (page : T -> Bool) (turns : List T) (first : T) (inside : List T) (last : T) :
    Prop where
  part : first :: (inside ++ [last]) <:+: turns
  opened : page first = true
  quiet : ∀ turn ∈ inside, page turn = false
  closed : page last = true

theorem between_chain {R : T -> T -> Prop} {page : T -> Bool} {turns inside : List T} {first last : T}
    (chain : List.IsChain R turns) (between : Between page turns first inside last) :
    List.IsChain R (inside ++ [last]) := by
  obtain ⟨before, behind, whole⟩ := between.part
  rw [← whole] at chain
  exact chain.left_of_append.right_of_append.tail

/-- An amount between two pages has one bound for all calls, however long they are followed. -/
def Bounded (calls : Set C) (turns : C -> Nat -> List T) (page : C -> T -> Bool)
    (amount : C -> T -> List T -> T -> Nat) : Prop :=
  exists bound, ∀ call ∈ calls, forall fuel first inside last,
    Between (page call) (turns call fuel) first inside last -> amount call first inside last ≤ bound

variable {calls : Set C} {turns : C -> Nat -> List T} {page : C -> T -> Bool}

theorem bounded_of_le {amount other : C -> T -> List T -> T -> Nat} (factor extra : Nat)
    (below : forall call fuel first inside last,
      Between (page call) (turns call fuel) first inside last ->
        amount call first inside last ≤ extra + factor * other call first inside last)
    (bounded : Bounded calls turns page other) : Bounded calls turns page amount := by
  obtain ⟨bound, bounds⟩ := bounded
  refine ⟨extra + factor * bound, ?_⟩
  intro call among fuel first inside last between
  have few := bounds call among fuel first inside last between
  calc amount call first inside last
      ≤ extra + factor * other call first inside last := below call fuel first inside last between
    _ ≤ extra + factor * bound := Nat.add_le_add_left (Nat.mul_le_mul_left factor few) extra

end Pages

end Charge
