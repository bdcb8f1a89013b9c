import Mathlib.Data.List.Forall2
import Hes.Lib.Prog

set_option autoImplicit false

namespace Patrol

open Prog

variable {S T : Type}

/-- Items are visited in their order, and each is replaced by what its visit makes of it. The
patrol is broken off behind a visit that gives nothing back. -/
def patrol (visit : T -> Prog S (Option T)) : List T -> Prog S (Option (List T))
  | [] => pure (some [])
  | item :: rest => do
    match <- visit item with
    | some visited =>
      match <- patrol visit rest with
      | some others => return some (visited :: others)
      | none => return none
    | none => return none

theorem patrol_respects {rel : S -> S -> Prop} (refl : forall state, rel state state)
    (trans : forall first second third, rel first second -> rel second third -> rel first third)
    (visit : T -> Prog S (Option T)) (items : List T)
    (visits : ∀ item ∈ items, Respects rel (visit item)) : Respects rel (patrol visit items) := by
  induction items with
  | nil => exact respects_pure refl _
  | cons item rest ih =>
    rw [patrol]
    apply respects_bind trans (visits item (by simp))
    intro outcome
    cases outcome with
    | none => exact respects_pure refl _
    | some visited =>
      apply respects_bind trans (ih fun later inside => visits later (by simp [inside]))
      intro others
      cases others <;> exact respects_pure refl _

/-- What a visit leaves: the next visit may begin, or the patrol is over. -/
def afterVisit (inv stopped : S -> Prop) (same : T -> Prop) : Option T -> S -> Prop
  | some visited, state => same visited /\ inv state
  | none, state => stopped state

/-- What a patrol leaves: every item was visited, or none behind the visit that broke it off. -/
def afterPatrol (inv stopped : List T -> S -> Prop) (same : T -> T -> Prop) (items : List T) :
    Option (List T) -> S -> Prop
  | some visited, state => List.Forall₂ same items visited /\ inv items state
  | none, state => exists front item, front ++ [item] <+: items /\ stopped (front ++ [item]) state

/-- A patrol keeps what each visit keeps. `inv` and `stopped` know the items that were visited, and
`same` what a visit leaves of its item. -/
theorem triple_patrol {wait : S -> Prop} (visit : T -> Prog S (Option T))
    (inv stopped : List T -> S -> Prop) (same : T -> T -> Prop) (items : List T)
    (turn : forall front item, front ++ [item] <+: items -> Triple wait (inv front) (visit item)
      (afterVisit (inv (front ++ [item])) (stopped (front ++ [item])) (same item))) :
    Triple wait (inv []) (patrol visit items) (afterPatrol inv stopped same items) := by
  -- the induction is on the items that are left, behind those in front
  suffices general : forall front left, front ++ left <+: items ->
      Triple wait (inv front) (patrol visit left)
        (afterPatrol (fun done => inv (front ++ done)) (fun done => stopped (front ++ done)) same left)
    from general [] items (List.prefix_refl _)
  intro front left
  induction left generalizing front with
  | nil =>
    intro _
    apply triple_pure
    intro state known
    exact ⟨List.Forall₂.nil, by simpa using known⟩
  | cons item rest ih =>
    intro inside
    have next : (front ++ [item]) ++ rest <+: items := by simpa using inside
    rw [patrol]
    apply triple_bind _ (turn front item (List.IsPrefix.trans (List.prefix_append _ rest) next))
    intro outcome
    cases outcome with
    | none =>
      apply triple_pure
      intro state known
      exact ⟨[], item, by simp, known⟩
    | some visited =>
      apply triple_known
      intro kept
      apply triple_bind _ (ih (front ++ [item]) next)
      intro others
      cases others with
      | none =>
        apply triple_pure
        intro state known
        obtain ⟨done, last, first, ended⟩ := known
        exact ⟨item :: done, last, by simpa using first, by simpa using ended⟩
      | some others =>
        apply triple_pure
        intro state known
        exact ⟨List.Forall₂.cons kept known.1, by simpa using known.2⟩

theorem forall₂_trans {A B C : Type} {first : A -> B -> Prop} {second : B -> C -> Prop}
    {both : A -> C -> Prop} (trans : forall a b c, first a b -> second b c -> both a c)
    {as : List A} {bs : List B} {cs : List C} (front : List.Forall₂ first as bs)
    (behind : List.Forall₂ second bs cs) : List.Forall₂ both as cs := by
  induction front generalizing cs with
  | nil =>
    cases behind
    exact List.Forall₂.nil
  | cons same _ ih =>
    cases behind with
    | cons next rest => exact List.Forall₂.cons (trans _ _ _ same next) (ih rest)

theorem forall₂_front {A B : Type} {rel : A -> B -> Prop} {as : List A} {bs : List B}
    (all : List.Forall₂ rel as bs) : ∀ b ∈ bs, ∃ a ∈ as, rel a b := by
  induction all with
  | nil => simp
  | cons same _ ih =>
    intro b inside
    rcases List.mem_cons.mp inside with rfl | later
    next => exact ⟨_, by simp, same⟩
    next =>
      obtain ⟨a, inside, same⟩ := ih b later
      exact ⟨a, by simp [inside], same⟩

end Patrol
