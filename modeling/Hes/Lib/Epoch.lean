import Mathlib.Data.Nat.Basic

set_option autoImplicit false

namespace Epoch

variable {K M : Type} [DecidableEq K] [DecidableEq M]

/-- Marks that are taken to be of one epoch, and the key of that epoch. -/
structure Marks (K M : Type) where
  key : Option K := none
  marked : M -> Bool := fun _ => false

structure Event (K M : Type) where
  key : K
  mark : Option M

/-- The marks are dropped where the key is another one than before. -/
def enter (key : K) (marks : Marks K M) : Marks K M :=
  if marks.key = some key then marks else { key := some key, marked := fun _ => false }

def mark (added : Option M) (marks : Marks K M) : Marks K M :=
  { marks with marked := fun item => marks.marked item || added = some item }

def after (marks : Marks K M) : Option (Event K M) -> Marks K M
  | none => marks
  | some event => mark event.mark (enter event.key marks)

variable (events : Nat -> Option (Event K M))

def marksAt : Nat -> Marks K M
  | 0 => {}
  | position + 1 => after (marksAt position) (events position)

/-- No event between the two positions has another key. -/
def Steady (key : K) (first last : Nat) : Prop :=
  forall position event, first < position -> position < last -> events position = some event ->
    event.key = key

omit [DecidableEq M] in
theorem enter_key (key : K) (marks : Marks K M) : (enter key marks).key = some key := by
  unfold enter
  split
  next same => exact same
  next => rfl

theorem marksAt_key (key : K) (first last : Nat) (added : Option M) (before : first < last)
    (event : events first = some { key := key, mark := added })
    (steady : Steady events key first last) : (marksAt events last).key = some key := by
  induction last, before using Nat.le_induction with
  | base => simp [marksAt, event, after, mark, enter_key]
  | succ last later ih =>
    have known := ih fun position event past below => steady position event past (by omega)
    rw [marksAt]
    cases next : events last with
    | none => exact known
    | some other =>
      have same := steady last other later (by omega) next
      simp [after, mark, enter_key, same]

theorem marksAt_marked (item : M) (last : Nat) :
    (marksAt events last).marked item = true <->
      exists first key, first < last /\ events first = some { key := key, mark := some item } /\
        Steady events key first last := by
  induction last with
  | zero => simp [marksAt]
  | succ last ih =>
    -- from a mark in front of the event at `last` to one that stands behind it
    have onward : forall first key, Steady events key first last ->
        (forall event, events last = some event -> event.key = key) ->
        Steady events key first (last + 1) := by
      intro first key steady same position event past below known
      by_cases final : position = last
      next => exact same event (final ▸ known)
      next => exact steady position event past (by omega) known
    rw [marksAt]
    cases next : events last with
    | none =>
      rw [after, ih]
      constructor
      next =>
        rintro ⟨first, key, before, event, steady⟩
        exact ⟨first, key, by omega, event, onward first key steady (by simp [next])⟩
      next =>
        rintro ⟨first, key, before, event, steady⟩
        have other : first ≠ last := by
          rintro rfl
          simp [next] at event
        exact ⟨first, key, by omega, event,
          fun position event past below => steady position event past (by omega)⟩
    | some now =>
      simp only [after, mark, Bool.or_eq_true, decide_eq_true_eq]
      constructor
      next =>
        rintro (kept | added)
        next =>
          unfold enter at kept
          split at kept
          next same =>
            obtain ⟨first, key, before, event, steady⟩ := ih.mp kept
            have known := marksAt_key events key first last (some item) before event steady
            rw [same] at known
            refine ⟨first, key, by omega, event, onward first key steady ?_⟩
            intro other same'
            rw [next] at same'
            rw [← Option.some.inj same', Option.some.inj known]
          next => simp at kept
        next =>
          refine ⟨last, now.key, by omega, ?_, ?_⟩
          next => rw [next, ← added]
          next => exact fun position event past below => by omega
      next =>
        rintro ⟨first, key, before, event, steady⟩
        by_cases final : first = last
        next =>
          right
          rw [← final, event] at next
          rw [← Option.some.inj next]
        next =>
          left
          have earlier : Steady events key first last :=
            fun position event past below => steady position event past (by omega)
          have known := marksAt_key events key first last (some item) (by omega) event earlier
          have same := steady last now (by omega) (by omega) next
          rw [enter, if_pos (by rw [known, same])]
          exact ih.mpr ⟨first, key, by omega, event, earlier⟩

/-- What an event finds marked: the marks with its key that no event of another key is behind. -/
theorem entered_marked (item : M) (key : K) (last : Nat) :
    (enter key (marksAt events last)).marked item = true <->
      exists first, first < last /\ events first = some { key := key, mark := some item } /\
        Steady events key first last := by
  rw [enter]
  split
  next same =>
    rw [marksAt_marked]
    constructor
    next =>
      rintro ⟨first, other, before, event, steady⟩
      have known := marksAt_key events other first last (some item) before event steady
      rw [same] at known
      obtain rfl : key = other := Option.some.inj known
      exact ⟨first, before, event, steady⟩
    next =>
      rintro ⟨first, before, event, steady⟩
      exact ⟨first, key, before, event, steady⟩
  next other =>
    simp only [Bool.false_eq_true, false_iff]
    rintro ⟨first, before, event, steady⟩
    exact other (marksAt_key events key first last (some item) before event steady)

end Epoch
