import Mathlib.Data.List.Basic
import Mathlib.Data.List.Nodup

set_option autoImplicit false

namespace BoundedQueue

variable {A : Type}

/-- A queue that drops its oldest entry once it holds `limit` of them. -/
def enqueue (limit : Nat) (queue : List A) (entry : A) : List A :=
  (if limit ≤ queue.length then queue.tail else queue) ++ [entry]

def enqueueAll (limit : Nat) (queue entries : List A) : List A :=
  entries.foldl (enqueue limit) queue

/-- What is left of a sequence in a queue that starts empty. -/
def newest (limit : Nat) (entries : List A) : List A :=
  entries.drop (entries.length - limit)

@[simp] theorem enqueueAll_nil (limit : Nat) (queue : List A) : enqueueAll limit queue [] = queue :=
  rfl

@[simp] theorem enqueueAll_cons (limit : Nat) (queue rest : List A) (entry : A) :
    enqueueAll limit queue (entry :: rest) = enqueueAll limit (enqueue limit queue entry) rest := rfl

theorem enqueueAll_append (limit : Nat) (queue first second : List A) :
    enqueueAll limit queue (first ++ second) =
      enqueueAll limit (enqueueAll limit queue first) second :=
  List.foldl_append

theorem enqueue_length (limit : Nat) (queue : List A) (entry : A) (positive : 0 < limit) :
    (enqueue limit queue entry).length =
      if limit ≤ queue.length then queue.length else queue.length + 1 := by
  rw [enqueue]
  split
  next => simp; omega
  next => simp

theorem enqueue_drop (limit : Nat) (queue : List A) (entry : A) (positive : 0 < limit) :
    enqueue limit queue entry =
      (queue ++ [entry]).drop (if limit ≤ queue.length then 1 else 0) := by
  rw [enqueue]
  split
  next full =>
    rw [List.drop_append_of_le_length (by omega), List.drop_one]
  next => rw [List.drop_zero]

/-- Each entry that finds the queue full drops one, so what leaves is a prefix. -/
theorem enqueueAll_drop (limit : Nat) (queue entries : List A) (positive : 0 < limit) :
    enqueueAll limit queue entries =
      (queue ++ entries).drop
        (min entries.length (queue.length + entries.length - limit)) := by
  induction entries generalizing queue with
  | nil => simp
  | cons entry rest ih =>
    have grown : queue ++ entry :: rest = (queue ++ [entry]) ++ rest := by simp
    rw [enqueueAll_cons, ih, enqueue_length limit queue entry positive,
      enqueue_drop limit queue entry positive, grown]
    by_cases full : limit ≤ queue.length
    next =>
      rw [if_pos full, if_pos full, <- List.drop_append_of_le_length (by simp), List.drop_drop]
      congr 1
      rw [List.length_cons]
      omega
    next =>
      rw [if_neg full, if_neg full, List.drop_zero, List.length_cons]
      congr 1
      omega

theorem enqueueAll_room (limit : Nat) (queue entries : List A)
    (room : queue.length + entries.length ≤ limit) :
    enqueueAll limit queue entries = queue ++ entries := by
  cases entries with
  | nil => simp
  | cons entry rest =>
    rw [enqueueAll_drop limit queue _ (by simp at room; omega)]
    have nothing : queue.length + (entry :: rest).length - limit = 0 := by omega
    rw [nothing, Nat.min_zero, List.drop_zero]

theorem enqueueAll_length_le (limit : Nat) (queue entries : List A) (fits : queue.length ≤ limit)
    (positive : 0 < limit) : (enqueueAll limit queue entries).length ≤ limit := by
  rw [enqueueAll_drop limit queue entries positive, List.length_drop, List.length_append]
  omega

theorem enqueueAll_newest (limit : Nat) (entries : List A) (positive : 0 < limit) :
    enqueueAll limit [] entries = newest limit entries := by
  rw [enqueueAll_drop limit [] entries positive, newest, List.nil_append]
  congr 1
  simp only [List.length_nil]
  omega

theorem newest_map {B : Type} (f : A -> B) (limit : Nat) (entries : List A) :
    newest limit (entries.map f) = (newest limit entries).map f := by
  simp [newest, List.map_drop]

theorem newest_short (limit : Nat) (entries : List A) (short : entries.length ≤ limit) :
    newest limit entries = entries := by
  rw [newest, Nat.sub_eq_zero_of_le short, List.drop_zero]

end BoundedQueue
