import Mathlib.Data.List.Basic

set_option autoImplicit false

namespace Recent

variable {A : Type}

/-- A window over what was pushed last: the oldest entries leave it. -/
def push (keep : Nat) (window : List A) (value : A) : List A :=
  (window ++ [value]).drop (window.length + 1 - keep)

theorem push_reverse (keep : Nat) (window : List A) (value : A) :
    (push keep window value).reverse = (value :: window.reverse).take keep := by
  rw [push, List.reverse_drop, List.reverse_append]
  simp only [List.reverse_cons, List.reverse_nil, List.nil_append, List.singleton_append,
    List.length_append, List.length_cons, List.length_nil]
  by_cases full : keep ≤ window.length + 1
  next =>
    have rest : window.length + (0 + 1) - (window.length + 1 - keep) = keep := by omega
    rw [rest]
  next =>
    have all : window.length + (0 + 1) - (window.length + 1 - keep) = window.length + 1 := by omega
    rw [all, List.take_of_length_le (by simp), List.take_of_length_le (by simp; omega)]

/-- The value was pushed and fewer than `age` others behind it. -/
def Within (window : List A) (value : A) (age : Nat) : Prop := value ∈ window.reverse.take age

theorem Within.mem {window : List A} {value : A} {age : Nat} (recent : Within window value age) :
    value ∈ window :=
  List.mem_reverse.mp (List.mem_of_mem_take recent)

theorem push_within (keep : Nat) (window : List A) (value : A) (positive : 0 < keep) :
    Within (push keep window value) value 1 := by
  rw [Within, push_reverse, List.take_take]
  have one : min 1 keep = 1 := by omega
  simp [one]

theorem Within.push {window : List A} {value : A} {age : Nat} (recent : Within window value age)
    (keep : Nat) (other : A) (room : age < keep) : Within (push keep window other) value (age + 1) := by
  rw [Within, push_reverse, List.take_take]
  have small : min (age + 1) keep = age + 1 := by omega
  rw [small, List.take_succ_cons]
  exact List.mem_cons_of_mem _ recent

theorem Within.older {window : List A} {value : A} {age later : Nat}
    (recent : Within window value age) (above : age ≤ later) : Within window value later :=
  List.take_subset_take_left _ above recent

theorem push_new (keep : Nat) (window : List A) (value : A) (positive : 0 < keep)
    (new : value ∉ window) : push keep window value ≠ window := by
  intro same
  have inside := (push_within keep window value positive).mem
  exact new (same ▸ inside)

end Recent
