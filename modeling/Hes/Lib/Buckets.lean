import Mathlib.Data.List.Basic
import Mathlib.Data.List.Perm.Basic
import Mathlib.Data.List.Pairwise

set_option autoImplicit false

namespace Buckets

variable {A : Type} (key : A -> Nat)

/-- The items of each key in their order, one key after the other. -/
def pass (items : List A) (keys : Nat) : List A :=
  (List.range keys).flatMap fun bucket => items.filter fun item => key item = bucket

theorem pass_succ (items : List A) (keys : Nat) :
    pass key items (keys + 1) = pass key items keys ++ items.filter fun item => key item = keys := by
  simp [pass, List.range_succ]

theorem pass_below (items : List A) (keys : Nat) :
    (pass key items keys).Perm (items.filter fun item => key item < keys) := by
  induction keys with
  | zero => simp [pass]
  | succ keys ih =>
    rw [pass_succ]
    have split := List.filter_append_perm (fun item => decide (key item < keys))
      (items.filter fun item => key item < keys + 1)
    refine List.Perm.trans ?_ split
    rw [List.filter_filter, List.filter_filter]
    refine (ih.append_right _).trans ?_
    have low : (items.filter fun item => decide (key item < keys)) =
        items.filter fun item => decide (key item < keys) && decide (key item < keys + 1) := by
      apply List.filter_congr
      intro item _
      rw [← Bool.decide_and, decide_eq_decide]
      omega
    have high : (items.filter fun item => decide (key item = keys)) =
        items.filter fun item => !decide (key item < keys) && decide (key item < keys + 1) := by
      apply List.filter_congr
      intro item _
      rw [← decide_not, ← Bool.decide_and, decide_eq_decide]
      omega
    rw [low, high]

/-- No item is lost and none comes twice. -/
theorem pass_perm (items : List A) (keys : Nat) (bounded : ∀ item ∈ items, key item < keys) :
    (pass key items keys).Perm items := by
  have all : (items.filter fun item => decide (key item < keys)) = items := by
    rw [List.filter_eq_self]
    simpa using bounded
  rw [← all]
  simpa [all] using pass_below key items keys

theorem pass_sorted (items : List A) (keys : Nat) :
    (pass key items keys).Pairwise fun first second => key first ≤ key second := by
  induction keys with
  | zero => simp [pass]
  | succ keys ih =>
    rw [pass_succ, List.pairwise_append]
    refine ⟨ih, ?_, ?_⟩
    next =>
      rw [List.pairwise_iff_forall_sublist]
      intro first second sub
      have firstIn := sub.subset (a := first) (by simp)
      have secondIn := sub.subset (a := second) (by simp)
      simp only [List.mem_filter, decide_eq_true_eq] at firstIn secondIn
      omega
    next =>
      intro first firstIn second secondIn
      have below := (pass_below key items keys).mem_iff.mp firstIn
      simp only [List.mem_filter, decide_eq_true_eq] at below secondIn
      omega

end Buckets
