set_option autoImplicit false

namespace SortedList

variable {K V : Type} [LT K]

def Sorted (key : V -> K) (values : List V) : Prop := (values.map key).Pairwise (· < ·)

theorem map_sorted {key : V -> K} {values : List V} {change : V -> V}
    (kept : forall value, key (change value) = key value) (sorted : Sorted key values) :
    Sorted key (values.map change) := by
  have same : (values.map change).map key = values.map key := by simp [kept]
  rw [Sorted, same]
  exact sorted

variable [DecidableLT K] [DecidableEq K]

/-- A map as the list of its values, in the order of the key each has in it. The value of a key is
changed in its place; one that was absent is changed from the value that begins it. -/
def put (key : V -> K) (begin : K -> V) (wanted : K) (change : V -> V) : List V -> List V
  | [] => [change (begin wanted)]
  | value :: rest =>
    if wanted = key value then change value :: rest
    else if wanted < key value then change (begin wanted) :: value :: rest
    else value :: put key begin wanted change rest

variable {key : V -> K} {begin : K -> V} {wanted : K} {change : V -> V}

theorem put_mem {value : V} {values : List V} (inside : value ∈ put key begin wanted change values) :
    value ∈ values \/ value = change (begin wanted) \/
      ∃ before ∈ values, key before = wanted /\ value = change before := by
  induction values with
  | nil => simpa [put] using inside
  | cons first rest ih =>
    rw [put] at inside
    split at inside
    next same => simp only [List.mem_cons] at inside ⊢; grind
    next =>
      split at inside
      next => simp only [List.mem_cons] at inside ⊢; grind
      next => simp only [List.mem_cons] at inside ⊢; grind

theorem put_key (kept : forall value, key (change value) = key value)
    (begun : key (begin wanted) = wanted) {values : List V} {other : K} :
    other ∈ (put key begin wanted change values).map key <-> other = wanted \/ other ∈ values.map key := by
  induction values with
  | nil => simp [put, kept, begun]
  | cons first rest ih =>
    rw [put]
    split
    next same => simp [kept, same]
    next =>
      split
      next => simp [kept, begun]
      next =>
        rw [List.map_cons, List.mem_cons, ih, List.map_cons, List.mem_cons]
        grind

/-- A map stays in order. -/
theorem put_sorted (trans : forall first second third : K, first < second -> second < third -> first < third)
    (total : forall first second : K, ¬ first < second -> first ≠ second -> second < first)
    (kept : forall value, key (change value) = key value) (begun : key (begin wanted) = wanted)
    {values : List V} (sorted : Sorted key values) : Sorted key (put key begin wanted change values) := by
  induction values with
  | nil => simp [Sorted, put]
  | cons first rest ih =>
    obtain ⟨before, behind⟩ := List.pairwise_cons.mp sorted
    rw [put]
    split
    next => exact List.pairwise_cons.mpr ⟨by simpa [kept] using before, behind⟩
    next other =>
      split
      next smaller =>
        apply List.pairwise_cons.mpr
        refine ⟨?_, sorted⟩
        intro later inside
        rw [kept, begun]
        rcases List.mem_cons.mp inside with rfl | later
        next => exact smaller
        next => exact trans _ _ _ smaller (before _ later)
      next notSmaller =>
        apply List.pairwise_cons.mpr
        refine ⟨?_, ih behind⟩
        intro later inside
        rcases (put_key kept begun).mp inside with rfl | later
        next => exact total _ _ notSmaller other
        next => exact before _ later

end SortedList
