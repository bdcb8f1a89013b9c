import Mathlib.Data.List.Basic
import Mathlib.Data.Nat.Basic
import Mathlib.Tactic.Linarith

set_option autoImplicit false

namespace Paging

/-- Pages of `sector` elements, cut into subpages of `limit`, the rest in one more subpage. The
number of a subpage is kept modulo `width`. -/
structure Layout where
  sector : Nat
  limit : Nat
  pages : Nat
  width : Nat
  deriving DecidableEq, Repr

/-- Where an upload is: the numbers it sends, and the place it reads from. -/
structure Cursor where
  page : Nat := 0
  sub : Nat := 0
  position : Nat := 0
  deriving DecidableEq, Repr

namespace Layout

variable (layout : Layout)

def count : Nat := layout.sector / layout.limit

def isLast (cursor : Cursor) : Bool := cursor.sub = layout.count

def want (cursor : Cursor) : Nat :=
  if layout.isLast cursor then layout.sector % layout.limit else layout.limit

def next (cursor : Cursor) (taken : Nat) : Cursor :=
  if layout.isLast cursor then
    { page := cursor.page + 1, sub := 0, position := cursor.position + taken }
  else
    { page := cursor.page, sub := (cursor.sub + 1) % layout.width
      position := cursor.position + taken }

@[simp]
theorem next_position (cursor : Cursor) (taken : Nat) :
    (layout.next cursor taken).position = cursor.position + taken := by
  unfold next
  split <;> rfl

variable {A : Type} (content : List A)

/-- What is read at the cursor. -/
def chunk (cursor : Cursor) : List A := (content.drop cursor.position).take (layout.want cursor)

def stopped (cursor : Cursor) : Prop :=
  layout.pages ≤ cursor.page \/ layout.chunk content cursor = []

instance (cursor : Cursor) : Decidable (layout.stopped content cursor) :=
  if behind : layout.pages ≤ cursor.page then isTrue (Or.inl behind)
  else match read : layout.chunk content cursor with
    | [] => isTrue (Or.inr read)
    | _ :: _ => isFalse (by simp [stopped, behind, read])

/-- The cursors of the chunks that are sent, in at most so many turns. -/
def cursors : Nat -> Cursor -> List Cursor
  | 0, _ => []
  | turns + 1, cursor =>
    if layout.stopped content cursor then []
    else cursor :: cursors turns (layout.next cursor (layout.chunk content cursor).length)

def finish : Nat -> Cursor -> Cursor
  | 0, cursor => cursor
  | turns + 1, cursor =>
    if layout.stopped content cursor then cursor
    else finish turns (layout.next cursor (layout.chunk content cursor).length)

/-- The numbers that are sent say where the chunk was read, pages modulo `pageWidth`. -/
def placed (pageWidth : Nat) (cursor : Cursor) : Prop :=
  cursor.page % pageWidth * layout.sector + cursor.sub * layout.limit = cursor.position

theorem chunk_length (cursor : Cursor) (room : cursor.position + layout.want cursor ≤ content.length) :
    (layout.chunk content cursor).length = layout.want cursor := by
  simp only [chunk, List.length_take, List.length_drop]
  omega

theorem chunk_inside (cursor : Cursor) (inside : cursor.position ≤ content.length) :
    cursor.position + (layout.chunk content cursor).length ≤ content.length := by
  simp only [chunk, List.length_take, List.length_drop]
  omega

theorem chunk_positive (cursor : Cursor) (going : ¬ layout.stopped content cursor) :
    0 < (layout.chunk content cursor).length := by
  apply List.length_pos_iff.mpr
  intro empty
  exact going (Or.inr empty)

/-- What holds of the cursor and is kept by a turn holds of every cursor, and at the end. -/
theorem cursors_invariant (inv : Cursor -> Prop)
    (keeps : forall cursor, inv cursor -> ¬ layout.stopped content cursor ->
      inv (layout.next cursor (layout.chunk content cursor).length))
    (turns : Nat) (cursor : Cursor) (initial : inv cursor) :
    (∀ visited ∈ layout.cursors content turns cursor,
      inv visited /\ ¬ layout.stopped content visited) /\
      inv (layout.finish content turns cursor) := by
  induction turns generalizing cursor with
  | zero => exact ⟨by simp [cursors], initial⟩
  | succ turns ih =>
    simp only [cursors, finish]
    split
    next => exact ⟨by simp, initial⟩
    next going =>
      obtain ⟨visited, final⟩ := ih _ (keeps cursor initial going)
      refine ⟨?_, final⟩
      intro other member
      rcases List.mem_cons.mp member with same | later
      · exact same ▸ ⟨initial, going⟩
      · exact visited other later

/-- Every turn reads something, so more turns than there are elements reach the end. -/
theorem finish_stopped (turns : Nat) (cursor : Cursor) (inside : cursor.position ≤ content.length)
    (enough : content.length - cursor.position < turns) :
    layout.stopped content (layout.finish content turns cursor) := by
  induction turns generalizing cursor with
  | zero => omega
  | succ turns ih =>
    simp only [finish]
    split
    next ended => exact ended
    next going =>
      have positive := layout.chunk_positive content cursor going
      have within := layout.chunk_inside content cursor inside
      apply ih
      next => simpa using within
      next =>
        rw [next_position]
        omega

/-- A cursor that a step reaches from another is among the cursors behind it. -/
theorem cursors_next (turns : Nat) (cursor visited : Cursor) (going : ¬ layout.stopped content cursor)
    (member : visited ∈ layout.cursors content turns
      (layout.next cursor (layout.chunk content cursor).length)) :
    visited ∈ layout.cursors content (turns + 1) cursor := by
  simp [cursors, going, member]

theorem cursors_head (turns : Nat) (cursor : Cursor) (going : ¬ layout.stopped content cursor) :
    cursor ∈ layout.cursors content (turns + 1) cursor := by
  simp [cursors, going]

section Regular

/-- A cursor whose place is the one its page and subpage say. -/
def Regular (cursor : Cursor) : Prop :=
  cursor.position = cursor.page * layout.sector + cursor.sub * layout.limit /\
    cursor.sub ≤ layout.count /\ cursor.page ≤ layout.pages /\
      (cursor.page = layout.pages -> cursor.sub = 0)

variable {layout} {content}

theorem count_mul_limit : layout.count * layout.limit + layout.sector % layout.limit = layout.sector :=
  Nat.div_add_mod' layout.sector layout.limit

/-- A page that is counted lies in the content, and so does every subpage of it. -/
theorem page_room (fits : layout.pages * layout.sector ≤ content.length) (page : Nat)
    (counted : page < layout.pages) :
    page * layout.sector + layout.sector ≤ content.length := by
  have whole : (page + 1) * layout.sector ≤ layout.pages * layout.sector :=
    Nat.mul_le_mul_right _ counted
  rw [Nat.succ_mul] at whole
  omega

theorem subpage_room (sub : Nat) (counted : sub < layout.count) :
    sub * layout.limit + layout.limit ≤ layout.sector := by
  have whole : (sub + 1) * layout.limit ≤ layout.count * layout.limit :=
    Nat.mul_le_mul_right _ counted
  have parts := @count_mul_limit layout
  rw [Nat.succ_mul] at whole
  omega

theorem regular_chunk (fits : layout.pages * layout.sector ≤ content.length) (cursor : Cursor)
    (regular : layout.Regular cursor) (counted : cursor.page < layout.pages) :
    (layout.chunk content cursor).length = layout.want cursor := by
  obtain ⟨position, sub, page, fresh⟩ := regular
  have room := page_room fits cursor.page counted
  have parts := @count_mul_limit layout
  apply chunk_length
  unfold want
  split
  next last =>
    have here : cursor.sub = layout.count := by simpa [isLast] using last
    rw [position, here]
    omega
  next inner =>
    have below : cursor.sub < layout.count := by
      have other : cursor.sub ≠ layout.count := by simpa [isLast] using inner
      omega
    have within := subpage_room cursor.sub below
    omega

/-- Where no subpage number wraps, every place is regular. -/
theorem regular_next (fits : layout.pages * layout.sector ≤ content.length)
    (narrow : layout.count < layout.width) (cursor : Cursor) (regular : layout.Regular cursor)
    (going : ¬ layout.stopped content cursor) :
    layout.Regular (layout.next cursor (layout.chunk content cursor).length) := by
  have counted : cursor.page < layout.pages := by
    by_contra beyond
    exact going (Or.inl (by omega))
  have taken := regular_chunk fits cursor regular counted
  obtain ⟨position, sub, page, fresh⟩ := regular
  have parts := @count_mul_limit layout
  rw [taken]
  by_cases last : layout.isLast cursor
  next =>
    have here : cursor.sub = layout.count := by simpa [isLast] using last
    simp only [Regular, next, want, last, if_true]
    refine ⟨?_, Nat.zero_le _, counted, fun _ => trivial⟩
    rw [position, here, Nat.succ_mul]
    omega
  next =>
    have below : cursor.sub < layout.count := by
      have other : cursor.sub ≠ layout.count := by simpa [isLast] using last
      omega
    have unwrapped : (cursor.sub + 1) % layout.width = cursor.sub + 1 :=
      Nat.mod_eq_of_lt (by omega)
    simp only [Regular, next, want, last, Bool.false_eq_true, if_false, unwrapped]
    refine ⟨?_, by omega, page, by omega⟩
    rw [position, Nat.succ_mul]
    omega

theorem regular_start : layout.Regular {} := by
  simp [Regular]

theorem regular_placed (pageWidth : Nat) (cursor : Cursor) (regular : layout.Regular cursor)
    (numbered : cursor.page < pageWidth) : layout.placed pageWidth cursor := by
  rw [placed, Nat.mod_eq_of_lt numbered]
  exact regular.1.symm

/-- With something left over on every page, only the end of the last page stops. -/
theorem uneven_stops (positive : 0 < layout.limit) (uneven : layout.sector % layout.limit ≠ 0)
    (fits : layout.pages * layout.sector ≤ content.length) (cursor : Cursor)
    (regular : layout.Regular cursor) (ended : layout.stopped content cursor) :
    cursor.page = layout.pages /\ cursor.position = layout.pages * layout.sector := by
  have full : cursor.page = layout.pages := by
    by_contra inner
    have counted : cursor.page < layout.pages := by
      have bound := regular.2.2.1
      omega
    have taken := regular_chunk fits cursor regular counted
    rcases ended with behind | empty
    · omega
    · rw [empty, List.length_nil] at taken
      unfold want at taken
      split at taken <;> omega
  have position := regular.1
  rw [regular.2.2.2 full, full] at position
  exact ⟨full, by omega⟩

end Regular

section Straight

variable {layout} {content}

/-- The cursor of the `index`-th subpage while no page is ended. -/
def straight (layout : Layout) (index : Nat) : Cursor :=
  { page := 0, sub := index % layout.width, position := index * layout.limit }

theorem straight_inner (index : Nat) (counted : index < layout.count) :
    layout.isLast (layout.straight index) = false := by
  have below := Nat.mod_le index layout.width
  apply decide_eq_false
  simp only [straight]
  omega

theorem straight_chunk (index : Nat) (counted : index < layout.count)
    (room : layout.count * layout.limit ≤ content.length) :
    (layout.chunk content (layout.straight index)).length = layout.limit := by
  have whole : (index + 1) * layout.limit ≤ layout.count * layout.limit :=
    Nat.mul_le_mul_right _ counted
  have wanted : layout.want (layout.straight index) = layout.limit := by
    simp [want, straight_inner index counted]
  rw [Nat.succ_mul] at whole
  rw [chunk_length, wanted]
  rw [wanted]
  simp only [straight]
  omega

theorem straight_next (index : Nat) (counted : index < layout.count) :
    layout.next (layout.straight index) layout.limit = layout.straight (index + 1) := by
  have inner := straight_inner index counted
  simp only [next, inner, Bool.false_eq_true, if_false]
  simp [straight, Nat.succ_mul]

/-- Up to a subpage that stops it, an upload goes straight on. -/
theorem straight_run (positive : 0 < layout.limit) (some : 0 < layout.pages)
    (room : layout.count * layout.limit ≤ content.length)
    (ends : layout.stopped content (layout.straight layout.count)) (turns : Nat)
    (enough : content.length < turns) :
    (∀ visited ∈ layout.cursors content turns {},
      exists index, index < layout.count /\ visited = layout.straight index) /\
      layout.finish content turns {} = layout.straight layout.count := by
  have kept := cursors_invariant layout content
    (fun cursor => exists index, index ≤ layout.count /\ cursor = layout.straight index) ?_ turns {}
    ⟨0, Nat.zero_le _, by simp [straight]⟩
  next =>
    obtain ⟨visited, index, bound, final⟩ := kept
    constructor
    next =>
      intro cursor member
      obtain ⟨⟨number, inside, here⟩, going⟩ := visited cursor member
      have other : number ≠ layout.count := by
        intro same
        rw [here, same] at going
        exact going ends
      exact ⟨number, by omega, here⟩
    next =>
      have ended := finish_stopped layout content turns {} (Nat.zero_le _) (by simpa using enough)
      rw [final] at ended
      by_cases counted : index < layout.count
      next =>
        have taken := straight_chunk index counted room
        rcases ended with behind | empty
        · simp only [straight] at behind
          omega
        · rw [empty, List.length_nil] at taken
          omega
      next => rw [final, show index = layout.count by omega]
  next =>
    rintro cursor ⟨index, bound, here⟩ going
    have counted : index < layout.count := by
      have other : index ≠ layout.count := by
        intro same
        rw [here, same] at going
        exact going ends
      omega
    refine ⟨index + 1, counted, ?_⟩
    rw [here, straight_chunk index counted room, straight_next index counted]

theorem straight_visited (positive : 0 < layout.limit) (some : 0 < layout.pages)
    (room : layout.count * layout.limit ≤ content.length) (last : Nat) (counted : last ≤ layout.count)
    (inside : last * layout.limit < content.length) (wants : 0 < layout.want (layout.straight last))
    (steps index turns : Nat) (ahead : index + steps = last)
    (enough : content.length - index * layout.limit < turns) :
    layout.straight last ∈ layout.cursors content turns (layout.straight index) := by
  induction steps generalizing index turns with
  | zero =>
    have same : index = last := by omega
    subst same
    have going : ¬ layout.stopped content (layout.straight index) := by
      rintro (behind | empty)
      · simp only [straight] at behind
        omega
      · have nothing := congrArg List.length empty
        simp only [chunk, straight, List.length_take, List.length_drop, List.length_nil] at nothing
        simp only [straight] at wants
        omega
    cases turns with
    | zero => omega
    | succ turns => exact cursors_head layout content turns _ going
  | succ steps ih =>
    have inner : index < layout.count := by omega
    have taken := straight_chunk index inner room
    have going : ¬ layout.stopped content (layout.straight index) := by
      rintro (behind | empty)
      · simp only [straight] at behind
        omega
      · rw [empty, List.length_nil] at taken
        omega
    have before : (index + 1) * layout.limit ≤ last * layout.limit :=
      Nat.mul_le_mul_right _ (by omega)
    rw [Nat.succ_mul] at before
    cases turns with
    | zero => omega
    | succ turns =>
      apply cursors_next layout content turns _ _ going
      rw [taken, straight_next index inner]
      apply ih (index + 1) turns (by omega)
      rw [Nat.succ_mul]
      omega

end Straight

section Whole

variable {layout} {content}

/-- The pages make up the content, every number fits, and every page ends in a shorter subpage:
an upload of subpages of one size only ends with its first page. -/
def Exact (layout : Layout) (pageWidth length : Nat) : Prop :=
  length = 0 \/ (layout.pages * layout.sector = length /\
    ((layout.sector % layout.limit ≠ 0 /\ layout.count < layout.width /\
        layout.pages ≤ pageWidth) \/
      (layout.sector % layout.limit = 0 /\ layout.count ≤ layout.width /\ layout.pages = 1)))

/-- Every cursor is placed, and the last one is at the end of the content. -/
def Whole (layout : Layout) (content : List A) (pageWidth turns : Nat) : Prop :=
  (∀ cursor ∈ layout.cursors content turns {}, layout.placed pageWidth cursor) /\
    (layout.finish content turns {}).position = content.length

theorem cursors_counted (turns : Nat) (cursor visited : Cursor)
    (member : visited ∈ layout.cursors content turns cursor) :
    ¬ layout.stopped content visited := by
  have kept := cursors_invariant layout content (fun _ => True) (fun _ _ _ => trivial) turns cursor
    trivial
  exact (kept.1 visited member).2

/-- An upload that went on at all came to its end from one of its cursors. -/
theorem finish_behind (turns : Nat) (cursor : Cursor) :
    layout.finish content turns cursor = cursor \/
      ∃ visited ∈ layout.cursors content turns cursor, layout.finish content turns cursor =
        layout.next visited (layout.chunk content visited).length := by
  induction turns generalizing cursor with
  | zero => exact Or.inl rfl
  | succ turns ih =>
    simp only [finish, cursors]
    split
    next => exact Or.inl rfl
    next =>
      right
      rcases ih (layout.next cursor (layout.chunk content cursor).length) with same | later
      · exact ⟨cursor, by simp, same⟩
      · obtain ⟨visited, member, behind⟩ := later
        exact ⟨visited, List.mem_cons_of_mem _ member, behind⟩

/-- No chunk is larger than a page or than a subpage. -/
theorem chunk_small (turns : Nat) (positive : 0 < layout.limit) :
    ∀ visited ∈ layout.cursors content turns {},
      (layout.chunk content visited).length ≤ min layout.limit layout.sector := by
  intro visited member
  have taken : (layout.chunk content visited).length ≤ layout.want visited := by
    simp only [chunk, List.length_take]
    omega
  by_cases narrow : layout.sector < layout.limit
  next =>
    have single : layout.count = 0 := Nat.div_eq_of_lt narrow
    have kept := cursors_invariant layout content (fun cursor => cursor.sub = 0) ?_ turns {} rfl
    next =>
      have last : layout.isLast visited = true := by
        simp [isLast, single, (kept.1 visited member).1]
      simp only [want, last, if_true, Nat.mod_eq_of_lt narrow] at taken
      omega
    next =>
      intro cursor first _
      have last : layout.isLast cursor = true := by simp [isLast, single, first]
      simp [next, last]
  next =>
    have below := Nat.mod_lt layout.sector positive
    have rest := Nat.mod_le layout.sector layout.limit
    unfold want at taken
    split at taken <;> omega

theorem first_chunk (positive : 0 < layout.limit) (some : 0 < layout.pages)
    (fits : layout.pages * layout.sector ≤ content.length) :
    (layout.chunk content {}).length = min layout.limit layout.sector := by
  have firstPage := page_room fits 0 some
  have wanted : layout.want {} = min layout.limit layout.sector := by
    by_cases narrow : layout.sector < layout.limit
    next =>
      have last : layout.isLast {} = true := by simp [isLast, count, Nat.div_eq_of_lt narrow]
      simp only [want, last, if_true, Nat.mod_eq_of_lt narrow]
      omega
    next =>
      have counted : 0 < layout.count := Nat.div_pos (by omega) positive
      have inner : layout.isLast {} = false := decide_eq_false (by dsimp only; omega)
      simp only [want, inner, Bool.false_eq_true, if_false]
      omega
  rw [chunk_length, wanted]
  rw [wanted]
  dsimp only
  omega

theorem finish_inside (turns : Nat) : (layout.finish content turns {}).position ≤ content.length := by
  have kept := cursors_invariant layout content (fun cursor => cursor.position ≤ content.length) ?_
    turns {} (Nat.zero_le _)
  next => exact kept.2
  next =>
    intro cursor inside _
    rw [next_position]
    exact chunk_inside layout content cursor inside

theorem next_page (cursor : Cursor) (taken : Nat) :
    (layout.next cursor taken).page ≤ cursor.page + 1 := by
  unfold next
  split <;> simp

theorem whole_of_uneven (pageWidth turns : Nat) (positive : 0 < layout.limit)
    (uneven : layout.sector % layout.limit ≠ 0) (narrow : layout.count < layout.width)
    (numbered : layout.pages ≤ pageWidth)
    (complete : layout.pages * layout.sector = content.length) (enough : content.length < turns) :
    layout.Whole content pageWidth turns := by
  have fits : layout.pages * layout.sector ≤ content.length := by omega
  obtain ⟨visited, final⟩ := cursors_invariant layout content layout.Regular
    (regular_next fits narrow) turns {} regular_start
  constructor
  next =>
    intro cursor member
    obtain ⟨regular, going⟩ := visited cursor member
    have counted : cursor.page < layout.pages := by
      by_contra beyond
      exact going (Or.inl (by omega))
    exact regular_placed pageWidth cursor regular (by omega)
  next =>
    have ended := finish_stopped layout content turns {} (Nat.zero_le _) (by simpa using enough)
    have last := uneven_stops positive uneven fits _ final ended
    omega

theorem straight_placed (pageWidth index : Nat) (narrow : index < layout.width) :
    layout.placed pageWidth (layout.straight index) := by
  simp [placed, straight, Nat.mod_eq_of_lt narrow]

theorem whole_of_even (pageWidth turns : Nat) (positive : 0 < layout.limit)
    (even : layout.sector % layout.limit = 0) (narrow : layout.count ≤ layout.width)
    (single : layout.pages = 1) (complete : layout.pages * layout.sector = content.length)
    (enough : content.length < turns) : layout.Whole content pageWidth turns := by
  have parts := @count_mul_limit layout
  have whole : layout.count * layout.limit = content.length := by
    rw [single] at complete
    omega
  have ends : layout.stopped content (layout.straight layout.count) := by
    right
    simp [chunk, straight, whole]
  obtain ⟨visited, final⟩ := straight_run positive (by omega) (by omega) ends turns enough
  constructor
  next =>
    intro cursor member
    obtain ⟨index, counted, here⟩ := visited cursor member
    rw [here]
    exact straight_placed pageWidth index (by omega)
  next =>
    rw [final]
    exact whole

theorem exact_of_narrow (pageWidth turns : Nat) (positive : 0 < layout.limit)
    (filled : 0 < layout.sector) (some : 0 < pageWidth) (narrow : layout.count < layout.width) (fits : layout.pages * layout.sector ≤ content.length)
    (counted : 0 < layout.pages) (enough : content.length < turns)
    (whole : layout.Whole content pageWidth turns) : layout.Exact pageWidth content.length := by
  have parts := @count_mul_limit layout
  have ended := finish_stopped layout content turns {} (Nat.zero_le _) (by simpa using enough)
  right
  by_cases even : layout.sector % layout.limit = 0
  next =>
    have firstPage : layout.sector ≤ layout.pages * layout.sector := Nat.le_mul_of_pos_left _ counted
    have ends : layout.stopped content (layout.straight layout.count) := by
      right
      simp [chunk, want, isLast, straight, Nat.mod_eq_of_lt narrow, even]
    obtain ⟨_, final⟩ := straight_run positive counted (by omega) ends turns enough
    have length := whole.2
    rw [final] at length
    simp only [straight] at length
    have complete : layout.pages * layout.sector = layout.sector := by omega
    have single : layout.pages = 1 := by
      by_contra more
      have twice : 2 * layout.sector ≤ layout.pages * layout.sector :=
        Nat.mul_le_mul_right _ (by omega)
      omega
    exact ⟨by omega, Or.inr ⟨even, by omega, single⟩⟩
  next =>
    obtain ⟨visited, final⟩ := cursors_invariant layout content layout.Regular
      (regular_next fits narrow) turns {} regular_start
    obtain ⟨full, position⟩ := uneven_stops positive even fits _ final ended
    refine ⟨by rw [← position]; exact whole.2, Or.inl ⟨even, narrow, ?_⟩⟩
    rcases @finish_behind layout A content turns {} with same | behind
    · rw [same] at full
      simp only at full
      omega
    · obtain ⟨cursor, member, behind⟩ := behind
      obtain ⟨regular, going⟩ := visited cursor member
      have inner : cursor.page < layout.pages := by
        by_contra beyond
        exact going (Or.inl (by omega))
      have reached := @next_page layout cursor (layout.chunk content cursor).length
      rw [← behind, full] at reached
      have placed : cursor.page % pageWidth * layout.sector + cursor.sub * layout.limit =
          cursor.position := whole.1 cursor member
      rw [regular.1] at placed
      have same : cursor.page % pageWidth = cursor.page :=
        Nat.eq_of_mul_eq_mul_right filled (by omega)
      have numbered := Nat.mod_lt cursor.page some
      omega

/-- A subpage number that wraps on the first page is sent with the number of the first one. -/
theorem exact_of_wide (pageWidth turns : Nat) (positive : 0 < layout.limit)
    (filled : 0 < layout.sector) (some : 0 < layout.width) (wide : layout.width ≤ layout.count)
    (fits : layout.pages * layout.sector ≤ content.length) (counted : 0 < layout.pages)
    (enough : content.length < turns) (whole : layout.Whole content pageWidth turns) :
    layout.Exact pageWidth content.length := by
  have parts := @count_mul_limit layout
  have firstPage : layout.sector ≤ layout.pages * layout.sector := Nat.le_mul_of_pos_left _ counted
  have wrapped : layout.width * layout.limit ≤ layout.count * layout.limit :=
    Nat.mul_le_mul_right _ wide
  have short : content.length ≤ layout.width * layout.limit := by
    by_contra long
    have inner : layout.isLast (layout.straight layout.width) = false := by
      apply decide_eq_false
      simp only [straight, Nat.mod_self]
      omega
    have wants : 0 < layout.want (layout.straight layout.width) := by
      simpa [want, inner] using positive
    have room : layout.count * layout.limit ≤ content.length := by omega
    have member := straight_visited positive counted room layout.width wide (by omega) wants
      layout.width 0 turns (by omega) (by omega)
    have placed := whole.1 (layout.straight layout.width) (by simpa [straight] using member)
    have behind : 0 < layout.width * layout.limit := Nat.mul_pos some positive
    simp only [Layout.placed, straight, Nat.zero_mod, Nat.mod_self, Nat.zero_mul] at placed
    omega
  have single : layout.pages = 1 := by
    by_contra more
    have twice : 2 * layout.sector ≤ layout.pages * layout.sector :=
      Nat.mul_le_mul_right _ (by omega)
    omega
  have same : layout.count = layout.width :=
    Nat.eq_of_mul_eq_mul_right positive (by omega)
  exact Or.inr ⟨by omega, Or.inr ⟨by omega, by omega, single⟩⟩

/-- Everything is sent at its place, and all of it, exactly where the layout fits the content. -/
theorem whole_iff_exact (pageWidth turns : Nat) (positive : 0 < layout.limit)
    (filled : 0 < layout.sector) (numbers : 0 < pageWidth) (narrows : 0 < layout.width)
    (fits : layout.pages * layout.sector ≤ content.length) (enough : content.length < turns) :
    layout.Whole content pageWidth turns <-> layout.Exact pageWidth content.length := by
  constructor
  next =>
    intro whole
    by_cases counted : 0 < layout.pages
    next =>
      by_cases narrow : layout.count < layout.width
      next =>
        exact exact_of_narrow pageWidth turns positive filled numbers narrow fits counted enough whole
      next =>
        exact exact_of_wide pageWidth turns positive filled narrows (by omega) fits counted enough whole
    next =>
      -- without a page the upload ends where it starts
      left
      have ended : layout.stopped content {} := Or.inl (by omega)
      have length := whole.2
      cases turns with
      | zero => omega
      | succ turns =>
        simp only [finish, ended, if_true] at length
        omega
  next =>
    rintro (empty | ⟨complete, ⟨uneven, narrow, numbered⟩ | ⟨even, narrow, single⟩⟩)
    · have ended : layout.stopped content {} := by
        right
        simp [chunk, List.length_eq_zero_iff.mp empty]
      cases turns with
      | zero => omega
      | succ turns => simp [Whole, cursors, finish, ended, empty]
    · exact whole_of_uneven pageWidth turns positive uneven narrow numbered complete enough
    · exact whole_of_even pageWidth turns positive even narrow single complete enough

end Whole

end Layout

end Paging
