import Mathlib.Data.Prod.Basic

set_option autoImplicit false

/-- A program on a state: the state it reaches, and no result while it is still waiting. -/
def Prog (S A : Type) := S -> Option A × S

namespace Prog

variable {S A B L : Type}

instance : Monad (Prog S) where
  pure value := fun state => (some value, state)
  bind first next := fun state =>
    match first state with
    | (some value, after) => next value after
    | (none, after) => (none, after)

theorem prog_id_map (prog : Prog S A) : id <$> prog = prog := by
  funext state
  simp only [Functor.map]
  cases prog state with
  | mk outcome after => cases outcome <;> rfl

theorem prog_bind_assoc {C : Type} (first : Prog S A) (second : A -> Prog S B)
    (third : B -> Prog S C) : first >>= second >>= third = first >>= fun value =>
      second value >>= third := by
  funext state
  simp only [bind]
  cases first state with
  | mk outcome after => cases outcome <;> rfl

instance : LawfulMonad (Prog S) :=
  LawfulMonad.mk' (Prog S) prog_id_map (fun _ _ => rfl) prog_bind_assoc

def observe (view : S -> A) : Prog S A := fun state => (some (view state), state)

def update (change : S -> S) : Prog S Unit := fun state => (some (), change state)

def waiting : Prog S A := fun state => (none, state)

/-- What one turn of a loop leaves: the loop variables of the next turn, or the result. -/
inductive Turn (L A : Type) where
  | again (vars : L)
  | done (result : A)
  deriving DecidableEq, Repr

/-- A loop that is still waiting after `fuel` turns. -/
def loop (body : L -> Prog S (Turn L A)) : Nat -> L -> Prog S A
  | 0, _ => waiting
  | fuel + 1, vars => do
    match <- body vars with
    | .again next => loop body fuel next
    | .done result => return result

/-- What the turns of a loop begin with. -/
def entered (body : L -> Prog S (Turn L A)) : Nat -> L -> S -> List (L × S)
  | 0, _, _ => []
  | fuel + 1, vars, state => (vars, state) ::
      match body vars state with
      | (some (.again next), after) => entered body fuel next after
      | _ => []

/-- The first turn of a loop, and how it leads to the others. -/
theorem entered_cons (body : L -> Prog S (Turn L A)) (fuel : Nat) (vars : L) (state : S)
    (first : L × S) (later : List (L × S)) (known : entered body fuel vars state = first :: later) :
    first = (vars, state) /\ (later ≠ [] -> exists fewer next after,
      body vars state = (some (.again next), after) /\ entered body fewer next after = later) := by
  cases fuel with
  | zero => simp [entered] at known
  | succ fuel =>
    rw [entered] at known
    obtain ⟨rfl, rest⟩ := List.cons.inj known
    refine ⟨rfl, fun some => ?_⟩
    split at rest
    next next after ran => exact ⟨fuel, next, after, ran, rest⟩
    next => exact absurd rest.symm some

theorem returned_of_fst (prog : Prog S A) (state : S) (result : A)
    (known : (prog state).1 = some result) : prog state = (some result, (prog state).2) := by
  rw [← known]

@[simp]
theorem returned_pure (value result : A) (state last : S) :
    (pure value : Prog S A) state = (some result, last) <-> value = result /\ state = last := by
  simp [pure]

@[simp]
theorem returned_observe (view : S -> A) (result : A) (state last : S) :
    observe view state = (some result, last) <-> view state = result /\ state = last := by
  simp [observe]

@[simp]
theorem returned_update (change : S -> S) (result : Unit) (state last : S) :
    update change state = (some result, last) <-> change state = last := by
  simp [update]

theorem returned_bind (first : Prog S A) (next : A -> Prog S B) (result : B) (state last : S) :
    (first >>= next) state = (some result, last) <->
      exists value middle,
        first state = (some value, middle) /\ next value middle = (some result, last) := by
  simp only [bind]
  cases ran : first state with
  | mk outcome after =>
    cases outcome with
    | none => simp
    | some value =>
      constructor
      next => exact fun later => ⟨value, after, rfl, later⟩
      next =>
        rintro ⟨value', middle, same, later⟩
        obtain ⟨rfl, rfl⟩ : value = value' /\ after = middle := by simpa using same
        exact later

theorem ran_bind {first : Prog S A} {next : A -> Prog S B} {state after : S} {value : A}
    (ran : first state = (some value, after)) : (first >>= next) state = next value after := by
  simp only [bind, ran]

theorem waited_bind {first : Prog S A} {next : A -> Prog S B} {state after : S}
    (waited : first state = (none, after)) : (first >>= next) state = (none, after) := by
  simp only [bind, waited]

/-- From `pre` the program returns under `post`, or is left waiting under `wait`. -/
def Triple (wait pre : S -> Prop) (prog : Prog S A) (post : A -> S -> Prop) : Prop :=
  forall state, pre state ->
    match prog state with
    | (some result, last) => post result last
    | (none, last) => wait last

/-- What is known when the program returns, and nothing while it is waiting. -/
abbrev Returns (pre : S -> Prop) (prog : Prog S A) (post : A -> S -> Prop) : Prop :=
  Triple (fun _ => True) pre prog post

section Triples

variable {wait pre : S -> Prop} {post : A -> S -> Prop}

theorem Triple.returned {prog : Prog S A} (triple : Triple wait pre prog post) {state last : S}
    {result : A} (known : pre state) (returned : prog state = (some result, last)) :
    post result last := by
  have outcome := triple state known
  rwa [returned] at outcome

theorem returns_of_returned {prog : Prog S A} (returned : forall state result last, pre state ->
    prog state = (some result, last) -> post result last) : Returns pre prog post := by
  intro state known
  cases ran : prog state with
  | mk outcome last =>
    cases outcome with
    | none => trivial
    | some result => exact returned state result last known ran

theorem returns_trivial (pre : S -> Prop) (prog : Prog S A) : Returns pre prog fun _ _ => True :=
  returns_of_returned fun _ _ _ _ _ => trivial

theorem triple_pure (value : A) (holds : forall state, pre state -> post value state) :
    Triple wait pre (pure value) post := holds

theorem triple_observe (view : S -> A) (holds : forall state, pre state -> post (view state) state) :
    Triple wait pre (observe view) post := holds

theorem triple_update {post : Unit -> S -> Prop} (change : S -> S)
    (holds : forall state, pre state -> post () (change state)) :
    Triple wait pre (update change) post := holds

theorem triple_waiting (waits : forall state, pre state -> wait state) :
    Triple wait pre (waiting : Prog S A) post := waits

theorem triple_bind {post : B -> S -> Prop} {first : Prog S A} {next : A -> Prog S B}
    (middle : A -> S -> Prop) (before : Triple wait pre first middle)
    (behind : forall value, Triple wait (middle value) (next value) post) :
    Triple wait pre (first >>= next) post := by
  intro state known
  have outcome := before state known
  simp only [bind]
  cases ran : first state with
  | mk outcome' after =>
    rw [ran] at outcome
    cases outcome' with
    | none => exact outcome
    | some value => exact behind value after outcome

theorem triple_result {prog : Prog S A} {state after : S} {value : A}
    (ran : prog state = (some value, after)) (holds : post value after) :
    Triple wait (· = state) prog post := by
  intro _ same
  rw [same, ran]
  exact holds

/-- The rule for one state, whose first step is known. -/
theorem triple_ran {post : B -> S -> Prop} {first : Prog S A} {next : A -> Prog S B} {state after : S}
    {value : A} (ran : first state = (some value, after))
    (behind : Triple wait (· = after) (next value) post) :
    Triple wait (· = state) (first >>= next) post := by
  intro _ same
  rw [same, ran_bind ran]
  exact behind after rfl

theorem Triple.weaken {prog : Prog S A} {stronger : S -> Prop} {weaker : A -> S -> Prop}
    (triple : Triple wait pre prog post) (before : forall state, stronger state -> pre state)
    (behind : forall result state, post result state -> weaker result state) :
    Triple wait stronger prog weaker := by
  intro state known
  have outcome := triple state (before state known)
  cases ran : prog state with
  | mk outcome' last =>
    rw [ran] at outcome
    cases outcome' with
    | none => exact outcome
    | some result => exact behind result last outcome

theorem Triple.waits {prog : Prog S A} {longer : S -> Prop} (triple : Triple wait pre prog post)
    (weaker : forall state, wait state -> longer state) : Triple longer pre prog post := by
  intro state known
  have outcome := triple state known
  cases ran : prog state with
  | mk outcome' last =>
    rw [ran] at outcome
    cases outcome' with
    | none => exact weaker last outcome
    | some result => exact outcome

theorem triple_known {fact : Prop} {prog : Prog S A} (triple : fact -> Triple wait pre prog post) :
    Triple wait (fun state => fact /\ pre state) prog post :=
  fun state known => triple known.1 state known.2

theorem triple_exists {I : Type} {prog : Prog S A} {pre : I -> S -> Prop}
    (triple : forall index, Triple wait (pre index) prog post) :
    Triple wait (fun state => exists index, pre index state) prog post := by
  rintro state ⟨index, known⟩
  exact triple index state known

theorem Triple.and {prog : Prog S A} {other : A -> S -> Prop} (triple : Triple wait pre prog post)
    (also : Returns pre prog other) :
    Triple wait pre prog fun result state => post result state /\ other result state := by
  intro state known
  have outcome := triple state known
  have outcomeAlso := also state known
  cases ran : prog state with
  | mk outcome' last =>
    rw [ran] at outcome outcomeAlso
    cases outcome' with
    | none => exact outcome
    | some result => exact ⟨outcome, outcomeAlso⟩

/-- What a turn of a loop leaves: the invariant in front of the next turn, or the result. -/
def afterTurn (inv : L -> S -> Prop) (post : A -> S -> Prop) : Turn L A -> S -> Prop
  | .again vars => inv vars
  | .done result => post result

theorem triple_loop (body : L -> Prog S (Turn L A)) (inv : L -> S -> Prop)
    (waits : forall vars state, inv vars state -> wait state)
    (turn : forall vars, Triple wait (inv vars) (body vars) (afterTurn inv post))
    (fuel : Nat) (vars : L) : Triple wait (inv vars) (loop body fuel vars) post := by
  induction fuel generalizing vars with
  | zero => exact triple_waiting (waits vars)
  | succ fuel ih =>
    rw [loop]
    refine triple_bind _ (turn vars) ?_
    intro outcome
    cases outcome with
    | again next => exact ih next
    | done result => exact triple_pure result fun state holds => holds

/-- A loop that returns, where something is known of the turns that it enters alone. -/
theorem loop_entered (body : L -> Prog S (Turn L A)) (inv : L -> S -> Prop) (fuel : Nat) (vars : L)
    (state last : S) (result : A) (known : inv vars state)
    (turns : ∀ turn ∈ entered body fuel vars state, inv turn.1 turn.2 -> forall outcome after,
      body turn.1 turn.2 = (some outcome, after) -> afterTurn inv post outcome after)
    (ran : loop body fuel vars state = (some result, last)) : post result last := by
  induction fuel generalizing vars state with
  | zero => simp [loop, waiting] at ran
  | succ fuel ih =>
    obtain ⟨outcome, after, turned, behind⟩ := (returned_bind _ _ _ _ _).mp ran
    have kept := turns (vars, state) (by simp [entered]) known outcome after turned
    cases outcome with
    | again next =>
      apply ih next after kept _ behind
      intro turn inside
      exact turns turn (by simp [entered, turned, inside])
    | done value =>
      obtain ⟨rfl, rfl⟩ := (returned_pure _ _ _ _).mp behind
      exact kept

end Triples

/-- The program moves the state along `rel`, also when it is still waiting. -/
def Respects (rel : S -> S -> Prop) (prog : Prog S A) : Prop :=
  forall state, rel state (prog state).2

theorem Respects.returned {rel : S -> S -> Prop} {prog : Prog S A} (respects : Respects rel prog)
    {state last : S} {result : A} (returned : prog state = (some result, last)) :
    rel state last := by
  have moved := respects state
  rwa [returned] at moved

/-- Moves that keep an invariant keep it up to the result and while waiting. -/
theorem Respects.invariant {inv wait : S -> Prop} {prog : Prog S A}
    (respects : Respects (fun before after => inv before -> inv after) prog)
    (waits : forall state, inv state -> wait state) : Triple wait inv prog fun _ => inv := by
  intro state known
  have kept := respects state known
  cases ran : prog state with
  | mk outcome last =>
    rw [ran] at kept
    cases outcome with
    | none => exact waits last kept
    | some result => exact kept

/-- What holds on every way out holds of the state that is reached. -/
theorem Triple.ends {pre post : S -> Prop} {prog : Prog S A}
    (triple : Triple post pre prog fun _ => post) {state : S} (known : pre state) :
    post (prog state).2 := by
  have kept := triple state known
  cases ran : prog state with
  | mk outcome last =>
    rw [ran] at kept
    cases outcome with
    | none => exact kept
    | some result => exact kept

theorem Triple.respects {inv : S -> Prop} {prog : Prog S A}
    (triple : Triple inv inv prog fun _ => inv) :
    Respects (fun before after => inv before -> inv after) prog :=
  fun _ known => triple.ends known

theorem Respects.returns {rel : S -> S -> Prop} {prog : Prog S A} {pre post : S -> Prop}
    (respects : Respects rel prog)
    (moves : forall before after, pre before -> rel before after -> post after) :
    Returns pre prog fun _ => post :=
  returns_of_returned fun state _ last known returned =>
    moves state last known (respects.returned returned)

section Rules

variable {rel : S -> S -> Prop}

theorem respects_pure (refl : forall state, rel state state) (value : A) :
    Respects rel (pure value : Prog S A) := fun state => refl state

theorem respects_observe (refl : forall state, rel state state) (view : S -> A) :
    Respects rel (observe view) := fun state => refl state

theorem respects_waiting (refl : forall state, rel state state) :
    Respects rel (waiting : Prog S A) := fun state => refl state

theorem respects_bind (trans : forall first second third, rel first second ->
      rel second third -> rel first third)
    {first : Prog S A} {next : A -> Prog S B} (before : Respects rel first)
    (behind : forall value, Respects rel (next value)) : Respects rel (first >>= next) := by
  intro state
  simp only [bind]
  have moved := before state
  cases ran : first state with
  | mk outcome after =>
    rw [ran] at moved
    cases outcome with
    | none => exact moved
    | some value => exact trans state after _ moved (behind value after)

/-- The rule for one state, with what is known of the result in between. -/
theorem moved_bind (trans : forall first second third, rel first second ->
      rel second third -> rel first third)
    {first : Prog S A} {next : A -> Prog S B} {state : S} (moved : rel state (first state).2)
    (behind : forall value after, first state = (some value, after) -> rel state after ->
      rel after (next value after).2) : rel state ((first >>= next) state).2 := by
  simp only [bind]
  cases ran : first state with
  | mk outcome after =>
    rw [ran] at moved
    cases outcome with
    | none => exact moved
    | some value => exact trans state after _ moved (behind value after ran moved)

/-- A loop moves along `rel` where the turns that it enters do. -/
theorem moved_loop (refl : forall state, rel state state)
    (trans : forall first second third, rel first second -> rel second third -> rel first third)
    (body : L -> Prog S (Turn L A)) (fuel : Nat) (vars : L) (state : S)
    (turns : ∀ turn ∈ entered body fuel vars state, rel turn.2 (body turn.1 turn.2).2) :
    rel state (loop body fuel vars state).2 := by
  induction fuel generalizing vars state with
  | zero => exact refl state
  | succ fuel ih =>
    have first : rel state (body vars state).2 := turns (vars, state) (by simp [entered])
    rw [loop]
    apply moved_bind trans first
    intro outcome after ran _
    cases outcome with
    | again next =>
      apply ih next after
      intro turn inside
      exact turns turn (by simp [entered, ran, inside])
    | done result => exact refl after

theorem respects_loop (refl : forall state, rel state state)
    (trans : forall first second third, rel first second -> rel second third -> rel first third)
    (body : L -> Prog S (Turn L A)) (turn : forall vars, Respects rel (body vars))
    (fuel : Nat) (vars : L) : Respects rel (loop body fuel vars) := fun state =>
  moved_loop refl trans body fuel vars state fun entered _ => turn entered.1 entered.2

end Rules

/-- The program moves the state along `rel` when it returns. -/
def Moves (rel : S -> S -> Prop) (prog : Prog S A) : Prop :=
  forall state result last, prog state = (some result, last) -> rel state last

section Moves

variable {rel : S -> S -> Prop}

theorem Respects.moves {prog : Prog S A} (respects : Respects rel prog) : Moves rel prog :=
  fun _ _ _ ran => respects.returned ran

theorem moves_pure (refl : forall state, rel state state) (value : A) :
    Moves rel (pure value : Prog S A) := (respects_pure refl value).moves

theorem moves_bind (trans : forall first second third, rel first second ->
      rel second third -> rel first third)
    {first : Prog S A} {next : A -> Prog S B} (before : Moves rel first)
    (behind : forall value, Moves rel (next value)) : Moves rel (first >>= next) := by
  intro state result last ran
  obtain ⟨value, middle, begun, ended⟩ := (returned_bind _ _ _ _ _).mp ran
  exact trans state middle last (before state value middle begun) (behind value middle result last ended)

end Moves

/-- The program returns from every state, along `rel`. -/
def Always (rel : S -> S -> Prop) (prog : Prog S A) : Prop :=
  forall state, exists result after, prog state = (some result, after) /\ rel state after

theorem Always.respects {rel : S -> S -> Prop} {prog : Prog S A} (always : Always rel prog) :
    Respects rel prog := by
  intro state
  obtain ⟨result, after, ran, moved⟩ := always state
  rw [ran]
  exact moved

/-- A program that returns from every state never waits. -/
theorem Always.triple {rel : S -> S -> Prop} {prog : Prog S A} {wait pre post : S -> Prop}
    (always : Always rel prog)
    (moves : forall before after, pre before -> rel before after -> post after) :
    Triple wait pre prog fun _ => post := by
  intro state known
  obtain ⟨result, after, ran, moved⟩ := always state
  rw [ran]
  exact moves state after known moved

section Total

variable {rel : S -> S -> Prop}

theorem always_pure (refl : forall state, rel state state) (value : A) :
    Always rel (pure value : Prog S A) := fun state => ⟨value, state, rfl, refl state⟩

theorem always_observe (refl : forall state, rel state state) (view : S -> A) :
    Always rel (observe view) := fun state => ⟨view state, state, rfl, refl state⟩

theorem always_update (change : S -> S) (moves : forall state, rel state (change state)) :
    Always rel (update change) := fun state => ⟨(), change state, rfl, moves state⟩

theorem always_bind {before behind both : S -> S -> Prop}
    (trans : forall first second third, before first second -> behind second third ->
      both first third)
    {first : Prog S A} {next : A -> Prog S B} (moved : Always before first)
    (later : forall value, Always behind (next value)) : Always both (first >>= next) := by
  intro state
  obtain ⟨value, middle, ran, movedFirst⟩ := moved state
  obtain ⟨result, after, rest, movedLast⟩ := later value middle
  refine ⟨result, after, ?_, trans state middle after movedFirst movedLast⟩
  simp only [bind, ran, rest]

end Total

end Prog
