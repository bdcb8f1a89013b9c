import Mathlib.Data.Nat.Bitwise
import Hes.Lib.Epoch
import Hes.Client
import Hes.OdmProfiles

set_option autoImplicit false

namespace Hes.CycleSchedule

abbrev CycleId := Fin 4

/-- `HesCycleState`, with none for -1. -/
structure HesCycleState where
  lastHour : Option Nat := none
  currentCycleId : Option CycleId := none
  doneMask : UInt8 := 0
  deriving DecidableEq, Repr

/-- What the calls of the cycle activity return. -/
structure Activity where
  syncTime : Code
  missingInfo : Code
  deriving DecidableEq, Repr

/-- A poll that times out; the local clock is in seconds. -/
structure Poll where
  timeoutState : TimeoutState
  odmFlag : Bool
  now : Nat
  activity : Activity
  deriving DecidableEq, Repr

def minuteOf (now : Nat) : Nat := now / 60 % 60

def hourOfDay (now : Nat) : Nat := now / 3600 % 24

def cycleBit (cycle : CycleId) : UInt8 := UInt8.ofNat (1 <<< cycle.val)

def markHesCycleDone (hes : HesCycleState) : HesCycleState :=
  match hes.currentCycleId with
  | some cycle => { hes with doneMask := hes.doneMask ||| cycleBit cycle, currentCycleId := none }
  | none => hes

def getCycleIdFromMinute (minute : Nat) : Option CycleId :=
  if minute ≥ 6 && minute ≤ 9 then some 0
  else if minute ≥ 18 && minute ≤ 24 then some 1
  else if minute ≥ 33 && minute ≤ 39 then some 2
  else if minute ≥ 48 && minute ≤ 54 then some 3
  else none

def enterHour (hour : Nat) (hes : HesCycleState) : HesCycleState :=
  if hes.lastHour ≠ some hour then
    { lastHour := some hour, doneMask := 0, currentCycleId := none }
  else hes

def clientHesCycleSchedule (now : Nat) (hes : HesCycleState) : Code × HesCycleState :=
  let hes := enterHour (hourOfDay now) hes
  match getCycleIdFromMinute (minuteOf now) with
  | none => (.failure, hes)
  | some cycle =>
    if hes.doneMask &&& cycleBit cycle ≠ 0 then (.failure, hes)
    else (.success, { hes with currentCycleId := some cycle })

def hesStartCycleActiviy (activity : Activity) : Code :=
  if activity.syncTime ≠ .success then .failure else activity.missingInfo

/-- The state behind a poll timeout, and the cycle that was run. -/
def pollTimeoutHandler (poll : Poll) (hes : HesCycleState) : HesCycleState × Option CycleId :=
  match poll.timeoutState with
  | .timerNone =>
    if poll.odmFlag then (hes, none)
    else
      let (ret, scheduled) := clientHesCycleSchedule poll.now hes
      if ret = .success then
        if hesStartCycleActiviy poll.activity = .success then
          (markHesCycleDone scheduled, scheduled.currentCycleId)
        else (scheduled, scheduled.currentCycleId)
      else (scheduled, none)
  | _ => (hes, none)

section Runs

variable (polls : Nat -> Poll)

def hesAt : Nat -> HesCycleState
  | 0 => {}
  | position + 1 => (pollTimeoutHandler (polls position) (hesAt position)).1

/-- The cycle that the poll at a position runs. -/
def started (position : Nat) : Option CycleId :=
  (pollTimeoutHandler (polls position) (hesAt polls position)).2

def Poll.checks (poll : Poll) : Bool := poll.timeoutState = .timerNone && !poll.odmFlag

def Poll.window (poll : Poll) : Option CycleId := getCycleIdFromMinute (minuteOf poll.now)

def Poll.succeeds (poll : Poll) : Bool := hesStartCycleActiviy poll.activity = .success

def Poll.clockHour (poll : Poll) : Nat := poll.now / 3600

def Succeeded (position : Nat) (cycle : CycleId) : Prop :=
  started polls position = some cycle /\ (polls position).succeeds = true

def Done (hes : HesCycleState) (cycle : CycleId) : Prop := hes.doneMask &&& cycleBit cycle ≠ 0

instance (hes : HesCycleState) (cycle : CycleId) : Decidable (Done hes cycle) :=
  inferInstanceAs (Decidable (_ ≠ _))

/-- The clock never goes back. -/
def Forward : Prop := forall first last, first ≤ last -> (polls first).now ≤ (polls last).now

/-- The four parts of the schedule; a run of a cycle belongs to the hour of the poll that starts
it, however long its activity takes. -/
structure Scheduled : Prop where
  once : forall first last cycle, first < last -> Succeeded polls first cycle ->
    Succeeded polls last cycle -> (polls first).clockHour ≠ (polls last).clockHour
  retried : forall first last cycle, first < last -> started polls first = some cycle ->
    (polls first).succeeds = false -> (polls first).clockHour = (polls last).clockHour ->
    (polls last).checks = true -> (polls last).window = some cycle ->
    (forall between, first < between -> between < last -> ¬ Succeeded polls between cycle) ->
    started polls last = some cycle
  marked : forall position cycle, Done (hesAt polls (position + 1)) cycle ->
    Done (hesAt polls position) cycle \/
      (Succeeded polls position cycle /\ (polls position).window = some cycle /\
        (hesAt polls (position + 1)).lastHour = some (hourOfDay (polls position).now))
  unsuppressed : forall position cycle, (polls position).checks = true ->
    (polls position).window = some cycle -> started polls position ≠ some cycle ->
    exists earlier, earlier < position /\ Succeeded polls earlier cycle /\
      (polls earlier).clockHour = (polls position).clockHour

/-- The schedule is next looked at in an hour of a later day that has the same number: a poll in the
window of a cycle whose activity succeeds, one in the window of the same cycle in a later hour, and
all checks up to there in hours of that number. -/
def HourRecurs : Prop :=
  exists first last cycle, first < last /\
    (polls first).checks = true /\ (polls first).window = some cycle /\
    (polls first).succeeds = true /\
    (polls last).checks = true /\ (polls last).window = some cycle /\
    (polls first).clockHour < (polls last).clockHour /\
    forall between, first < between -> between ≤ last -> (polls between).checks = true ->
      hourOfDay (polls between).now = hourOfDay (polls first).now

def epochEvent (poll : Poll) : Option (Epoch.Event Nat CycleId) :=
  if poll.checks then
    some { key := hourOfDay poll.now, mark := if poll.succeeds then poll.window else none }
  else none

def epochEvents (position : Nat) : Option (Epoch.Event Nat CycleId) := epochEvent (polls position)

/-- The mask holds the marks, of the hour that was seen last. -/
def Holds (hes : HesCycleState) (marks : Epoch.Marks Nat CycleId) : Prop :=
  hes.lastHour = marks.key /\ forall cycle, Done hes cycle <-> marks.marked cycle = true

theorem done_testBit (hes : HesCycleState) (cycle : CycleId) :
    Done hes cycle <-> hes.doneMask.toNat.testBit cycle.val = true := by
  have bit : (cycleBit cycle).toNat = 2 ^ cycle.val := by
    revert cycle
    decide
  rw [Done, Ne, ← UInt8.toNat_inj, UInt8.toNat_and, bit, Nat.and_two_pow]
  cases hes.doneMask.toNat.testBit cycle.val <;> simp

theorem done_marked (hes : HesCycleState) (cycle other : CycleId) :
    Done { hes with doneMask := hes.doneMask ||| cycleBit cycle, currentCycleId := none } other <->
      Done hes other \/ cycle = other := by
  have bit : (cycleBit cycle).toNat = 2 ^ cycle.val := by
    revert cycle
    decide
  rw [done_testBit, done_testBit, UInt8.toNat_or, bit, Nat.testBit_or, Bool.or_eq_true,
    Nat.testBit_two_pow, decide_eq_true_eq, Fin.val_inj]

theorem enterHour_holds (hour : Nat) (hes : HesCycleState) (marks : Epoch.Marks Nat CycleId)
    (holds : Holds hes marks) : Holds (enterHour hour hes) (Epoch.enter hour marks) := by
  rw [enterHour, Epoch.enter]
  by_cases same : hes.lastHour = some hour
  next =>
    rw [if_neg (by simpa using same), if_pos (by rw [← holds.1, same])]
    exact holds
  next =>
    rw [if_pos same, if_neg (by rwa [← holds.1])]
    exact ⟨rfl, fun cycle => by simp [Done]⟩

omit polls in
theorem handler_unchecked (poll : Poll) (hes : HesCycleState) (unchecked : poll.checks = false) :
    pollTimeoutHandler poll hes = (hes, none) := by
  unfold pollTimeoutHandler
  cases state : poll.timeoutState with
  | timerNone =>
    have odm : poll.odmFlag = true := by simpa [Poll.checks, state] using unchecked
    simp [odm]
  | timerPgwidRx => rfl
  | timerFuotaResponse => rfl

omit polls in
theorem handler_checked (poll : Poll) (hes : HesCycleState) (checked : poll.checks = true) :
    let entered := enterHour (hourOfDay poll.now) hes
    pollTimeoutHandler poll hes =
      match poll.window with
      | none => (entered, none)
      | some cycle =>
        if Done entered cycle then (entered, none)
        else if poll.succeeds then
          ({ entered with doneMask := entered.doneMask ||| cycleBit cycle, currentCycleId := none },
            some cycle)
        else ({ entered with currentCycleId := some cycle }, some cycle) := by
  obtain ⟨state, odm⟩ : poll.timeoutState = .timerNone /\ poll.odmFlag = false := by
    simpa [Poll.checks] using checked
  intro entered
  cases window : poll.window with
  | none =>
    have ran : clientHesCycleSchedule poll.now hes = (.failure, entered) := by
      rw [Poll.window] at window
      simp [clientHesCycleSchedule, window, entered]
    simp [pollTimeoutHandler, state, odm, ran]
  | some cycle =>
    dsimp only
    by_cases done : Done entered cycle
    next =>
      have ran : clientHesCycleSchedule poll.now hes = (.failure, entered) := by
        rw [Poll.window] at window
        rw [clientHesCycleSchedule, window]
        exact if_pos done
      simp [pollTimeoutHandler, state, odm, ran, done]
    next =>
      have ran : clientHesCycleSchedule poll.now hes =
          (.success, { entered with currentCycleId := some cycle }) := by
        rw [Poll.window] at window
        rw [clientHesCycleSchedule, window]
        exact if_neg done
      simp [pollTimeoutHandler, state, odm, ran, done, Poll.succeeds, markHesCycleDone]

omit polls in
theorem handler_started (poll : Poll) (hes : HesCycleState) (cycle : CycleId) :
    (pollTimeoutHandler poll hes).2 = some cycle <->
      poll.checks = true /\ poll.window = some cycle /\
        ¬ Done (enterHour (hourOfDay poll.now) hes) cycle := by
  cases checked : poll.checks with
  | false => simp [handler_unchecked poll hes checked]
  | true =>
    rw [handler_checked poll hes checked]
    cases poll.window with
    | none => simp
    | some current =>
      dsimp only
      by_cases done : Done (enterHour (hourOfDay poll.now) hes) current
      next =>
        rw [if_pos done]
        constructor
        next => simp
        next =>
          rintro ⟨-, same, other⟩
          rw [Option.some.inj same] at done
          exact absurd done other
      next =>
        rw [if_neg done]
        rw [apply_ite Prod.snd, ite_self]
        constructor
        next =>
          intro same
          rw [← Option.some.inj same]
          exact ⟨rfl, rfl, done⟩
        next => exact fun known => known.2.1

omit polls in
theorem handler_holds (poll : Poll) (hes : HesCycleState) (marks : Epoch.Marks Nat CycleId)
    (holds : Holds hes marks) :
    Holds (pollTimeoutHandler poll hes).1 (Epoch.after marks (epochEvent poll)) := by
  cases checked : poll.checks with
  | false => simpa [handler_unchecked poll hes checked, epochEvent, checked, Epoch.after] using holds
  | true =>
    obtain ⟨hour, known⟩ := enterHour_holds (hourOfDay poll.now) hes marks holds
    rw [handler_checked poll hes checked, epochEvent, if_pos checked, Epoch.after]
    dsimp only
    generalize enterHour (hourOfDay poll.now) hes = entered at hour known ⊢
    generalize Epoch.enter (hourOfDay poll.now) marks = marks' at hour known ⊢
    cases poll.window with
    | none => exact ⟨hour, fun cycle => by simp [Epoch.mark, known]⟩
    | some current =>
      dsimp only
      by_cases done : Done entered current
      next =>
        rw [if_pos done]
        refine ⟨hour, fun cycle => ?_⟩
        rw [known, Epoch.mark]
        have marked := (known current).mp done
        by_cases same : current = cycle
        next => simp [← same, marked]
        next => cases poll.succeeds <;> simp [same]
      next =>
        rw [if_neg done]
        cases poll.succeeds with
        | false =>
          refine ⟨hour, fun cycle => ?_⟩
          have same : Done { entered with currentCycleId := some current } cycle <->
            Done entered cycle := Iff.rfl
          simp [same, known, Epoch.mark]
        | true =>
          refine ⟨hour, fun cycle => ?_⟩
          rw [if_pos rfl, done_marked, known]
          simp [Epoch.mark]

theorem hesAt_holds (position : Nat) :
    Holds (hesAt polls position) (Epoch.marksAt (epochEvents polls) position) := by
  induction position with
  | zero => exact ⟨rfl, fun cycle => by simp [hesAt, Epoch.marksAt, Done]⟩
  | succ position ih => exact handler_holds (polls position) _ _ ih

/-- An earlier check in the window of the cycle whose activity succeeds, and no check at another
hour of day behind it. -/
def MarkedBy (earlier position : Nat) (cycle : CycleId) : Prop :=
  earlier < position /\ (polls earlier).checks = true /\ (polls earlier).window = some cycle /\
    (polls earlier).succeeds = true /\
    hourOfDay (polls earlier).now = hourOfDay (polls position).now /\
    forall between, earlier < between -> between < position -> (polls between).checks = true ->
      hourOfDay (polls between).now = hourOfDay (polls position).now

theorem found_iff (position : Nat) (cycle : CycleId) :
    Done (enterHour (hourOfDay (polls position).now) (hesAt polls position)) cycle <->
      exists earlier, MarkedBy polls earlier position cycle := by
  rw [(enterHour_holds _ _ _ (hesAt_holds polls position)).2, Epoch.entered_marked]
  have event : forall earlier, epochEvents polls earlier =
        some { key := hourOfDay (polls position).now, mark := some cycle } <->
      (polls earlier).checks = true /\ (polls earlier).window = some cycle /\
        (polls earlier).succeeds = true /\
        hourOfDay (polls earlier).now = hourOfDay (polls position).now := by
    intro earlier
    unfold epochEvents epochEvent
    cases (polls earlier).checks <;> cases (polls earlier).succeeds <;> simp [and_comm]
  have steady : forall earlier, Epoch.Steady (epochEvents polls)
        (hourOfDay (polls position).now) earlier position <->
      forall between, earlier < between -> between < position -> (polls between).checks = true ->
        hourOfDay (polls between).now = hourOfDay (polls position).now := by
    intro earlier
    constructor
    next =>
      intro steady between past below checked
      exact steady between _ past below (by rw [epochEvents, epochEvent, if_pos checked])
    next =>
      intro same between event past below known
      cases checked : (polls between).checks with
      | false => simp [epochEvents, epochEvent, checked] at known
      | true =>
        rw [epochEvents, epochEvent, if_pos checked] at known
        rw [← Option.some.inj known]
        exact same between past below checked
  simp only [event, steady, MarkedBy, and_assoc]

theorem started_iff (position : Nat) (cycle : CycleId) :
    started polls position = some cycle <->
      (polls position).checks = true /\ (polls position).window = some cycle /\
        ¬ exists earlier, MarkedBy polls earlier position cycle := by
  rw [← found_iff]
  exact handler_started (polls position) (hesAt polls position) cycle

theorem markedBy_succeeded (position : Nat) (cycle : CycleId)
    (marked : exists earlier, MarkedBy polls earlier position cycle) :
    exists earlier, MarkedBy polls earlier position cycle /\ Succeeded polls earlier cycle := by
  obtain ⟨earlier, before, checked, window, succeeds, hour, steady⟩ := marked
  induction earlier using Nat.strong_induction_on with
  | _ earlier ih =>
    by_cases again : exists first, MarkedBy polls first earlier cycle
    next =>
      obtain ⟨first, before', checked', window', succeeds', hour', steady'⟩ := again
      refine ih first before' (by omega) checked' window' succeeds' (hour'.trans hour) ?_
      intro between past below known
      rcases Nat.lt_trichotomy between earlier with less | same | more
      next => exact (steady' between past less known).trans hour
      next => rw [same, hour]
      next => exact steady between more below known
    next =>
      exact ⟨earlier, ⟨before, checked, window, succeeds, hour, steady⟩,
        (started_iff polls earlier cycle).mpr ⟨checked, window, again⟩, succeeds⟩

theorem started_window (position : Nat) (cycle : CycleId)
    (ran : started polls position = some cycle) :
    (polls position).checks = true /\ (polls position).window = some cycle :=
  ⟨((started_iff polls position cycle).mp ran).1, ((started_iff polls position cycle).mp ran).2.1⟩

omit polls in
theorem hourOfDay_clockHour (poll other : Poll) (same : poll.clockHour = other.clockHour) :
    hourOfDay poll.now = hourOfDay other.now := by
  unfold hourOfDay
  rw [show poll.now / 3600 = other.now / 3600 from same]

theorem clockHour_between (forward : Forward polls) (first between last : Nat)
    (past : first ≤ between) (below : between ≤ last)
    (same : (polls first).clockHour = (polls last).clockHour) :
    (polls between).clockHour = (polls last).clockHour := by
  have low : (polls first).clockHour ≤ (polls between).clockHour :=
    Nat.div_le_div_right (forward first between past)
  have high : (polls between).clockHour ≤ (polls last).clockHour :=
    Nat.div_le_div_right (forward between last below)
  omega

/-- In one clock hour a success marks its cycle for every poll behind it. -/
theorem markedBy_sameHour (forward : Forward polls) (first last : Nat) (cycle : CycleId)
    (before : first < last) (succeeded : Succeeded polls first cycle)
    (same : (polls first).clockHour = (polls last).clockHour) :
    MarkedBy polls first last cycle := by
  obtain ⟨checked, window⟩ := started_window polls first cycle succeeded.1
  refine ⟨before, checked, window, succeeded.2, hourOfDay_clockHour _ _ same, ?_⟩
  intro between past below _
  exact hourOfDay_clockHour _ _
    (clockHour_between polls forward first between last (by omega) (by omega) same)

theorem scheduled_once (forward : Forward polls) (first last : Nat) (cycle : CycleId)
    (before : first < last) (ran : Succeeded polls first cycle)
    (again : Succeeded polls last cycle) : (polls first).clockHour ≠ (polls last).clockHour := by
  intro same
  exact ((started_iff polls last cycle).mp again.1).2.2
    ⟨first, markedBy_sameHour polls forward first last cycle before ran same⟩

theorem scheduled_retried (first last : Nat) (cycle : CycleId)
    (before : first < last) (ran : started polls first = some cycle)
    (failed : (polls first).succeeds = false)
    (same : (polls first).clockHour = (polls last).clockHour)
    (checked : (polls last).checks = true) (window : (polls last).window = some cycle)
    (without : forall between, first < between -> between < last ->
      ¬ Succeeded polls between cycle) : started polls last = some cycle := by
  refine (started_iff polls last cycle).mpr ⟨checked, window, ?_⟩
  intro found
  obtain ⟨earlier, marks, succeeded⟩ := markedBy_succeeded polls last cycle found
  obtain ⟨below, checked', window', succeeds, hour, steady⟩ := marks
  rcases Nat.lt_trichotomy earlier first with less | equal | more
  next =>
    have hours := hourOfDay_clockHour _ _ same
    refine ((started_iff polls first cycle).mp ran).2.2 ⟨earlier, less, checked', window', succeeds,
      hour.trans hours.symm, ?_⟩
    intro between past inside known
    exact (steady between past (by omega) known).trans hours.symm
  next =>
    rw [equal, failed] at succeeds
    exact absurd succeeds (by simp)
  next => exact without earlier more below succeeded

theorem scheduled_marked (position : Nat) (cycle : CycleId)
    (done : Done (hesAt polls (position + 1)) cycle) :
    Done (hesAt polls position) cycle \/
      (Succeeded polls position cycle /\ (polls position).window = some cycle /\
        (hesAt polls (position + 1)).lastHour = some (hourOfDay (polls position).now)) := by
  have entered : forall hes : HesCycleState, Done (enterHour (hourOfDay (polls position).now) hes)
      cycle -> Done hes cycle := by
    intro hes
    unfold enterHour
    split
    next => simp [Done]
    next => exact id
  have hour : forall hes : HesCycleState,
      (enterHour (hourOfDay (polls position).now) hes).lastHour =
        some (hourOfDay (polls position).now) := by
    intro hes
    unfold enterHour
    split
    next => rfl
    next known => exact not_not.mp known
  by_cases before : Done (hesAt polls position) cycle
  next => exact Or.inl before
  right
  have fresh := mt (entered (hesAt polls position)) before
  rw [hesAt] at done ⊢
  rw [Succeeded, started]
  cases checked : (polls position).checks with
  | false =>
    rw [handler_unchecked _ _ checked] at done
    exact absurd done before
  | true =>
    rw [handler_checked _ _ checked] at done ⊢
    cases window : (polls position).window with
    | none =>
      rw [window] at done
      exact absurd done fresh
    | some current =>
      rw [window] at done
      dsimp only at done ⊢
      by_cases already : Done (enterHour (hourOfDay (polls position).now) (hesAt polls position))
        current
      next =>
        rw [if_pos already] at done
        exact absurd done fresh
      next =>
        rw [if_neg already] at done ⊢
        cases succeeds : (polls position).succeeds with
        | false =>
          rw [succeeds] at done
          exact absurd done fresh
        | true =>
          rw [succeeds, if_pos rfl, done_marked] at done
          obtain rfl := done.resolve_left fresh
          exact ⟨⟨rfl, rfl⟩, rfl, hour _⟩

theorem scheduled_unsuppressed (forward : Forward polls) (moves : ¬ HourRecurs polls)
    (position : Nat) (cycle : CycleId) (checked : (polls position).checks = true)
    (window : (polls position).window = some cycle)
    (suppressed : started polls position ≠ some cycle) :
    exists earlier, earlier < position /\ Succeeded polls earlier cycle /\
      (polls earlier).clockHour = (polls position).clockHour := by
  have found : exists earlier, MarkedBy polls earlier position cycle := by
    by_contra none
    exact suppressed ((started_iff polls position cycle).mpr ⟨checked, window, none⟩)
  obtain ⟨earlier, marks, succeeded⟩ := markedBy_succeeded polls position cycle found
  obtain ⟨before, checked', window', succeeds, hour, steady⟩ := marks
  refine ⟨earlier, before, succeeded, ?_⟩
  by_contra other
  have low : (polls earlier).clockHour ≤ (polls position).clockHour :=
    Nat.div_le_div_right (forward earlier position (by omega))
  refine moves ⟨earlier, position, cycle, before, checked', window', succeeds, checked, window,
    by omega, ?_⟩
  intro between past below known
  by_cases last : between = position
  next => rw [last, hour]
  next => exact (steady between past (by omega) known).trans hour.symm

/-- A recurring hour suppresses the cycle, or an hour between its two polls does. -/
theorem recurs_suppresses (forward : Forward polls) (recurs : HourRecurs polls) :
    exists position cycle, (polls position).checks = true /\
      (polls position).window = some cycle /\ started polls position ≠ some cycle /\
      forall earlier, earlier < position -> Succeeded polls earlier cycle ->
        (polls earlier).clockHour ≠ (polls position).clockHour := by
  obtain ⟨first, last, cycle, before, checked, window, succeeds, checked', window', later, steady⟩ :=
    recurs
  -- the mark of `first` reaches every check of the later hour
  have reaches : forall position, first < position -> position ≤ last ->
      (polls position).checks = true -> MarkedBy polls first position cycle := by
    intro position past below known
    have hour := steady position past below known
    refine ⟨past, checked, window, succeeds, hour.symm, ?_⟩
    intro between past' below' known'
    exact (steady between past' (by omega) known').trans hour.symm
  refine ⟨last, cycle, checked', window', ?_, ?_⟩
  next =>
    intro ran
    exact ((started_iff polls last cycle).mp ran).2.2
      ⟨first, reaches last before (Nat.le_refl last) checked'⟩
  next =>
    intro earlier below succeeded same
    have past : first < earlier := by
      by_contra behind
      have low : (polls earlier).clockHour ≤ (polls first).clockHour :=
        Nat.div_le_div_right (forward earlier first (by omega))
      omega
    have known := started_window polls earlier cycle succeeded.1
    exact ((started_iff polls earlier cycle).mp succeeded.1).2.2
      ⟨first, reaches earlier past (by omega) known.1⟩

/-- While the clock goes forward, the cycles are scheduled as described exactly where no hour of day
recurs unseen. -/
theorem scheduled_iff (forward : Forward polls) : Scheduled polls <-> ¬ HourRecurs polls := by
  constructor
  next =>
    intro scheduled recurs
    obtain ⟨position, cycle, checked, window, suppressed, without⟩ :=
      recurs_suppresses polls forward recurs
    obtain ⟨earlier, before, succeeded, same⟩ :=
      scheduled.unsuppressed position cycle checked window suppressed
    exact without earlier before succeeded same
  next =>
    intro moves
    exact
      { once := scheduled_once polls forward
        retried := scheduled_retried polls
        marked := scheduled_marked polls
        unsuppressed := scheduled_unsuppressed polls forward moves }

end Runs

/-- A poll in the window of cycle 0 every 24 hours, and the activity always succeeds. -/
def daily (position : Nat) : Poll :=
  { timeoutState := .timerNone
    odmFlag := false
    now := position * 86400 + 10 * 3600 + 7 * 60
    activity := { syncTime := .success, missingInfo := .success } }

theorem daily_forward : Forward daily := by
  intro first last before
  simp only [daily]
  omega

theorem scheduled_iff_daily : Forward daily /\ (Scheduled daily <-> ¬ HourRecurs daily) :=
  ⟨daily_forward, scheduled_iff daily daily_forward⟩

theorem daily_suppressed : ¬ forall polls, Forward polls -> Scheduled polls := by
  intro every
  obtain ⟨earlier, before, succeeded, same⟩ :=
    (every daily daily_forward).unsuppressed 1 0 (by decide) (by decide) (by decide)
  obtain rfl : earlier = 0 := by omega
  revert same
  decide

end Hes.CycleSchedule
