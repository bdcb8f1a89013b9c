import Hes.CycleUpdates

set_option autoImplicit false

namespace Hes.CycleSchedule

/-- A mark is that of a poll that ran its cycle with success, at the hour that was seen last. -/
theorem done_succeeded (polls : Nat -> Poll) (position : Nat) (cycle : CycleId)
    (done : Done (hesAt polls position) cycle) :
    exists earlier, earlier < position /\ Succeeded polls earlier cycle /\
      (hesAt polls position).lastHour = some (hourOfDay (polls earlier).now) := by
  obtain ⟨hour, marks⟩ := hesAt_holds polls position
  obtain ⟨first, key, before, event, steady⟩ := (Epoch.marksAt_marked _ _ _).mp ((marks cycle).mp done)
  have last := Epoch.marksAt_key _ key first position (some cycle) before event steady
  have known : (polls first).checks = true /\ hourOfDay (polls first).now = key /\
      (polls first).succeeds = true /\ (polls first).window = some cycle := by
    unfold epochEvents epochEvent at event
    cases checks : (polls first).checks <;> cases succeeds : (polls first).succeeds <;>
      simp_all
  obtain ⟨checks, rfl, succeeds, window⟩ := known
  by_cases marked : exists earlier, MarkedBy polls earlier first cycle
  next =>
    obtain ⟨earlier, marks, ran⟩ := markedBy_succeeded polls first cycle marked
    have same : hourOfDay (polls earlier).now = hourOfDay (polls first).now := marks.2.2.2.2.1
    have front : earlier < first := marks.1
    exact ⟨earlier, by omega, ran, by rw [hour, last, same]⟩
  next =>
    exact ⟨first, before, ⟨(started_iff polls first cycle).mpr ⟨checks, window, marked⟩, succeeds⟩,
      hour.trans last⟩

end Hes.CycleSchedule

namespace Hes.CycleActivity

open Text
open CycleSchedule (HesCycleState CycleId clientHesCycleSchedule markHesCycleDone hourOfDay)

/-- A poll that times out, with all that its cycle activity would meet. -/
structure CyclePoll where
  timeoutState : TimeoutState
  odmFlag : Bool
  now : Nat
  fuel : Nat
  database : Database
  gatewayId : Bytes
  activity : Activity

def CyclePoll.reached (poll : CyclePoll) : Option (Result Code) × Activity :=
  hesStartCycleActiviy poll.fuel poll.database poll.gatewayId poll.activity

/-- The activity has the gateway, and makes every visit of its plan. -/
def CyclePoll.WhollyServed (poll : CyclePoll) : Prop :=
  poll.database.acquire.Free /\ AllServed (plan (builtNodes poll.database poll.gatewayId)) poll.reached.2.visits

/-- The state behind the poll and the cycle that it ran; none when the activity waits or throws. -/
def pollTimeoutHandler (poll : CyclePoll) (hes : HesCycleState) :
    Option (HesCycleState × Option CycleId) :=
  match poll.timeoutState with
  | .timerNone =>
    if poll.odmFlag then some (hes, none)
    else
      let (ret, scheduled) := clientHesCycleSchedule poll.now hes
      if ret = .success then
        match poll.reached.1 with
        | some (.ok code) =>
          if code = .success then some (markHesCycleDone scheduled, scheduled.currentCycleId)
          else some (scheduled, scheduled.currentCycleId)
        | _ => none
      else some (scheduled, none)
  | _ => some (hes, none)

/-- What the schedule sees of a poll: only the code that its activity returns. -/
def CyclePoll.outcome (poll : CyclePoll) : CycleSchedule.Poll where
  timeoutState := poll.timeoutState
  odmFlag := poll.odmFlag
  now := poll.now
  activity := {
    syncTime := .success
    missingInfo := match poll.reached.1 with
      | some (.ok code) => code
      | _ => .failure }

theorem outcome_code {poll : CyclePoll} {code : Code} (returned : poll.reached.1 = some (.ok code)) :
    CycleSchedule.hesStartCycleActiviy poll.outcome.activity = code := by
  simp [CycleSchedule.hesStartCycleActiviy, CyclePoll.outcome, returned]

theorem handler_refines (poll : CyclePoll) (hes : HesCycleState)
    (result : HesCycleState × Option CycleId) (ran : pollTimeoutHandler poll hes = some result) :
    CycleSchedule.pollTimeoutHandler poll.outcome hes = result := by
  have state : poll.outcome.timeoutState = poll.timeoutState := rfl
  have odm : poll.outcome.odmFlag = poll.odmFlag := rfl
  have now : poll.outcome.now = poll.now := rfl
  rw [pollTimeoutHandler] at ran
  rw [CycleSchedule.pollTimeoutHandler, state, odm, now]
  cases timer : poll.timeoutState with
  | timerNone =>
    simp only [timer] at ran ⊢
    cases flag : poll.odmFlag with
    | true => simpa [flag] using ran
    | false =>
      by_cases due : (clientHesCycleSchedule poll.now hes).1 = .success
      next =>
        cases returned : poll.reached.1 with
        | none => simp [flag, due, returned] at ran
        | some outcome =>
          cases outcome with
          | error fault => simp [flag, due, returned] at ran
          | ok code =>
            rw [outcome_code returned]
            by_cases succeeds : code = .success <;> simpa [flag, due, returned, succeeds] using ran
      next => simpa [flag, due] using ran
  | timerPgwidRx => simpa [timer] using ran
  | timerFuotaResponse => simpa [timer] using ran

section Polls

variable (polls : Nat -> CyclePoll)

/-- The state in front of a poll that is reached. -/
def hesAt : Nat -> Option HesCycleState
  | 0 => some {}
  | position + 1 => (hesAt position).bind fun hes =>
    (pollTimeoutHandler (polls position) hes).map Prod.fst

/-- A poll is reached, and runs the cycle to its end. -/
def Runs (position : Nat) (cycle : CycleId) : Prop := exists hes after,
  hesAt polls position = some hes /\ pollTimeoutHandler (polls position) hes = some (after, some cycle)

def outcomes (position : Nat) : CycleSchedule.Poll := (polls position).outcome

variable {polls}

/-- While the polls come back, the state is the one of the schedule. -/
theorem hesAt_refines {position : Nat} {hes : HesCycleState} (reached : hesAt polls position = some hes) :
    CycleSchedule.hesAt (outcomes polls) position = hes := by
  induction position generalizing hes with
  | zero => exact Option.some.inj reached
  | succ position ih =>
    obtain ⟨before, known, handled⟩ := Option.bind_eq_some_iff.mp reached
    obtain ⟨result, ran, same⟩ := Option.map_eq_some_iff.mp handled
    rw [CycleSchedule.hesAt, ih known]
    exact (congrArg Prod.fst (handler_refines (polls position) before result ran)).trans same

theorem hesAt_earlier {position earlier : Nat} {hes : HesCycleState} (before : earlier ≤ position)
    (reached : hesAt polls position = some hes) : exists known, hesAt polls earlier = some known := by
  induction position, before using Nat.le_induction generalizing hes with
  | base => exact ⟨hes, reached⟩
  | succ position _ ih =>
    obtain ⟨known, reached, _⟩ := Option.bind_eq_some_iff.mp reached
    exact ih reached

theorem runs_started {position : Nat} {cycle : CycleId} (runs : Runs polls position cycle) :
    CycleSchedule.started (outcomes polls) position = some cycle := by
  obtain ⟨hes, after, reached, ran⟩ := runs
  rw [CycleSchedule.started, hesAt_refines reached]
  exact congrArg Prod.snd (handler_refines (polls position) hes _ ran)

/-- A poll that others come behind runs the cycle that the schedule starts. -/
theorem started_runs {position : Nat} {cycle : CycleId} {hes : HesCycleState}
    (reached : hesAt polls (position + 1) = some hes)
    (started : CycleSchedule.started (outcomes polls) position = some cycle) : Runs polls position cycle := by
  obtain ⟨before, known, handled⟩ := Option.bind_eq_some_iff.mp reached
  obtain ⟨result, ran, _⟩ := Option.map_eq_some_iff.mp handled
  have same : result.2 = some cycle := by
    rw [CycleSchedule.started, hesAt_refines known] at started
    exact (congrArg Prod.snd (handler_refines (polls position) before result ran)).symm.trans started
  exact ⟨before, result.1, known, by rw [ran, ← same]⟩

/-- Where a cycle is run to its end, it succeeds exactly when its plan was wholly served. -/
theorem runs_succeeds {position : Nat} {cycle : CycleId} (runs : Runs polls position cycle) :
    (outcomes polls position).succeeds = true <-> (polls position).WhollyServed := by
  obtain ⟨hes, after, reached, ran⟩ := runs
  have returned : exists code, (polls position).reached.1 = some (.ok code) := by
    rw [pollTimeoutHandler] at ran
    split at ran
    next =>
      split at ran
      next => simp at ran
      next =>
        dsimp only at ran
        split at ran
        next =>
          split at ran
          next code known => exact ⟨code, known⟩
          next => simp at ran
        next => simp at ran
    next => simp at ran
  obtain ⟨code, returned⟩ := returned
  rw [outcomes, CycleSchedule.Poll.succeeds, decide_eq_true_iff, outcome_code returned]
  exact (hesStartCycleActiviy_returned _ _ _ _ code returned).1

theorem succeeded_served {position last : Nat} {cycle : CycleId} {hes : HesCycleState}
    (before : position < last) (reached : hesAt polls last = some hes)
    (succeeded : CycleSchedule.Succeeded (outcomes polls) position cycle) :
    Runs polls position cycle /\ (polls position).WhollyServed := by
  obtain ⟨known, behind⟩ := hesAt_earlier before reached
  have runs := started_runs behind succeeded.1
  exact ⟨runs, (runs_succeeds runs).mp succeeded.2⟩

/-- A cycle is marked done only behind a poll whose activity made every visit of its plan, in the
hour that was seen last. Behind such a poll the cycle is not run again in the clock hour, and behind
one that was broken off it is run at the next chance. -/
theorem cycle_marks_served (polls : Nat -> CyclePoll) :
    (forall position hes cycle, hesAt polls position = some hes -> CycleSchedule.Done hes cycle ->
      exists earlier, earlier < position /\ Runs polls earlier cycle /\ (polls earlier).WhollyServed /\
        hes.lastHour = some (hourOfDay (polls earlier).now)) /\
    ((forall first last, first ≤ last -> (polls first).now ≤ (polls last).now) ->
      forall first last cycle, first < last -> Runs polls first cycle -> (polls first).WhollyServed ->
        Runs polls last cycle -> (polls first).now / 3600 ≠ (polls last).now / 3600) /\
    (forall first last cycle hes result, first < last -> Runs polls first cycle ->
      ¬ (polls first).WhollyServed -> (polls first).now / 3600 = (polls last).now / 3600 ->
      (outcomes polls last).checks = true -> (outcomes polls last).window = some cycle ->
      (forall between, first < between -> between < last ->
        ¬ (Runs polls between cycle /\ (polls between).WhollyServed)) ->
      hesAt polls last = some hes -> pollTimeoutHandler (polls last) hes = some result ->
      result.2 = some cycle) := by
  refine ⟨?_, ?_, ?_⟩
  next =>
    intro position hes cycle reached done
    rw [← hesAt_refines reached] at done ⊢
    obtain ⟨earlier, before, succeeded, hour⟩ :=
      CycleSchedule.done_succeeded (outcomes polls) position cycle done
    obtain ⟨runs, served⟩ := succeeded_served before reached succeeded
    exact ⟨earlier, before, runs, served, hour⟩
  next =>
    intro forward first last cycle before runs served again same
    have succeeded : CycleSchedule.Succeeded (outcomes polls) first cycle :=
      ⟨runs_started runs, (runs_succeeds runs).mpr served⟩
    have marked := CycleSchedule.markedBy_sameHour (outcomes polls) forward first last cycle before
      succeeded same
    exact ((CycleSchedule.started_iff (outcomes polls) last cycle).mp (runs_started again)).2.2
      ⟨first, marked⟩
  next =>
    intro first last cycle hes result before runs unserved same checks window without reached ran
    have failed : (outcomes polls first).succeeds = false :=
      Bool.eq_false_iff.mpr fun succeeds => unserved ((runs_succeeds runs).mp succeeds)
    have started := CycleSchedule.scheduled_retried (outcomes polls) first last cycle before
      (runs_started runs) failed same checks window fun between past below succeeded =>
        without between past below (succeeded_served below reached succeeded)
    rw [CycleSchedule.started, hesAt_refines reached] at started
    exact (congrArg Prod.snd (handler_refines (polls last) hes result ran)).symm.trans started

end Polls

end Hes.CycleActivity
