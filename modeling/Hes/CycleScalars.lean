import Hes.CycleUpdates
import Hes.StaleScalars

set_option autoImplicit false

namespace Hes.CycleActivity

open Prog Patrol Client

/-- A node without a nameplate had its turn in the loop of the nameplates. -/
def NameplateMissed (visits : List Visit) : Prop :=
  ∃ visit ∈ visits, visit.phase = .nameplate /\ visit.entry.missingInfo.isNamePlateAvailable = false

instance (visits : List Visit) : Decidable (NameplateMissed visits) :=
  inferInstanceAs (Decidable (∃ visit ∈ visits, _ /\ _))

/-- Behind the pull of a nameplate no scalar profile was got. -/
def ScalarsFailed (activity : Activity) : Prop :=
  NameplateMissed activity.visits -> ∀ code ∈ activity.scalarPulls, Fails code

/-- In front of the nameplates. -/
structure Unpulled (activity : Activity) : Prop where
  settled : Settled activity.client.control
  scalars : activity.scalarPulls = []
  visits : ¬ NameplateMissed activity.visits

/-- Between the nameplates and the scalar profiles. -/
structure NameplatesDone (activity : Activity) : Prop where
  settled : Settled activity.client.control
  scalars : activity.scalarPulls = []
  stale : NameplateMissed activity.visits -> Stale activity.client

theorem NameplatesDone.failed {activity : Activity} (done : NameplatesDone activity) :
    ScalarsFailed activity := by
  intro _
  simp [done.scalars]

theorem Unpulled.done {activity : Activity} (unpulled : Unpulled activity) : NameplatesDone activity :=
  ⟨unpulled.settled, unpulled.scalars, fun missed => absurd missed unpulled.visits⟩

theorem missed_append {visits : List Visit} {visit : Visit} : NameplateMissed (visits ++ [visit]) <->
    NameplateMissed visits \/
      (visit.phase = .nameplate /\ visit.entry.missingInfo.isNamePlateAvailable = false) := by
  simp [NameplateMissed, or_and_right, exists_or]

section Turns

variable {phase : Phase} {visit : Entry -> Prog Client (List Update)}

/-- A turn adds its visit, and does to the client what the visit does. -/
theorem visitNode_runs {entry : Entry} {pre post : Client -> Prop}
    (runs : Returns pre (visit entry) fun _ => post)
    (stable : forall client node, pre client ->
      pre { client with pull := { client.pull with node := node } })
    (visits : List Visit) (scalars : List Code) :
    Triple (fun activity => activity.visits = visits /\ activity.scalarPulls = scalars)
      (fun activity => (activity.visits = visits /\ activity.scalarPulls = scalars) /\ pre activity.client)
      (visitNode phase visit entry) fun _ activity =>
        (exists updates more, activity.visits = visits ++
          [{ phase := phase, entry := entry, updates := updates, goesOn := more }]) /\
        activity.scalarPulls = scalars /\ post activity.client := by
  have node : Returns pre (setNode fun _ => entry.node) fun _ => pre :=
    fun client known => stable client entry.node known
  apply triple_bind fun _ activity =>
    (activity.visits = visits /\ activity.scalarPulls = scalars) /\ post activity.client
  next =>
    apply triple_bind _ (onClient_returns node fun _ _ same => same)
    intro _
    apply triple_bind _ (onClient_returns runs fun _ _ same => same)
    intro updates
    exact fun _ known => known
  intro outcome
  split
  next updates visited =>
  apply triple_bind fun _ activity =>
    (activity.visits = visits /\ activity.scalarPulls = scalars) /\ post activity.client
  next =>
    intro activity known
    by_cases connected : activity.client.gateway.status = .connected <;>
      simpa [goesOn, connected] using known
  intro more
  apply triple_bind fun _ activity => (exists updates more, activity.visits = visits ++
    [{ phase := phase, entry := entry, updates := updates, goesOn := more }]) /\
      activity.scalarPulls = scalars /\ post activity.client
  next => exact fun _ known => ⟨⟨updates, more, congrArg (· ++ _) known.1.1⟩, known.1.2, known.2⟩
  exact fun _ => triple_pure _ fun _ known => known

/-- An invariant of a loop: what is known while a turn waits, and behind its visit. -/
theorem forAllNodes_keeps {inv : Activity -> Prop} {pre : Activity -> Client -> Prop}
    {post : Activity -> Entry -> Client -> Prop} (nodes : List Entry)
    (runs : forall activity entry, Returns (pre activity) (visit entry) fun _ => post activity entry)
    (stable : forall activity client node, pre activity client ->
      pre activity { client with pull := { client.pull with node := node } })
    (begins : forall activity, inv activity -> pre activity activity.client)
    (waits : forall activity after, inv activity -> after.visits = activity.visits ->
      after.scalarPulls = activity.scalarPulls -> ScalarsFailed after)
    (ends : forall activity after visit, inv activity -> visit.phase = phase ->
      after.visits = activity.visits ++ [visit] -> after.scalarPulls = activity.scalarPulls ->
      post activity visit.entry after.client -> inv after) :
    Triple ScalarsFailed inv (forAllNodes phase visit nodes) fun _ => inv := by
  have turn (entry : Entry) : Triple ScalarsFailed inv (visitNode phase visit entry) fun _ => inv := by
    intro activity known
    -- visits and scalar profiles are fixed during the turn, and the invariant is put together behind it
    have ran : Triple ScalarsFailed (fun after => (after.visits = activity.visits /\
        after.scalarPulls = activity.scalarPulls) /\ pre activity after.client)
        (visitNode phase visit entry) fun _ => inv := by
      apply ((visitNode_runs (runs activity entry) (stable activity) activity.visits
        activity.scalarPulls).waits fun after same => waits activity after known same.1 same.2).weaken
          fun _ begun => begun
      intro outcome after ended
      obtain ⟨⟨updates, more, noted⟩, scalars, done⟩ := ended
      exact ends activity after _ known rfl noted scalars done
    exact ran activity ⟨⟨rfl, rfl⟩, begins activity known⟩
  apply (triple_patrol (visitNode phase visit) (fun _ => inv) (fun _ => inv) (fun _ _ => True) nodes
    ?turn).weaken fun _ known => known
  case turn =>
    intro front entry _
    apply (turn entry).weaken fun _ known => known
    intro outcome activity known
    cases outcome with
    | some visited => exact ⟨trivial, known⟩
    | none => exact known
  intro outcome activity known
  cases outcome with
  | some visited => exact known.2
  | none =>
    obtain ⟨_, _, _, ended⟩ := known
    exact ended

theorem forAllNodes_unpulled (other : phase ≠ .nameplate) (nodes : List Entry)
    (moves : forall entry, Moves KeepsSettled (visit entry)) :
    Triple ScalarsFailed Unpulled (forAllNodes phase visit nodes) fun _ => Unpulled := by
  have runs (entry : Entry) : Returns (fun client => Settled client.control) (visit entry)
      fun _ client => Settled client.control :=
    returns_of_returned fun client updates last settled ran => moves entry client updates last ran settled
  apply forAllNodes_keeps nodes fun _ => runs
  next => exact fun _ _ _ settled => settled
  next => exact fun activity unpulled => unpulled.settled
  next =>
    intro activity after unpulled _ scalars _
    simp [scalars, unpulled.scalars]
  next =>
    intro activity after visit unpulled same visits scalars settled
    refine ⟨settled, scalars.trans unpulled.scalars, ?_⟩
    rw [visits, missed_append]
    simp [unpulled.visits, same, other]

/-- A visit without a nameplate leaves the state of the nameplate behind. -/
theorem nameplate_stale (fuel : Nat) (entry : Entry) (missed : Prop) :
    Returns (fun client => Settled client.control /\ (missed -> Stale client))
      (pullMissingProfile fuel .nameplate MissingInfo.isNamePlateAvailable entry) fun _ client =>
        Settled client.control /\
          (missed \/ entry.missingInfo.isNamePlateAvailable = false -> Stale client) := by
  unfold pullMissingProfile
  split
  next available =>
    apply triple_pure
    intro client known
    exact ⟨known.1, fun either => known.2 (either.resolve_right (by simp [available]))⟩
  next =>
    have stale {client : Client} (stale : Stale client) : Settled client.control /\
        (missed \/ entry.missingInfo.isNamePlateAvailable = false -> Stale client) :=
      ⟨stale.settled, fun _ => stale⟩
    apply triple_bind fun _ client => Settled client.control
    next => exact fun _ known => known.1
    intro start
    -- from here on the state of the nameplate stays, whether pages came or not
    apply triple_bind _ (pullProfileForANode_stale fuel rfl)
    intro outcome
    split
    next ret page =>
    split
    next => exact fun client known => stale ⟨known.settled, known.state, known.nodeless⟩
    next => exact triple_pure _ fun _ known => stale known

theorem nameplates_done (fuel : Nat) (nodes : List Entry) :
    Triple ScalarsFailed NameplatesDone (pullMissingNameplateForAllNodes fuel nodes)
      fun _ => NameplatesDone := by
  apply forAllNodes_keeps nodes fun activity entry =>
    nameplate_stale fuel entry (NameplateMissed activity.visits)
  next => exact fun _ _ _ known => ⟨known.1, fun missed => ⟨known.1, (known.2 missed).state, (known.2 missed).nodeless⟩⟩
  next => exact fun activity done => ⟨done.settled, done.stale⟩
  next =>
    intro activity after done _ scalars _
    simp [scalars, done.scalars]
  next =>
    intro activity after visit done same visits scalars known
    refine ⟨known.1, scalars.trans done.scalars, ?_⟩
    rw [visits, missed_append]
    intro missed
    exact known.2 (missed.imp_right fun own => own.2)

theorem forAllNodes_behind (other : phase ≠ .nameplate) (nodes : List Entry) :
    Triple ScalarsFailed ScalarsFailed (forAllNodes phase visit nodes) fun _ => ScalarsFailed := by
  apply forAllNodes_keeps nodes fun _ _ => returns_trivial (fun _ => True) _
  next => exact fun _ _ _ _ => trivial
  next => exact fun _ _ => trivial
  next =>
    intro activity after failed visits scalars missed
    rw [scalars]
    exact failed (visits ▸ missed)
  next =>
    intro activity after visit failed same visits scalars _ missed
    rw [scalars]
    rw [visits, missed_append] at missed
    exact failed (missed.resolve_right fun own => other (same.symm.trans own.1))

end Turns

/-- The visits so far, and scalar profiles that were all missed. -/
structure Missed (visits : List Visit) (activity : Activity) : Prop where
  visits : activity.visits = visits
  fails : ∀ code ∈ activity.scalarPulls, Fails code

theorem Missed.failed {visits : List Visit} {activity : Activity} (missed : Missed visits activity) :
    ScalarsFailed activity := fun _ => missed.fails

theorem pullScalarTurns_missed (fuel : Nat) (visits : List Visit) (meters : List MeterDetails) :
    Triple (Missed visits) (fun activity => Missed visits activity /\ Stale activity.client)
      (pullScalarTurns fuel meters) fun _ => Missed visits := by
  have turn (meter : MeterDetails) :
      Triple (Missed visits) (fun activity => Missed visits activity /\ Stale activity.client)
        (pullScalar fuel meter) fun _ activity => Missed visits activity /\ Stale activity.client := by
    apply triple_bind fun _ activity => Missed visits activity /\ Stale activity.client
    next => exact fun _ known => known
    intro texts
    split
    next =>
      apply triple_bind _ (onClient_returns (transmitRaw_fails fuel _ _ 4)
        fun _ _ missed => ⟨missed.visits, missed.fails⟩)
      intro ret
      apply triple_bind fun _ activity => Missed visits activity /\ Stale activity.client
      next =>
        intro activity known
        obtain ⟨missed, stale, fails⟩ := known
        refine ⟨⟨missed.visits, ?_⟩, stale⟩
        intro code inside
        -- the code of this transmission is the last of the list
        rcases List.mem_append.mp inside with earlier | same
        next => exact missed.fails code earlier
        next => exact List.mem_singleton.mp same ▸ fails
      intro _
      split
      next => exact triple_pure _ fun _ known => known
      next => exact triple_observe _ fun _ known => known
    next => exact triple_pure _ fun _ known => known
  induction meters with
  | nil => exact triple_pure _ fun _ known => known.1
  | cons meter rest ih =>
    apply triple_bind _ (turn meter)
    intro more
    split
    next =>
      apply triple_bind fun _ activity => Missed visits activity /\ Stale activity.client
      next => exact fun _ known => ⟨⟨known.1.visits, known.1.fails⟩, known.2⟩
      exact fun _ => ih
    next => exact triple_pure _ fun _ known => known.1

theorem pullMissingScalars_failed (fuel : Nat) (nodes : List Entry) :
    Triple ScalarsFailed NameplatesDone (pullMissingScalars fuel nodes) fun _ => ScalarsFailed := by
  intro activity done
  -- without a missed nameplate nothing is claimed of the scalar profiles
  by_cases missed : NameplateMissed activity.visits
  next =>
    have pulls : Triple (Missed activity.visits)
        (fun after => Missed activity.visits after /\ Stale after.client)
        (pullMissingScalars fuel nodes) fun _ => Missed activity.visits := by
      apply triple_bind fun _ after => Missed activity.visits after /\ Stale after.client
      next => exact fun _ known => known
      intro some
      split
      next =>
        apply triple_bind fun _ => Missed activity.visits
        next =>
          apply triple_bind fun _ after => Missed activity.visits after /\ Stale after.client
          next => exact fun _ known => known
          exact pullScalarTurns_missed fuel activity.visits
        intro ret
        split <;> exact triple_pure _ fun _ known => known
      next => exact triple_pure _ fun _ known => known.1
    have begun : Missed activity.visits activity := ⟨rfl, by simp [done.scalars]⟩
    exact ((pulls.waits fun _ known => known.failed).weaken (fun _ known => known)
      fun _ _ known => known.failed) activity ⟨begun, done.stale missed⟩
  next =>
    have kept : Triple ScalarsFailed (fun after => ¬ NameplateMissed after.visits)
        (pullMissingScalars fuel nodes) fun _ after => ¬ NameplateMissed after.visits := by
      apply Respects.invariant _ fun _ none missed => absurd missed none
      intro before none
      rwa [sameVisits_frame.scalars fuel nodes before]
    exact (kept.weaken (fun _ none => none) fun _ _ none missed => absurd missed none) activity missed

/-- Where a nameplate was missing, the activity gets no scalar profile. -/
theorem allPhases_failed (fuel : Nat) (nodes : List Entry) :
    Triple ScalarsFailed Unpulled (allPhases fuel nodes) fun _ => ScalarsFailed := by
  -- a loop that is broken off leaves the claim as one that goes on does
  have onwards {inv next : Activity -> Prop} {first : Prog Activity (Option (List Entry))}
      {rest : List Entry -> Prog Activity (Option (List Entry))}
      (before : Triple ScalarsFailed inv first fun _ => next)
      (weaker : forall activity, next activity -> ScalarsFailed activity)
      (behind : forall nodes, Triple ScalarsFailed next (rest nodes) fun _ => ScalarsFailed) :
      Triple ScalarsFailed inv (onward first rest) fun _ => ScalarsFailed :=
    triple_onward before weaker behind
  have unsilences (entry : Entry) : Moves KeepsSettled (unsilenceNode fuel entry) := by
    have frame := keepsSettled_nodes
    unfold unsilenceNode
    split
    next =>
      apply moves_bind frame.trans (frame.checksStatus fuel trivial trivial)
      intro fuotaStatus
      split
      next => exact frame.ended _
      next =>
        split
        next =>
          apply moves_bind frame.trans (frame.disables fuel trivial trivial trivial)
          intro ret
          split <;> exact frame.ended _
        next => exact frame.ended _
    next => exact frame.ended _
  have versions (entry : Entry) : Moves KeepsSettled (pullMissingInternalFirmwareVersion fuel entry) := by
    have frame := keepsSettled_nodes
    unfold pullMissingInternalFirmwareVersion
    split
    next =>
      apply moves_bind frame.trans (frame.pullsVersion fuel trivial trivial)
      intro ret
      split <;> exact frame.ended _
    next => exact frame.ended _
  have unpulled (activity : Activity) (known : Unpulled activity) : ScalarsFailed activity :=
    known.done.failed
  apply onwards (forAllNodes_unpulled (by decide) nodes unsilences) unpulled
  intro nodes
  apply onwards (forAllNodes_unpulled (by decide) nodes versions) unpulled
  intro nodes
  apply onwards ((nameplates_done fuel nodes).weaken (fun _ known => known.done) fun _ _ known => known)
    fun _ known => known.failed
  intro nodes
  apply onwards (pullMissingScalars_failed fuel nodes) fun _ known => known
  intro nodes
  apply onwards (forAllNodes_behind (by decide) nodes) fun _ known => known
  intro nodes
  apply onwards (forAllNodes_behind (by decide) nodes) fun _ known => known
  intro nodes
  apply onwards (forAllNodes_behind (by decide) nodes) fun _ known => known
  exact fun nodes => forAllNodes_behind (by decide) nodes

theorem acquiredCycle_failed (fuel : Nat) (database : Database) (gatewayId : Bytes) :
    Triple ScalarsFailed (fun activity => activity.client.control.commInitStatus = false /\
        activity.client.control.fuotaRollback = false /\ activity.visits = [] /\ activity.scalarPulls = [])
      (acquiredCycle fuel database gatewayId) fun _ => ScalarsFailed := by
  have unpulled (activity : Activity) (known : Unpulled activity) : ScalarsFailed activity :=
    known.done.failed
  apply triple_bind fun _ => Unpulled
  next =>
    intro activity known
    obtain ⟨connected, rollback, visits, scalars⟩ := known
    refine ⟨⟨connected, rfl, rollback⟩, scalars, ?_⟩
    show ¬ NameplateMissed activity.visits
    simp [NameplateMissed, visits]
  intro _
  apply triple_bind fun _ => Unpulled
  next =>
    rw [updateGatewayDetails]
    split
    next => exact triple_pure _ fun _ known => known
    next =>
      apply triple_bind fun _ => Unpulled
      next => exact fun _ known => ⟨known.settled, known.scalars, known.visits⟩
      exact fun _ => triple_pure _ fun _ known => known
  intro updated
  split
  next => exact triple_pure _ unpulled
  next =>
    split
    next => exact triple_pure _ unpulled
    next nodes _ =>
      apply triple_bind fun _ => ScalarsFailed
      next =>
        apply triple_bind _ (allPhases_failed fuel nodes)
        intro outcome
        apply triple_bind fun _ => ScalarsFailed
        next => exact fun _ known => known
        exact fun _ => triple_pure _ fun _ known => known
      intro ret
      apply triple_bind fun _ => ScalarsFailed
      next => exact fun _ known => known
      intro _
      apply triple_bind fun _ => ScalarsFailed
      next =>
        intro activity known
        obtain ⟨code, written⟩ := release_written database.release activity
        rw [written]
        exact known
      intro _
      exact triple_pure _ fun _ known => known

/-- In an activity in which a nameplate was missing, no scalar profile is got, whatever the meters
answer: the state of the nameplate is left behind without a node. -/
theorem hesStartCycleActiviy_scalars_missed (fuel : Nat) (database : Database) (gatewayId : Bytes)
    (activity : Activity) (connected : activity.client.control.commInitStatus = false)
    (rollback : activity.client.control.fuotaRollback = false) :
    let reached := (hesStartCycleActiviy fuel database gatewayId activity).2
    NameplateMissed reached.visits -> ∀ code ∈ reached.scalarPulls, code ≠ .success /\ code ≠ .enabled := by
  by_cases free : database.acquire.Free
  next =>
    rw [hesStartCycleActiviy_free free]
    exact (acquiredCycle_failed fuel database gatewayId).ends ⟨connected, rollback, rfl, rfl⟩
  next =>
    rw [hesStartCycleActiviy_taken free]
    exact fun _ _ inside => absurd inside List.not_mem_nil

def scalarReply : Bytes := meterReply 0x0A 0x01 1 [0x01, 0x00, 0x11, 0x07]

-- the same reply is taken in an activity that pulls no nameplate
theorem scalars_missed_alone :
    (∀ code ∈ (reachedAlone false [nameplateReply, scalarReply]).scalarPulls,
      code ≠ .success /\ code ≠ .enabled) /\
      (reachedAlone false [nameplateReply, scalarReply]).scalarPulls = [.failure] /\
      (reachedAlone true [scalarReply]).scalarPulls = [.success] := by
  have missed : NameplateMissed (reachedAlone false [nameplateReply, scalarReply]).visits := by
    decide +kernel
  refine ⟨?_, by decide +kernel, by decide +kernel⟩
  -- unfolded by name, since unification would run the activity
  unfold reachedAlone at missed ⊢
  exact hesStartCycleActiviy_scalars_missed 20 (gatewayAlone false) (Text.ascii "3CC1F60101020304")
    (answering [nameplateReply, scalarReply]) rfl rfl missed

end Hes.CycleActivity
