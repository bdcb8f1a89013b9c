import Hes.Lib.Prog
import Hes.CommandFrames
import Hes.OdmProfiles

set_option autoImplicit false

namespace Hes.InitPull

open Prog CommandFrames

/-- What a transmission and the insert behind it do to the rest of the client. -/
structure Transmitter (S : Type) where
  transmit : Bytes -> S -> Code × S
  insertNamePlate : Bytes -> S -> S
  connected : S -> Bool

structure Attempt where
  record : NodeRecord
  frame : Bytes
  ret : Code
  deriving DecidableEq, Repr

/-- The copied queue, `hesNPDataQueue`, and the records a command was transmitted for. -/
structure InitState (S : Type) where
  tempQueue : List NodeRecord
  hesNPDataQueue : List NodeRecord
  attempts : List Attempt := []
  rest : S

variable {S : Type}

def transmitTo (transmitter : Transmitter S) (record : NodeRecord) (frame : Bytes) :
    Prog (InitState S) Code := fun state =>
  let (ret, rest) := transmitter.transmit (transmitted frame) state.rest
  (some ret, { state with rest := rest
                          attempts := state.attempts ++
                            [{ record := record, frame := transmitted frame, ret := ret }] })

def popBoth : Prog (InitState S) Unit :=
  update fun state =>
    { state with tempQueue := state.tempQueue.tail, hesNPDataQueue := state.hesNPDataQueue.tail }

/-- One round of the loop; a record that has no frame stays in front of both queues. -/
def initTurn (transmitter : Transmitter S) (texts : GatewayTexts) (_ : Unit) :
    Prog (InitState S) (Turn Unit Code) := do
  match <- observe fun state => state.tempQueue with
  | [] => return .done .success
  | record :: _ =>
    match frameNPCmdToPullData texts record.pathRecord record.hopCount with
    | none => return .again ()
    | some txBuffer =>
      let ret <- transmitTo transmitter record txBuffer
      if ret = .success then
        update fun state =>
          { state with rest := transmitter.insertNamePlate record.macAddress state.rest }
        popBoth
        return .again ()
      else if <- observe fun state => transmitter.connected state.rest then
        popBoth
        return .again ()
      else return .done .failure

def pullNPAtInitCon (transmitter : Transmitter S) (texts : GatewayTexts) (fuel : Nat) :
    Prog (InitState S) Code := loop (initTurn transmitter texts) fuel ()

def opened (queue : List NodeRecord) (rest : S) : InitState S :=
  { tempQueue := queue, hesNPDataQueue := queue, rest := rest }

/-- The pull ends, each record is attempted once and in order unless the gateway disconnects, and
the attempted records are the ones that left the queue. -/
def VisitsOnce (transmitter : Transmitter S) (texts : GatewayTexts) (queue : List NodeRecord)
    (rest : S) : Prop :=
  exists fuel result last,
    pullNPAtInitCon transmitter texts fuel (opened queue rest) = (some result, last) /\
      last.attempts.map Attempt.record <+: queue /\
      (result = .success -> last.attempts.map Attempt.record = queue) /\
      queue = last.attempts.map Attempt.record ++ last.hesNPDataQueue

/-- Every record is accepted by the framing, and no transmission leaves the gateway disconnected. -/
def AllAccepted (transmitter : Transmitter S) (texts : GatewayTexts) : List NodeRecord -> S -> Prop
  | [], _ => True
  | record :: records, rest =>
    record.hopCount.toNat ≤ 30 /\
      (forall frame, frameNPCmdToPullData texts record.pathRecord record.hopCount = some frame ->
        let (ret, after) := transmitter.transmit (transmitted frame) rest
        if ret = .success then
          AllAccepted transmitter texts records
            (transmitter.insertNamePlate record.macAddress after)
        else transmitter.connected after = true /\ AllAccepted transmitter texts records after)

section Turns

variable (transmitter : Transmitter S) (texts : GatewayTexts)

/-- Behind the transmission of one frame. -/
def transmittedTo (record : NodeRecord) (frame : Bytes) (state : InitState S) : InitState S :=
  let (ret, rest) := transmitter.transmit (transmitted frame) state.rest
  { state with rest := rest
               attempts := state.attempts ++
                 [{ record := record, frame := transmitted frame, ret := ret }] }

def popped (state : InitState S) : InitState S :=
  { state with tempQueue := state.tempQueue.tail, hesNPDataQueue := state.hesNPDataQueue.tail }

theorem initTurn_empty (state : InitState S) (none : state.tempQueue = []) :
    initTurn transmitter texts () state = (some (.done .success), state) := by
  have read : (observe fun state : InitState S => state.tempQueue) state = (some [], state) := by
    rw [observe, none]
  rw [initTurn, ran_bind read]
  rfl

theorem initTurn_rejected (state : InitState S) (record : NodeRecord) (records : List NodeRecord)
    (front : state.tempQueue = record :: records) (large : ¬ record.hopCount.toNat ≤ 30) :
    initTurn transmitter texts () state = (some (.again ()), state) := by
  have read : (observe fun state : InitState S => state.tempQueue) state =
      (some (record :: records), state) := by rw [observe, front]
  have rejected : frameNPCmdToPullData texts record.pathRecord record.hopCount = none := by
    rw [← Option.not_isSome_iff_eq_none, frameNP_iff]
    exact large
  rw [initTurn, ran_bind read]
  dsimp only
  rw [rejected]
  rfl

/-- Behind an attempt that the loop goes on from; none when the gateway is gone. -/
def settled (record : NodeRecord) (frame : Bytes) (state : InitState S) : Option (InitState S) :=
  let after := transmittedTo transmitter record frame state
  if (transmitter.transmit (transmitted frame) state.rest).1 = .success then
    some (popped { after with rest := transmitter.insertNamePlate record.macAddress after.rest })
  else if transmitter.connected after.rest then some (popped after)
  else none

theorem initTurn_accepted (state : InitState S) (record : NodeRecord) (records : List NodeRecord)
    (frame : Bytes) (front : state.tempQueue = record :: records)
    (built : frameNPCmdToPullData texts record.pathRecord record.hopCount = some frame) :
    initTurn transmitter texts () state =
      match settled transmitter record frame state with
      | some next => (some (.again ()), next)
      | none => (some (.done .failure), transmittedTo transmitter record frame state) := by
  have read : (observe fun state : InitState S => state.tempQueue) state =
      (some (record :: records), state) := by rw [observe, front]
  have sent : transmitTo transmitter record frame state =
      (some (transmitter.transmit (transmitted frame) state.rest).1,
        transmittedTo transmitter record frame state) := rfl
  rw [initTurn, ran_bind read]
  dsimp only
  rw [built]
  dsimp only
  rw [ran_bind sent, settled]
  split
  next => rfl
  next =>
    generalize transmittedTo transmitter record frame state = after
    have asked : (observe fun state : InitState S => transmitter.connected state.rest) after =
        (some (transmitter.connected after.rest), after) := rfl
    rw [ran_bind asked]
    cases transmitter.connected after.rest <;> rfl

theorem settled_next (record : NodeRecord) (frame : Bytes) (state next : InitState S)
    (known : settled transmitter record frame state = some next) :
    next.tempQueue = state.tempQueue.tail /\ next.hesNPDataQueue = state.hesNPDataQueue.tail /\
      next.attempts.map Attempt.record = state.attempts.map Attempt.record ++ [record] := by
  unfold settled at known
  dsimp only at known
  split at known
  next =>
    rw [← Option.some.inj known]
    simp [popped, transmittedTo]
  next =>
    split at known
    next =>
      rw [← Option.some.inj known]
      simp [popped, transmittedTo]
    next => simp at known

theorem allAccepted_cons (record : NodeRecord) (records : List NodeRecord) (frame : Bytes)
    (state : InitState S)
    (built : frameNPCmdToPullData texts record.pathRecord record.hopCount = some frame) :
    AllAccepted transmitter texts (record :: records) state.rest <->
      exists next, settled transmitter record frame state = some next /\
        AllAccepted transmitter texts records next.rest := by
  have small := (frameNP_iff texts record.pathRecord record.hopCount).mp (by simp [built])
  rw [AllAccepted]
  simp only [built, Option.some.injEq, forall_eq', small, true_and, settled]
  by_cases success : (transmitter.transmit (transmitted frame) state.rest).1 = .success
  next => simp [success, popped, transmittedTo]
  next =>
    simp only [success, if_false]
    cases still : transmitter.connected (transmittedTo transmitter record frame state).rest with
    | true =>
      have known : transmitter.connected (transmitter.transmit (transmitted frame) state.rest).2 =
          true := still
      simp [known, popped, transmittedTo]
    | false =>
      have known : transmitter.connected (transmitter.transmit (transmitted frame) state.rest).2 =
          false := still
      simp [known]

/-- Both queues hold the records that are left. -/
def Aligned (records : List NodeRecord) (state : InitState S) : Prop :=
  state.tempQueue = records /\ state.hesNPDataQueue = records

theorem pull_ends (records : List NodeRecord) (state : InitState S)
    (aligned : Aligned records state)
    (accepted : AllAccepted transmitter texts records state.rest) :
    exists last, pullNPAtInitCon transmitter texts (records.length + 1) state =
        (some .success, last) /\
      last.attempts.map Attempt.record = state.attempts.map Attempt.record ++ records /\
      last.hesNPDataQueue = [] := by
  induction records generalizing state with
  | nil =>
    refine ⟨state, ?_, by simp, aligned.2⟩
    rw [pullNPAtInitCon, loop, ran_bind (initTurn_empty transmitter texts state aligned.1)]
    rfl
  | cons record records ih =>
    obtain ⟨frame, built⟩ := Option.isSome_iff_exists.mp
      ((frameNP_iff texts record.pathRecord record.hopCount).mpr accepted.1)
    obtain ⟨next, known, onward⟩ :=
      (allAccepted_cons transmitter texts record records frame state built).mp accepted
    obtain ⟨temp, queue, attempts⟩ := settled_next transmitter record frame state next known
    have ran := initTurn_accepted transmitter texts state record records frame aligned.1 built
    rw [known] at ran
    obtain ⟨last, ended, all, left⟩ := ih next
      ⟨by rw [temp, aligned.1]; rfl, by rw [queue, aligned.2]; rfl⟩ onward
    refine ⟨last, ?_, ?_, left⟩
    next =>
      rw [pullNPAtInitCon, List.length_cons, loop, ran_bind ran]
      exact ended
    next => rw [all, attempts, List.append_assoc, List.singleton_append]

/-- A pull that ends has had every record accepted, or the last attempt stays in the queue. -/
theorem pull_ended (fuel : Nat) (records : List NodeRecord) (state last : InitState S)
    (result : Code) (aligned : Aligned records state)
    (ended : pullNPAtInitCon transmitter texts fuel state = (some result, last)) :
    AllAccepted transmitter texts records state.rest \/
      last.attempts.length + last.hesNPDataQueue.length =
        state.attempts.length + records.length + 1 := by
  induction fuel generalizing records state with
  | zero => simp [pullNPAtInitCon, loop, waiting] at ended
  | succ fuel ih =>
    rw [pullNPAtInitCon, loop] at ended
    cases records with
    | nil => exact Or.inl trivial
    | cons record records =>
      by_cases small : record.hopCount.toNat ≤ 30
      next =>
        obtain ⟨frame, built⟩ := Option.isSome_iff_exists.mp
          ((frameNP_iff texts record.pathRecord record.hopCount).mpr small)
        have ran := initTurn_accepted transmitter texts state record records frame aligned.1 built
        cases known : settled transmitter record frame state with
        | some next =>
          rw [known] at ran
          rw [ran_bind ran] at ended
          obtain ⟨temp, queue, attempts⟩ := settled_next transmitter record frame state next known
          rcases ih records next
            ⟨by rw [temp, aligned.1]; rfl, by rw [queue, aligned.2]; rfl⟩ ended with accepted | kept
          next =>
            exact Or.inl ((allAccepted_cons transmitter texts record records frame state built).mpr
              ⟨next, known, accepted⟩)
          next =>
            have count := congrArg List.length attempts
            simp only [List.length_map, List.length_append, List.length_cons, List.length_nil]
              at count
            right
            rw [kept, count, List.length_cons]
            omega
        | none =>
          rw [known] at ran
          rw [ran_bind ran] at ended
          right
          rw [← (Prod.mk.inj ended).2]
          simp only [transmittedTo, aligned.2, List.length_append, List.length_cons,
            List.length_nil]
          omega
      next =>
        rw [ran_bind (initTurn_rejected transmitter texts state record records aligned.1 small)]
          at ended
        exact ih (record :: records) state aligned ended

theorem visitsOnce_accepted (queue : List NodeRecord) (rest : S)
    (visits : VisitsOnce transmitter texts queue rest) :
    AllAccepted transmitter texts queue rest := by
  obtain ⟨fuel, result, last, ended, -, -, whole⟩ := visits
  rcases pull_ended transmitter texts fuel queue (opened queue rest) last result ⟨rfl, rfl⟩ ended
    with accepted | kept
  next => exact accepted
  next =>
    have count := congrArg List.length whole
    simp only [List.length_append, List.length_map] at count
    simp only [opened, List.length_nil] at kept
    omega

/-- The pull visits every meter once exactly where no record has more than 30 hops and the gateway
stays connected. -/
theorem visitsOnce_iff (queue : List NodeRecord) (rest : S) :
    VisitsOnce transmitter texts queue rest <-> AllAccepted transmitter texts queue rest := by
  constructor
  next => exact visitsOnce_accepted transmitter texts queue rest
  next =>
    intro accepted
    obtain ⟨last, ended, attempts, left⟩ :=
      pull_ends transmitter texts queue (opened queue rest) ⟨rfl, rfl⟩ accepted
    have all : last.attempts.map Attempt.record = queue := by simpa [opened] using attempts
    refine ⟨_, .success, last, ended, ?_, fun _ => all, ?_⟩
    next => rw [all]
    next => rw [all, left, List.append_nil]

end Turns

/-- A meter behind 31 hops in front of a meter of the gateway itself. -/
def farMeter : List NodeRecord :=
  [{ macAddress := [0x31], pathRecord := List.replicate 248 0x30, hopCount := 31 },
   { macAddress := [0x32], pathRecord := List.replicate 8 0x30, hopCount := 1 }]

def answering : Transmitter Unit where
  transmit _ _ := (.success, ())
  insertNamePlate _ _ := ()
  connected _ := true

theorem farMeter_stops :
    ¬ forall texts queue, VisitsOnce answering texts queue () := by
  intro every
  have accepted := visitsOnce_accepted answering { panId := [], sourceId := [] } farMeter ()
    (every _ _)
  have small := accepted.1
  revert small
  decide +kernel

end Hes.InitPull
