import Hes.CommandFrames
import Hes.CycleSchedule
import Hes.Lib.Patrol
import Hes.NodeCommands

set_option autoImplicit false

namespace Hes.CycleActivity

open Prog Patrol CommandFrames

/-- `MissingCycleInfo`; the node itself has the missing cycles. -/
structure MissingInfo where
  isBlpAvailable : Bool := false
  isDlpAvailable : Bool := false
  isBhpAvailable : Bool := false
  isNamePlateAvailable : Bool := false
  isSilenced : Bool := false
  verifyIfvPresence : Int := 0
  deriving DecidableEq, Repr

/-- An entry of the map of the nodes. -/
structure Entry where
  mac : Bytes
  missingInfo : MissingInfo := {}
  node : NodeInfo := {}

/-- A profile as it is passed to the database: the frames that its visit met up to then, and what
the buffer held when the visit began to fill it. -/
structure StoredProfile where
  profile : Profile
  cycle : Option Int := none
  own : List Note
  before : Contents
  contents : Contents

inductive Update where
  | unsilenced (mac : Bytes)
  | firmwareVersion (mac : Bytes)
  | stored (mac : Bytes) (stored : StoredProfile)

/-- The loops over the nodes, in their order. -/
inductive Phase where
  | unsilence
  | firmwareVersion
  | nameplate
  | instantaneous
  | dailyLoad
  | blockLoad
  | billingHistory
  deriving DecidableEq, Repr

/-- A node's turn in one of the loops, with the node in front of it and what it passed to the
database. -/
structure Visit where
  phase : Phase
  entry : Entry
  updates : List Update
  goesOn : Bool

/-- An entry of `meterDetailsQueue`. -/
structure MeterDetails where
  pathRecord : Bytes
  hopCount : UInt8
  profileId : UInt8
  deriving DecidableEq, Repr

/-- `odmFlag` is what the flag of the MQTT thread reads each time it is looked at, and
`scalarsMissing` what the check for the scalar profiles answers. `syncTimes` are the states that
were written for the network manager. -/
structure Activity where
  client : Client
  odmFlag : Nat -> Bool := fun _ => false
  looks : Nat := 0
  scalarsMissing : Bool := false
  meterDetailsQueue : List MeterDetails := []
  texts : GatewayTexts
  visits : List Visit := []
  scalarPulls : List Code := []
  syncTimes : List Nat := []

def onClient {A : Type} (prog : Prog Client A) : Prog Activity A := fun activity =>
  let (result, client) := prog activity.client
  (result, { activity with client := client })

/-- The program is run at the node of the entry, which keeps what the program makes of it. -/
def onNode {A : Type} (entry : Entry) (prog : Prog Client A) : Prog Activity (A × Entry) := do
  onClient (Client.setNode fun _ => entry.node)
  let result <- onClient prog
  let node <- observe fun activity => activity.client.pull.node
  return (result, { entry with node := node })

/-- The gateway is connected, and no on-demand command waits. -/
def goesOn : Prog Activity Bool := fun activity =>
  (some (activity.client.gateway.status = .connected && !activity.odmFlag activity.looks),
    -- the flag is read only if the gateway is still connected
    if activity.client.gateway.status = .connected then { activity with looks := activity.looks + 1 }
    else activity)

def noteVisit (visit : Visit) : Prog Activity Unit :=
  update fun activity => { activity with visits := activity.visits ++ [visit] }

/-- One turn of a loop over the nodes. -/
def visitNode (phase : Phase) (visit : Entry -> Prog Client (List Update)) (entry : Entry) :
    Prog Activity (Option Entry) := do
  let (updates, visited) <- onNode entry (visit entry)
  let more <- goesOn
  noteVisit { phase := phase, entry := entry, updates := updates, goesOn := more }
  return if more then some visited else none

def forAllNodes (phase : Phase) (visit : Entry -> Prog Client (List Update)) :
    List Entry -> Prog Activity (Option (List Entry)) := patrol (visitNode phase visit)

def unsilenceNode (fuel : Nat) (entry : Entry) : Prog Client (List Update) := do
  if entry.missingInfo.isSilenced then
    let fuotaStatus <- Client.checkFuotaStatus fuel
    if fuotaStatus = .success then return [.unsilenced entry.mac]
    else if fuotaStatus = .enabled then
      if (<- Client.fuotaDisableForANode fuel) = .success then return [.unsilenced entry.mac]
      else return []
    else return []
  else return []

def unsilenceAllNodes (fuel : Nat) := forAllNodes .unsilence (unsilenceNode fuel)

def pullMissingInternalFirmwareVersion (fuel : Nat) (entry : Entry) : Prog Client (List Update) := do
  if entry.missingInfo.verifyIfvPresence = 0 then
    if (<- Client.pullInternalFirmwareVersionForANode fuel) = .success then
      return [.firmwareVersion entry.mac]
    else return []
  else return []

def pullMissingInternalFirmwareVersionForAllNodes (fuel : Nat) :=
  forAllNodes .firmwareVersion (pullMissingInternalFirmwareVersion fuel)

/-- A profile that is not available is pulled, stored and cleared. -/
def pullMissingProfile (fuel : Nat) (profile : Profile) (available : MissingInfo -> Bool)
    (entry : Entry) : Prog Client (List Update) := do
  if available entry.missingInfo then return []
  else
    let start <- observe fun client => client.pull
    let (ret, _) <- Client.pullProfileForANode fuel profile
    if ret = .success then
      let pull <- observe fun client => client.pull
      Client.setNode fun node => { node with profileData := profile.clear node.profileData }
      return [.stored entry.mac {
        profile := profile, own := pull.notes.drop start.notes.length, before := profile.empty
        contents := profile.contents pull.node.profileData }]
    else return []

def pullMissingNameplateForAllNodes (fuel : Nat) :=
  forAllNodes .nameplate (pullMissingProfile fuel .nameplate MissingInfo.isNamePlateAvailable)

def pullMissingDailyLoadForAllNodes (fuel : Nat) :=
  forAllNodes .dailyLoad (pullMissingProfile fuel .dailyLoad MissingInfo.isDlpAvailable)

def pullMissingBlockLoadForAllNodes (fuel : Nat) :=
  forAllNodes .blockLoad (pullMissingProfile fuel .blockLoad MissingInfo.isBlpAvailable)

def pullMissingBillingHistoryForAllNodes (fuel : Nat) :=
  forAllNodes .billingHistory (pullMissingProfile fuel .billingHistory MissingInfo.isBhpAvailable)

/-- An insert of a cycle, seen from the node that was visited from `start` on. -/
def cycleUpdate (mac : Bytes) (start : PullState) (insert : CycleInsert) : Update :=
  .stored mac {
    profile := .instantaneous, cycle := some insert.cycle
    own := (insert.earlier ++ insert.own).drop start.notes.length
    before := Profile.contents .instantaneous start.node.profileData
    contents := .records insert.profile }

def pullMissingIpProfile (fuel : Nat) (_ : Entry) : Prog Client (List Update) := do
  let start <- observe fun client => client.pull
  Client.pullMissingIpProfileForNode fuel
  let pull <- observe fun client => client.pull
  return (pull.inserts.drop start.inserts.length).map
    (cycleUpdate pull.node.nodeMacAddress start)

def pullMissingIpProfileForAllNodes (fuel : Nat) :=
  forAllNodes .instantaneous (pullMissingIpProfile fuel)

def noteScalar (code : Code) : Prog Activity Unit :=
  update fun activity => { activity with scalarPulls := activity.scalarPulls ++ [code] }

def popMeter : Prog Activity Unit :=
  update fun activity => { activity with meterDetailsQueue := activity.meterDetailsQueue.tail }

/-- A meter's turn in the pull of the scalar profiles; false when the gateway is gone. -/
def pullScalar (fuel : Nat) (meter : MeterDetails) : Prog Activity Bool := do
  let texts <- observe fun activity => activity.texts
  match frameScalarProfileCmdToPull texts meter.pathRecord meter.hopCount meter.profileId with
  | some buffer =>
    let ret <- onClient (Client.transmitRaw fuel buffer ((byteAt buffer 1).toNat + 1) 4)
    noteScalar ret
    if ret = .success then return true
    else observe fun activity => activity.client.gateway.status = .connected
  | none => return true

/-- The loop over a copy of the queue. -/
def pullScalarTurns (fuel : Nat) : List MeterDetails -> Prog Activity Code
  | [] => pure .success
  | meter :: rest => do
    if <- pullScalar fuel meter then
      popMeter
      pullScalarTurns fuel rest
    else return .failure

def pullScalarProfile (fuel : Nat) : Prog Activity Code := do
  let tempQueue2 <- observe fun activity => activity.meterDetailsQueue
  pullScalarTurns fuel tempQueue2

/-- The scalar profiles between the loops over the nodes. -/
def pullMissingScalars (fuel : Nat) (nodes : List Entry) : Prog Activity (Option (List Entry)) := do
  if <- observe fun activity => activity.scalarsMissing then
    if (<- pullScalarProfile fuel) = .failure then return none else return some nodes
  else return some nodes

/-- What goes on only behind a loop that was not broken off. -/
def onward (first : Prog Activity (Option (List Entry)))
    (next : List Entry -> Prog Activity (Option (List Entry))) : Prog Activity (Option (List Entry)) := do
  match <- first with
  | some nodes => next nodes
  | none => return none

def allPhases (fuel : Nat) (nodes : List Entry) : Prog Activity (Option (List Entry)) :=
  onward (unsilenceAllNodes fuel nodes) fun nodes =>
  onward (pullMissingInternalFirmwareVersionForAllNodes fuel nodes) fun nodes =>
  onward (pullMissingNameplateForAllNodes fuel nodes) fun nodes =>
  onward (pullMissingScalars fuel nodes) fun nodes =>
  onward (pullMissingIpProfileForAllNodes fuel nodes) fun nodes =>
  onward (pullMissingDailyLoadForAllNodes fuel nodes) fun nodes =>
  onward (pullMissingBlockLoadForAllNodes fuel nodes) fun nodes =>
  pullMissingBillingHistoryForAllNodes fuel nodes

def pullMissingInfoForAllNodes (fuel : Nat) (nodes : List Entry) : Prog Activity Code := do
  let outcome <- allPhases fuel nodes
  onClient (Client.setState .idle)
  return if outcome.isSome then .success else .failure

end Hes.CycleActivity
