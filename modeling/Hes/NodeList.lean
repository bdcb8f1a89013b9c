import Hes.CycleActivity
import Hes.Lib.SortedList
import Hes.MissingCycles
import Hes.NodeQueues
import Hes.OdmFrames
import Hes.Routes

set_option autoImplicit false

namespace Hes.CycleActivity

open Prog Text Mqtt NodeQueues

/-- A row of `source_route_network`; a cell is absent when the column is NULL. -/
structure RouteRow where
  targetMacAddress : Option Bytes
  hopCount : Option Bytes
  path : Option Bytes
  deriving DecidableEq, Repr

structure AlternateRow where
  hopCount : Bytes
  path : Bytes
  deriving DecidableEq, Repr

/-- What the database answers to the state of the synchronisation: what the network manager has in
the one row of the gateway, and whether the write behind it succeeds. -/
structure SyncAnswer where
  acquiredByNms : Answer (Option Int)
  write : Code
  deriving DecidableEq, Repr

/-- What the database says about a node at the time `now` when it is asked. -/
structure NodeAnswers where
  now : Int
  storedCycles : Nat -> Bool
  alternateRoutes : Answer (List AlternateRow)
  blockLoad : Answer Bool
  dailyLoad : Answer Bool
  billingHistory : Answer Bool
  nameplate : Answer Bool
  silenced : Answer Bool
  -- whether there is a row of the meter, and whether its version is NULL
  firmwareVersion : Answer (Option Bool)

structure Database where
  acquire : SyncAnswer
  release : SyncAnswer
  zone : MissingCycles.Zone
  sourceRoutes : Answer (List RouteRow)
  node : Bytes -> NodeAnswers

/-- A text that is too short is read behind its end, or the conversion throws. -/
def macFromHex (hex : Bytes) : Result Bytes :=
  if hex.length < 15 then .error .invalidArgument else hexPairs (slice hex 0 16)

/-- The path of a row. A negative number of hops fits no path. -/
def pathOfRow (hopCount : Int) (hexPath : Bytes) : Result (Option PathInfo) :=
  if hopCount < 0 then .ok none
  else (Routes.extractPath hexPath hopCount.toNat).map fun decoded =>
    decoded.map fun decoded => { hopCount := hopCount, path := decoded.route }

def begunEntry (mac : Bytes) : Entry := { mac := mac }

/-- `nodes_info[mac]`, with a change of the node. -/
def putNode (mac : Bytes) (change : NodeInfo -> NodeInfo) : List Entry -> List Entry :=
  SortedList.put Entry.mac begunEntry mac fun entry => { entry with node := change entry.node }

def addGatewayNodeToMapList (gatewayId : Bytes) : Result (List Entry) := do
  let mac <- macFromHex gatewayId
  let path <- hexPairs (slice gatewayId 8 8)
  return putNode mac (fun _ => { nodeMacAddress := mac, primaryPath := { path := path } }) []

def addRoute (nodes : List Entry) (row : RouteRow) : Result (List Entry) :=
  match row.targetMacAddress, row.hopCount, row.path with
  | some macHex, some hopCount, some path => do
    let mac <- macFromHex macHex
    match <- pathOfRow (atoi hopCount) path with
    | some primaryPath => return putNode mac (fun node =>
        { node with nodeMacAddress := mac, primaryPath := primaryPath }) nodes
    | none => return nodes
  | _, _, _ => return nodes

def addRoutes (nodes : List Entry) : List RouteRow -> Result (List Entry)
  | [] => return nodes
  | row :: rest => do addRoutes (<- addRoute nodes row) rest

def getNodesInfoFromSrcRouteNetworkDb (database : Database) (nodes : List Entry) :
    Result (List Entry) :=
  match database.sourceRoutes with
  | .rows rows => addRoutes nodes rows
  | _ => return nodes

def alternatePathsOf : List AlternateRow -> Result (List PathInfo)
  | [] => return []
  | row :: rest => do
    let path <- pathOfRow (atoi row.hopCount) row.path
    return path.toList ++ (<- alternatePathsOf rest)

def getAlternatePathForNode (database : Database) (node : NodeInfo) : Result NodeInfo :=
  match (database.node node.nodeMacAddress).alternateRoutes with
  -- the query has a limit of one row
  | .rows rows => do return { node with alternatePaths := (<- alternatePathsOf (rows.take 1)) }
  | _ => return node

/-- The gateway has no alternate path. -/
def routeEntry (database : Database) (gatewayMac : Bytes) (entry : Entry) : Result Entry :=
  if entry.mac = gatewayMac then .ok entry
  else (getAlternatePathForNode database entry.node).map fun node => { entry with node := node }

def getAlternatePathForAllNodes (database : Database) (gatewayMac : Bytes) :
    List Entry -> Result (List Entry)
  | [] => return []
  | entry :: rest => do
    let routed <- routeEntry database gatewayMac entry
    return routed :: (<- getAlternatePathForAllNodes database gatewayMac rest)

/-- Nothing is available when the query fails. -/
def available : Answer Bool -> Bool
  | .rows found => found
  | _ => false

def isIfvAvailableForNode : Answer (Option Bool) -> Int
  | .rows none => 2
  | .rows (some present) => if present then 1 else 0
  | _ => -1

def getMissingInfo (database : Database) (entry : Entry) : Entry :=
  let answers := database.node entry.node.nodeMacAddress
  let cycles := MissingCycles.getLastHourMissingIpCyclesForNode database.zone answers.storedCycles
    answers.now
  { entry with
    node := { entry.node with missingIpCycles := cycles }
    missingInfo := {
      isBlpAvailable := available answers.blockLoad
      isDlpAvailable := available answers.dailyLoad
      isBhpAvailable := available answers.billingHistory
      isNamePlateAvailable := available answers.nameplate
      isSilenced := available answers.silenced
      verifyIfvPresence := isIfvAvailableForNode answers.firmwareVersion } }

def getMissingInfoForAllNodes (database : Database) (nodes : List Entry) : List Entry :=
  nodes.map (getMissingInfo database)

def buildNodeListFromDb (database : Database) (gatewayId : Bytes) : Result (List Entry) := do
  let nodes <- addGatewayNodeToMapList gatewayId
  let nodes <- getNodesInfoFromSrcRouteNetworkDb database nodes
  let nodes <- getAlternatePathForAllNodes database (<- macFromHex gatewayId) nodes
  return getMissingInfoForAllNodes database nodes

def setTarget (target : TargetState) : Prog Client Unit :=
  update fun client => { client with control := { client.control with targetState := target } }

def noteSyncTime (status : Nat) : Prog Activity Unit :=
  update fun activity => { activity with syncTimes := activity.syncTimes ++ [status] }

/-- The gateway is not acquired while the network manager has it. -/
def insertUpdateHesNmsSyncTime (answer : SyncAnswer) (status : Nat) : Prog Activity Code := do
  match answer.acquiredByNms with
  | .rows row =>
    if status ≠ 0 && row = some 1 then return .failure
    else if answer.write = .success then
      noteSyncTime status
      return .success
    else return answer.write
  | _ => return .failure

/-- What is noted of an activity is noted from here on. -/
def Activity.begun (activity : Activity) : Activity := { activity with visits := [], scalarPulls := [] }

def updateGatewayDetails (gatewayId : Bytes) : Prog Activity (Result Unit) :=
  match macFromHex gatewayId with
  | .error fault => return .error fault
  | .ok serialNumber => do
    onClient (Client.setPull fun pull => { pull with serialNumber := serialNumber })
    return .ok ()

/-- A fault leaves the function where it is thrown. -/
def hesStartCycleActiviy (fuel : Nat) (database : Database) (gatewayId : Bytes) :
    Prog Activity (Result Code) := do
  update Activity.begun
  if (<- insertUpdateHesNmsSyncTime database.acquire 1) ≠ .success then return .ok .failure
  else
    onClient (setTarget .pull)
    match <- updateGatewayDetails gatewayId with
    | .error fault => return .error fault
    | .ok _ =>
      match buildNodeListFromDb database gatewayId with
      | .error fault => return .error fault
      | .ok nodes =>
        let ret <- pullMissingInfoForAllNodes fuel nodes
        onClient (setTarget .idle)
        let _ <- insertUpdateHesNmsSyncTime database.release 0
        return .ok ret

theorem macFromHex_length {hex mac : Bytes} (read : macFromHex hex = .ok mac) : mac.length = 8 := by
  rw [macFromHex] at read
  split at read
  next => cases read
  next => simpa using OdmFrames.OdmCommand.hexPairs_length _ _ read

theorem ok_map {A B : Type} {result : Result A} {change : A -> B} {value : B}
    (known : result.map change = .ok value) : exists before, result = .ok before /\ change before = value := by
  cases result with
  | error fault => cases known
  | ok before => exact ⟨before, rfl, Except.ok.inj known⟩

/-- Every other chunk of eight letters is taken. -/
theorem extractChunks_length {hexPath : Bytes} {expectedLen fuel pos chunks : Nat} {take : Bool}
    {decoded : Routes.Decoded} (left : pos + 8 * chunks = expectedLen) (enough : chunks ≤ fuel)
    (read : Routes.extractChunks hexPath expectedLen fuel pos take = .ok decoded) :
    decoded.route.length = 4 * ((chunks + take.toNat) / 2) := by
  induction fuel generalizing pos chunks take decoded with
  | zero =>
    obtain rfl : chunks = 0 := by omega
    cases read
    cases take <;> simp
  | succ fuel ih =>
    rw [Routes.extractChunks] at read
    cases chunks with
    | zero =>
      rw [if_neg (by simp only [Routes.kChunkHexLen]; omega)] at read
      cases read
      cases take <;> simp
    | succ chunks =>
      rw [if_pos (by simp only [Routes.kChunkHexLen]; omega)] at read
      cases take with
      | true =>
        obtain ⟨own, first, read⟩ := (ok_bind _ _ _).mp read
        obtain ⟨later, behind, read⟩ := (ok_bind _ _ _).mp read
        have four := OdmFrames.OdmCommand.hexPairs_length _ _ first
        have length : later.route.length = 4 * ((chunks + false.toNat) / 2) :=
          ih (by simp only [Routes.kChunkHexLen]; omega) (by omega) behind
        cases read
        simp only [slice_length, Routes.kChunkHexLen] at four
        simp only [Routes.Decoded.append, List.length_append, length, four,
          Bool.toNat_true, Bool.toNat_false]
        omega
      | false =>
        obtain ⟨own, first, read⟩ := (ok_bind _ _ _).mp read
        obtain ⟨later, behind, read⟩ := (ok_bind _ _ _).mp read
        have length : later.route.length = 4 * ((chunks + true.toNat) / 2) :=
          ih (by simp only [Routes.kChunkHexLen]; omega) (by omega) behind
        cases first
        cases read
        simp only [Routes.Decoded.append, List.length_append, length, List.length_nil,
          Bool.toNat_true, Bool.toNat_false]
        omega

/-- Four bytes of address for each hop. -/
def Sized (path : PathInfo) : Prop := 0 ≤ path.hopCount /\ path.path.length = 4 * path.hopCount.toNat

theorem pathOfRow_sized {hopCount : Int} {hexPath : Bytes} {path : PathInfo}
    (read : pathOfRow hopCount hexPath = .ok (some path)) : Sized path := by
  rw [pathOfRow] at read
  split at read
  next => cases read
  next known =>
    obtain ⟨found, extracted, built⟩ := ok_map read
    cases found with
    | none => cases built
    | some decoded =>
      cases built
      rw [Routes.extractPath] at extracted
      split at extracted
      next => cases extracted
      next =>
        obtain ⟨route, chunks, same⟩ := ok_map extracted
        obtain rfl := Option.some.inj same
        have length : route.route.length = 4 * ((2 * hopCount.toNat + false.toNat) / 2) :=
          extractChunks_length (by omega) (by omega) chunks
        rw [Bool.toNat_false] at length
        constructor
        next => exact Int.not_lt.mp known
        next =>
          rw [length]
          simp only
          omega

end Hes.CycleActivity
