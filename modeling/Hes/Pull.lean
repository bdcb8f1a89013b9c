import Hes.Transmit

set_option autoImplicit false

namespace Hes

open Prog

/-- The profiles that are pulled page by page. -/
inductive Profile where
  | nameplate
  | instantaneous
  | billingHistory
  | dailyLoad
  | blockLoad
  deriving DecidableEq, Repr

def Profile.state : Profile -> CurrentState
  | .nameplate => .nameplate
  | .instantaneous => .instantaneousProfile
  | .billingHistory => .billingHistory
  | .dailyLoad => .dailyLoad
  | .blockLoad => .blockLoad

def Profile.clear : Profile -> NodeProfileData -> NodeProfileData
  | .nameplate, data => { data with namePlateProfile := { profileData := fun _ => none } }
  | .instantaneous, data => { data with instantaneousProfile := { profileData := fun _ => none } }
  | .billingHistory, data => { data with billingHistory := { profileData := fun _ => none } }
  | .dailyLoad, data => { data with dailyLoadProfile := { profileData := fun _ => none } }
  | .blockLoad, data => { data with blockLoadProfile := { profileData := {} } }

def withChecksum (packet : Bytes) : Bytes := packet ++ [packet.foldl (fun sum byte => sum + byte) 0]

def bigEndian32 (value : Nat) : Bytes :=
  [UInt8.ofNat (value / 2 ^ 24), UInt8.ofNat (value / 2 ^ 16), UInt8.ofNat (value / 2 ^ 8),
    UInt8.ofNat value]

def frameDlmsNameplateCommandPacket (pageIndex : UInt8) : Bytes :=
  withChecksum [0x2B, 0x07, pageIndex, 0x0E, 0x00, 0x00, 0x00]

def frameDlmsIpCommandPacket (currentIpCycle : Int) (pageIndex : UInt8) : Bytes :=
  withChecksum [0x2B, 0x07, pageIndex, 0x0C, 0x01, 0x00, UInt8.ofInt currentIpCycle]

-- only the first page names the range, and the length is what stands in front of the checksum
def frameDlmsLoadCommandPacket (command : UInt8) (range : Nat × Nat) (pageIndex : UInt8) : Bytes :=
  let times := if pageIndex = 0 then
    [0x53] ++ bigEndian32 range.1 ++ [0x45] ++ bigEndian32 range.2 else []
  withChecksum ([0x2B, UInt8.ofNat (7 + times.length), pageIndex, 0x0E, command, 0x00, 0x00] ++ times)

def frameDlmsDlpCommandPacket := frameDlmsLoadCommandPacket 0x03

def frameDlmsBlpCommandPacket := frameDlmsLoadCommandPacket 0x04

def frameDlmsBhpCommandPacket (pageIndex : UInt8) : Bytes :=
  withChecksum [0x2B, 0x0C, pageIndex, 0x0E, 0x02, 0x00, 0x00, 0x49, 0x00, 0x06, 0x43, 0x01]

def Profile.frameFn (profile : Profile) (pageIndex : UInt8) (client : Client) : Bytes :=
  match profile with
  | .nameplate => frameDlmsNameplateCommandPacket pageIndex
  | .instantaneous => frameDlmsIpCommandPacket client.control.currentIpCycle pageIndex
  | .billingHistory => frameDlmsBhpCommandPacket pageIndex
  | .dailyLoad => frameDlmsDlpCommandPacket (client.inputs.loadRange client.counters.sent) pageIndex
  | .blockLoad => frameDlmsBlpCommandPacket (client.inputs.loadRange client.counters.sent) pageIndex

/-- A path of the node by reference: a promotion changes what it refers to. -/
inductive PathRef where
  | primary
  | alternate (index : Nat)
  deriving DecidableEq, Repr

-- a promotion moves the alternate paths to a new vector, and a reference into the old one is
-- undefined; it is read at its index here
def PathRef.read (node : NodeInfo) : PathRef -> PathInfo
  | .primary => node.primaryPath
  | .alternate index => node.alternatePaths.getD index {}

/-- The PAN id of a gateway: two zeros and the last two bytes of its serial number. -/
def panid (serialNumber : Bytes) : Bytes := [0x00, 0x00] ++ slice serialNumber 6 2

def framePmeshCommandPacket (serialNumber : Bytes) (packetType : UInt8) (path : PathInfo)
    (cmd : Bytes) : Bytes :=
  let packet := [0x2E, 0x00, packetType] ++ panid serialNumber ++ slice serialNumber 4 4 ++
    [0x00, UInt8.ofInt path.hopCount] ++ path.path ++ cmd
  packet.set 1 (UInt8.ofNat (packet.length - 1))

namespace Client

def transmitCommandOnPathPmesh (fuel : Nat) (packetType : UInt8) (cmd : Bytes) (path : PathRef)
    (timeoutRetries : Nat) : Prog Client Code := do
  let packet <- observe fun client =>
    framePmeshCommandPacket client.pull.serialNumber packetType (path.read client.pull.node) cmd
  transmitVector fuel packet timeoutRetries

def dlmsConnect : Bytes := [0x2B, 0x07, 0x00, 0x00, 0x00, 0x02, 0x01, 0x35]

def setState (state : CurrentState) : Prog Client Unit :=
  setControl fun control => { control with currentState := state }

def attemptDlmsReconnect (fuel : Nat) (path : PathRef) : Prog Client Code := do
  let oldState <- observe fun client => client.control.currentState
  setState .dlmsConnect
  let ret <- transmitCommandOnPathPmesh fuel 0x07 dlmsConnect path 3
  setState oldState
  if ret = .dlmsSuccess || ret = .success then return .success
  else if ret = .dlmsConnectionFailed then return .dlmsConnectionFailed
  else return .failure

def setNode (change : NodeInfo -> NodeInfo) : Prog Client Unit :=
  setPull fun pull => { pull with node := change pull.node }

/-- The alternate path that was connected is the primary path from now on. -/
def promoteReconnected (index : Nat) (node : NodeInfo) : NodeInfo :=
  let alt := node.alternatePaths.getD index {}
  { node with primaryPath := alt
              alternatePaths := node.primaryPath :: node.alternatePaths.filter (fun x => x ≠ alt) }

def reconnectAlternates (fuel : Nat) : List Nat -> Prog Client Code
  | [] => pure .failure
  | index :: rest => do
    let retVal <- attemptDlmsReconnect fuel (.alternate index)
    if retVal = .success then
      setNode (promoteReconnected index)
      return .success
    else if retVal = .dlmsConnectionFailed then return .dlmsConnectionFailed
    else reconnectAlternates fuel rest

/-- The indices of the alternate paths, none when the gateway is gone. -/
def alternatesIfConnected : Prog Client (List Nat) :=
  observe fun client =>
    if client.gateway.status = .connected then
      List.range client.pull.node.alternatePaths.length
    else []

def attemptDlmsReconnectAllPaths (fuel : Nat) (failedPath : PathRef) : Prog Client Code := do
  let ret <- attemptDlmsReconnect fuel failedPath
  if ret = .success then return .success
  else if ret = .dlmsConnectionFailed then return .dlmsConnectionFailed
  else
    let alternates <- alternatesIfConnected
    reconnectAlternates fuel alternates

def askPage (page : UInt8) : Prog Client Unit := setPull fun pull => { pull with asked := page }

/-- The result and the page index, which the caller passes by reference; `turns` is what is left
of `exit_loop_counter`. -/
def pullProfilePagesOnPath (fuel : Nat) (profile : Profile) (path : PathRef) :
    Nat -> UInt8 -> Prog Client (Code × UInt8)
  | 0, page => pure (.failure, page)
  | turns + 1, page => do
    askPage page
    let dlmsCmd <- observe (profile.frameFn page)
    match <- transmitCommandOnPathPmesh fuel 0x07 dlmsCmd path 3 with
    | .nextPagePresent =>
      -- the page index of the reply is not looked at
      if page + 1 ≥ 16 then return (.failure, page + 1)
      else pullProfilePagesOnPath fuel profile path turns (page + 1)
    | .success => return (.success, page)
    | .dlmsConnectionFailed =>
      if (<- attemptDlmsReconnectAllPaths fuel path) = .success then
        pullProfilePagesOnPath fuel profile path turns page
      else return (.dlmsConnectionFailed, page)
    | .dlmsError => return (.dlmsError, page)
    | _ => return (.failure, page)

def promotePulled (index : Nat) (node : NodeInfo) : NodeInfo :=
  { node with primaryPath := node.alternatePaths.getD index {}
              alternatePaths := node.alternatePaths.eraseIdx index ++ [node.primaryPath] }

def tryAlternates (fuel : Nat) (profile : Profile) :
    List Nat -> UInt8 -> Prog Client (Code × UInt8)
  | [], page => pure (.failure, page)
  | index :: rest, page => do
    let (ret, next) <- pullProfilePagesOnPath fuel profile (.alternate index) 16 page
    match ret with
    | .success =>
      setNode (promotePulled index)
      return (.success, next)
    | .dlmsError | .dlmsConnectionFailed => return (.failure, next)
    | _ => tryAlternates fuel profile rest next

def tryPathsForProfilePull (fuel : Nat) (profile : Profile) (page : UInt8) :
    Prog Client (Code × UInt8) := do
  let (ret, next) <- pullProfilePagesOnPath fuel profile .primary 16 page
  match ret with
  | .success => return (.success, next)
  | .dlmsError | .dlmsConnectionFailed => return (.failure, next)
  | _ =>
    let alternates <- alternatesIfConnected
    tryAlternates fuel profile alternates next

def setCurrentNode (known : Bool) : Prog Client Unit :=
  setPull fun pull => { pull with currentNode := known }

/-- The four `pull_*_for_a_node` that clear the buffer of the profile before its first page. -/
def pullProfileForANode (fuel : Nat) (profile : Profile) : Prog Client (Code × UInt8) := do
  setState profile.state
  setCurrentNode true
  setNode fun node => { node with profileData := profile.clear node.profileData }
  let outcome <- tryPathsForProfilePull fuel profile 0
  setCurrentNode false
  return outcome

def pullNameplateForANode (fuel : Nat) := pullProfileForANode fuel .nameplate

def pullDailyLoadProfileForANode (fuel : Nat) := pullProfileForANode fuel .dailyLoad

def pullBlockLoadProfileForANode (fuel : Nat) := pullProfileForANode fuel .blockLoad

def pullBillingHistoryProfileForANode (fuel : Nat) := pullProfileForANode fuel .billingHistory

def setIpCycle (cycle : Int) : Prog Client Unit :=
  setControl fun control => { control with currentIpCycle := cycle }

-- the buffer keeps what the cycle before has left in it
def pullInstantaneousProfileForCycle (fuel : Nat) (cycle : Int) : Prog Client Code := do
  setState .instantaneousProfile
  setCurrentNode true
  setIpCycle cycle
  let (ret, _) <- tryPathsForProfilePull fuel .instantaneous 0
  setIpCycle (-1)
  setCurrentNode false
  return ret

/-- `insert_instantaneous_parameters_profile_data` is given the buffer as it stands. -/
def insertInstantaneous (cycle : Int) (start : PullState) : Prog Client Unit :=
  setPull fun pull => { pull with inserts := pull.inserts ++
    [{ cycle := cycle, earlier := start.notes, own := pull.notes.drop start.notes.length
       before := start.node.profileData.instantaneousProfile.profileData
       profile := pull.node.profileData.instantaneousProfile.profileData }] }

/-- The first missing cycle is pulled until none is left or one fails. -/
def pullMissingCycles (fuel : Nat) : Nat -> Prog Client Code
  | 0 => pure .success
  | left + 1 => do
    let start <- observe fun client => client.pull
    match start.node.missingIpCycles with
    | [] => return .success
    | cycle :: rest =>
      if (<- pullInstantaneousProfileForCycle fuel cycle) = .success then
        insertInstantaneous cycle start
        setNode fun node => { node with missingIpCycles := rest }
        pullMissingCycles fuel left
      else return .failure

def pullMissingInstantaneousForANode (fuel : Nat) : Prog Client Code := do
  let missing <- observe fun client => client.pull.node.missingIpCycles
  if missing = [] then return .success
  else
    -- at most four cycles, and the others are forgotten
    if missing.length > 4 then
      setNode fun node => { node with missingIpCycles := node.missingIpCycles.take 4 }
    pullMissingCycles fuel 4

/-- The caller: the buffer is cleared behind a node whose cycles were all pulled. -/
def pullMissingIpProfileForNode (fuel : Nat) : Prog Client Unit := do
  let missing <- observe fun client => client.pull.node.missingIpCycles
  if missing ≠ [] then
    if (<- pullMissingInstantaneousForANode fuel) = .success then
      setNode fun node => { node with profileData := Profile.clear .instantaneous node.profileData }

section Frames

variable {rel : Client -> Client -> Prop}

theorem setPull_respects (frame : ReceiveFrame rel) (change : PullState -> PullState)
    (same : forall pull, (change pull).inserts = pull.inserts) : Respects rel (setPull change) :=
  fun client => frame.pull client _ (same client.pull)

theorem setNode_respects (frame : ReceiveFrame rel) (change : NodeInfo -> NodeInfo) :
    Respects rel (setNode change) := setPull_respects frame _ fun _ => rfl

theorem attemptDlmsReconnect_respects (frame : ReceiveFrame rel) (fuel : Nat) (path : PathRef) :
    Respects rel (attemptDlmsReconnect fuel path) := by
  refine respects_bind frame.trans (respects_observe frame.refl _) fun oldState => ?_
  refine respects_bind frame.trans (setControl_respects frame.toFrame _) fun _ => ?_
  refine respects_bind frame.trans (respects_bind frame.trans (respects_observe frame.refl _)
    fun packet => transmitVector_respects frame fuel packet 3) fun ret => ?_
  refine respects_bind frame.trans (setControl_respects frame.toFrame _) fun _ => ?_
  split
  next => exact respects_pure frame.refl _
  next => split <;> exact respects_pure frame.refl _

theorem reconnectAlternates_respects (frame : ReceiveFrame rel) (fuel : Nat)
    (alternates : List Nat) : Respects rel (reconnectAlternates fuel alternates) := by
  induction alternates with
  | nil => exact respects_pure frame.refl _
  | cons index rest ih =>
    rw [reconnectAlternates]
    refine respects_bind frame.trans (attemptDlmsReconnect_respects frame fuel _) fun retVal => ?_
    split
    next =>
      exact respects_bind frame.trans (setNode_respects frame _)
        fun _ => respects_pure frame.refl _
    next =>
      split
      next => exact respects_pure frame.refl _
      next => exact ih

theorem attemptDlmsReconnectAllPaths_respects (frame : ReceiveFrame rel) (fuel : Nat)
    (failedPath : PathRef) : Respects rel (attemptDlmsReconnectAllPaths fuel failedPath) := by
  unfold attemptDlmsReconnectAllPaths
  refine respects_bind frame.trans (attemptDlmsReconnect_respects frame fuel _) fun ret => ?_
  split
  next => exact respects_pure frame.refl _
  next =>
    split
    next => exact respects_pure frame.refl _
    next =>
      exact respects_bind frame.trans (respects_observe frame.refl _)
        fun alternates => reconnectAlternates_respects frame fuel alternates

theorem pullProfilePagesOnPath_respects (frame : ReceiveFrame rel) (fuel : Nat) (profile : Profile)
    (path : PathRef) (turns : Nat) (page : UInt8) :
    Respects rel (pullProfilePagesOnPath fuel profile path turns page) := by
  induction turns generalizing page with
  | zero => exact respects_pure frame.refl _
  | succ turns ih =>
    rw [pullProfilePagesOnPath]
    refine respects_bind frame.trans (setPull_respects frame _ fun _ => rfl) fun _ => ?_
    refine respects_bind frame.trans (respects_observe frame.refl _) fun dlmsCmd => ?_
    refine respects_bind frame.trans (respects_bind frame.trans (respects_observe frame.refl _)
      fun packet => transmitVector_respects frame fuel packet 3) fun code => ?_
    split
    next =>
      split
      next => exact respects_pure frame.refl _
      next => exact ih _
    next => exact respects_pure frame.refl _
    next =>
      refine respects_bind frame.trans (attemptDlmsReconnectAllPaths_respects frame fuel path)
        fun ret => ?_
      split
      next => exact ih _
      next => exact respects_pure frame.refl _
    all_goals exact respects_pure frame.refl _

theorem tryAlternates_respects (frame : ReceiveFrame rel) (fuel : Nat) (profile : Profile)
    (alternates : List Nat) (page : UInt8) :
    Respects rel (tryAlternates fuel profile alternates page) := by
  induction alternates generalizing page with
  | nil => exact respects_pure frame.refl _
  | cons index rest ih =>
    rw [tryAlternates]
    refine respects_bind frame.trans (pullProfilePagesOnPath_respects frame fuel profile _ 16 page)
      fun outcome => ?_
    split
    split
    next =>
      exact respects_bind frame.trans (setNode_respects frame _)
        fun _ => respects_pure frame.refl _
    next => exact respects_pure frame.refl _
    next => exact respects_pure frame.refl _
    next => exact ih _

theorem tryPathsForProfilePull_respects (frame : ReceiveFrame rel) (fuel : Nat)
    (profile : Profile) (page : UInt8) :
    Respects rel (tryPathsForProfilePull fuel profile page) := by
  refine respects_bind frame.trans (pullProfilePagesOnPath_respects frame fuel profile _ 16 page)
    fun outcome => ?_
  split
  split
  next => exact respects_pure frame.refl _
  next => exact respects_pure frame.refl _
  next => exact respects_pure frame.refl _
  next =>
    exact respects_bind frame.trans (respects_observe frame.refl _)
      fun alternates => tryAlternates_respects frame fuel profile alternates _

end Frames

end Client

end Hes
