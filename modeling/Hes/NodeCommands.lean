import Hes.NoteSources
import Hes.PullCycles

set_option autoImplicit false

namespace Hes.Client

open Prog

def fuotaStatusCommand : Bytes := [0x00, 0x9B]

def fuotaDisableCommand : Bytes := [0x01, 0x9B, 0x00]

def flashWriteCommand : Bytes := [0x00, 0x02]

def softExitCommand : Bytes := [0x00, 0x01]

def internalFirmwareVersionCommand : Bytes := [0x00, 0x49, 0x46]

def promoteFirst (attempt : PathRef -> Prog Client (Option Code)) : List Nat -> Prog Client Code
  | [] => pure .failure
  | index :: rest => do
    match <- attempt (.alternate index) with
    | some ret =>
      setNode (promotePulled index)
      return ret
    | none => promoteFirst attempt rest

/-- One attempt on the primary path, then one on each alternate path: the first of these that gives a
result is promoted. -/
def onFirstPath (onPrimary onAlternate : PathRef -> Prog Client (Option Code)) : Prog Client Code := do
  match <- onPrimary .primary with
  | some ret => return ret
  | none =>
    let alternates <- alternatesIfConnected
    promoteFirst onAlternate alternates

def commission (fuel : Nat) (command : Bytes) (path : PathRef) : Prog Client Code :=
  transmitCommandOnPathPmesh fuel 0x03 command path 3

def fuotaStatus (fuel : Nat) (path : PathRef) : Prog Client (Option Code) := do
  let ret <- commission fuel fuotaStatusCommand path
  return if ret ≠ .failure then some ret else none

def checkFuotaStatus (fuel : Nat) : Prog Client Code := do
  setState .fuotaStatus
  let ret <- onFirstPath (fuotaStatus fuel) (fuotaStatus fuel)
  -- the state stays behind a path that answered
  if ret = .failure then setState .idle
  return ret

def flashSave (fuel : Nat) (path : PathRef) : Prog Client Code := do
  setState .flashSave
  if (<- commission fuel flashWriteCommand path) = .success then return .success else return .failure

def softReset (fuel : Nat) (path : PathRef) : Prog Client Code := do
  setState .softReset
  if (<- commission fuel softExitCommand path) = .success then return .success else return .failure

def performFlashAndReset (fuel : Nat) (path : PathRef) : Prog Client Code := do
  if (<- flashSave fuel path) ≠ .success then return .failure
  else if (<- softReset fuel path) ≠ .success then return .failure
  else return .success

-- the state is that of the last command, also when the next path is tried
def fuotaDisable (fuel : Nat) (sufficient : Code -> Bool) (path : PathRef) :
    Prog Client (Option Code) := do
  let ret <- commission fuel fuotaDisableCommand path
  if sufficient ret then
    if (<- performFlashAndReset fuel path) = .success then return some ret else return none
  else return none

def fuotaDisableForANode (fuel : Nat) : Prog Client Code := do
  setState .fuotaDisable
  onFirstPath (fuotaDisable fuel fun ret => ret = .success)
    (fuotaDisable fuel fun ret => ret ≠ .failure)

def internalFirmwareVersion (fuel : Nat) (path : PathRef) : Prog Client (Option Code) := do
  let ret <- commission fuel internalFirmwareVersionCommand path
  return if ret = .success then some ret else none

def pullInternalFirmwareVersionForANode (fuel : Nat) : Prog Client Code := do
  setState .internalFv
  setCurrentNode true
  let ret <- onFirstPath (internalFirmwareVersion fuel) (internalFirmwareVersion fuel)
  if ret = .failure then setState .idle
  setCurrentNode false
  return ret

/-- The moves that the commands to a node are made of: transmissions in some states, and changes of
the pull that leave the notes, what is fixed of the node and its instantaneous profile alone. -/
structure NodeFrame (states : CurrentState -> Prop) (rel : Client -> Client -> Prop) : Prop where
  refl : forall client, rel client client
  trans : forall first second third, rel first second -> rel second third -> rel first third
  transmit : forall fuel packet retries, Moves rel (transmitVector fuel packet retries)
  ipCycle : forall cycle, Moves rel (setIpCycle cycle)
  state : forall state, states state -> Moves rel (setState state)
  reconnect : forall fuel path, Moves rel (attemptDlmsReconnect fuel path)
  pull : forall client pull, pull.notes = client.pull.notes ->
    pull.node.fixed = client.pull.node.fixed -> pull.ipBuffer = client.pull.ipBuffer ->
    rel client { client with pull := pull }

theorem onPath_receiving (fuel : Nat) (packetType : UInt8) (cmd : Bytes) (path : PathRef) (retries : Nat) :
    Respects Receiving (transmitCommandOnPathPmesh fuel packetType cmd path retries) :=
  respects_bind receiving_trans (respects_observe receiving_refl _)
    fun packet => transmitVector_receiving fuel packet retries

theorem sourcing_nodes : NodeFrame (fun _ => True) Sourcing where
  refl := sourcing_refl
  trans := sourcing_trans
  transmit fuel packet retries _ _ _ ran :=
    ((transmitVector_receiving fuel packet retries).returned ran).sourcing
  ipCycle _ := Respects.moves fun _ => sourcing_kept rfl rfl
  state _ _ := Respects.moves fun _ => sourcing_kept rfl rfl
  reconnect fuel path := by
    apply Respects.moves
    have trans := sourcing_trans
    refine respects_bind trans (respects_observe sourcing_refl _) fun oldState => ?_
    refine respects_bind trans (fun _ => sourcing_kept rfl rfl) fun _ => ?_
    refine respects_bind trans (fun client => (onPath_receiving fuel _ _ path 3 client).sourcing)
      fun ret => ?_
    refine respects_bind trans (fun _ => sourcing_kept rfl rfl) fun _ => ?_
    split
    next => exact respects_pure sourcing_refl _
    next => split <;> exact respects_pure sourcing_refl _
  pull _ _ notes fixed _ := sourcing_kept notes fixed

theorem leavesIp_nodes : NodeFrame (fun state => state ≠ .instantaneousProfile) LeavesIp where
  refl := leavesIp_refl
  trans := leavesIp_trans
  transmit fuel packet retries _ _ _ ran :=
    ((transmitVector_receiving fuel packet retries).returned ran).leavesIp
  ipCycle _ := Respects.moves fun _ => leavesIp_kept rfl rfl
  state _ other := Respects.moves fun _ _ => ⟨other, rfl⟩
  reconnect fuel path := by
    apply Respects.moves
    intro client other
    -- the state is put back to what it was
    have trans := leavesIp_trans
    have connected : Respects LeavesIp (do
        setState .dlmsConnect
        let ret <- transmitCommandOnPathPmesh fuel 0x07 dlmsConnect path 3
        setState client.control.currentState
        if ret = .dlmsSuccess || ret = .success then return .success
        else if ret = .dlmsConnectionFailed then return .dlmsConnectionFailed
        else return .failure : Prog Client Code) := by
      refine respects_bind trans (fun _ _ => ⟨by simp [setState, setControl, onControl], rfl⟩) fun _ => ?_
      refine respects_bind trans (fun client => (onPath_receiving fuel _ _ path 3 client).leavesIp)
        fun ret => ?_
      refine respects_bind trans (fun _ _ => ⟨other, rfl⟩) fun _ => ?_
      split
      next => exact respects_pure leavesIp_refl _
      next => split <;> exact respects_pure leavesIp_refl _
    exact connected client other
  pull _ _ _ _ ip := leavesIp_kept rfl ip

namespace NodeFrame

variable {states : CurrentState -> Prop} {rel : Client -> Client -> Prop}
  (frame : NodeFrame states rel)

include frame

theorem known (known : Bool) : Moves rel (setCurrentNode known) :=
  Respects.moves fun client => frame.pull client _ rfl rfl rfl

theorem asks (page : UInt8) : Moves rel (askPage page) :=
  Respects.moves fun client => frame.pull client _ rfl rfl rfl

theorem node (change : NodeInfo -> NodeInfo)
    (fixed : forall node, (change node).fixed = node.fixed)
    (ip : forall node, (change node).profileData.instantaneousProfile =
      node.profileData.instantaneousProfile) : Moves rel (setNode change) :=
  Respects.moves fun client => frame.pull client _ rfl (fixed client.pull.node) (ip client.pull.node)

theorem onPath (fuel : Nat) (packetType : UInt8) (cmd : Bytes) (path : PathRef) (retries : Nat) :
    Moves rel (transmitCommandOnPathPmesh fuel packetType cmd path retries) :=
  moves_bind frame.trans (respects_observe frame.refl _).moves
    fun packet => frame.transmit fuel packet retries

theorem ended {A : Type} (result : A) : Moves rel (pure result : Prog Client A) :=
  moves_pure frame.refl result

theorem alternates : Moves rel alternatesIfConnected := (respects_observe frame.refl _).moves

theorem reconnectsAlternates (fuel : Nat) (alternates : List Nat) :
    Moves rel (reconnectAlternates fuel alternates) := by
  induction alternates with
  | nil => exact frame.ended _
  | cons index rest ih =>
    rw [reconnectAlternates]
    apply moves_bind frame.trans (frame.reconnect fuel _)
    intro retVal
    split
    next =>
      exact moves_bind frame.trans (frame.node _ (fun _ => rfl) fun _ => rfl) fun _ => frame.ended _
    next =>
      split
      next => exact frame.ended _
      next => exact ih

theorem reconnectsAllPaths (fuel : Nat) (failedPath : PathRef) :
    Moves rel (attemptDlmsReconnectAllPaths fuel failedPath) := by
  unfold attemptDlmsReconnectAllPaths
  apply moves_bind frame.trans (frame.reconnect fuel _)
  intro ret
  split
  next => exact frame.ended _
  next =>
    split
    next => exact frame.ended _
    next =>
      exact moves_bind frame.trans frame.alternates
        fun alternates => frame.reconnectsAlternates fuel alternates

theorem pages (fuel : Nat) (profile : Profile) (path : PathRef) (turns : Nat) (page : UInt8) :
    Moves rel (pullProfilePagesOnPath fuel profile path turns page) := by
  induction turns generalizing page with
  | zero => exact frame.ended _
  | succ turns ih =>
    rw [pullProfilePagesOnPath]
    apply moves_bind frame.trans (frame.asks page)
    intro _
    apply moves_bind frame.trans (respects_observe frame.refl _).moves
    intro dlmsCmd
    apply moves_bind frame.trans (frame.onPath fuel _ _ path 3)
    intro code
    split
    next =>
      split
      next => exact frame.ended _
      next => exact ih _
    next => exact frame.ended _
    next =>
      apply moves_bind frame.trans (frame.reconnectsAllPaths fuel path)
      intro ret
      split
      next => exact ih _
      next => exact frame.ended _
    all_goals exact frame.ended _

theorem pagesOnAlternates (fuel : Nat) (profile : Profile) (alternates : List Nat) (page : UInt8) :
    Moves rel (tryAlternates fuel profile alternates page) := by
  induction alternates generalizing page with
  | nil => exact frame.ended _
  | cons index rest ih =>
    rw [tryAlternates]
    apply moves_bind frame.trans (frame.pages fuel profile _ 16 page)
    intro outcome
    split
    split
    next =>
      exact moves_bind frame.trans (frame.node _ (fun _ => rfl) fun _ => rfl) fun _ => frame.ended _
    next => exact frame.ended _
    next => exact frame.ended _
    next => exact ih _

theorem pulls (fuel : Nat) (profile : Profile) (page : UInt8) :
    Moves rel (tryPathsForProfilePull fuel profile page) := by
  apply moves_bind frame.trans (frame.pages fuel profile _ 16 page)
  intro outcome
  split
  split
  next => exact frame.ended _
  next => exact frame.ended _
  next => exact frame.ended _
  next =>
    exact moves_bind frame.trans frame.alternates
      fun alternates => frame.pagesOnAlternates fuel profile alternates _

theorem pullsProfile (fuel : Nat) (profile : Profile) (state : states profile.state)
    (other : profile ≠ .instantaneous) : Moves rel (pullProfileForANode fuel profile) := by
  apply moves_bind frame.trans (frame.state _ state)
  intro _
  apply moves_bind frame.trans (frame.known true)
  intro _
  refine moves_bind frame.trans (frame.node _ (fun _ => rfl) fun node => ?_) fun _ => ?_
  next => cases profile <;> first | rfl | exact absurd rfl other
  apply moves_bind frame.trans (frame.pulls fuel profile 0)
  intro outcome
  exact moves_bind frame.trans (frame.known false) fun _ => frame.ended _

theorem pullsCycle (fuel : Nat) (cycle : Int) (state : states .instantaneousProfile) :
    Moves rel (pullInstantaneousProfileForCycle fuel cycle) := by
  apply moves_bind frame.trans (frame.state _ state)
  intro _
  apply moves_bind frame.trans (frame.known true)
  intro _
  apply moves_bind frame.trans (frame.ipCycle cycle)
  intro _
  apply moves_bind frame.trans (frame.pulls fuel _ 0)
  intro outcome
  apply moves_bind frame.trans (frame.ipCycle _)
  intro _
  exact moves_bind frame.trans (frame.known false) fun _ => frame.ended _

theorem promotes (attempt : PathRef -> Prog Client (Option Code))
    (attempts : forall path, Moves rel (attempt path)) (alternates : List Nat) :
    Moves rel (promoteFirst attempt alternates) := by
  induction alternates with
  | nil => exact frame.ended _
  | cons index rest ih =>
    rw [promoteFirst]
    apply moves_bind frame.trans (attempts _)
    intro outcome
    cases outcome with
    | some ret =>
      exact moves_bind frame.trans (frame.node _ (fun _ => rfl) fun _ => rfl) fun _ => frame.ended _
    | none => exact ih

theorem firstPath (onPrimary onAlternate : PathRef -> Prog Client (Option Code))
    (primary : forall path, Moves rel (onPrimary path))
    (alternate : forall path, Moves rel (onAlternate path)) :
    Moves rel (onFirstPath onPrimary onAlternate) := by
  apply moves_bind frame.trans (primary _)
  intro outcome
  cases outcome with
  | some ret => exact frame.ended _
  | none =>
    exact moves_bind frame.trans frame.alternates
      fun alternates => frame.promotes onAlternate alternate alternates

theorem checksStatus (fuel : Nat) (status : states .fuotaStatus) (idle : states .idle) :
    Moves rel (checkFuotaStatus fuel) := by
  have attempts (path : PathRef) : Moves rel (fuotaStatus fuel path) :=
    moves_bind frame.trans (frame.onPath fuel _ _ path 3) fun ret => frame.ended _
  apply moves_bind frame.trans (frame.state _ status)
  intro _
  apply moves_bind frame.trans (frame.firstPath _ _ attempts attempts)
  intro ret
  split
  next => exact moves_bind frame.trans (frame.state _ idle) fun _ => frame.ended _
  next => exact frame.ended _

theorem saves (fuel : Nat) (path : PathRef) (state : states .flashSave) :
    Moves rel (flashSave fuel path) := by
  apply moves_bind frame.trans (frame.state _ state)
  intro _
  apply moves_bind frame.trans (frame.onPath fuel _ _ path 3)
  intro ret
  split <;> exact frame.ended _

theorem resets (fuel : Nat) (path : PathRef) (state : states .softReset) :
    Moves rel (softReset fuel path) := by
  apply moves_bind frame.trans (frame.state _ state)
  intro _
  apply moves_bind frame.trans (frame.onPath fuel _ _ path 3)
  intro ret
  split <;> exact frame.ended _

theorem disables (fuel : Nat) (disable : states .fuotaDisable) (flash : states .flashSave)
    (reset : states .softReset) : Moves rel (fuotaDisableForANode fuel) := by
  have attempts (sufficient : Code -> Bool) (path : PathRef) :
      Moves rel (fuotaDisable fuel sufficient path) := by
    apply moves_bind frame.trans (frame.onPath fuel _ _ path 3)
    intro ret
    split
    next =>
      have both : Moves rel (performFlashAndReset fuel path) := by
        apply moves_bind frame.trans (frame.saves fuel path flash)
        intro saved
        split
        next => exact frame.ended _
        next =>
          apply moves_bind frame.trans (frame.resets fuel path reset)
          intro done
          split <;> exact frame.ended _
      apply moves_bind frame.trans both
      intro done
      split <;> exact frame.ended _
    next => exact frame.ended _
  exact moves_bind frame.trans (frame.state _ disable)
    fun _ => frame.firstPath _ _ (attempts _) (attempts _)

theorem pullsVersion (fuel : Nat) (version : states .internalFv) (idle : states .idle) :
    Moves rel (pullInternalFirmwareVersionForANode fuel) := by
  have attempts (path : PathRef) : Moves rel (internalFirmwareVersion fuel path) :=
    moves_bind frame.trans (frame.onPath fuel _ _ path 3) fun ret => frame.ended _
  apply moves_bind frame.trans (frame.state _ version)
  intro _
  apply moves_bind frame.trans (frame.known true)
  intro _
  apply moves_bind frame.trans (frame.firstPath _ _ attempts attempts)
  intro ret
  split
  next =>
    refine moves_bind frame.trans (frame.state _ idle) fun _ => ?_
    exact moves_bind frame.trans (frame.known false) fun _ => frame.ended _
  next => exact moves_bind frame.trans (frame.known false) fun _ => frame.ended _

end NodeFrame

end Hes.Client
