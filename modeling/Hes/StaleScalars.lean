import Hes.NodeCommands

set_option autoImplicit false

namespace Hes.Client

open Prog

/-- A thread that is in a pull: its connection is set up, and no transfer was rolled back. -/
structure Settled (control : Control) : Prop where
  connected : control.commInitStatus = false
  target : control.targetState = .pull
  rollback : control.fuotaRollback = false

/-- In a pull nothing that is received changes the state, and the node in question stays one. -/
def Staged (before after : Client) : Prop :=
  Settled before.control -> Settled after.control /\
    after.control.currentState = before.control.currentState /\
    after.pull.currentNode = before.pull.currentNode

theorem staged_refl (client : Client) : Staged client client := fun settled => ⟨settled, rfl, rfl⟩

theorem staged_trans (first second third : Client) (before : Staged first second)
    (behind : Staged second third) : Staged first third := by
  intro settled
  obtain ⟨between, state, node⟩ := before settled
  obtain ⟨later, stateLater, nodeLater⟩ := behind between
  exact ⟨later, stateLater.trans state, nodeLater.trans node⟩

/-- A change of the control that keeps the pull going. -/
def Keeping (change : Control -> Control) : Prop := forall control, Settled control ->
  Settled (change control) /\ (change control).currentState = control.currentState

theorem onControl_staged {A : Type} (change : Control -> A × Control)
    (keeping : Keeping fun control => (change control).2) : Respects Staged (onControl change) :=
  fun client settled => ⟨(keeping client.control settled).1, (keeping client.control settled).2, rfl⟩

theorem setControl_staged (change : Control -> Control) (keeping : Keeping change) :
    Respects Staged (setControl change) := onControl_staged _ keeping

theorem staged_frame : SendFrame Staged where
  refl := staged_refl
  trans := staged_trans
  destination client buf settled := by
    have kept : Settled (getDestinationAddress buf client.control) /\
        (getDestinationAddress buf client.control).currentState = client.control.currentState := by
      unfold getDestinationAddress
      (repeat' split) <;> exact ⟨⟨settled.connected, settled.target, settled.rollback⟩, rfl⟩
    exact ⟨kept.1, kept.2, rfl⟩
  counters _ _ settled := ⟨settled, rfl, rfl⟩
  assign _ settled := ⟨settled, rfl, rfl⟩
  send _ _ _ settled := ⟨settled, rfl, rfl⟩

theorem isValidPacket_keeping (packet : Packet) :
    Keeping fun control => (isValidPacket packet control).2 := by
  intro control settled
  have kept : Settled control /\ control.currentState = control.currentState := ⟨settled, rfl⟩
  have asked : Settled { control with needToValidateSrcAddr := false } /\
      control.currentState = control.currentState :=
    ⟨⟨settled.connected, settled.target, settled.rollback⟩, rfl⟩
  unfold isValidPacket
  dsimp only
  (repeat' split) <;> first
    | exact kept
    | exact asked
    | exact absurd ‹control.fuotaRollback = true› (by simp [settled.rollback])

theorem checkSourceAddress_keeping (packet : Packet) :
    Keeping fun control => (checkSourceAddress packet control).2 := by
  intro control settled
  simp only [checkSourceAddress]
  split
  next => exact ⟨⟨settled.connected, settled.target, settled.rollback⟩, rfl⟩
  next => exact ⟨settled, rfl⟩

/-- A packet is refused by its type, or its source address is checked. -/
theorem processPacketType_ends (packet : Packet) (control : Control) :
    (exists code, code ≠ .enabled /\ processPacketType packet control = (code, control)) \/
      processPacketType packet control = checkSourceAddress packet control := by
  generalize same : processPacketType packet control = outcome
  unfold processPacketType at same
  dsimp only at same
  (repeat' split at same) <;> first
    | exact Or.inr same.symm
    | exact Or.inl ⟨_, by simp, same.symm⟩

theorem processPacketType_keeping (packet : Packet) :
    Keeping fun control => (processPacketType packet control).2 := by
  intro control settled
  rcases processPacketType_ends packet control with ⟨code, _, same⟩ | same
  next =>
    simp only [same]
    exact ⟨settled, trivial⟩
  next =>
    simp only [same]
    exact checkSourceAddress_keeping packet control settled

theorem processProfileData_node {T : Type}
    (parse : Bytes -> UInt8 -> Dlms.PacketBuffer T -> Bool × Dlms.PacketBuffer T)
    (read : NodeProfileData -> Dlms.PacketBuffer T)
    (write : Dlms.PacketBuffer T -> NodeProfileData -> NodeProfileData)
    (packet : Packet) (now : Int) (pull : PullState) :
    (processProfileData parse read write packet now pull).2.currentNode = pull.currentNode := by
  unfold processProfileData
  dsimp only
  (repeat' split) <;> rfl

theorem pullResponse_node (state : CurrentState) (packet : Packet) (now : Int) (pull : PullState) :
    (pullResponse state packet now pull).2.currentNode = pull.currentNode := by
  have instant (command : UInt8) (process : Process)
      (kept : (process packet now pull).2.currentNode = pull.currentNode) :
      (instantProfile command process packet now pull).2.currentNode = pull.currentNode := by
    unfold instantProfile
    dsimp only
    (repeat' split) <;> first | rfl | exact kept
  cases state
  case nameplate | dailyLoad | blockLoad | billingHistory =>
    exact instant _ _ (processProfileData_node _ _ _ packet now pull)
  case instantaneousProfile =>
    simp only [pullResponse, instantaneousProfile]
    (repeat' split) <;> first | rfl | exact processProfileData_node _ _ _ packet now pull
  case internalFv =>
    simp only [pullResponse]
    (repeat' split) <;> rfl
  all_goals rfl

theorem pullSwitch_staged (packet : Packet) : Respects Staged (pullSwitch packet) := by
  intro client settled
  have node := pullResponse_node client.control.currentState packet
    (client.inputs.now client.counters.received) client.pull
  rw [pullSwitch, if_pos settled.target]
  exact ⟨settled, rfl, node⟩

theorem clientProcessData_staged (packet : Packet) : Respects Staged (clientProcessData packet) := by
  unfold clientProcessData
  split
  next => exact respects_pure staged_refl _
  next =>
    apply respects_bind staged_trans (onControl_staged _ (processPacketType_keeping packet))
    intro code
    split
    next => exact respects_pure staged_refl _
    next =>
      apply respects_bind staged_trans (pullSwitch_staged packet)
      intro answer
      cases answer with
      | some code => exact respects_pure staged_refl _
      | none =>
        apply respects_bind staged_trans (respects_observe staged_refl _)
        exact fun _ _ settled => ⟨settled, rfl, rfl⟩

theorem processFrame_staged (packet : Packet) (last : Bool) :
    Respects Staged (processFrame packet last) := by
  apply respects_bind staged_trans fun _ settled => ⟨settled, rfl, rfl⟩
  intro _
  apply respects_bind staged_trans
  next =>
    apply respects_bind staged_trans (onControl_staged _ (isValidPacket_keeping packet))
    intro valid
    split
    next => exact clientProcessData_staged packet
    next => exact respects_pure staged_refl _
  intro code
  exact respects_bind staged_trans (fun _ settled => ⟨settled, rfl, rfl⟩) fun _ => respects_pure staged_refl _

theorem receivedFrames_staged (buffer : Bytes) (length frames offset : Nat) (code : Code) :
    Respects Staged (receivedFrames buffer length frames offset code) := by
  induction frames generalizing offset code with
  | zero => exact respects_pure staged_refl _
  | succ frames ih =>
    rw [receivedFrames]
    split
    next => exact respects_bind staged_trans (processFrame_staged _ _) fun next => ih _ next
    next => exact respects_pure staged_refl _

/-- The buffer of the thread behind a chunk. -/
def buffered (buffer : Bytes) (length : Nat) (client : Client) : Client :=
  { client with control := { client.control with
      clientRxBuffer := buffer.take length, bufferRxLength := length } }

/-- The connection is set up, so a chunk is cut into its frames. -/
theorem clientReceivedData_settled {buffer : Bytes} {length : Nat} (short : length ≤ 4096) {client : Client}
    (settled : Settled client.control) : clientReceivedData buffer length client =
      receivedFrames buffer length 11 0 .success (buffered buffer length client) := by
  have first : (buffered buffer length client).control.commInitStatus = false := settled.connected
  rw [clientReceivedData, if_neg (by omega)]
  change (if (buffered buffer length client).control.commInitStatus = true then _ else _ : Prog Client Code)
    (buffered buffer length client) = _
  rw [if_neg (by simp [first])]

theorem clientReceivedData_staged (buffer : Bytes) (length : Nat) :
    Respects Staged (clientReceivedData buffer length) := by
  intro client settled
  by_cases long : length > 4096
  next =>
    rw [clientReceivedData, if_pos long]
    exact ⟨settled, rfl, rfl⟩
  next =>
    rw [clientReceivedData_settled (by omega) settled]
    exact receivedFrames_staged buffer length 11 0 .success (buffered buffer length client)
      ⟨settled.connected, settled.target, settled.rollback⟩

theorem gatewayGone_staged : Respects Staged gatewayGone := gatewayGone_respects staged_frame

theorem vectorTurn_staged (buff : Bytes) (maxRetries : Nat) (vars : VectorVars) :
    Respects Staged (vectorTurn buff maxRetries vars) := by
  have receive (vars : VectorVars) : Respects Staged (vectorReceive vars) := by
    apply respects_bind staged_trans (receiveData_respects staged_frame 512)
    intro received
    split
    split
    next =>
      apply respects_bind staged_trans (clientReceivedData_staged _ _)
      intro code
      unfold vectorResponse
      split
      next => exact respects_pure staged_refl _
      next =>
        split
        next =>
          refine respects_bind staged_trans (setControl_staged _ fun control settled => ?_) fun _ => ?_
          next => exact ⟨⟨settled.connected, settled.target, settled.rollback⟩, rfl⟩
          next => exact respects_pure staged_refl _
        all_goals exact respects_pure staged_refl _
    next =>
      apply respects_bind staged_trans gatewayGone_staged
      intro gone
      split <;> exact respects_pure staged_refl _
  unfold vectorTurn
  split
  next =>
    split
    next =>
      apply respects_bind staged_trans (writeWith_respects staged_frame _ buff)
      intro code
      split
      next => exact respects_pure staged_refl _
      next => exact receive _
    next => exact receive _
  next => exact respects_pure staged_refl _

theorem transmitVector_staged (fuel : Nat) (buff : Bytes) (maxRetries : Nat) :
    Respects Staged (transmitVector fuel buff maxRetries) := by
  apply respects_bind staged_trans (respects_loop staged_refl staged_trans _
    (vectorTurn_staged buff maxRetries) fuel {})
  intro leave
  cases leave with
  | returned code => exact respects_pure staged_refl code
  | broken gotAnyResponse =>
    dsimp only
    split
    next =>
      exact respects_bind staged_trans (disconnect_respects staged_frame)
        fun _ => respects_pure staged_refl _
    next => exact respects_pure staged_refl _

/-- The states of the profiles that are read for a node. -/
def ofNode : CurrentState -> Bool
  | .nameplate | .dailyLoad | .blockLoad | .billingHistory | .instantaneousProfile | .internalFv => true
  | _ => false

/-- The pull of a node is over, and its state was left as it was. -/
structure Stale (client : Client) : Prop where
  settled : Settled client.control
  state : ofNode client.control.currentState = true
  nodeless : client.pull.currentNode = false

theorem Stale.staged {before after : Client} (stale : Stale before) (staged : Staged before after) :
    Stale after := by
  obtain ⟨settled, state, node⟩ := staged stale.settled
  exact ⟨settled, state ▸ stale.state, node.trans stale.nodeless⟩

/-- Neither of the codes with which a transmission of a buffer succeeds. -/
def Fails (code : Code) : Prop := code ≠ .success /\ code ≠ .enabled

theorem pullResponse_nodeless {state : CurrentState} (ofOne : ofNode state = true) (packet : Packet) (now : Int)
    {pull : PullState} (nodeless : pull.currentNode = false) :
    (pullResponse state packet now pull).1 = some .failure := by
  have missing : (!pull.currentNode) = true := by simp [nodeless]
  cases state
  case nameplate | dailyLoad | blockLoad | billingHistory =>
    simp only [pullResponse, instantProfile, if_pos missing]
  case instantaneousProfile => simp only [pullResponse, instantaneousProfile, if_pos missing]
  case internalFv => simp only [pullResponse, if_pos missing]
  all_goals cases ofOne

theorem processPacketType_enabled (packet : Packet) (control : Control) :
    (processPacketType packet control).1 ≠ .enabled := by
  rcases processPacketType_ends packet control with ⟨code, other, same⟩ | same
  next => simpa [same] using other
  next =>
    rw [same, checkSourceAddress]
    (repeat' split) <;> simp

/-- No frame is answered behind the pull of a node. -/
theorem clientProcessData_fails (packet : Packet) :
    Returns Stale (clientProcessData packet) fun code _ => Fails code := by
  unfold clientProcessData
  split
  next => exact triple_pure _ fun _ _ => ⟨by simp, by simp⟩
  next =>
    apply triple_bind fun code client => Stale client /\ code ≠ .enabled
    next =>
      apply returns_of_returned
      intro client code last stale ran
      -- a type that is enabled is not among the codes of a packet
      refine ⟨stale.staged (Respects.returned (onControl_staged _ (processPacketType_keeping packet)) ran), ?_⟩
      simp only [onControl] at ran
      cases ran
      exact processPacketType_enabled packet client.control
    intro code
    split
    next other => exact triple_pure _ fun _ known => ⟨other, known.2⟩
    next =>
      apply triple_bind fun answer _ => answer = some Code.failure
      next =>
        intro client known
        have failed := pullResponse_nodeless known.1.state packet (client.inputs.now client.counters.received)
          known.1.nodeless
        rw [pullSwitch, if_pos known.1.settled.target]
        exact failed
      intro answer
      cases answer with
      | some code =>
        apply triple_pure
        intro _ same
        cases same
        exact ⟨by simp, by simp⟩
      | none => exact fun _ same => by cases same

theorem processFrame_fails (packet : Packet) (last : Bool) :
    Returns Stale (processFrame packet last) fun code client => Stale client /\ Fails code := by
  have code : Returns Stale (processFrame packet last) fun code _ => Fails code := by
    apply triple_bind fun _ => Stale
    next => exact fun _ stale => ⟨stale.settled, stale.state, stale.nodeless⟩
    intro _
    apply triple_bind fun code _ => Fails code
    next =>
      apply triple_bind fun _ => Stale
      next =>
        exact (onControl_staged _ (isValidPacket_keeping packet)).returns fun _ _ stale staged =>
          stale.staged staged
      intro valid
      split
      next => exact clientProcessData_fails packet
      next => exact triple_pure _ fun _ _ => ⟨by simp, by simp⟩
    intro code
    apply triple_bind fun _ _ => Fails code
    next => exact fun _ fails => fails
    exact fun _ => triple_pure code fun _ fails => fails
  apply returns_of_returned
  intro client result last' stale ran
  exact ⟨stale.staged ((processFrame_staged packet last).returned ran), code.returned stale ran⟩

theorem receivedFrames_fails (buffer : Bytes) (length frames offset : Nat) (code : Code)
    (some : Fails code \/ (0 < frames /\ offset < length)) :
    Returns Stale (receivedFrames buffer length frames offset code) fun code _ => Fails code := by
  -- the last frame of a chunk decides, and a chunk has one
  induction frames generalizing offset code with
  | zero =>
    rcases some with fails | more
    next => exact triple_pure code fun _ _ => fails
    next => omega
  | succ frames ih =>
    rw [receivedFrames]
    split
    next =>
      apply triple_bind _ (processFrame_fails _ _)
      intro next
      rw [show (fun client => Stale client /\ Fails next) = fun client => Fails next /\ Stale client by
        funext client
        exact propext and_comm]
      -- the code of this frame is that of the chunk, unless another one follows
      exact triple_known fun fails => ih _ next (Or.inl fails)
    next short =>
      rcases some with fails | more
      next => exact triple_pure code fun _ _ => fails
      next => omega

theorem clientReceivedData_fails {buffer : Bytes} {length : Nat} (some : 0 < length) (short : length ≤ 4096) :
    Returns Stale (clientReceivedData buffer length) fun code _ => Fails code := by
  intro client stale
  rw [clientReceivedData_settled short stale.settled]
  exact receivedFrames_fails buffer length 11 0 .success (Or.inr ⟨by decide, some⟩) _
    ⟨⟨stale.settled.connected, stale.settled.target, stale.settled.rollback⟩, stale.state, stale.nodeless⟩

/-- What a turn of the loop may leave. -/
def FailsTurn : Turn RawVars Leave -> Prop
  | .done (.returned code) => Fails code
  | _ => True

/-- A program of the loop that only says what the next turn is. -/
theorem says_turn {turn : Turn RawVars Leave} (failing : FailsTurn turn) :
    Returns Stale (pure turn) fun turn client => Stale client /\ FailsTurn turn :=
  triple_pure turn fun _ stale => ⟨stale, failing⟩

theorem setControl_stale {change : Control -> Control} (keeping : Keeping change) :
    Returns Stale (setControl change) fun _ => Stale :=
  (setControl_staged _ keeping).returns fun _ _ stale staged => stale.staged staged

theorem meshTimeout_fails (hopCount : Nat) (alternatePath : Option (Bytes × UInt8)) (vars : RawVars) :
    FailsTurn (meshTimeout hopCount alternatePath vars) := by
  unfold meshTimeout
  dsimp only
  (repeat' split) <;> simp [FailsTurn, Fails]

theorem rawCount_fails (vars : RawVars) : FailsTurn (rawCount vars) := by
  unfold rawCount
  dsimp only
  (repeat' split) <;> trivial

theorem rawSwitch_fails (hopCount : Nat) (buffer : Bytes) (vars : RawVars) (fails : Fails vars.ret) :
    Returns Stale (rawSwitch hopCount buffer vars) fun turn client => Stale client /\ FailsTurn turn := by
  -- the switch writes to the control only what the pull does not read
  have paging (change : UInt8 -> UInt8) :
      Keeping fun control => { control with pageIndexCount := change control.pageIndexCount } :=
    fun _ settled => ⟨⟨settled.connected, settled.target, settled.rollback⟩, rfl⟩
  have asking : Keeping fun control => { control with needToValidateSrcAddr := true } :=
    fun _ settled => ⟨⟨settled.connected, settled.target, settled.rollback⟩, rfl⟩
  unfold rawSwitch
  cases ret : vars.ret with
  | success => exact absurd ret fails.1
  | enabled => exact absurd ret fails.2
  | dlmsError => exact says_turn ⟨by simp, by simp⟩
  | succesNextPage =>
    apply triple_bind _ (setControl_stale (paging fun count => count + 1))
    intro _
    apply triple_bind fun _ => Stale
    next => exact fun _ stale => stale
    exact fun _ => says_turn trivial
  | invalidResponse | commandInProgress =>
    exact triple_bind _ (setControl_stale asking) fun _ => says_turn trivial
  | timeoutReceived =>
    apply triple_bind fun _ => Stale
    next => exact fun _ stale => stale
    exact fun path => says_turn (meshTimeout_fails hopCount path vars)
  | _ => exact says_turn trivial

theorem rawReceive_fails (hopCount : Nat) (vars : RawVars) :
    Returns Stale (rawReceive hopCount vars) fun turn client => Stale client /\ FailsTurn turn := by
  -- the turn behind the switch goes on as it is told, and is counted
  have switched (buffer : Bytes) (code : Code)
      (counted : Turn RawVars Leave -> Prog Client (Turn RawVars Leave))
      (done : forall leave, counted (.done leave) = pure (.done leave))
      (again : forall next, counted (.again next) = pure (rawCount next)) :
      Returns (fun client => Fails code /\ Stale client)
        (rawSwitch hopCount buffer { vars with gotAnyResponse := true, ret := code } >>= counted)
        fun turn client => Stale client /\ FailsTurn turn := by
    apply triple_known
    intro fails
    apply triple_bind _ (rawSwitch_fails hopCount buffer { vars with gotAnyResponse := true, ret := code } fails)
    intro turn
    cases turn with
    | done leave =>
      rw [done]
      exact triple_pure _ fun _ known => known
    | again next =>
      rw [again]
      exact triple_pure _ fun _ known => ⟨known.1, rawCount_fails next⟩
  apply triple_bind fun (received : Int × Bytes) client => received.1 ≤ 512 /\ Stale client
  next =>
    apply returns_of_returned
    intro client received last stale ran
    exact ⟨(receiveData_bounded 512 fun _ => True).returned trivial ran,
      stale.staged ((receiveData_respects staged_frame 512).returned ran)⟩
  intro received
  apply triple_known
  intro short
  split
  next rxLen buffer =>
  split
  next some =>
    dsimp only
    split
    next =>
      apply triple_bind fun code client => Fails code /\ Stale client
      next =>
        apply returns_of_returned
        intro client code last stale ran
        exact ⟨(clientReceivedData_fails (by omega) (by simp only at short; omega)).returned stale ran,
          stale.staged ((clientReceivedData_staged _ _).returned ran)⟩
      exact fun code => switched buffer code _ (fun _ => rfl) fun _ => rfl
    next =>
      apply triple_bind fun code client => Fails code /\ Stale client
      next => exact triple_pure _ fun _ stale => ⟨⟨by simp, by simp⟩, stale⟩
      exact fun code => switched buffer code _ (fun _ => rfl) fun _ => rfl
  next =>
    apply triple_bind fun _ => Stale
    next => exact gatewayGone_staged.returns fun _ _ stale staged => stale.staged staged
    intro gone
    split
    next => exact says_turn trivial
    next => exact says_turn (rawCount_fails _)

theorem rawWrite_stale (hopCount : Nat) (vars : RawVars) :
    Returns Stale (rawWrite hopCount vars) fun _ => Stale := by
  have writes (bytes : Bytes) : Returns Stale (writeToClient bytes) fun _ => Stale :=
    (writeWith_respects staged_frame _ bytes).returns fun _ _ stale staged => stale.staged staged
  have noted : Keeping fun control => { control with
      txPageIndex := byteAt vars.buf (13 + pathBytes hopCount + 2) } :=
    fun _ settled => ⟨⟨settled.connected, settled.target, settled.rollback⟩, rfl⟩
  unfold rawWrite
  split
  next => exact triple_pure _ fun _ stale => stale
  next =>
    split
    next =>
      apply triple_bind _ (writes _)
      intro code
      split <;> exact triple_pure _ fun _ stale => stale
    next =>
      apply triple_bind _ (setControl_stale noted)
      intro _
      apply triple_bind _ (writes _)
      intro code
      split <;> exact triple_pure _ fun _ stale => stale

theorem rawTurn_fails (hopCount maxRetries : Nat) (vars : RawVars) :
    Returns Stale (rawTurn hopCount maxRetries vars) fun turn client => Stale client /\ FailsTurn turn := by
  unfold rawTurn
  split
  next => exact says_turn trivial
  next =>
    apply triple_bind _ (rawWrite_stale hopCount vars)
    intro outcome
    cases outcome with
    | none => exact says_turn trivial
    | some next => exact rawReceive_fails hopCount next

theorem transmitRaw_fails (fuel : Nat) (buf : Bytes) (length maxRetries : Nat) :
    Returns Stale (transmitRaw fuel buf length maxRetries) fun code client =>
      Stale client /\ Fails code := by
  -- whatever is received, a command that is sent as a buffer does not succeed
  have begun : Keeping fun control => { control with pageIndexCount := 0 } :=
    fun _ settled => ⟨⟨settled.connected, settled.target, settled.rollback⟩, rfl⟩
  have ended : Keeping fun control => { control with needToValidateSrcAddr := false } :=
    fun _ settled => ⟨⟨settled.connected, settled.target, settled.rollback⟩, rfl⟩
  apply triple_bind _ (setControl_stale begun)
  intro _
  apply triple_bind fun leave client => Stale client /\ FailsTurn (.done leave)
  next =>
    -- the invariant of the loop is the stale state; how it is left is known at its end only
    apply triple_loop _ fun _ => Stale
    next => exact fun _ _ _ => trivial
    next =>
      intro vars
      apply (rawTurn_fails _ maxRetries vars).weaken fun _ stale => stale
      intro turn client known
      cases turn with
      | again next => exact known.1
      | done leave => exact known
  intro leave
  cases leave with
  | returned code => exact triple_pure code fun _ known => known
  | broken gotAnyResponse =>
    dsimp only
    split
    next =>
      apply triple_bind fun _ => Stale
      next =>
        exact (disconnect_respects staged_frame).returns fun _ _ known staged => known.1.staged staged
      intro _
      apply triple_bind _ (setControl_stale ended)
      exact fun _ => triple_pure _ fun _ stale => ⟨stale, by simp, by simp⟩
    next => exact triple_pure _ fun _ known => ⟨known.1, by simp, by simp⟩

def KeepsState (before after : Client) : Prop := Settled before.control ->
  Settled after.control /\ after.control.currentState = before.control.currentState

def KeepsSettled (before after : Client) : Prop := Settled before.control -> Settled after.control

theorem keepsState_trans (first second third : Client) (before : KeepsState first second)
    (behind : KeepsState second third) : KeepsState first third := by
  intro settled
  obtain ⟨between, state⟩ := before settled
  obtain ⟨later, stateLater⟩ := behind between
  exact ⟨later, stateLater.trans state⟩

theorem onPath_staged (fuel : Nat) (packetType : UInt8) (cmd : Bytes) (path : PathRef) (retries : Nat) :
    Respects Staged (transmitCommandOnPathPmesh fuel packetType cmd path retries) :=
  respects_bind staged_trans (respects_observe staged_refl _)
    fun packet => transmitVector_staged fuel packet retries

theorem attemptDlmsReconnect_keeps (fuel : Nat) (path : PathRef) :
    Moves KeepsState (attemptDlmsReconnect fuel path) := by
  -- a connection puts the state back to what it was
  intro client result last ran settled
  -- the state is overwritten for the command and written back behind it
  have reconnected : Returns (fun before => before = client) (attemptDlmsReconnect fuel path)
      fun _ after => Settled after.control /\ after.control.currentState = client.control.currentState := by
    apply triple_bind fun state before => state = client.control.currentState /\ Settled before.control
    next =>
      intro before same
      subst same
      exact ⟨rfl, settled⟩
    intro oldState
    apply triple_known
    rintro rfl
    apply triple_bind fun _ before => Settled before.control
    next => exact fun _ known => ⟨known.connected, known.target, known.rollback⟩
    intro _
    apply triple_bind fun _ after => Settled after.control
    next => exact (onPath_staged fuel _ _ path 3).returns fun _ _ known staged => (staged known).1
    intro ret
    apply triple_bind fun _ after => Settled after.control /\
      after.control.currentState = client.control.currentState
    next => exact fun _ known => ⟨⟨known.connected, known.target, known.rollback⟩, rfl⟩
    intro _
    split
    next => exact triple_pure _ fun _ known => known
    next => split <;> exact triple_pure _ fun _ known => known
  exact reconnected.returned rfl ran

theorem keepsState_nodes : NodeFrame (fun _ => False) KeepsState where
  refl _ settled := ⟨settled, rfl⟩
  trans := keepsState_trans
  transmit fuel packet retries _ _ _ ran settled := by
    obtain ⟨kept, state, _⟩ := (transmitVector_staged fuel packet retries).returned ran settled
    exact ⟨kept, state⟩
  ipCycle _ := Respects.moves fun _ settled =>
    ⟨⟨settled.connected, settled.target, settled.rollback⟩, rfl⟩
  state _ none := none.elim
  reconnect := attemptDlmsReconnect_keeps
  pull _ _ _ _ _ settled := ⟨settled, rfl⟩

theorem keepsSettled_nodes : NodeFrame (fun _ => True) KeepsSettled where
  refl _ settled := settled
  trans _ _ _ before behind settled := behind (before settled)
  transmit fuel packet retries _ _ _ ran settled :=
    ((transmitVector_staged fuel packet retries).returned ran settled).1
  ipCycle _ := Respects.moves fun _ settled => ⟨settled.connected, settled.target, settled.rollback⟩
  state _ _ := Respects.moves fun _ settled => ⟨settled.connected, settled.target, settled.rollback⟩
  reconnect fuel path client result last ran settled :=
    (attemptDlmsReconnect_keeps fuel path client result last ran settled).1
  pull _ _ _ _ _ settled := settled

theorem pullProfileForANode_stale (fuel : Nat) {profile : Profile} (ofOne : ofNode profile.state = true) :
    Returns (fun client => Settled client.control) (pullProfileForANode fuel profile)
      fun _ => Stale := by
  -- the state of a profile is left behind, and the node is not
  apply triple_bind fun _ client => Settled client.control /\ client.control.currentState = profile.state
  next => exact fun _ settled => ⟨⟨settled.connected, settled.target, settled.rollback⟩, rfl⟩
  intro _
  apply triple_bind fun _ client => Settled client.control /\ client.control.currentState = profile.state
  next => exact fun _ known => known
  intro _
  apply triple_bind fun _ client => Settled client.control /\ client.control.currentState = profile.state
  next => exact fun _ known => known
  intro _
  apply triple_bind fun _ client => Settled client.control /\ client.control.currentState = profile.state
  next =>
    apply returns_of_returned
    intro client outcome last known ran
    obtain ⟨settled, state⟩ := keepsState_nodes.pulls fuel profile 0 client outcome last ran known.1
    exact ⟨settled, state.trans known.2⟩
  intro outcome
  apply triple_bind fun _ => Stale
  next => exact fun client known => ⟨known.1, known.2 ▸ ofOne, rfl⟩
  exact fun _ => triple_pure outcome fun _ stale => stale

end Hes.Client
