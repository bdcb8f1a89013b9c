import Hes.PullNotes

set_option autoImplicit false

namespace Hes

open Prog

/-- The frame of a note names the node as its source. -/
def Note.From (mac : Bytes) (note : Note) : Prop :=
  Client.proprietaryMacAddress ++ slice note.frame 11 4 = mac

/-- A frame whose records went into the buffer of a node is from that node. -/
def Note.Sourced (mac : Bytes) (note : Note) : Prop :=
  note.merged = true -> Dlms.storedRecords note.frame ≠ [] -> note.From mac

/-- What no reply and no promotion changes of a node: its address and its missing cycles. -/
def NodeInfo.fixed (node : NodeInfo) : Bytes × List Int := (node.nodeMacAddress, node.missingIpCycles)

namespace PullState

def ipBuffer (pull : PullState) : Dlms.PacketBuffer Dlms.DlmsRecordMap :=
  pull.node.profileData.instantaneousProfile

/-- What the switch does to a pull: it marks the frame only if the frame is for the node, and leaves
the instantaneous profile alone in every state but its own. -/
structure Switched (state : CurrentState) (packet : Packet) (pull after : PullState) : Prop where
  notes : after.notes = pull.notes
  fixed : after.node.fixed = pull.node.fixed
  marked : after.merged = true -> pull.merged = true \/ Client.forNode packet pull.node = true
  ip : state ≠ .instantaneousProfile -> after.ipBuffer = pull.ipBuffer

variable (state : CurrentState) (packet : Packet) (now : Int) (pull : PullState)

theorem switched_same : Switched state packet pull pull := ⟨rfl, rfl, Or.inl, fun _ => rfl⟩

theorem processProfileData_switched {T : Type}
    (parse : Bytes -> UInt8 -> Dlms.PacketBuffer T -> Bool × Dlms.PacketBuffer T)
    (read : NodeProfileData -> Dlms.PacketBuffer T)
    (write : Dlms.PacketBuffer T -> NodeProfileData -> NodeProfileData)
    (kept : state ≠ .instantaneousProfile -> forall buffer data,
      (write buffer data).instantaneousProfile = data.instantaneousProfile) :
    Switched state packet pull (Client.processProfileData parse read write packet now pull).2 := by
  unfold Client.processProfileData
  by_cases accepted : Client.forNode packet pull.node = true
  next =>
    simp only [accepted, if_true]
    split <;> exact ⟨rfl, rfl, fun _ => Or.inr accepted, fun other => kept other _ _⟩
  next =>
    simp only [accepted]
    exact switched_same state packet pull

theorem instantProfile_switched (command : UInt8) (process : Client.Process)
    (processed : Switched state packet pull (process packet now pull).2) :
    Switched state packet pull (Client.instantProfile command process packet now pull).2 := by
  unfold Client.instantProfile
  cases ran : process packet now pull with
  | mk code after =>
    rw [ran] at processed
    dsimp only
    (repeat' split) <;> first | exact processed | exact switched_same state packet pull

theorem pullResponse_switched :
    Switched state packet pull (Client.pullResponse state packet now pull).2 := by
  cases state
  case nameplate | dailyLoad | blockLoad | billingHistory =>
    exact instantProfile_switched _ packet now pull _ _
      (processProfileData_switched _ packet now pull _ _ _ fun _ _ _ => rfl)
  case instantaneousProfile =>
    simp only [Client.pullResponse, Client.instantaneousProfile]
    split
    next => exact switched_same _ packet pull
    next =>
      split
      next => exact processProfileData_switched _ packet now pull _ _ _ fun other => absurd rfl other
      next => exact switched_same _ packet pull
  case internalFv =>
    simp only [Client.pullResponse]
    (repeat' split) <;> exact switched_same _ packet pull
  all_goals exact switched_same _ packet pull

end PullState

namespace Client

/-- The current state is kept, or the client went idle. -/
def StateKept (begun client : Client) : Prop :=
  client.control.currentState = begun.control.currentState \/ client.control.currentState = .idle

/-- A frame that is met, in front of the switch. -/
def Meets (begun client : Client) : Prop := client.pull = begun.pull /\ StateKept begun client

/-- The client behind a frame: `begun` is the one that met it. -/
structure FrameSwitched (packet : Packet) (begun client : Client) : Prop where
  notes : client.pull.notes = begun.pull.notes
  fixed : client.pull.node.fixed = begun.pull.node.fixed
  marked : client.pull.merged = true -> forNode packet begun.pull.node = true
  state : StateKept begun client
  ip : begun.control.currentState ≠ .instantaneousProfile -> client.pull.ipBuffer = begun.pull.ipBuffer

section Frame

variable {wait : Client -> Prop} {packet : Packet} {begun : Client}

theorem Meets.switched {client : Client} (meets : Meets begun client)
    (unmarked : begun.pull.merged = false) : FrameSwitched packet begun client where
  notes := by rw [meets.1]
  fixed := by rw [meets.1]
  marked := by simp [meets.1, unmarked]
  state := meets.2
  ip _ := by rw [meets.1]

theorem onControl_meets {A : Type} (change : Control -> A × Control)
    (kept : forall control, (change control).2.currentState = control.currentState \/
      (change control).2.currentState = .idle) :
    Triple wait (Meets begun) (onControl change) fun _ => Meets begun := by
  intro client meets
  obtain ⟨pull, state⟩ := meets
  refine ⟨pull, ?_⟩
  rcases kept client.control with same | idle
  next => exact state.imp (fun was => same.trans was) fun was => same.trans was
  next => exact Or.inr idle

theorem pullSwitch_switched (unmarked : begun.pull.merged = false) :
    Triple wait (Meets begun) (pullSwitch packet) fun _ => FrameSwitched packet begun := by
  intro client meets
  by_cases pulling : client.control.targetState = .pull
  next =>
    have switched := PullState.pullResponse_switched client.control.currentState packet
      (client.inputs.now client.counters.received) client.pull
    rw [pullSwitch, if_pos pulling]
    rw [meets.1] at switched ⊢
    refine ⟨switched.notes, switched.fixed,
      fun marked => (switched.marked marked).resolve_left (by simp [unmarked]), meets.2, ?_⟩
    intro other
    apply switched.ip
    rcases meets.2 with same | idle
    next => rwa [same]
    next => simp [idle]
  next =>
    rw [pullSwitch, if_neg pulling]
    exact meets.switched unmarked

theorem clientProcessData_switched (unmarked : begun.pull.merged = false) :
    Triple wait (Meets begun) (clientProcessData packet) fun _ => FrameSwitched packet begun := by
  unfold clientProcessData
  split
  next => exact triple_pure _ fun client meets => meets.switched unmarked
  next =>
    refine triple_bind _ (onControl_meets _
      fun control => Or.inl (processPacketType_kept packet control).1) fun code => ?_
    split
    next => exact triple_pure _ fun client meets => meets.switched unmarked
    next =>
      refine triple_bind _ (pullSwitch_switched unmarked) fun answer => ?_
      cases answer with
      | some code => exact triple_pure code fun _ known => known
      | none =>
        refine triple_bind (fun _ => FrameSwitched packet begun)
          (triple_observe _ fun _ known => known) fun txPageIndex => ?_
        intro client known
        exact ⟨known.notes, known.fixed, known.marked, known.state, known.ip⟩

theorem validateReceivedData_switched (unmarked : begun.pull.merged = false) :
    Triple wait (Meets begun) (validateReceivedData packet) fun _ => FrameSwitched packet begun := by
  refine triple_bind _ (onControl_meets _ (isValidPacket_state packet)) fun valid => ?_
  split
  next => exact clientProcessData_switched unmarked
  next => exact triple_pure _ fun client meets => meets.switched unmarked

end Frame

/-- Notes are added, and those that went into the buffer of the node are from it. -/
def Sourcing (before after : Client) : Prop :=
  after.pull.node.fixed = before.pull.node.fixed /\
    exists added, after.pull.notes = before.pull.notes ++ added /\
      ∀ note ∈ added, note.Sourced before.pull.node.nodeMacAddress

/-- Out of the state of the instantaneous profile, its buffer and the state are left alone. -/
def LeavesIp (before after : Client) : Prop :=
  before.control.currentState ≠ .instantaneousProfile ->
    after.control.currentState ≠ .instantaneousProfile /\ after.pull.ipBuffer = before.pull.ipBuffer

theorem sourcing_refl (client : Client) : Sourcing client client := ⟨rfl, [], by simp, by simp⟩

theorem sourcing_trans (first second third : Client) (before : Sourcing first second)
    (behind : Sourcing second third) : Sourcing first third := by
  obtain ⟨fixed, front, notes, sourced⟩ := before
  obtain ⟨fixedLater, rest, notesLater, sourcedLater⟩ := behind
  have mac : second.pull.node.nodeMacAddress = first.pull.node.nodeMacAddress := congrArg Prod.fst fixed
  refine ⟨fixedLater.trans fixed, front ++ rest, by simp [notesLater, notes], ?_⟩
  intro note inside
  rcases List.mem_append.mp inside with earlier | later
  next => exact sourced note earlier
  next => exact mac ▸ sourcedLater note later

/-- The notes and the address of the node stay as they are. -/
theorem sourcing_kept {before after : Client} (notes : after.pull.notes = before.pull.notes)
    (fixed : after.pull.node.fixed = before.pull.node.fixed) : Sourcing before after :=
  ⟨fixed, [], by simp [notes], by simp⟩

theorem leavesIp_refl (client : Client) : LeavesIp client client := fun other => ⟨other, rfl⟩

theorem leavesIp_trans (first second third : Client) (before : LeavesIp first second)
    (behind : LeavesIp second third) : LeavesIp first third := by
  intro other
  obtain ⟨between, same⟩ := before other
  obtain ⟨later, sameLater⟩ := behind between
  exact ⟨later, sameLater.trans same⟩

theorem leavesIp_kept {before after : Client}
    (state : after.control.currentState = before.control.currentState)
    (ip : after.pull.ipBuffer = before.pull.ipBuffer) : LeavesIp before after :=
  fun other => ⟨state ▸ other, ip⟩

-- the address is inside the frame as soon as the frame has a record
theorem forNode_from (packet : Packet) (node : NodeInfo) (known : forNode packet node = true)
    (records : Dlms.storedRecords packet.frame ≠ []) :
    proprietaryMacAddress ++ slice packet.frame 11 4 = node.nodeMacAddress := by
  have long : 26 ≤ packet.length := by
    by_contra short
    have few : packet.frame.length < Dlms.pmeshHeaderSize + Dlms.dlmsHeaderSize := by
      simp [Packet.frame, Dlms.pmeshHeaderSize, Dlms.dlmsHeaderSize]
      omega
    simp [Dlms.storedRecords, few] at records
  have same : slice packet.frame 11 4 = slice packet.bytes 11 4 := by
    apply slice_congr
    intro index below
    rw [Packet.frame, byteAt_slice _ _ _ _ (by omega), Nat.zero_add]
  simp only [forNode, Bool.and_eq_true, decide_eq_true_eq] at known
  rw [same]
  exact known.2

/-- What transmitting does to a client. -/
structure Receiving (before after : Client) : Prop where
  sourcing : Sourcing before after
  leavesIp : LeavesIp before after

theorem receiving_refl (client : Client) : Receiving client client :=
  ⟨sourcing_refl client, leavesIp_refl client⟩

theorem receiving_trans (first second third : Client) (before : Receiving first second)
    (behind : Receiving second third) : Receiving first third :=
  ⟨sourcing_trans _ _ _ before.sourcing behind.sourcing,
    leavesIp_trans _ _ _ before.leavesIp behind.leavesIp⟩

theorem receiving_kept {before after : Client} (pull : after.pull = before.pull)
    (state : after.control.currentState = before.control.currentState) : Receiving before after :=
  ⟨sourcing_kept (by rw [pull]) (by rw [pull]), leavesIp_kept state (by rw [pull])⟩

theorem samePull_receiving {before after : Client} (same : SamePull before after) :
    Receiving before after := receiving_kept same.1 same.2

theorem noteFrame_receiving {wait : Client -> Prop} (packet : Packet) (last : Bool) (code : Code)
    (begun : Client) : Triple wait (FrameSwitched packet begun) (noteFrame packet last code)
      fun _ => Receiving begun := by
  intro client switched
  obtain ⟨note, ran, _, _, _, itsMerged, itsFrame⟩ := noteFrame_noted packet last code client
  rw [ran]
  refine ⟨⟨switched.fixed, [note], by simp [switched.notes], ?_⟩, ?_⟩
  next =>
    intro other inside merged records
    rw [List.mem_singleton.mp inside] at merged records ⊢
    rw [itsMerged] at merged
    rw [itsFrame] at records
    rw [Note.From, itsFrame]
    exact forNode_from packet begun.pull.node (switched.marked merged) records
  next =>
    intro other
    refine ⟨?_, switched.ip other⟩
    rcases switched.state with same | idle
    next => exact same ▸ other
    next => simp [idle]

/-- In front of a frame. -/
def unmarked (client : Client) : Client := { client with pull := { client.pull with merged := false } }

theorem unmarked_receiving (client : Client) : Receiving client (unmarked client) :=
  ⟨sourcing_kept rfl rfl, leavesIp_kept rfl rfl⟩

theorem processFrame_receiving (packet : Packet) (last : Bool) :
    Respects Receiving (processFrame packet last) := by
  intro client
  have framed : Triple (Receiving (unmarked client)) (· = client) (processFrame packet last)
      fun _ => Receiving (unmarked client) := by
    refine triple_bind (fun _ => Meets (unmarked client)) ?_ fun _ => ?_
    next =>
      intro before same
      rw [same]
      exact ⟨rfl, Or.inl rfl⟩
    refine triple_bind _ (validateReceivedData_switched rfl) fun code => ?_
    exact triple_bind _ (noteFrame_receiving packet last code _)
      fun _ => triple_pure code fun _ known => known
  exact receiving_trans _ _ _ (unmarked_receiving client) (framed.ends rfl)

theorem receivedFrames_receiving (buffer : Bytes) (length frames offset : Nat) (code : Code) :
    Respects Receiving (receivedFrames buffer length frames offset code) := by
  induction frames generalizing offset code with
  | zero => exact respects_pure receiving_refl _
  | succ frames ih =>
    rw [receivedFrames]
    split
    next => exact respects_bind receiving_trans (processFrame_receiving _ _) fun next => ih _ next
    next => exact respects_pure receiving_refl _

/-- The first packet of a connection is noted, and never marked. -/
theorem initCommunication_receiving (buffer : Bytes) (length : Nat) :
    Respects Receiving (beginFrame >>= fun _ => onControl (initCommunication buffer length) >>=
      fun code => noteFrame { buffer := buffer, offset := 0, length := length } true code >>=
        fun _ => pure code) := by
  intro client
  have noted : Triple (Receiving (unmarked client)) (· = client) (beginFrame >>= fun _ =>
      onControl (initCommunication buffer length) >>= fun code =>
        noteFrame { buffer := buffer, offset := 0, length := length } true code >>=
          fun _ => pure code) fun _ => Receiving (unmarked client) := by
    refine triple_bind (fun _ => Meets (unmarked client)) ?_ fun _ => ?_
    next =>
      intro before same
      rw [same]
      exact ⟨rfl, Or.inl rfl⟩
    refine triple_bind _ (onControl_meets _
      fun control => (initCommunication_kept buffer length control).1) fun code => ?_
    refine triple_bind _ ((noteFrame_receiving _ true code (unmarked client)).weaken
      (fun _ meets => meets.switched rfl) fun _ _ known => known) fun _ => ?_
    exact triple_pure code fun _ known => known
  exact receiving_trans _ _ _ (unmarked_receiving client) (noted.ends rfl)

theorem setControl_receiving (change : Control -> Control)
    (same : forall control, (change control).currentState = control.currentState) :
    Respects Receiving (setControl change) := fun client => receiving_kept rfl (same client.control)

theorem clientReceivedData_receiving (buffer : Bytes) (length : Nat) :
    Respects Receiving (clientReceivedData buffer length) := by
  unfold clientReceivedData
  split
  next => exact respects_pure receiving_refl _
  next =>
    refine respects_bind receiving_trans (setControl_receiving _ fun _ => rfl) fun _ => ?_
    refine respects_bind receiving_trans (respects_observe receiving_refl _) fun first => ?_
    split
    next =>
      exact respects_bind receiving_trans (setControl_receiving _ fun _ => rfl)
        fun _ => initCommunication_receiving buffer length
    next => exact receivedFrames_receiving _ _ _ _ _

theorem vectorReceive_receiving (vars : VectorVars) : Respects Receiving (vectorReceive vars) := by
  have sends {A : Type} {prog : Prog Client A} (respects : Respects SamePull prog) :
      Respects Receiving prog := fun client => samePull_receiving (respects client)
  refine respects_bind receiving_trans (sends (receiveData_respects samePull_frame 512))
    fun received => ?_
  split
  split
  next =>
    apply respects_bind receiving_trans (clientReceivedData_receiving _ _)
    intro code
    unfold vectorResponse
    split
    next => exact respects_pure receiving_refl _
    next =>
      split
      next =>
        exact respects_bind receiving_trans (setControl_receiving _ fun _ => rfl)
          fun _ => respects_pure receiving_refl _
      all_goals exact respects_pure receiving_refl _
  next =>
    refine respects_bind receiving_trans (sends (gatewayGone_respects samePull_frame)) fun gone => ?_
    split <;> exact respects_pure receiving_refl _

theorem vectorTurn_receiving (buff : Bytes) (maxRetries : Nat) (vars : VectorVars) :
    Respects Receiving (vectorTurn buff maxRetries vars) := by
  unfold vectorTurn
  split
  next =>
    split
    next =>
      apply respects_bind receiving_trans
        (fun client => samePull_receiving (writeWith_respects samePull_frame _ buff client))
      intro code
      split
      next => exact respects_pure receiving_refl _
      next => exact vectorReceive_receiving _
    next => exact vectorReceive_receiving _
  next => exact respects_pure receiving_refl _

theorem transmitVector_receiving (fuel : Nat) (buff : Bytes) (maxRetries : Nat) :
    Respects Receiving (transmitVector fuel buff maxRetries) := by
  apply respects_bind receiving_trans (respects_loop receiving_refl receiving_trans _
    (vectorTurn_receiving buff maxRetries) fuel {})
  intro leave
  cases leave with
  | returned code => exact respects_pure receiving_refl code
  | broken gotAnyResponse =>
    dsimp only
    split
    next =>
      exact respects_bind receiving_trans
        (fun client => samePull_receiving (disconnect_respects samePull_frame client))
        fun _ => respects_pure receiving_refl _
    next => exact respects_pure receiving_refl _

end Client

end Hes
