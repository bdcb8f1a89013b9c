import Hes.Respond
import Hes.Splitter

set_option autoImplicit false

namespace Hes.Coalesced

open Prog Client
open Splitter (Frame stream)

def pushed (packet : Packet) : Bool :=
  packet.length > 17 && packet.byte 0 = 0x2E && packet.byte 17 = 0x2C

section Answers

variable (packet : Packet)

/-- The code of a packet that is not pushed, from what the client is at when it is met. -/
def answer (client : Client) : Code :=
  let code := (processPacketType packet client.control).1
  if code ≠ .success then code
  else
    let odm := (odmResponse client.control.txPageIndex packet client.profiles).1
    if client.control.targetState = .pull then
      match (pullResponse client.control.currentState packet
          (client.inputs.now client.counters.received) client.pull).1 with
      | some code => code
      | none => odm
    else odm

theorem checkSourceAddress_control (control : Control) : exists armed,
    (checkSourceAddress packet control).2 = { control with needToValidateSrcAddr := armed } := by
  unfold checkSourceAddress
  split
  next => exact ⟨false, rfl⟩
  next => exact ⟨control.needToValidateSrcAddr, rfl⟩

theorem processPacketType_control (control : Control) : exists armed,
    (processPacketType packet control).2 = { control with needToValidateSrcAddr := armed } := by
  unfold processPacketType
  dsimp only
  (repeat' split) <;>
    first | exact checkSourceAddress_control packet control | exact ⟨control.needToValidateSrcAddr, rfl⟩

theorem clientProcessData_answer (client : Client) :
    (clientProcessData packet client).1 =
      some (if pushed packet then .pushDataReceived else answer packet client) := by
  obtain ⟨armed, kept⟩ := processPacketType_control packet client.control
  unfold clientProcessData
  rw [show (packet.length > 17 && packet.byte 0 = 0x2E && packet.byte 17 = 0x2C) = pushed packet from rfl]
  cases push : pushed packet
  case true => rfl
  case false =>
    have typed : onControl (processPacketType packet) client =
        (some (processPacketType packet client.control).1,
          { client with control := { client.control with needToValidateSrcAddr := armed } }) := by
      rw [← kept]
      rfl
    simp only [Bool.false_eq_true, if_false]
    rw [ran_bind typed, answer]
    by_cases success : (processPacketType packet client.control).1 = .success
    next =>
      simp only [success, ne_eq, not_true_eq_false, if_false]
      by_cases pull : client.control.targetState = .pull
      next =>
        simp only [pull, if_true]
        cases responded : pullResponse client.control.currentState packet
            (client.inputs.now client.counters.received) client.pull with
        | mk code after =>
          cases code <;> simp [pullSwitch, responded, bind, pure, observe, onProfiles]
      next => simp [pullSwitch, pull, bind, observe, onProfiles]
    next =>
      simp only [success, ne_eq, not_false_eq_true, if_true]
      rfl

theorem processPacketType_unpushed (control : Control) :
    (processPacketType packet control).1 ≠ .pushDataReceived := by
  have checked : (checkSourceAddress packet control).1 ≠ .pushDataReceived := by
    unfold checkSourceAddress
    split
    next => dsimp only; split <;> simp
    next => simp
  unfold processPacketType
  dsimp only
  (repeat' split) <;> first | exact checked | nofun

theorem processProfileData_unpushed {T : Type}
    (parse : Bytes -> UInt8 -> Dlms.PacketBuffer T -> Bool × Dlms.PacketBuffer T)
    (read : NodeProfileData -> Dlms.PacketBuffer T)
    (write : Dlms.PacketBuffer T -> NodeProfileData -> NodeProfileData) (now : Int) (pull : PullState) :
    (processProfileData parse read write packet now pull).1 ≠ .pushDataReceived := by
  unfold processProfileData
  dsimp only
  (repeat' split) <;> nofun

theorem inProgress_unpushed (type : UInt8) : inProgress packet type ≠ some .pushDataReceived := by
  unfold inProgress
  split <;> simp

theorem instantProfile_unpushed (command : UInt8) (process : Process) (now : Int) (pull : PullState)
    (other : (process packet now pull).1 ≠ .pushDataReceived) :
    (instantProfile command process packet now pull).1 ≠ some .pushDataReceived := by
  unfold instantProfile
  dsimp only
  (repeat' split) <;> first
    | exact inProgress_unpushed packet _
    | exact fun same => other (Option.some.inj same)
    | nofun

theorem pullResponse_unpushed (state : CurrentState) (now : Int) (pull : PullState) :
    (pullResponse state packet now pull).1 ≠ some .pushDataReceived := by
  have status (command : UInt8) : commissionResponse packet command ≠ some .pushDataReceived := by
    unfold commissionResponse
    split
    next => simp
    next => exact inProgress_unpushed packet _
  cases state
  case nameplate | dailyLoad | blockLoad | billingHistory =>
    exact instantProfile_unpushed packet _ _ now pull (processProfileData_unpushed packet _ _ _ now pull)
  case instantaneousProfile =>
    have other : (processIpProfileData packet now pull).1 ≠ .pushDataReceived :=
      processProfileData_unpushed packet _ _ _ now pull
    simp only [pullResponse, instantaneousProfile]
    (repeat' split) <;> first
    | exact inProgress_unpushed packet _
    | exact fun same => other (Option.some.inj same)
    | simp
  case flashSave => exact status _
  case softReset => exact status _
  case fuotaDisable => exact status _
  case internalFv =>
    simp only [pullResponse]
    (repeat' split) <;> first | exact inProgress_unpushed packet _ | simp
  case fuotaStatus =>
    simp only [pullResponse, fuotaStatusResponse]
    (repeat' split) <;> first | exact inProgress_unpushed packet _ | simp
  case dlmsConnect =>
    simp only [pullResponse, dlmsConnectResponse]
    (repeat' split) <;> first | exact inProgress_unpushed packet _ | simp
  case init | idle => simp [pullResponse]

theorem odmResponse_unpushed (txPageIndex : UInt8) (profiles : OdmProfiles) :
    (odmResponse txPageIndex packet profiles).1 ≠ .pushDataReceived := by
  have page : pageCode packet ≠ .pushDataReceived := by
    unfold pageCode
    split <;> simp
  have single : (OdmProfiles.handleSingleObisRead packet.bytes profiles).1 ≠ .pushDataReceived := by
    unfold OdmProfiles.handleSingleObisRead
    simp only
    (repeat' split) <;> nofun
  unfold odmResponse meshDataResponse silenceResponse
  simp only
  (repeat' split) <;> first | exact page | exact single | nofun

theorem answer_unpushed (client : Client) : answer packet client ≠ .pushDataReceived := by
  unfold answer
  dsimp only
  split
  next => exact processPacketType_unpushed packet client.control
  next =>
    split
    next =>
      split
      next code responded =>
        intro push
        exact pullResponse_unpushed packet _ _ _ (responded.trans (congrArg some push))
      next => exact odmResponse_unpushed packet _ _
    next => exact odmResponse_unpushed packet _ _

theorem processPacketType_checked (first second : Control)
    (checked : (checkSourceAddress packet first).1 = (checkSourceAddress packet second).1) :
    (processPacketType packet first).1 = (processPacketType packet second).1 := by
  unfold processPacketType
  simp only [apply_ite Prod.fst, checked]

theorem processProfileData_node {T : Type}
    (parse : Bytes -> UInt8 -> Dlms.PacketBuffer T -> Bool × Dlms.PacketBuffer T)
    (read : NodeProfileData -> Dlms.PacketBuffer T)
    (write : Dlms.PacketBuffer T -> NodeProfileData -> NodeProfileData) (now : Int)
    (first second : PullState) (node : first.node = second.node) :
    (processProfileData parse read write packet now first).1 =
      (processProfileData parse read write packet now second).1 := by
  unfold processProfileData
  rw [node]
  dsimp only
  (repeat' split) <;> rfl

theorem pullResponse_node (state : CurrentState) (now : Int) (first second : PullState)
    (node : first.node = second.node) (current : first.currentNode = second.currentNode) :
    (pullResponse state packet now first).1 = (pullResponse state packet now second).1 := by
  have instant (command : UInt8) (process : Process)
      (same : (process packet now first).1 = (process packet now second).1) :
      (instantProfile command process packet now first).1 =
        (instantProfile command process packet now second).1 := by
    unfold instantProfile
    simp only [current, apply_ite Prod.fst, same]
  cases state
  case nameplate => exact instant _ _ (processProfileData_node packet _ _ _ now _ _ node)
  case dailyLoad => exact instant _ _ (processProfileData_node packet _ _ _ now _ _ node)
  case blockLoad => exact instant _ _ (processProfileData_node packet _ _ _ now _ _ node)
  case billingHistory => exact instant _ _ (processProfileData_node packet _ _ _ now _ _ node)
  case instantaneousProfile =>
    have same : (processIpProfileData packet now first).1 = (processIpProfileData packet now second).1 :=
      processProfileData_node packet _ _ _ now _ _ node
    simp only [pullResponse, instantaneousProfile, current, apply_ite Prod.fst, same]
  case internalFv => simp only [pullResponse, current, apply_ite Prod.fst]
  all_goals rfl

/-- Clients between which no packet is told apart, but for its source address. -/
structure Alike (first second : Client) : Prop where
  targetState : second.control.targetState = first.control.targetState
  currentState : second.control.currentState = first.control.currentState
  txPageIndex : second.control.txPageIndex = first.control.txPageIndex
  inputs : second.inputs = first.inputs
  counters : second.counters = first.counters
  profiles : second.profiles = first.profiles
  node : second.pull.node = first.pull.node
  currentNode : second.pull.currentNode = first.pull.currentNode

theorem Alike.trans {first second third : Client} (before : Alike first second)
    (behind : Alike second third) : Alike first third where
  targetState := behind.targetState.trans before.targetState
  currentState := behind.currentState.trans before.currentState
  txPageIndex := behind.txPageIndex.trans before.txPageIndex
  inputs := behind.inputs.trans before.inputs
  counters := behind.counters.trans before.counters
  profiles := behind.profiles.trans before.profiles
  node := behind.node.trans before.node
  currentNode := behind.currentNode.trans before.currentNode

theorem answer_alike {first second : Client} (alike : Alike first second)
    (checked : (checkSourceAddress packet second.control).1 = (checkSourceAddress packet first.control).1) :
    answer packet second = answer packet first := by
  unfold answer
  rw [processPacketType_checked packet _ _ checked, alike.targetState, alike.currentState,
    alike.txPageIndex, alike.inputs, alike.counters, alike.profiles,
    pullResponse_node packet _ _ _ _ alike.node alike.currentNode]

end Answers

section Frames

/-- A frame in what was received, with what stands around it. -/
def packetAt (front : Bytes) (frame : Frame) (rest : Bytes) : Packet :=
  { buffer := front ++ (frame.bytes ++ rest), offset := front.length, length := frame.bytes.length }

/-- A whole frame of the push profiles. -/
def Pushed (frame : Frame) : Prop := 17 < frame.bytes.length /\ byteAt frame.bytes 17 = 0x2C

variable (front : Bytes) (frame : Frame) (rest : Bytes)

theorem packetAt_byte (index : Nat) (inside : index < frame.bytes.length) :
    (packetAt front frame rest).byte index = byteAt frame.bytes index := by
  rw [packetAt, Packet.byte, byteAt_append_right, byteAt_append_left _ _ _ inside]

theorem packetAt_framed : (packetAt front frame rest).byte 0 = 0x2E /\
    ((packetAt front frame rest).byte 1).toNat + 1 = (packetAt front frame rest).length := by
  have long := frame.long
  rw [packetAt_byte _ _ _ 0 (by omega), packetAt_byte _ _ _ 1 (by omega)]
  constructor
  next =>
    have starts := frame.starts
    rw [List.head?_eq_getElem?] at starts
    simp [byteAt, starts]
  next => exact frame.sized.symm

theorem pushed_iff : pushed (packetAt front frame rest) = true <-> Pushed frame := by
  have starts := (packetAt_framed front frame rest).1
  simp only [pushed, starts, Pushed, Bool.and_eq_true, decide_eq_true_eq]
  constructor
  next =>
    rintro ⟨⟨long, _⟩, push⟩
    have long : 17 < frame.bytes.length := long
    exact ⟨long, packetAt_byte front frame rest 17 long ▸ push⟩
  next =>
    rintro ⟨long, push⟩
    exact ⟨⟨long, trivial⟩, (packetAt_byte front frame rest 17 long).trans push⟩

/-- What `is_valid_packet` leaves of the check makes no difference to a packet it accepts. -/
theorem isValidPacket_checked (control : Control)
    (valid : (isValidPacket (packetAt front frame rest) control).1 = true) :
    (checkSourceAddress (packetAt front frame rest)
        (isValidPacket (packetAt front frame rest) control).2).1 =
      (checkSourceAddress (packetAt front frame rest) control).1 := by
  have framed := packetAt_framed front frame rest
  simp only [isValidPacket, framed, decide_true, Bool.true_and, if_true] at valid ⊢
  split at valid
  next push => simp [push]
  next other =>
    cases armed : control.needToValidateSrcAddr with
    | true =>
      simp only [armed, if_true] at valid
      simp [other, armed, checkSourceAddress, valid]
    | false => simp [armed] at valid

theorem isValidPacket_control (control : Control) : exists armed,
    (isValidPacket (packetAt front frame rest) control).2 =
      { control with needToValidateSrcAddr := armed } := by
  have framed := packetAt_framed front frame rest
  simp only [isValidPacket, framed, decide_true, Bool.true_and, if_true]
  split
  next => exact ⟨control.needToValidateSrcAddr, rfl⟩
  next =>
    split
    next => exact ⟨false, rfl⟩
    next => exact ⟨control.needToValidateSrcAddr, rfl⟩

theorem processFrame_code (last : Bool) (client : Client) :
    (processFrame (packetAt front frame rest) last client).1 =
      some (if (isValidPacket (packetAt front frame rest) client.control).1 then
        if pushed (packetAt front frame rest) then .pushDataReceived
        else answer (packetAt front frame rest) client
      else .invalidResponse) := by
  let packet := packetAt front frame rest
  obtain ⟨armed, left⟩ := isValidPacket_control front frame rest client.control
  let begun : Client := { client with pull := { client.pull with merged := false } }
  let checked : Client := { begun with control := { client.control with needToValidateSrcAddr := armed } }
  have began : beginFrame client = (some (), begun) := rfl
  have validated : onControl (isValidPacket packet) begun =
      (some (isValidPacket packet client.control).1, checked) := by
    simp only [checked, ← left]
    rfl
  have received : exists after, validateReceivedData packet begun =
      (some (if (isValidPacket packet client.control).1 then
        if pushed packet then .pushDataReceived else answer packet client
        else .invalidResponse), after) := by
    rw [validateReceivedData, ran_bind validated]
    cases valid : (isValidPacket packet client.control).1 with
    | true =>
      have alike : Alike client checked := ⟨rfl, rfl, rfl, rfl, rfl, rfl, rfl, rfl⟩
      have control : checked.control = (isValidPacket packet client.control).2 := left.symm
      have same := answer_alike packet alike (by
        rw [control]
        exact isValidPacket_checked front frame rest client.control valid)
      have code := clientProcessData_answer packet checked
      rw [same] at code
      exact ⟨_, returned_of_fst _ _ _ code⟩
    | false => exact ⟨checked, rfl⟩
  obtain ⟨after, received⟩ := received
  rw [processFrame, ran_bind began, ran_bind received]
  rfl

theorem processFrame_push (push : Pushed frame) (last : Bool) (client : Client) : exists after,
    processFrame (packetAt front frame rest) last client = (some .pushDataReceived, after) /\
      Alike client after /\ after.control = client.control := by
  let packet := packetAt front frame rest
  let begun : Client := { client with pull := { client.pull with merged := false } }
  have framed := packetAt_framed front frame rest
  have kind : packet.byte 17 = 0x2C := (packetAt_byte front frame rest 17 push.1).trans push.2
  have began : beginFrame client = (some (), begun) := rfl
  have valid : isValidPacket packet client.control = (true, client.control) := by
    simp [isValidPacket, packet, framed, kind]
  have validated : onControl (isValidPacket packet) begun = (some true, begun) := by
    simp only [onControl, begun, valid]
  have received : validateReceivedData packet begun = (some .pushDataReceived, begun) := by
    rw [validateReceivedData, ran_bind validated]
    simp only [if_true]
    have is_push := (pushed_iff front frame rest).mpr push
    unfold pushed at is_push
    rw [clientProcessData, if_pos is_push]
    rfl
  rw [processFrame, ran_bind began, ran_bind received]
  exact ⟨_, rfl, ⟨rfl, rfl, rfl, rfl, rfl, rfl, rfl, rfl⟩, rfl⟩

end Frames

section Loop

variable (buffer front rest : Bytes) (frames : Nat) (code : Code)

theorem receivedFrames_frame (frame : Frame) (shape : buffer = front ++ (frame.bytes ++ rest)) :
    exists last, receivedFrames buffer buffer.length (frames + 1) front.length code =
      processFrame (packetAt front frame rest) last >>= fun next =>
        receivedFrames buffer buffer.length frames (front ++ frame.bytes).length next := by
  have long := frame.long
  subst shape
  have inside : front.length < (front ++ (frame.bytes ++ rest)).length := by
    simp only [List.length_append]
    omega
  have size : (byteAt (front ++ (frame.bytes ++ rest)) (front.length + 1)).toNat + 1 =
      frame.bytes.length := by
    have byte := packetAt_byte front frame rest 1 (by omega)
    exact (congrArg (fun byte : UInt8 => byte.toNat + 1) byte).trans frame.sized.symm
  refine ⟨decide (frames = 0) ||
    decide (front.length + frame.bytes.length ≥ (front ++ (frame.bytes ++ rest)).length), ?_⟩
  rw [receivedFrames, if_pos inside]
  simp only [size]
  simp only [packetAt, List.length_append]

theorem receivedFrames_pushes (pushes : List Frame) (push : ∀ frame ∈ pushes, Pushed frame)
    (shape : buffer = front ++ (stream pushes ++ rest)) (client : Client) :
    exists after left, Alike client after /\ after.control = client.control /\
      receivedFrames buffer buffer.length (frames + pushes.length) front.length code client =
        receivedFrames buffer buffer.length frames (front ++ stream pushes).length left after := by
  induction pushes generalizing front code client with
  | nil => exact ⟨client, code, ⟨rfl, rfl, rfl, rfl, rfl, rfl, rfl, rfl⟩, rfl, by simp [stream]⟩
  | cons frame pushes ih =>
    have streamed : stream (frame :: pushes) = frame.bytes ++ stream pushes := rfl
    obtain ⟨last, turn⟩ := receivedFrames_frame buffer front (stream pushes ++ rest)
      (frames + pushes.length) code frame (by simp [shape, streamed])
    obtain ⟨met, ran, same, control⟩ := processFrame_push front frame (stream pushes ++ rest)
      (push frame List.mem_cons_self) last client
    obtain ⟨after, left, alike, kept, run⟩ := ih (front ++ frame.bytes) .pushDataReceived
      (fun other inside => push other (List.mem_cons_of_mem frame inside))
      (by simp [shape, streamed]) met
    refine ⟨after, left, same.trans alike, kept.trans control, ?_⟩
    rw [List.length_cons, ← Nat.add_assoc, turn, ran_bind ran, run, streamed, List.append_assoc]

/-- With nothing but pushed frames left to take, the loop returns the code of one. -/
theorem receivedFrames_ends (pushes : List Frame) (push : ∀ frame ∈ pushes, Pushed frame)
    (shape : buffer = front ++ (stream pushes ++ rest)) (enough : rest = [] \/ frames ≤ pushes.length)
    (client : Client) :
    (receivedFrames buffer buffer.length frames front.length code client).1 =
      some (if frames = 0 \/ pushes = [] then code else .pushDataReceived) := by
  induction frames generalizing front pushes code client with
  | zero => rfl
  | succ frames ih =>
    cases pushes with
    | nil =>
      have none : rest = [] := by simpa using enough
      have ended : ¬ front.length < buffer.length := by simp [shape, none, stream]
      rw [receivedFrames, if_neg ended]
      simp [pure]
    | cons frame pushes =>
      have streamed : stream (frame :: pushes) = frame.bytes ++ stream pushes := rfl
      obtain ⟨last, turn⟩ := receivedFrames_frame buffer front (stream pushes ++ rest)
        frames code frame (by simp [shape, streamed])
      obtain ⟨met, ran, same, control⟩ := processFrame_push front frame (stream pushes ++ rest)
        (push frame List.mem_cons_self) last client
      rw [turn, ran_bind ran, ih (front ++ frame.bytes) .pushDataReceived pushes
        (fun other inside => push other (List.mem_cons_of_mem frame inside))
        (by simp [shape, streamed]) (by simpa using enough) met]
      simp

end Loop

/-- What one `recv` brought: whole frames, one of them the response, the others pushed. -/
structure Chunk where
  before : List Frame
  response : Frame
  after : List Frame
  pushedBefore : ∀ frame ∈ before, Pushed frame
  pushedAfter : ∀ frame ∈ after, Pushed frame
  unpushed : ¬ Pushed response
  fits : (stream (before ++ response :: after)).length ≤ 4096

namespace Chunk

variable (chunk : Chunk)

def buffer : Bytes := stream (chunk.before ++ chunk.response :: chunk.after)

def packet : Packet := packetAt (stream chunk.before) chunk.response (stream chunk.after)

/-- No frame is taken behind the response: eleven of them at most are taken. -/
def LastTaken : Prop :=
  chunk.before.length ≤ 10 /\ (chunk.after = [] \/ chunk.before.length = 10)

theorem buffer_shape :
    chunk.buffer = stream chunk.before ++ (chunk.response.bytes ++ stream chunk.after) := by
  simp [buffer, stream]

end Chunk

/-- The flag and the address are all that a whole frame's source is checked against. -/
structure SameCheck (first second : Control) : Prop where
  armed : second.needToValidateSrcAddr = first.needToValidateSrcAddr
  address : second.srcAddrCheckBuffer = first.srcAddrCheckBuffer

theorem sameCheck_valid (front : Bytes) (frame : Frame) (rest : Bytes) {first second : Control}
    (same : SameCheck first second) :
    (isValidPacket (packetAt front frame rest) second).1 =
        (isValidPacket (packetAt front frame rest) first).1 /\
      (checkSourceAddress (packetAt front frame rest) second).1 =
        (checkSourceAddress (packetAt front frame rest) first).1 := by
  have framed := packetAt_framed front frame rest
  have source : validateSourceAddress (packetAt front frame rest) second =
      validateSourceAddress (packetAt front frame rest) first := by
    simp only [validateSourceAddress, same.address]
  constructor
  next => simp only [isValidPacket, framed, same.armed, source, decide_true, Bool.true_and, if_true,
    apply_ite Prod.fst]
  next => simp only [checkSourceAddress, same.armed, source, apply_ite Prod.fst]

theorem clientReceivedData_frames (buffer : Bytes) (client : Client) (fits : buffer.length ≤ 4096)
    (handshaken : client.control.commInitStatus = false) : exists taken,
    Alike client taken /\ SameCheck client.control taken.control /\
      clientReceivedData buffer buffer.length client =
        receivedFrames buffer buffer.length 11 0 .success taken := by
  let taken : Client := { client with control := { client.control with
    clientRxBuffer := buffer.take buffer.length, bufferRxLength := buffer.length } }
  refine ⟨taken, ⟨rfl, rfl, rfl, rfl, rfl, rfl, rfl, rfl⟩, ⟨rfl, rfl⟩, ?_⟩
  have copied : setControl (fun control => { control with
      clientRxBuffer := buffer.take buffer.length, bufferRxLength := buffer.length }) client =
      (some (), taken) := rfl
  have past : observe (fun client : Client => client.control.commInitStatus) taken =
      (some false, taken) := by simp [observe, taken, handshaken]
  rw [clientReceivedData, if_neg (by omega), ran_bind copied, ran_bind past]
  rfl

theorem clientReceivedData_code (chunk : Chunk) (client : Client)
    (handshaken : client.control.commInitStatus = false) :
    (chunk.LastTaken -> (clientReceivedData chunk.buffer chunk.buffer.length client).1 =
        some (if (isValidPacket chunk.packet client.control).1 then answer chunk.packet client
          else .invalidResponse)) /\
      (¬ chunk.LastTaken -> (clientReceivedData chunk.buffer chunk.buffer.length client).1 =
        some .pushDataReceived) := by
  have shape := chunk.buffer_shape
  obtain ⟨taken, alike, same, run⟩ :=
    clientReceivedData_frames chunk.buffer client chunk.fits handshaken
  rw [run]
  by_cases few : chunk.before.length ≤ 10
  next =>
    obtain ⟨met, left, met_alike, control, pushes⟩ := receivedFrames_pushes chunk.buffer []
      (chunk.response.bytes ++ stream chunk.after) (10 - chunk.before.length + 1) .success chunk.before
      chunk.pushedBefore shape taken
    obtain ⟨last, turn⟩ := receivedFrames_frame chunk.buffer (stream chunk.before) (stream chunk.after)
      (10 - chunk.before.length) left chunk.response shape
    have checks := sameCheck_valid (stream chunk.before) chunk.response (stream chunk.after) same
    have code := processFrame_code (stream chunk.before) chunk.response (stream chunk.after) last met
    have unpushed : pushed chunk.packet = false := by
      simpa [Chunk.packet] using mt (pushed_iff _ _ _).mp chunk.unpushed
    rw [control, checks.1, answer_alike _ (alike.trans met_alike) (by rw [control]; exact checks.2)] at code
    change (processFrame chunk.packet last met).1 = some (if (isValidPacket chunk.packet client.control).1
      then if pushed chunk.packet then .pushDataReceived else answer chunk.packet client
      else .invalidResponse) at code
    change _ = processFrame chunk.packet last >>= _ at turn
    rw [unpushed] at code
    have ends := receivedFrames_ends chunk.buffer (stream chunk.before ++ chunk.response.bytes) []
      (10 - chunk.before.length)
      (if (isValidPacket chunk.packet client.control).1 then answer chunk.packet client
        else .invalidResponse) chunk.after chunk.pushedAfter (by simp [shape]) (.inl rfl)
    rw [show 11 = 10 - chunk.before.length + 1 + chunk.before.length from by omega,
      show (0 : Nat) = ([] : Bytes).length from rfl, pushes, List.nil_append, turn,
      ran_bind (returned_of_fst _ _ _ code)]
    have spare : (10 - chunk.before.length = 0 \/ chunk.after = []) <->
        chunk.after = [] \/ chunk.before.length = 10 := by
      rw [or_comm, show 10 - chunk.before.length = 0 <-> chunk.before.length = 10 from by omega]
    simp only [Bool.false_eq_true, if_false, ends, Chunk.LastTaken]
    constructor
    next =>
      rintro ⟨_, final⟩
      rw [if_pos (spare.mpr final)]
    next =>
      intro behind
      rw [if_neg fun final => behind ⟨few, spare.mp final⟩]
  next =>
    have ends := receivedFrames_ends chunk.buffer [] (chunk.response.bytes ++ stream chunk.after) 11
      .success chunk.before chunk.pushedBefore shape (.inr (by omega)) taken
    have some : chunk.before ≠ [] := by
      intro none
      simp [none] at few
    rw [show (0 : Nat) = ([] : Bytes).length from rfl, ends]
    constructor
    next => exact fun last => absurd last.1 few
    next => simp [some]

/-- The result of the response is returned exactly where no frame is taken behind it and
`is_valid_packet` lets it through, or it would have been refused anyway. -/
theorem response_returned_iff (chunk : Chunk) (client : Client)
    (handshaken : client.control.commInitStatus = false) :
    (clientReceivedData chunk.buffer chunk.buffer.length client).1 =
        (clientProcessData chunk.packet client).1 <->
      chunk.LastTaken /\ ((isValidPacket chunk.packet client.control).1 = true \/
        (clientProcessData chunk.packet client).1 = some .invalidResponse) := by
  have unpushed : pushed chunk.packet = false := by
    simpa [Chunk.packet] using mt (pushed_iff _ _ _).mp chunk.unpushed
  obtain ⟨taken, pushed_over⟩ := clientReceivedData_code chunk client handshaken
  rw [clientProcessData_answer, unpushed]
  simp only [Bool.false_eq_true, if_false, Option.some.injEq]
  by_cases last : chunk.LastTaken
  next =>
    rw [taken last]
    cases valid : (isValidPacket chunk.packet client.control).1 with
    | true => simp [last]
    | false => simp [last, eq_comm]
  next =>
    rw [pushed_over last]
    simp [last, (answer_unpushed chunk.packet client).symm]

def pushFrame : Frame where
  bytes := [0x2E, 0x12, 0x0E, 0, 0, 0, 0, 0, 0, 0, 0, 0x00, 0x00, 0x00, 0x03, 0x00, 0x01] ++ [0x2C, 0x00]
  starts := rfl
  long := by decide
  sized := rfl

/-- The instantaneous reply of the node that was asked. -/
def reply : Frame where
  bytes := [0x2E, 0x1E, 0x08, 0, 0, 0, 0, 0, 0, 0, 0, 0x00, 0x00, 0x00, 0x02, 0x00, 0x01] ++
    [0x2D, 0x00, 0x0D, 0x00, 0x0E, 0x01, 0x00, 0x00, 0x01] ++ [0x01, 0x00, 0x11, 0x05] ++ [0x61]
  starts := rfl
  long := by decide
  sized := rfl

def asked : Client := { control := { srcAddrCheckBuffer := [0, 0, 0, 2], needToValidateSrcAddr := true } }

theorem pushFrame_pushed : ∀ frame ∈ [pushFrame], Pushed frame := by
  simp [Pushed, pushFrame, byteAt]

def pushedFirst : Chunk where
  before := [pushFrame]
  response := reply
  after := []
  pushedBefore := pushFrame_pushed
  pushedAfter := by simp
  unpushed := by simp [Pushed, reply, byteAt]
  fits := by decide

def pushedLast : Chunk where
  before := []
  response := reply
  after := [pushFrame]
  pushedBefore := by simp
  pushedAfter := pushFrame_pushed
  unpushed := by simp [Pushed, reply, byteAt]
  fits := by decide

theorem reply_behind_push :
    (clientReceivedData pushedFirst.buffer pushedFirst.buffer.length asked).1 =
      (clientProcessData pushedFirst.packet asked).1 :=
  (response_returned_iff pushedFirst asked rfl).mpr
    ⟨⟨by decide, .inl rfl⟩, .inl (by decide +kernel)⟩

/-- With the push behind it, the reply is stored and its result lost. -/
theorem reply_before_push :
    (isValidPacket pushedLast.packet asked.control).1 = true /\
    (clientProcessData pushedLast.packet asked).1 = some .success /\
    (clientReceivedData pushedLast.buffer pushedLast.buffer.length asked).1 = some .pushDataReceived := by
  decide +kernel

end Hes.Coalesced
