import Hes.Pull

set_option autoImplicit false

namespace Hes

open Prog

/-- What a profile buffer holds: the records by their index, or the blocks of a block load. -/
inductive Contents where
  | records (map : Dlms.DlmsRecordMap)
  | blocks (load : Dlms.BlockLoad)

namespace Contents

def store : Contents -> UInt8 × Dlms.DlmsValue -> Contents
  | .records map, record => .records (Dlms.storeRecord map record)
  | .blocks load, record => .blocks (Dlms.storeBlockRecord load record)

def merge (contents : Contents) (frame : Bytes) : Contents :=
  (Dlms.storedRecords frame).foldl store contents

def mergeAll (contents : Contents) (frames : List Bytes) : Contents := frames.foldl merge contents

theorem foldl_records (frame : List (UInt8 × Dlms.DlmsValue)) (map : Dlms.DlmsRecordMap) :
    frame.foldl store (.records map) = .records (frame.foldl Dlms.storeRecord map) := by
  induction frame generalizing map with
  | nil => rfl
  | cons record rest ih => exact ih (Dlms.storeRecord map record)

theorem foldl_blocks (frame : List (UInt8 × Dlms.DlmsValue)) (load : Dlms.BlockLoad) :
    frame.foldl store (.blocks load) = .blocks (frame.foldl Dlms.storeBlockRecord load) := by
  induction frame generalizing load with
  | nil => rfl
  | cons record rest ih => exact ih (Dlms.storeBlockRecord load record)

end Contents

namespace Profile

def contents : Profile -> NodeProfileData -> Contents
  | .nameplate, data => .records data.namePlateProfile.profileData
  | .instantaneous, data => .records data.instantaneousProfile.profileData
  | .billingHistory, data => .records data.billingHistory.profileData
  | .dailyLoad, data => .records data.dailyLoadProfile.profileData
  | .blockLoad, data => .blocks data.blockLoadProfile.profileData

def empty : Profile -> Contents
  | .blockLoad => .blocks {}
  | _ => .records fun _ => none

theorem contents_clear (profile : Profile) (data : NodeProfileData) :
    profile.contents (profile.clear data) = profile.empty := by
  cases profile <;> rfl

end Profile

def mergedFrames (notes : List Note) : List Bytes :=
  (notes.filter fun note => note.merged).map fun note => note.frame

theorem mergedFrames_append (front rest : List Note) :
    mergedFrames (front ++ rest) = mergedFrames front ++ mergedFrames rest := by
  simp [mergedFrames]

/-- The codes that end a transmission with a page. -/
def pageDone (code : Code) : Bool := code = .success || code = .nextPagePresent

/-- A page that was stored and answered for parsed in full. -/
def Note.Parsed (note : Note) : Prop :=
  note.merged = true -> pageDone note.code = true ->
    Dlms.parses note.frame (byteAt note.frame 25) = true

theorem frame_count (packet : Packet) (parsed : Dlms.parses packet.frame (packet.byte 25) = true) :
    Dlms.parses packet.frame (byteAt packet.frame 25) = true := by
  have long : 26 ≤ packet.length := by
    simp only [Dlms.parses, Bool.and_eq_true, decide_eq_true_eq] at parsed
    simpa [Packet.frame, Dlms.pmeshHeaderSize, Dlms.dlmsHeaderSize] using parsed.1
  have same : byteAt packet.frame 25 = packet.byte 25 := by
    have inside : 25 < packet.length := by omega
    simp [Packet.frame, Packet.byte, Packet.bytes, slice, byteAt, List.getD_eq_getElem?_getD, inside]
  rwa [same]

namespace PullState

/-- What the switch does to a pull in the state of a profile: nothing, or one page more. -/
def Merged (profile : Profile) (packet : Packet) (pull : PullState) (code : Option Code)
    (after : PullState) : Prop :=
  after = pull /\ code ≠ some .nextPagePresent \/
  after.merged = true /\ after.notes = pull.notes /\ after.asked = pull.asked /\
    profile.contents after.node.profileData =
      (profile.contents pull.node.profileData).merge packet.frame /\
    exists done, code = some done /\ (pageDone done = true ->
      Dlms.parses packet.frame (packet.byte 25) = true)

variable (packet : Packet) (now : Int) (pull : PullState)

theorem processProfileData_merged {T : Type} (profile : Profile)
    (store : T -> UInt8 × Dlms.DlmsValue -> T)
    (read : NodeProfileData -> Dlms.PacketBuffer T)
    (write : Dlms.PacketBuffer T -> NodeProfileData -> NodeProfileData)
    (stored : forall buffer, buffer.profileData =
        (Dlms.storedRecords packet.frame).foldl store (read pull.node.profileData).profileData ->
      profile.contents (write buffer pull.node.profileData) =
        (profile.contents pull.node.profileData).merge packet.frame) :
    Merged profile packet pull
      (some (Client.processProfileData (Dlms.parseRecordsInto store) read write packet now pull).1)
      (Client.processProfileData (Dlms.parseRecordsInto store) read write packet now pull).2 := by
  unfold Client.processProfileData Dlms.parseRecordsInto
  by_cases accepted : Client.forNode packet pull.node = true
  next =>
    by_cases parsed : Dlms.parses packet.frame (packet.byte 25) = true
    next =>
      refine Or.inr ⟨?_, ?_, ?_, ?_, _, rfl, fun _ => parsed⟩
      all_goals simp only [accepted, parsed, if_true]
      exact stored _ rfl
    next =>
      refine Or.inr ⟨?_, ?_, ?_, ?_, .failure, ?_, ?_⟩
      all_goals simp only [accepted, parsed, if_true]
      next => rfl
      next => rfl
      next => rfl
      next => exact stored _ rfl
      next => rfl
      next => simp [pageDone]
  next =>
    simp [Merged, accepted]

theorem inProgress_code (type : UInt8) :
    Client.inProgress packet type ≠ some .nextPagePresent := by
  unfold Client.inProgress
  split <;> simp

theorem instantProfile_merged (profile : Profile) (command : UInt8) (process : Client.Process)
    (processed : Merged profile packet pull (some (process packet now pull).1)
      (process packet now pull).2) :
    Merged profile packet pull (Client.instantProfile command process packet now pull).1
      (Client.instantProfile command process packet now pull).2 := by
  have same (code : Option Code) (other : code ≠ some .nextPagePresent) :
      Merged profile packet pull code pull := Or.inl ⟨rfl, other⟩
  unfold Client.instantProfile
  split
  next => exact same _ (by simp)
  next =>
    split
    next =>
      split
      next =>
        split
        next => exact same _ (by simp)
        next => exact processed
      next =>
        split
        next => exact same _ (by simp)
        next => exact same _ (by simp)
    next => exact same _ (inProgress_code packet 0x07)

theorem instantaneousProfile_merged :
    Merged .instantaneous packet pull (Client.instantaneousProfile packet now pull).1
      (Client.instantaneousProfile packet now pull).2 := by
  unfold Client.instantaneousProfile
  split
  next => exact Or.inl ⟨rfl, by simp⟩
  next =>
    split
    next =>
      apply processProfileData_merged
      intro buffer same
      simp [Profile.contents, Contents.merge, Contents.foldl_records, same]
    next => exact Or.inl ⟨rfl, inProgress_code packet 0x07⟩

theorem pullResponse_merged (profile : Profile) :
    Merged profile packet pull (Client.pullResponse profile.state packet now pull).1
      (Client.pullResponse profile.state packet now pull).2 := by
  cases profile
  case instantaneous => exact instantaneousProfile_merged packet now pull
  all_goals
    apply instantProfile_merged
    apply processProfileData_merged
    intro buffer same
    simp [Profile.contents, Contents.merge, Contents.foldl_records, Contents.foldl_blocks, same]

-- while the connection is renewed, or when the machine went idle, nothing is stored
theorem pullResponse_collects (profile : Profile) (state : CurrentState)
    (known : state = profile.state \/ state = .dlmsConnect \/ state = .idle) :
    Merged profile packet pull (Client.pullResponse state packet now pull).1
        (Client.pullResponse state packet now pull).2 /\
      ((Client.pullResponse state packet now pull).2 = pull \/ state = profile.state) := by
  rcases known with rfl | rfl | rfl
  next => exact ⟨pullResponse_merged packet now pull profile, Or.inr rfl⟩
  next =>
    refine ⟨Or.inl ⟨rfl, ?_⟩, Or.inl rfl⟩
    simp only [Client.pullResponse, Client.dlmsConnectResponse]
    split
    next => split <;> [simp; (split <;> simp)]
    next => exact inProgress_code packet 0x07
  next => exact ⟨Or.inl ⟨rfl, by simp [Client.pullResponse]⟩, Or.inl rfl⟩

end PullState

/-- A pull of a profile since it began, in the state `state` or idle, while `asked` is asked for. -/
structure Gathering (profile : Profile) (start : PullState) (state : CurrentState) (asked : UInt8)
    (added : List Note) (client : Client) : Prop where
  notes : client.pull.notes = start.notes ++ added
  contents : profile.contents client.pull.node.profileData =
    (profile.contents start.node.profileData).mergeAll (mergedFrames added)
  parsed : ∀ note ∈ added, note.Parsed
  own : ∀ note ∈ added, note.merged = true -> state = profile.state
  asked : client.pull.asked = asked
  state : client.control.currentState = state \/ client.control.currentState = .idle

/-- The note of the frame just met. -/
structure Met (asked : UInt8) (last : Bool) (code : Code) (note : Note) : Prop where
  next : code = .nextPagePresent -> note.merged = true
  asked : note.asked = asked
  last : note.last = last
  code : note.code = code

namespace Client

/-- Sending and receiving leave the pull and the current state alone. -/
def SamePull (before after : Client) : Prop :=
  after.pull = before.pull /\ after.control.currentState = before.control.currentState

theorem samePull_frame : SendFrame SamePull where
  refl := fun _ => ⟨rfl, rfl⟩
  trans := fun _ _ _ first second => ⟨second.1.trans first.1, second.2.trans first.2⟩
  destination := by
    intro client buf
    refine ⟨rfl, ?_⟩
    dsimp only [getDestinationAddress]
    split <;> rfl
  counters := fun _ _ => ⟨rfl, rfl⟩
  assign := fun _ => ⟨rfl, rfl⟩
  send := fun _ _ _ => ⟨rfl, rfl⟩

section Frames

variable {profile : Profile} {start : PullState} {state : CurrentState} {asked : UInt8}
  {added : List Note}

theorem Gathering.same {before after : Client}
    (gathering : Gathering profile start state asked added before)
    (same : SamePull before after) : Gathering profile start state asked added after := by
  obtain ⟨pull, current⟩ := same
  constructor
  next => rw [pull]; exact gathering.notes
  next => rw [pull]; exact gathering.contents
  next => exact gathering.parsed
  next => exact gathering.own
  next => rw [pull]; exact gathering.asked
  next => rw [current]; exact gathering.state

theorem isValidPacket_state (packet : Packet) (control : Control) :
    (isValidPacket packet control).2.currentState = control.currentState \/
      (isValidPacket packet control).2.currentState = .idle := by
  unfold isValidPacket
  dsimp only
  split
  next => exact Or.inl rfl
  next =>
    split
    next => split <;> exact Or.inl rfl
    next => split <;> [exact Or.inr rfl; exact Or.inl rfl]

theorem checkSourceAddress_kept (packet : Packet) (control : Control) :
    (checkSourceAddress packet control).2.currentState = control.currentState /\
      (checkSourceAddress packet control).1 ≠ .nextPagePresent := by
  unfold checkSourceAddress
  split
  next => exact ⟨rfl, by dsimp only; split <;> simp⟩
  next => exact ⟨rfl, by simp⟩

theorem processPacketType_kept (packet : Packet) (control : Control) :
    (processPacketType packet control).2.currentState = control.currentState /\
      (processPacketType packet control).1 ≠ .nextPagePresent := by
  unfold processPacketType
  dsimp only
  (repeat' split) <;> first | exact checkSourceAddress_kept packet control | exact ⟨rfl, by simp⟩

theorem handleSingleObisRead_code (buff : Bytes) (profiles : OdmProfiles) :
    (OdmProfiles.handleSingleObisRead buff profiles).1 ≠ .nextPagePresent := by
  unfold OdmProfiles.handleSingleObisRead
  simp only
  (repeat' split) <;> simp

theorem pageCode_code (packet : Packet) : pageCode packet ≠ .nextPagePresent := by
  unfold pageCode
  split <;> simp

theorem meshDataResponse_code (packet : Packet) (profiles : OdmProfiles) :
    (meshDataResponse packet profiles).1 ≠ .nextPagePresent := by
  unfold meshDataResponse
  simp only
  (repeat' split) <;>
    first | exact pageCode_code packet | exact handleSingleObisRead_code _ _ | simp

theorem odmResponse_code (txPageIndex : UInt8) (packet : Packet) (profiles : OdmProfiles) :
    (odmResponse txPageIndex packet profiles).1 ≠ .nextPagePresent := by
  unfold odmResponse
  (repeat' split) <;> first | exact meshDataResponse_code _ _ | simp
  unfold silenceResponse
  (repeat' split) <;> simp

/-- In front of a frame: none of its records are stored yet. -/
def Fresh (profile : Profile) (start : PullState) (state : CurrentState) (asked : UInt8)
    (added : List Note) (client : Client) : Prop :=
  Gathering profile start state asked added client /\ client.pull.merged = false

/-- Behind a frame: `merged` says whether its records are stored. -/
structure FrameDone (profile : Profile) (start : PullState) (state : CurrentState) (asked : UInt8)
    (added : List Note) (packet : Packet) (code : Code) (client : Client) : Prop where
  notes : client.pull.notes = start.notes ++ added
  contents : profile.contents client.pull.node.profileData =
    (profile.contents start.node.profileData).mergeAll
      (mergedFrames added ++ if client.pull.merged then [packet.frame] else [])
  parsed : ∀ note ∈ added, note.Parsed
  own : ∀ note ∈ added, note.merged = true -> state = profile.state
  stored : client.pull.merged = true -> state = profile.state
  asked : client.pull.asked = asked
  state : client.control.currentState = state \/ client.control.currentState = .idle
  done : client.pull.merged = true -> pageDone code = true ->
    Dlms.parses packet.frame (packet.byte 25) = true
  next : code = .nextPagePresent -> client.pull.merged = true

theorem Fresh.frameDone {client : Client} (fresh : Fresh profile start state asked added client)
    (packet : Packet) {code : Code} (other : code ≠ .nextPagePresent) :
    FrameDone profile start state asked added packet code client := by
  obtain ⟨gathering, unmerged⟩ := fresh
  constructor
  next => exact gathering.notes
  next => simpa [unmerged] using gathering.contents
  next => exact gathering.parsed
  next => exact gathering.own
  next => simp [unmerged]
  next => exact gathering.asked
  next => exact gathering.state
  next => simp [unmerged]
  next => exact fun same => absurd same other

theorem Fresh.control {client : Client} (fresh : Fresh profile start state asked added client)
    (control : Control) (kept : control.currentState = client.control.currentState \/
      control.currentState = .idle) :
    Fresh profile start state asked added { client with control := control } := by
  obtain ⟨gathering, unmerged⟩ := fresh
  refine ⟨?_, unmerged⟩
  constructor
  next => exact gathering.notes
  next => exact gathering.contents
  next => exact gathering.parsed
  next => exact gathering.own
  next => exact gathering.asked
  next =>
    rcases kept with same | idle
    next => dsimp only; rw [same]; exact gathering.state
    next => exact Or.inr idle

theorem onControl_fresh {A : Type} (change : Control -> A × Control)
    (kept : forall control, (change control).2.currentState = control.currentState \/
      (change control).2.currentState = .idle) :
    Returns (Fresh profile start state asked added) (onControl change)
      fun result client => Fresh profile start state asked added client /\
        exists control, result = (change control).1 := by
  intro client fresh
  exact ⟨fresh.control _ (kept client.control), client.control, rfl⟩

/-- What the switch leaves: an answer, or the packet is handed on. -/
def Answered (profile : Profile) (start : PullState) (state : CurrentState) (asked : UInt8)
    (added : List Note) (packet : Packet) (answer : Option Code) (client : Client) : Prop :=
  match answer with
  | some code => FrameDone profile start state asked added packet code client
  | none => forall code, code ≠ .nextPagePresent ->
    FrameDone profile start state asked added packet code client

theorem Fresh.answered {client : Client} (fresh : Fresh profile start state asked added client)
    {packet : Packet} {answer : Option Code} {after : PullState}
    (merged : PullState.Merged profile packet client.pull answer after)
    (own : after = client.pull \/ state = profile.state) :
    Answered profile start state asked added packet answer { client with pull := after } := by
  rcases merged with ⟨rfl, other⟩ | ⟨stored, notes, asking, contents, done, rfl, parsed⟩
  next =>
    cases answer with
    | some code => exact fresh.frameDone packet (by simpa using other)
    | none => exact fun code done => fresh.frameDone packet done
  next =>
    obtain ⟨gathering, unmerged⟩ := fresh
    constructor
    next => exact notes.trans gathering.notes
    next =>
      simp only [stored, if_true, contents, gathering.contents, Contents.mergeAll,
        List.foldl_append, List.foldl_cons, List.foldl_nil]
    next => exact gathering.parsed
    next => exact gathering.own
    next =>
      intro _
      refine own.resolve_left fun same => ?_
      simp [same, unmerged] at stored
    next => exact asking.trans gathering.asked
    next => exact gathering.state
    next => exact fun _ => parsed
    next => exact fun _ => stored

theorem pullSwitch_answered (packet : Packet)
    (known : state = profile.state \/ state = .dlmsConnect) :
    Returns (Fresh profile start state asked added) (pullSwitch packet)
      (Answered profile start state asked added packet) := by
  apply returns_of_returned
  intro client answer last fresh ran
  have current : client.control.currentState = profile.state \/
      client.control.currentState = .dlmsConnect \/ client.control.currentState = .idle := by
    rcases fresh.1.state with same | idle
    next => rw [same]; exact known.imp_right Or.inl
    next => exact Or.inr (Or.inr idle)
  unfold pullSwitch at ran
  split at ran
  next =>
    simp only [Prod.mk.injEq, Option.some.injEq] at ran
    obtain ⟨rfl, rfl⟩ := ran
    obtain ⟨merged, same | own⟩ := PullState.pullResponse_collects packet
      (client.inputs.now client.counters.received) client.pull profile _ current
    next => exact fresh.answered merged (Or.inl same)
    next =>
      refine fresh.answered merged (Or.inr (fresh.1.state.elim (fun same => same.symm.trans own) ?_))
      intro idle
      rw [idle] at own
      cases profile <;> cases own
  next =>
    simp only [Prod.mk.injEq, Option.some.injEq] at ran
    obtain ⟨rfl, rfl⟩ := ran
    exact fresh.answered (Or.inl ⟨rfl, by simp⟩) (Or.inl rfl)

theorem onProfiles_handled (packet : Packet) (change : OdmProfiles -> Code × OdmProfiles)
    (other : forall profiles, (change profiles).1 ≠ .nextPagePresent) :
    Returns (Answered profile start state asked added packet none) (onProfiles change)
      (FrameDone profile start state asked added packet) := by
  intro client answered
  have handled := answered _ (other client.profiles)
  constructor
  next => exact handled.notes
  next => exact handled.contents
  next => exact handled.parsed
  next => exact handled.own
  next => exact handled.stored
  next => exact handled.asked
  next => exact handled.state
  next => exact handled.done
  next => exact handled.next

theorem clientProcessData_handled (packet : Packet)
    (known : state = profile.state \/ state = .dlmsConnect) :
    Returns (Fresh profile start state asked added) (clientProcessData packet)
      (FrameDone profile start state asked added packet) := by
  unfold clientProcessData
  split
  next => exact triple_pure _ fun client fresh => fresh.frameDone packet (by simp)
  next =>
    refine triple_bind _ (onControl_fresh (processPacketType packet)
      fun control => Or.inl (processPacketType_kept packet control).1) fun code => ?_
    split
    next =>
      apply triple_pure
      rintro client ⟨fresh, control, rfl⟩
      exact fresh.frameDone packet (processPacketType_kept packet control).2
    next =>
      refine triple_bind _ ((pullSwitch_answered packet known).weaken
        (fun _ fresh => fresh.1) fun _ _ answered => answered) fun answer => ?_
      cases answer with
      | some code => exact triple_pure code fun _ handled => handled
      | none =>
        refine triple_bind (fun _ => Answered profile start state asked added packet none)
          (triple_observe _ fun _ answered => answered) fun txPageIndex => ?_
        exact onProfiles_handled packet _ fun profiles => odmResponse_code _ packet profiles

theorem validateReceivedData_handled (packet : Packet)
    (known : state = profile.state \/ state = .dlmsConnect) :
    Returns (Fresh profile start state asked added) (validateReceivedData packet)
      (FrameDone profile start state asked added packet) := by
  refine triple_bind _ (onControl_fresh (isValidPacket packet) (isValidPacket_state packet))
    fun valid => ?_
  split
  next =>
    exact (clientProcessData_handled packet known).weaken (fun _ fresh => fresh.1)
      fun _ _ handled => handled
  next => exact triple_pure _ fun client fresh => fresh.1.frameDone packet (by simp)

/-- The pull with the frames `front` and a last one, which has the code of its chunk. -/
def ChunkMet (profile : Profile) (start : PullState) (state : CurrentState) (asked : UInt8)
    (added : List Note) (code : Code) (client : Client) : Prop :=
  exists front note, (∀ other ∈ front, other.last = false) /\ Met asked true code note /\
    Gathering profile start state asked (added ++ front ++ [note]) client

theorem noteFrame_noted (packet : Packet) (last : Bool) (code : Code) (client : Client) :
    exists note, noteFrame packet last code client =
        (some (), { client with pull := { client.pull with notes := client.pull.notes ++ [note] } }) /\
      note.last = last /\ note.code = code /\ note.asked = client.pull.asked /\
      note.merged = client.pull.merged /\ note.frame = packet.frame :=
  ⟨_, rfl, rfl, rfl, rfl, rfl, rfl⟩

theorem noteFrame_collects (packet : Packet) (last : Bool) (code : Code) :
    Returns (FrameDone profile start state asked added packet code) (noteFrame packet last code)
      fun _ client => exists note, Met asked last code note /\
        Gathering profile start state asked (added ++ [note]) client := by
  intro client handled
  obtain ⟨note, ran, isLast, itsCode, itsAsked, itsMerged, itsFrame⟩ :=
    noteFrame_noted packet last code client
  rw [ran]
  refine ⟨note, ⟨?_, itsAsked.trans handled.asked, isLast, itsCode⟩, ?_⟩
  next => rw [itsMerged]; exact handled.next
  constructor
  next => simp [handled.notes]
  next =>
    dsimp only
    rw [handled.contents, mergedFrames_append]
    cases merged : client.pull.merged <;> simp [mergedFrames, itsMerged, itsFrame, merged]
  next =>
    intro other known
    rcases List.mem_append.mp known with earlier | same
    next => exact handled.parsed other earlier
    next =>
      rw [List.mem_singleton.mp same]
      intro merged done
      rw [itsMerged] at merged
      rw [itsCode] at done
      rw [itsFrame]
      exact frame_count packet (handled.done merged done)
  next =>
    intro other known merged
    rcases List.mem_append.mp known with earlier | same
    next => exact handled.own other earlier merged
    next =>
      rw [List.mem_singleton.mp same, itsMerged] at merged
      exact handled.stored merged
  next => exact handled.asked
  next => exact handled.state

theorem beginFrame_fresh : Returns (Gathering profile start state asked added) beginFrame
    fun _ => Fresh profile start state asked added := by
  apply triple_update
  intro client gathering
  refine ⟨?_, rfl⟩
  constructor
  next => exact gathering.notes
  next => exact gathering.contents
  next => exact gathering.parsed
  next => exact gathering.own
  next => exact gathering.asked
  next => exact gathering.state

theorem processFrame_collects (packet : Packet) (last : Bool)
    (known : state = profile.state \/ state = .dlmsConnect) :
    Returns (Gathering profile start state asked added) (processFrame packet last)
      fun code client => exists note, Met asked last code note /\
        Gathering profile start state asked (added ++ [note]) client := by
  refine triple_bind _ beginFrame_fresh fun _ => ?_
  refine triple_bind _ (validateReceivedData_handled packet known) fun code => ?_
  exact triple_bind _ (noteFrame_collects packet last code)
    fun _ => triple_pure code fun _ noted => noted

theorem receivedFrames_received (buffer : Bytes) (length frames offset : Nat) (code : Code)
    (known : state = profile.state \/ state = .dlmsConnect) (inside : offset < length) :
    Returns (Gathering profile start state asked added)
      (receivedFrames buffer length (frames + 1) offset code)
      (ChunkMet profile start state asked added) := by
  -- the frames of a chunk: all but the last are met on the way
  induction frames generalizing offset code added with
  | zero =>
    simp only [receivedFrames, inside, if_true]
    refine triple_bind _ (processFrame_collects _ true known) fun next => ?_
    apply triple_pure
    rintro client ⟨note, met, gathering⟩
    exact ⟨[], note, by simp, met, by simpa using gathering⟩
  | succ frames ih =>
    rw [receivedFrames]
    simp only [inside, if_true]
    by_cases ended : offset + ((byteAt buffer (offset + 1)).toNat + 1) < length
    next =>
      have more : (decide (frames + 1 = 0) ||
          decide (offset + ((byteAt buffer (offset + 1)).toNat + 1) ≥ length)) = false := by
        simp [ended]
      rw [more]
      refine triple_bind _ (processFrame_collects _ false known) fun next => ?_
      apply triple_exists
      intro note
      apply triple_known
      intro met
      refine (ih _ next ended).weaken (fun _ gathering => gathering) ?_
      rintro code client ⟨front, last, others, metLast, gathering⟩
      refine ⟨note :: front, last, ?_, metLast, by simpa using gathering⟩
      intro other known
      rcases List.mem_cons.mp known with rfl | later
      next => exact met.last
      next => exact others other later
    next =>
      have last : (decide (frames + 1 = 0) ||
          decide (offset + ((byteAt buffer (offset + 1)).toNat + 1) ≥ length)) = true := by
        simpa using ended
      rw [last]
      refine triple_bind _ (processFrame_collects _ true known) fun next => ?_
      rw [receivedFrames, if_neg ended]
      apply triple_pure
      rintro client ⟨note, met, gathering⟩
      exact ⟨[], note, by simp, met, by simpa using gathering⟩

theorem initCommunication_kept (buffer : Bytes) (length : Nat) (control : Control) :
    ((initCommunication buffer length control).2.currentState = control.currentState \/
      (initCommunication buffer length control).2.currentState = .idle) /\
      (initCommunication buffer length control).1 ≠ .nextPagePresent := by
  unfold initCommunication
  split
  next => exact ⟨Or.inr rfl, by simp⟩
  next => exact ⟨Or.inl rfl, by simp⟩

theorem clientReceivedData_received (buffer : Bytes) (length : Nat)
    (known : state = profile.state \/ state = .dlmsConnect) (some : 0 < length)
    (fits : length ≤ 4096) :
    Returns (Gathering profile start state asked added) (clientReceivedData buffer length)
      (ChunkMet profile start state asked added) := by
  have kept (change : Control -> Control)
      (same : forall control, (change control).currentState = control.currentState) :
      Returns (Gathering profile start state asked added) (setControl change)
        fun _ => Gathering profile start state asked added :=
    fun client gathering => Gathering.same gathering ⟨rfl, same client.control⟩
  unfold clientReceivedData
  rw [if_neg (by omega)]
  refine triple_bind _ (kept _ fun _ => rfl) fun _ => ?_
  refine triple_bind (fun _ => Gathering profile start state asked added)
    (triple_observe _ fun _ gathering => gathering) fun first => ?_
  split
  next =>
    refine triple_bind _ (kept _ fun _ => rfl) fun _ => ?_
    refine triple_bind _ beginFrame_fresh fun _ => ?_
    refine triple_bind _ (onControl_fresh _ fun control =>
      (initCommunication_kept buffer length control).1) fun code => ?_
    refine triple_bind (fun _ client => exists note, Met asked true code note /\
      Gathering profile start state asked (added ++ [note]) client) ?_ fun _ => ?_
    next =>
      refine (noteFrame_collects _ true code).weaken ?_ fun _ _ noted => noted
      rintro client ⟨fresh, control, rfl⟩
      exact fresh.frameDone _ (initCommunication_kept buffer length control).2
    next =>
      apply triple_pure
      rintro client ⟨note, met, gathering⟩
      exact ⟨[], note, by simp, met, by simpa using gathering⟩
  next => exact receivedFrames_received buffer length 10 0 .success known some

theorem Gathering.returns {A : Type} {prog : Prog Client A} (respects : Respects SamePull prog) :
    Returns (Gathering profile start state asked added) prog
      fun _ => Gathering profile start state asked added :=
  respects.returns fun _ _ gathering same => Gathering.same gathering same

theorem receiveData_bounded (buffSize : Nat) (pre : Client -> Prop) :
    Returns pre (receiveData buffSize) fun result _ => result.1 ≤ buffSize := by
  unfold receiveData
  refine triple_bind _ (returns_trivial pre nextRecv) fun outcome => ?_
  cases outcome with
  | data bytes cycle =>
    have fits : ((bytes.take buffSize).length : Int) ≤ buffSize := by simp
    have ended (prog : Prog Client Unit) (before : Client -> Prop) : Returns before
        (prog >>= fun _ => pure (((bytes.take buffSize).length : Int), bytes.take buffSize))
        fun result _ => result.1 ≤ buffSize :=
      triple_bind _ (returns_trivial before prog) fun _ => triple_pure _ fun _ _ => fits
    dsimp only
    split
    next =>
      refine triple_bind _ (returns_trivial _ _) fun _ => ?_
      split
      next => exact ended _ _
      next => exact triple_pure _ fun _ _ => fits
    next =>
      split
      next => exact ended _ _
      next => exact triple_pure _ fun _ _ => fits
  | timedOut => exact triple_pure _ fun _ _ => by simp
  | failed =>
    exact triple_bind _ (returns_trivial _ _) fun _ => triple_pure _ fun _ _ => by simp

/-- A chunk whose code does not end the transmission, or a frame on the way to such a code. -/
def Unexpected (note : Note) : Prop := note.last = true -> expectedCode note.code = false

/-- What a transmission has met while it goes on. -/
def Trying (profile : Profile) (start : PullState) (state : CurrentState) (asked : UInt8)
    (added : List Note) (client : Client) : Prop :=
  exists tried, (∀ note ∈ tried, Unexpected note) /\
    Gathering profile start state asked (added ++ tried) client

/-- What it has met when it ends with a code that is expected. -/
def Answer (profile : Profile) (start : PullState) (state : CurrentState) (asked : UInt8)
    (added : List Note) (code : Code) (client : Client) : Prop :=
  expectedCode code = true /\ exists tried note, (∀ other ∈ tried, Unexpected other) /\
    Met asked true code note /\
    Gathering profile start state asked (added ++ tried ++ [note]) client

/-- What is known where a transmit loop is left. -/
def Left (profile : Profile) (start : PullState) (state : CurrentState) (asked : UInt8)
    (added : List Note) : Leave -> Client -> Prop
  | .returned code => Answer profile start state asked added code
  | .broken _ => Trying profile start state asked added

abbrev Tried (profile : Profile) (start : PullState) (state : CurrentState) (asked : UInt8)
    (added : List Note) : Turn VectorVars Leave -> Client -> Prop :=
  afterTurn (fun _ => Trying profile start state asked added)
    (Left profile start state asked added)

theorem Trying.same {before after : Client} (trying : Trying profile start state asked added before)
    (same : SamePull before after) : Trying profile start state asked added after := by
  obtain ⟨tried, unexpected, gathering⟩ := trying
  exact ⟨tried, unexpected, Gathering.same gathering same⟩

theorem Trying.returns {A : Type} {prog : Prog Client A} (respects : Respects SamePull prog) :
    Returns (Trying profile start state asked added) prog
      fun _ => Trying profile start state asked added :=
  respects.returns fun _ _ trying same => Trying.same trying same

theorem gathering_trying {client : Client}
    (gathering : Gathering profile start state asked added client) :
    Trying profile start state asked added client :=
  ⟨[], by simp, by simpa using gathering⟩

/-- The code of a chunk ends the transmission, or the chunk is one more that was tried. -/
def Chunked (profile : Profile) (start : PullState) (state : CurrentState) (asked : UInt8)
    (added : List Note) (code : Code) (client : Client) : Prop :=
  if expectedCode code then Answer profile start state asked added code client
  else Trying profile start state asked added client

theorem ChunkMet.chunked {client : Client} {tried : List Note} {code : Code}
    (received : ChunkMet profile start state asked (added ++ tried) code client)
    (unexpected : ∀ note ∈ tried, Unexpected note) :
    Chunked profile start state asked added code client := by
  obtain ⟨front, note, others, met, gathering⟩ := received
  have met' : ∀ other ∈ tried ++ front, Unexpected other := by
    intro other known
    rcases List.mem_append.mp known with earlier | inFront
    next => exact unexpected other earlier
    next => exact fun last => absurd last (by simp [others other inFront])
  unfold Chunked
  split
  next expected => exact ⟨expected, tried ++ front, note, met', met, by simpa using gathering⟩
  next other =>
    refine ⟨tried ++ front ++ [note], ?_, by simpa using gathering⟩
    intro other' known
    rcases List.mem_append.mp known with earlier | same
    next => exact met' other' earlier
    next =>
      rw [List.mem_singleton.mp same]
      intro _
      rw [met.code]
      simpa using other

theorem vectorResponse_tried (vars : VectorVars) (code : Code) :
    Returns (Chunked profile start state asked added code) (vectorResponse vars code)
      (Tried profile start state asked added) := by
  unfold vectorResponse Chunked
  split
  next expected => exact triple_pure _ fun client answer => answer
  next other =>
    split
    next =>
      refine triple_bind (fun _ => Trying profile start state asked added) ?_
        fun _ => triple_pure _ fun _ trying => trying
      exact fun client trying => Trying.same trying ⟨rfl, rfl⟩
    all_goals exact triple_pure _ fun _ trying => trying

theorem vectorReceive_tried (vars : VectorVars)
    (known : state = profile.state \/ state = .dlmsConnect) :
    Returns (Trying profile start state asked added) (vectorReceive vars)
      (Tried profile start state asked added) := by
  unfold vectorReceive
  refine triple_bind _ ((Trying.returns (receiveData_respects samePull_frame 512)).and
    (receiveData_bounded 512 _)) fun received => ?_
  split
  next rxLen buffer =>
  split
  next some =>
    refine triple_bind (Chunked profile start state asked added) ?_
      fun code => vectorResponse_tried _ code
    rintro client ⟨⟨tried, unexpected, gathering⟩, fits⟩
    simp only at fits
    have chunk : Returns (Gathering profile start state asked (added ++ tried))
        (clientReceivedData buffer rxLen.toNat) (Chunked profile start state asked added) :=
      (clientReceivedData_received buffer rxLen.toNat known (by omega) (by omega)).weaken
        (fun _ gathering => gathering) fun _ _ received => received.chunked unexpected
    exact chunk client gathering
  next =>
    refine triple_bind _ ((Trying.returns (gatewayGone_respects samePull_frame)).weaken
      (fun _ trying => trying.1) fun _ _ trying => trying) fun gone => ?_
    split <;> exact triple_pure _ fun _ trying => trying

theorem vectorTurn_tried (buff : Bytes) (maxRetries : Nat) (vars : VectorVars)
    (known : state = profile.state \/ state = .dlmsConnect) :
    Returns (Trying profile start state asked added) (vectorTurn buff maxRetries vars)
      (Tried profile start state asked added) := by
  unfold vectorTurn
  split
  next =>
    split
    next =>
      refine triple_bind _ (Trying.returns (writeWith_respects samePull_frame _ buff))
        fun code => ?_
      split
      next => exact triple_pure _ fun _ trying => trying
      next => exact vectorReceive_tried _ known
    next => exact vectorReceive_tried _ known
  next => exact triple_pure _ fun _ trying => trying

/-- A transmission ends with an expected code and its page, or with a failure. -/
def Transmitted (profile : Profile) (start : PullState) (state : CurrentState) (asked : UInt8)
    (added : List Note) (code : Code) (client : Client) : Prop :=
  Answer profile start state asked added code client \/
    code = .failure /\ Trying profile start state asked added client

theorem transmitVector_transmitted (fuel : Nat) (buff : Bytes) (maxRetries : Nat)
    (known : state = profile.state \/ state = .dlmsConnect) :
    Returns (Gathering profile start state asked added) (transmitVector fuel buff maxRetries)
      (Transmitted profile start state asked added) := by
  refine triple_bind _ ((triple_loop (vectorTurn buff maxRetries)
    (fun _ => Trying profile start state asked added) (fun _ _ _ => trivial)
    (fun vars => vectorTurn_tried buff maxRetries vars known) fuel {}).weaken
    (fun _ => gathering_trying) fun _ _ left => left) fun leave => ?_
  cases leave with
  | returned code => exact triple_pure _ fun _ answer => Or.inl answer
  | broken gotAnyResponse =>
    dsimp only
    split
    next =>
      exact triple_bind _ (Trying.returns (disconnect_respects samePull_frame))
        fun _ => triple_pure _ fun _ trying => Or.inr ⟨rfl, trying⟩
    next => exact triple_pure _ fun _ trying => Or.inr ⟨rfl, trying⟩

end Frames

end Client

end Hes
