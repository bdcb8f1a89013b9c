import Hes.PushRecords
import Hes.Push
import Hes.Respond

set_option autoImplicit false

namespace Hes.Checksum

open Dlms Decoders PushRecords

theorem calculateChecksum_append (buff : Bytes) (start first second : Nat) :
    calculateChecksum buff start (first + second) =
      calculateChecksum buff start first + calculateChecksum buff (start + first) second := by
  simp only [calculateChecksum, slice_append, List.map_append, List.sum_append]
  apply UInt8.toNat_inj.mp
  simp

theorem calculateChecksum_congr (first second : Bytes) (start place length : Nat)
    (same : ∀ index < length, byteAt first (start + index) = byteAt second (place + index)) :
    calculateChecksum first start length = calculateChecksum second place length := by
  rw [calculateChecksum, calculateChecksum, slice_congr first second start place length same]

/-- A frame as the splitter hands it over: as long as its second byte says. -/
def received (buffer : Bytes) (offset : Nat) : Packet :=
  { buffer := buffer, offset := offset, length := (byteAt buffer (offset + 1)).toNat + 1 }

def pushPacket (packet : Packet) : Push.Packet :=
  { buff := packet.bytes, length := packet.length }

/-- What a push handler stores of a packet, before it may clear its buffer again. -/
def pushStored (packet : Push.Packet) : List (UInt8 × DlmsValue) :=
  if packet.checksumMatches then storedRecords packet.data else []

/-- What a pull handler stores of a packet for the node. -/
def pullStored (packet : Packet) (node : NodeInfo) : List (UInt8 × DlmsValue) :=
  if Client.forNode packet node then storedRecords packet.frame else []

section Handlers

open Push

/-- The buffer a push handler leaves, or passes to the database and clears, has what it stores. -/
theorem processProfile_stored (profile : Profile) (state : PushData) (packet : Push.Packet) (now : Int) :
    let before := (state.pushNodeInfo packet.mac profile).profileData
    let handled := processProfile profile state packet now
    (packet.nextPageStatus ≠ 0 ->
      (handled.1.pushNodeInfo packet.mac profile).profileData =
        (pushStored packet).foldl profile.store before) /\
    ∀ insert ∈ handled.2, exists same : insert.profile = profile,
      same ▸ insert.buffer.profileData = (pushStored packet).foldl profile.store before := by
  intro before handled
  cases intact : packet.checksumMatches with
  | false => simp [handled, before, processProfile, pushStored, intact]
  | true =>
    have kept := processProfile_buffer profile state packet now intact
    have content : (acceptPacket profile packet now (state.pushNodeInfo packet.mac profile)).profileData =
        (pushStored packet).foldl profile.store before := by
      cases parsed : parses packet.data packet.noOfRecords <;>
        simp [acceptPacket, parseRecordsInto, parsed, pushStored, intact, before]
    constructor
    next =>
      intro more
      simp only [handled, kept, more, if_false, content]
    next =>
      intro insert made
      by_cases last : packet.nextPageStatus = 0
      next =>
        simp [handled, processProfile, intact, last] at made
        obtain ⟨_, rfl⟩ := made
        exact ⟨rfl, content⟩
      next => simp [handled, processProfile, intact, last] at made

theorem processProfileData_stored {T : Type} (store : T -> UInt8 × DlmsValue -> T)
    (read : NodeProfileData -> PacketBuffer T) (write : PacketBuffer T -> NodeProfileData -> NodeProfileData)
    (written : forall buffer data, read (write buffer data) = buffer)
    (packet : Packet) (now : Int) (pull : PullState) :
    (read (Client.processProfileData (parseRecordsInto store) read write packet now pull).2.node.profileData).profileData =
      (pullStored packet pull.node).foldl store (read pull.node.profileData).profileData := by
  unfold Client.processProfileData pullStored
  split
  next =>
    cases parsed : parses packet.frame (packet.byte 25) <;> simp [parseRecordsInto, parsed, written]
  next => rfl

end Handlers

section Frames

variable (packet : Packet)

def Stores : Prop := pushStored (pushPacket packet) ≠ [] \/ exists node, pullStored packet node ≠ []

/-- The last byte is the sum of the bytes in front of it, from the DLMS part on. -/
def Protected : Prop :=
  byteAt packet.frame (packet.length - 1) = calculateChecksum packet.frame 17 (packet.length - 18)

def declaredLength : Nat := bigEndian (slice packet.bytes 18 2)

/-- The bytes by which the declared length misses the end of the frame, on either side. -/
def missed : UInt8 :=
  if declaredLength packet ≤ packet.length - 18 then
    calculateChecksum packet.bytes (17 + declaredLength packet) (packet.length - 18 - declaredLength packet)
  else calculateChecksum packet.bytes (packet.length - 1) (declaredLength packet - (packet.length - 18))

theorem checked_pull (node : NodeInfo) (own : Client.forNode packet node = true) :
    (pushPacket packet).checksumMatches = true := by
  simp only [Client.forNode, Bool.and_eq_true, decide_eq_true_eq] at own
  simpa [Push.Packet.checksumMatches, Push.Packet.pmeshLength, Push.Packet.dlmsDataLength, pushPacket,
    pmeshHeaderSize, Packet.byte, Packet.bytes, byteAt, List.getD_eq_getElem?_getD] using own.1

/-- Some handler stores a record where the checksum it looks at holds and a record can be read. -/
theorem stores_iff :
    Stores packet <-> (pushPacket packet).checksumMatches = true /\ storedRecords packet.frame ≠ [] := by
  have same : (pushPacket packet).data = packet.frame := rfl
  constructor
  next =>
    rintro (push | ⟨node, pull⟩)
    next =>
      rw [pushStored, same] at push
      split at push
      next intact => exact ⟨intact, push⟩
      next => simp at push
    next =>
      rw [pullStored] at pull
      split at pull
      next own => exact ⟨checked_pull packet node own, pull⟩
      next => simp at pull
  next =>
    rintro ⟨intact, records⟩
    apply Or.inl
    rwa [pushStored, if_pos intact, same]

theorem storedRecords_some_iff (data : Bytes) :
    storedRecords data ≠ [] <-> exists record, StandsAt data recordsStart record := by
  have unread := parseRecord_none_iff data recordsStart
  constructor
  next =>
    intro some
    by_contra nothing
    have none : parseRecord data recordsStart = none := by
      simpa [unread] using nothing
    apply some
    unfold storedRecords
    split
    next => rfl
    next =>
      cases data.length with
      | zero => rfl
      | succ fuel => simp [recordsFrom, show pmeshHeaderSize + dlmsHeaderSize = recordsStart from rfl, none]
  next =>
    rintro ⟨record, stands⟩
    have three := encode_pos record
    have inside := stands.inside
    have long : ¬ data.length < pmeshHeaderSize + dlmsHeaderSize := by
      rw [show pmeshHeaderSize + dlmsHeaderSize = recordsStart from rfl]
      omega
    obtain ⟨fuel, length⟩ : exists fuel, data.length = fuel + 1 := ⟨data.length - 1, by omega⟩
    cases read : parseRecord data recordsStart with
    | none => exact absurd stands (unread.mp read record)
    | some result =>
      rw [storedRecords, if_neg long, length, recordsFrom, if_pos (by
        rw [show pmeshHeaderSize + dlmsHeaderSize = recordsStart from rfl]
        omega), show pmeshHeaderSize + dlmsHeaderSize = recordsStart from rfl, read]
      simp

theorem missed_zero_iff (long : 18 ≤ packet.length) :
    calculateChecksum packet.bytes 17 (declaredLength packet) =
        calculateChecksum packet.bytes 17 (packet.length - 18) <-> missed packet = 0 := by
  have cancel (first second : UInt8) : first = first + second <-> second = 0 := by
    constructor
    next =>
      intro same
      simpa using (congrArg (· - first) same).symm
    next => rintro rfl; simp
  unfold missed
  split
  next short =>
    have parts := calculateChecksum_append packet.bytes 17 (declaredLength packet)
      (packet.length - 18 - declaredLength packet)
    rw [show declaredLength packet + (packet.length - 18 - declaredLength packet) =
      packet.length - 18 from by omega] at parts
    rw [parts]
    exact cancel _ _
  next =>
    have parts := calculateChecksum_append packet.bytes 17 (packet.length - 18)
      (declaredLength packet - (packet.length - 18))
    rw [show packet.length - 18 + (declaredLength packet - (packet.length - 18)) =
      declaredLength packet from by omega, show 17 + (packet.length - 18) = packet.length - 1 from by
        omega] at parts
    rw [parts, eq_comm]
    exact cancel _ _

end Frames

/-- The frame's last byte protects what a handler stores of it exactly when no handler takes it for
intact, or no record can be read of it, or the bytes cancel by which its DLMS length is wrong. -/
theorem checksum_protects_iff (buffer : Bytes) (offset : Nat) :
    (Stores (received buffer offset) -> Protected (received buffer offset)) <->
      (pushPacket (received buffer offset)).checksumMatches = false \/
        (forall record, ¬ StandsAt (received buffer offset).frame recordsStart record) \/
          missed (received buffer offset) = 0 := by
  let packet := received buffer offset
  change (Stores packet -> Protected packet) <-> (pushPacket packet).checksumMatches = false \/
    (forall record, ¬ StandsAt packet.frame recordsStart record) \/ missed packet = 0
  rw [stores_iff, storedRecords_some_iff]
  cases intact : (pushPacket packet).checksumMatches with
  | false => simp
  | true =>
    by_cases stands : exists record, StandsAt packet.frame recordsStart record
    next =>
      obtain ⟨record, stands⟩ := stands
      have three := encode_pos record
      have inside := stands.inside
      have size : packet.frame.length = packet.length := slice_length _ _ _
      have long : 18 ≤ packet.length := by
        simp only [recordsStart, pmeshHeaderSize, dlmsHeaderSize] at inside
        omega
      have checked : byteAt packet.bytes (packet.length - 1) =
          calculateChecksum packet.bytes 17 (declaredLength packet) := by
        have last : packet.length - 1 = (byteAt packet.bytes 1).toNat := by
          simp [packet, received, Packet.bytes, byteAt, List.getD_eq_getElem?_getD]
        rw [last]
        exact beq_iff_eq.mp intact
      have whole : Protected packet <-> byteAt packet.bytes (packet.length - 1) =
          calculateChecksum packet.bytes 17 (packet.length - 18) := by
        unfold Protected Packet.frame
        rw [byteAt_slice _ _ _ _ (by omega), calculateChecksum_congr _ packet.bytes 17 17, Nat.zero_add]
        intro index within
        rw [byteAt_slice _ _ _ _ (by omega), Nat.zero_add]
      have exact_ : Protected packet <-> missed packet = 0 := by
        rw [whole, checked, missed_zero_iff packet long]
      constructor
      next => exact fun protects => .inr (.inr (exact_.mp (protects ⟨rfl, record, stands⟩)))
      next =>
        rintro (rejected | unread | cancels) _
        next => simp at rejected
        next => exact absurd stands (unread record)
        next => exact exact_.mpr cancels
    next =>
      constructor
      next => exact fun _ => .inr (.inl (not_exists.mp stands))
      next => exact fun _ stored => absurd stored.2 stands

/-- A pull response of one record whose DLMS length ends in front of it. -/
def shortDeclared : Bytes :=
  [0x2E, 0x1E, 0x08, 0, 0, 0, 0, 0, 0, 0, 0, 0x00, 0x00, 0x00, 0x02, 0x00, 0x01] ++
    [0x2D, 0x00, 0x09, 0x00, 0x0E, 0x01, 0x00, 0x00, 0x01] ++ [0x01, 0x00, 0x11, 0x05] ++ [0x46]

theorem record_stored_unprotected :
    Stores (received shortDeclared 0) /\ ¬ Protected (received shortDeclared 0) := by
  constructor
  next =>
    rw [stores_iff]
    decide +kernel
  next =>
    unfold Protected
    decide +kernel

end Hes.Checksum
