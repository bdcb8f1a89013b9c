import Hes.Coalesced
import Hes.OdmFrames
import Hes.OdmRequest
import Hes.RecordWalk

set_option autoImplicit false

namespace Hes.ResponseMatch

open Client Checksum OdmFrames

/-- What a data response is told apart by: frame id, command and sub-command of its DLMS part. -/
structure Heading where
  frameId : UInt8
  command : UInt8
  subCommand : UInt8
  deriving DecidableEq, Repr

/-- In a received frame the DLMS part stands behind a mesh header of 17 bytes. -/
def headingOf (received : Bytes) : Heading :=
  { frameId := byteAt received 21, command := byteAt received 22, subCommand := byteAt received 23 }

/-- A data response that is taken for the answer to an ODM command. -/
structure Accepted (frame : Bytes) : Prop where
  type : byteAt frame 2 = 0x08
  dlms : byteAt frame 17 = 0x2D
  taken : exists client, client.control.targetState ≠ .pull /\
    (clientProcessData (received frame 0) client).1 = some .success

/-- The headings that are not refused: profiles, single objects and scalers. -/
def Heading.known (heading : Heading) : Bool :=
  heading.frameId = 0x0E && heading.command ∈ ([0, 1, 2, 3, 4, 8] : List UInt8) ||
    heading.frameId = 0x0F && heading.command ∈ ([0, 1] : List UInt8) &&
      heading.subCommand ∈ ([1, 2, 7, 8, 9] : List UInt8) ||
    heading.frameId = 0x0A && heading.command ∈ ([1, 2, 3, 4] : List UInt8)

section Known

variable (frame : Bytes)

theorem received_byte (index : Nat) : (received frame 0).byte index = byteAt frame index := by
  simp [received, Packet.byte]

theorem received_bytes : (received frame 0).bytes = frame := rfl

theorem handleSingleObisRead_known (profiles : OdmProfiles)
    (success : (OdmProfiles.handleSingleObisRead frame profiles).1 = .success) :
    byteAt frame 22 ∈ ([0, 1] : List UInt8) /\ byteAt frame 23 ∈ ([1, 2, 7, 8, 9] : List UInt8) := by
  unfold OdmProfiles.handleSingleObisRead at success
  simp only [Nat.reduceAdd] at success
  split at success
  next => simp at success
  next command =>
    have known : byteAt frame 22 ∈ ([0, 1] : List UInt8) := by
      simp only [ne_eq, Bool.and_eq_true, decide_eq_true_eq, not_and, not_not] at command
      by_cases zero : byteAt frame 22 = 0
      next => simp [zero]
      next => simp [command zero]
    refine ⟨known, ?_⟩
    split at success <;> simp_all

theorem dlms_first (length : Nat) (dlms : byteAt frame 17 = 0x2D) :
    ((slice frame 17 length).findIdx fun byte => byte = 0x2D) = 0 := by
  cases length with
  | zero => rfl
  | succ length => simp [slice, List.range_succ_eq_map, dlms, List.findIdx_cons]

theorem byteAt_drop (bytes : Bytes) (start index : Nat) :
    byteAt (bytes.drop start) index = byteAt bytes (start + index) := by
  simp [byteAt, List.getD_eq_getElem?_getD]

theorem meshDataResponse_known (profiles : OdmProfiles) (dlms : byteAt frame 17 = 0x2D)
    (success : (meshDataResponse (received frame 0) profiles).1 = .success) :
    (headingOf frame).known = true := by
  unfold meshDataResponse at success
  simp only [received_bytes, received_byte, dlms_first frame _ dlms, byteAt_drop, Nat.add_zero,
    Nat.reduceAdd] at success
  split at success
  next => simp at success
  next =>
    split at success
    next => simp at success
    next =>
      split at success
      next instant =>
        split at success
        next => simp at success
        next =>
          split at success
          next parsed known =>
            have command : byteAt frame 22 ∈ ([0, 1, 2, 3, 4, 8] : List UInt8) := by
              unfold parseProfile at known
              split at known <;> simp_all
            simp [Heading.known, headingOf, instant, command]
          next => simp at success
      next =>
        split at success
        next single =>
          obtain ⟨command, subCommand⟩ := handleSingleObisRead_known frame profiles success
          simp [Heading.known, headingOf, single, command, subCommand]
        next =>
          split at success
          next scaler => simp_all [Heading.known, headingOf]
          next => simp at success

theorem accepted_known (accepted : Accepted frame) : (headingOf frame).known = true := by
  obtain ⟨client, odm, success⟩ := accepted.taken
  have unpushed : Coalesced.pushed (received frame 0) = false := by
    simp [Coalesced.pushed, received_byte, accepted.dlms]
  rw [Coalesced.clientProcessData_answer, unpushed] at success
  simp only [Bool.false_eq_true, if_false, Option.some.injEq, Coalesced.answer, odm] at success
  split at success
  next refused => exact absurd success refused
  next =>
    unfold odmResponse at success
    simp only [received_byte, accepted.type] at success
    split at success
    next other => exact absurd other (by decide)
    next =>
      split at success
      next => simp at success
      next =>
        split at success
        next => simp at success
        next => exact meshDataResponse_known frame _ accepted.dlms success

end Known

section Replies

/-- A reply with six bytes behind its heading, one record for a profile. -/
def replyDlms (heading : Heading) (object : UInt8) : Bytes :=
  [0x2D, 0x00, 0x0D, 0x00, heading.frameId, heading.command, heading.subCommand,
    0x00, 0x01, 0x04, 0x00, object, 0x05]

def reply (heading : Heading) (object : UInt8) : Bytes :=
  [0x2E, 0x1E, 0x08, 0, 0, 0, 0, 0, 0, 0, 0, 0x00, 0x00, 0x00, 0x02, 0x00, 0x01] ++
    replyDlms heading object ++ [calculateChecksum (replyDlms heading object) 0 13]

variable (heading : Heading) (object : UInt8)

theorem reply_typed (id : heading.frameId ≠ 0x00) :
    (processPacketType (received (reply heading object) 0) {}).1 = .success := by
  have last (back : Nat) : (received (reply heading object) 0).fromEnd back =
      byteAt (reply heading object) (31 - back) := by
    simp [Packet.fromEnd, received, reply, byteAt]
  unfold processPacketType
  simp only [received_byte, last]
  simp [reply, replyDlms, byteAt, received, checkSourceAddress, id]

theorem reply_answer (id : heading.frameId ≠ 0x00) :
    (clientProcessData (received (reply heading object) 0) {}).1 =
      some (meshDataResponse (received (reply heading object) 0) {}).1 := by
  have unpushed : Coalesced.pushed (received (reply heading object) 0) = false := by
    simp [Coalesced.pushed, received_byte, reply, replyDlms, byteAt]
  have long : (received (reply heading object) 0).length = 31 := rfl
  rw [Coalesced.clientProcessData_answer, unpushed]
  simp only [Bool.false_eq_true, if_false, Coalesced.answer, reply_typed heading object id, ne_eq,
    not_true_eq_false]
  unfold odmResponse
  simp only [received_byte, long, show byteAt (reply heading object) 2 = 0x08 from rfl,
    show byteAt (reply heading object) 20 = 0x00 from rfl]
  simp

theorem reply_checked (profiles : OdmProfiles) :
    (meshDataResponse (received (reply heading object) 0) profiles).1 =
      if heading.frameId = 0x0E then
        (match parseProfile heading.command ((reply heading object).drop 17) 13 profiles with
          | some _ => .success
          | none => .invalidResponse)
      else if heading.frameId = 0x0F then (OdmProfiles.handleSingleObisRead (reply heading object) profiles).1
      else if heading.frameId = 0x0A && heading.command ∈ ([0x01, 0x02, 0x03, 0x04] : List UInt8) then
        .success
      else .invalidResponse := by
  have dlms : (reply heading object).drop 17 =
      replyDlms heading object ++ [calculateChecksum (replyDlms heading object) 0 13] := rfl
  have sum : calculateChecksum ((reply heading object).drop 17) 0 13 =
      byteAt ((reply heading object).drop 17) 13 := by
    have behind := byteAt_append_right (replyDlms heading object)
      [calculateChecksum (replyDlms heading object) 0 13] 0
    rw [dlms]
    refine (calculateChecksum_congr _ _ _ _ _ fun index inside => ?_).trans behind.symm
    exact byteAt_append_left _ _ _ (by simpa [replyDlms] using inside)
  have length : bigEndian (slice ((reply heading object).drop 17) 1 2) = 13 := by
    simp [dlms, replyDlms, slice, byteAt, bigEndian, List.range_succ]
  have place : ((slice (reply heading object) 17 14).findIdx fun byte => byte = 0x2D) = 0 :=
    dlms_first _ 14 rfl
  have long : (received (reply heading object) 0).length = 31 := rfl
  have page : pageCode (received (reply heading object) 0) = .success := rfl
  have command : byteAt ((reply heading object).drop 17) 5 = heading.command := rfl
  unfold meshDataResponse
  simp only [received_bytes, received_byte, long, Nat.reduceSub, place, Nat.add_zero, length, sum,
    slice_length, page, command, show byteAt ((reply heading object).drop 17) 4 = heading.frameId from rfl,
    show byteAt ((reply heading object).drop 17) 8 = 0x01 from rfl,
    show byteAt (reply heading object) 21 = heading.frameId from rfl,
    show byteAt (reply heading object) 22 = heading.command from rfl]
  simp only [ge_iff_le, Nat.reduceAdd, Nat.reduceLeDiff, ne_eq, not_true_eq_false,
    decide_false, Bool.or_false, Bool.false_eq_true, if_false]
  by_cases instant : heading.frameId = 0x0E
  next =>
    simp only [instant, if_true]
    cases parseProfile heading.command ((reply heading object).drop 17) 13 profiles <;> simp
  next =>
    simp only [instant, if_false]
    by_cases single : heading.frameId = 0x0F
    next => simp [single]
    next =>
      simp only [single, if_false]
      by_cases scaler : heading.frameId = 0x0A
      next => simp [scaler]; split <;> simp_all
      next => simp [scaler]

/-- The type byte that a single object is checked for. -/
def objectType (subCommand : UInt8) : UInt8 := if subCommand = 0x02 then 0x19 else 0x06

theorem single_objects : ∀ command ∈ ([0, 1] : List UInt8), ∀ subCommand ∈ ([1, 2, 7, 8, 9] : List UInt8),
    (OdmProfiles.handleSingleObisRead (reply ⟨0x0F, command, subCommand⟩ (objectType subCommand)) {}).1 =
      .success := by
  decide +kernel

theorem known_accepted (known : heading.known = true) :
    exists frame, Accepted frame /\ headingOf frame = heading := by
  refine ⟨reply heading (objectType heading.subCommand), ⟨rfl, rfl, {}, by decide, ?_⟩, rfl⟩
  simp only [Heading.known, Bool.or_eq_true, Bool.and_eq_true, decide_eq_true_eq] at known
  rcases known with (⟨instant, command⟩ | ⟨⟨single, command⟩, subCommand⟩) | ⟨scaler, command⟩
  next =>
    rw [reply_answer _ _ (by simp [instant]), reply_checked, if_pos instant]
    simp only [List.mem_cons, List.not_mem_nil, or_false] at command
    rcases command with same | same | same | same | same | same <;> simp [same, parseProfile]
  next =>
    have object := single_objects heading.command command heading.subCommand subCommand
    rw [reply_answer _ _ (by simp [single]), reply_checked, if_neg (by simp [single]), if_pos single]
    rw [← single] at object
    exact congrArg some object
  next =>
    rw [reply_answer _ _ (by simp [scaler]), reply_checked, if_neg (by simp [scaler]),
      if_neg (by simp [scaler]), if_pos (by simp [scaler, command])]

end Replies

namespace Heading

/-- A response answers a request of its frame id and command, and of its sub-command where the
request is for events or a single object. -/
def answers (response request : Heading) : Prop :=
  response.frameId = request.frameId /\ response.command = request.command /\
    (request.frameId = 0x0F \/ request.command = 0x08 -> response.subCommand = request.subCommand)

/-- What `validate_response_frame` compares a response with. -/
def acceptedFor (response looked : Heading) : Bool :=
  if looked.frameId = 0x0E then
    response.command = looked.command &&
      (looked.command ≠ 0x08 || response.subCommand = looked.subCommand)
  else if looked.frameId = 0x0F then
    response.subCommand = looked.subCommand || response.command = looked.command
  else true

theorem known_command (heading : Heading) (known : heading.known = true) :
    heading.command ∈ ([0, 1, 2, 3, 4, 8] : List UInt8) := by
  simp only [Heading.known, Bool.or_eq_true, Bool.and_eq_true, decide_eq_true_eq, List.mem_cons,
    List.not_mem_nil, or_false] at known ⊢
  tauto

end Heading

theorem validateResponseFrame_headings (buf frame : Bytes) :
    validateResponseFrame buf frame = (headingOf frame).acceptedFor
      { frameId := byteAt buf 20, command := byteAt buf 21, subCommand := byteAt buf 22 } := rfl

section Headings

variable (looked requested : Heading)

/-- Every response that is not refused is judged as the request asks for. -/
def Judged : Prop := forall response : Heading, response.known = true ->
  (response.acceptedFor looked = true <-> response.answers requested)

theorem judged_iff (id : requested.frameId = 0x0E \/ requested.frameId = 0x0F) :
    Judged looked requested <-> looked.frameId = 0x0E /\
      (looked.command = 0x08 /\ requested = looked \/
        looked.known = false /\ requested.known = false) := by
  constructor
  next =>
    intro judged
    have answer (frameId command subCommand : UInt8)
        (known : Heading.known ⟨frameId, command, subCommand⟩ = true)
        (taken : Heading.acceptedFor ⟨frameId, command, subCommand⟩ looked = true) :
        frameId = requested.frameId /\ command = requested.command /\
          (requested.frameId = 0x0F \/ requested.command = 0x08 -> subCommand = requested.subCommand) :=
      (judged ⟨frameId, command, subCommand⟩ known).mp taken
    by_cases instant : looked.frameId = 0x0E
    next =>
      refine ⟨instant, ?_⟩
      by_cases events : looked.command = 0x08
      next =>
        obtain ⟨id, command, subCommand⟩ := answer 0x0E 0x08 looked.subCommand (by simp [Heading.known])
          (by simp [Heading.acceptedFor, instant, events])
        refine .inl ⟨events, ?_⟩
        cases looked
        cases requested
        simp_all
      next =>
        have unknown : looked.known = false := by
          by_contra known
          have profile := looked.known_command (by simpa using known)
          have taken (frameId : UInt8) (known : Heading.known ⟨frameId, looked.command, 0x09⟩ = true) :=
            (answer frameId looked.command 0x09 known (by simp [Heading.acceptedFor, instant, events])).1
          have first := taken 0x0E (by simp [Heading.known] at profile ⊢; tauto)
          -- another frame of the same command is taken for it
          by_cases nameplate : looked.command = 0x00
          next =>
            have second := taken 0x0F (by simp [Heading.known, nameplate])
            rw [← first] at second
            exact absurd second (by decide)
          next =>
            have second := taken 0x0A (by simp [Heading.known] at profile ⊢; tauto)
            rw [← first] at second
            exact absurd second (by decide)
        refine .inr ⟨unknown, ?_⟩
        by_contra known
        have known : requested.known = true := by simpa using known
        have taken := (judged requested known).mpr ⟨rfl, rfl, fun _ => rfl⟩
        have command : requested.command = looked.command := by
          simp [Heading.acceptedFor, instant] at taken
          exact taken.1
        have profile := requested.known_command known
        rw [command] at profile
        simp [Heading.known, instant, profile] at unknown
    next =>
      exfalso
      by_cases single : looked.frameId = 0x0F
      next =>
        -- whatever has the sub-command is taken, of any command
        have nameplate := (answer 0x0E 0x00 looked.subCommand (by simp [Heading.known])
          (by simp [Heading.acceptedFor, single])).2.1
        have events := (answer 0x0E 0x08 looked.subCommand (by simp [Heading.known])
          (by simp [Heading.acceptedFor, single])).2.1
        rw [← nameplate] at events
        exact absurd events (by decide)
      next =>
        have profile := (answer 0x0E 0x00 0x00 (by decide)
          (by simp [Heading.acceptedFor, instant, single])).1
        have object := (answer 0x0F 0x00 0x09 (by decide)
          (by simp [Heading.acceptedFor, instant, single])).1
        rw [← profile] at object
        exact absurd object (by decide)
  next =>
    rintro ⟨instant, (⟨events, rfl⟩ | ⟨unknown, unanswered⟩)⟩ response known
    next =>
      have profile : response.command = 0x08 -> response.frameId = 0x0E := by
        intro same
        simp [Heading.known, same] at known
        exact known
      simp only [Heading.acceptedFor, instant, if_true, events, Heading.answers]
      simp
      tauto
    next =>
      have command := response.known_command known
      have never : ¬ response.acceptedFor looked = true := by
        intro taken
        simp [Heading.acceptedFor, instant] at taken
        rw [taken.1] at command
        simp [Heading.known, instant, command] at unknown
      have nobody : ¬ response.answers requested := by
        rintro ⟨sameId, sameCommand, sameSub⟩
        rcases id with profile | object
        next => simp [Heading.known, profile, ← sameCommand, command] at unanswered
        next =>
          have same : response = requested := by
            cases response
            cases requested
            simp_all
          rw [← same, known] at unanswered
          exact absurd unanswered (by decide)
      exact ⟨fun taken => absurd taken never, fun answers => absurd answers nobody⟩

end Headings

section Requests

variable (command : OdmCommand)

/-- Frame id, command and sub-command of the request, behind start, length and page. -/
def requested : Heading :=
  { frameId := byteAt command.decoded 3, command := byteAt command.decoded 4
    subCommand := byteAt command.decoded 5 }

/-- What stands where `validate_response_frame` looks for them in the frame. -/
def lookedAt : Heading :=
  { frameId := byteAt command.frame 20, command := byteAt command.frame 21
    subCommand := byteAt command.frame 22 }

/-- Over one hop at most the fixed places are the right ones. -/
theorem lookedAt_near (near : command.hops.toNat ≤ 1) : lookedAt command = requested command := by
  have size := command.header_length
  have place : headerEnd command.hops = 17 := by
    unfold headerEnd
    omega
  have byte (index : Nat) : byteAt command.frame (17 + index) = byteAt command.decoded index := by
    rw [command.frame_eq, ← place, ← size, byteAt_append_right]
  simp only [lookedAt, requested, byte 3, byte 4, byte 5]

theorem lookedAt_far (few : 0 ≤ command.hopCount) (byte : command.hopCount < 256)
    (far : 2 ≤ command.hopCount) : (lookedAt command).frameId = byteAt (command.hopAddress 2) 3 := by
  have area := command.frame_slice few byte 4 4 (by omega)
  have second : slice command.addressArea 4 4 = command.hopAddress 2 := by
    obtain ⟨rest, last⟩ : exists rest, command.hopCount.toNat = rest + 2 :=
      ⟨command.hopCount.toNat - 2, by omega⟩
    have some : command.hopCount ≠ 0 := by omega
    have first := command.hopAddress_length 1
    have next := command.hopAddress_length 2
    rw [OdmCommand.addressArea, if_neg some, last, List.range_succ_eq_map, List.flatMap_cons,
      List.range_succ_eq_map, List.map_cons, List.flatMap_cons]
    have behind := slice_append_right (command.hopAddress 1) (command.hopAddress 2 ++
      ((List.range rest).map Nat.succ |>.map Nat.succ).flatMap fun hop => command.hopAddress (hop + 1)) 0 4
    rw [first] at behind
    refine behind.trans ?_
    rw [← next]
    exact slice_append_whole _ _
  rw [second] at area
  rw [← area]
  exact (byteAt_slice _ _ 4 3 (by omega)).symm

/-- A request is matched with its answers alone exactly when its frame reads `0E` at byte 20 and
behind it the heading of the event request that it is, or what no response carries, itself being
one that no response answers. -/
theorem responses_matched_iff
    (id : (requested command).frameId = 0x0E \/ (requested command).frameId = 0x0F) :
    (forall frame, Accepted frame -> (validateResponseFrame command.frame frame = true <->
        (headingOf frame).answers (requested command))) <->
      (lookedAt command).frameId = 0x0E /\
        ((lookedAt command).command = 0x08 /\ requested command = lookedAt command \/
          (lookedAt command).known = false /\ (requested command).known = false) := by
  rw [← judged_iff _ _ id]
  constructor
  next =>
    intro matched response known
    obtain ⟨frame, accepted, rfl⟩ := known_accepted response known
    rw [← matched frame accepted]
    exact Iff.rfl
  next =>
    intro judged frame accepted
    rw [← judged _ (accepted_known frame accepted)]
    exact Iff.rfl

end Requests

def voltageEvents : OdmCommand where
  gatewayId := gatewayLetters
  seen := {}
  payload := commandOver "1" 1 "06:2B07000E08010049"
  cmd := commandOver "1" 1 "06:2B07000E08010049"
  queued := ⟨[.odm _], { globalSeenReqIds := [Text.ascii "1"] }, by decide +kernel,
    List.mem_singleton.mpr rfl⟩

def farInstantaneous : OdmCommand where
  gatewayId := gatewayLetters
  seen := {}
  payload := commandOver "2" 2 "01:2B07000E01000041"
  cmd := commandOver "2" 2 "01:2B07000E01000041"
  queued := ⟨[.odm _], { globalSeenReqIds := [Text.ascii "1"] }, by decide +kernel,
    List.mem_singleton.mpr rfl⟩

theorem voltage_events_matched : (requested voltageEvents).command = 0x08 /\
    forall frame, Accepted frame -> (validateResponseFrame voltageEvents.frame frame = true <->
      (headingOf frame).answers (requested voltageEvents)) :=
  ⟨by decide +kernel,
    (responses_matched_iff voltageEvents (.inl (by decide +kernel))).mpr (by decide +kernel)⟩

/-- An address byte that is no frame id lets every response pass. -/
theorem far_response_mismatched : exists frame, Accepted frame /\
    (requested farInstantaneous).frameId = 0x0E /\
    validateResponseFrame farInstantaneous.frame frame = true /\
    ¬ (headingOf frame).answers (requested farInstantaneous) := by
  refine ⟨reply ⟨0x0E, 0x08, 0x01⟩ 0x06, ⟨rfl, rfl, {}, by decide, by decide +kernel⟩, by decide +kernel,
    by decide +kernel, ?_⟩
  rintro ⟨-, command, -⟩
  revert command
  decide +kernel

end Hes.ResponseMatch
