import Hes.Fuota.Upload
import Hes.Lib.Paging

set_option autoImplicit false

namespace Hes.Fuota

open Prog

section Bytes

theorem minPayloadSize_mod (sectorValue headerLen : Nat) :
    minPayloadSize sectorValue headerLen = sectorValue % maxPayloadSize headerLen := by
  have parts := Nat.div_add_mod' sectorValue (maxPayloadSize headerLen)
  simp only [minPayloadSize, maxSubPageCount, Nat.add_sub_cancel]
  omega

theorem maxPayloadSize_small (headerLen : Nat) : maxPayloadSize headerLen ≤ 120 := by
  unfold maxPayloadSize phyLayerPktSize fuotaCmdLen
  split <;> omega

/-- Length of the header in front of an image frame, from the frame that was sent last. -/
def uploadHeaderLen (txBuffer : Bytes) : Nat :=
  (13 + if (byteAt txBuffer 12).toNat * 4 = 0 then 4 else (byteAt txBuffer 12).toNat * 4) % 256

theorem uploadHeaderLen_odd (txBuffer : Bytes) : uploadHeaderLen txBuffer % 4 = 1 := by
  unfold uploadHeaderLen
  split <;> omega

theorem maxPayloadSize_positive (txBuffer : Bytes) :
    0 < maxPayloadSize (uploadHeaderLen txBuffer) := by
  -- a payload has room for a byte at least: no header is 120 bytes long
  have odd := uploadHeaderLen_odd txBuffer
  unfold maxPayloadSize phyLayerPktSize fuotaCmdLen
  split <;> omega

/-- The reply a node gives to the image frame of a subpage. -/
def imageReply (txBuffer : Bytes) (page : Nat) (subpage : UInt8) (lastSubpage : Bool) : Bytes :=
  let dlms := [0x2D, 0x08, 0x07, 0x01, subpage, UInt8.ofNat (page / 256), UInt8.ofNat page,
    if lastSubpage then 0x00 else 0x01]
  [0x2E, 0x17, 0x0A] ++ (slice txBuffer 3 8 ++ lastHop txBuffer) ++ dlms ++
    [calculateChecksum dlms 0 8]

theorem lastHop_length (txBuffer : Bytes) : (lastHop txBuffer).length = 4 := by
  simp only [lastHop]
  split <;> simp

theorem imageReply_length (txBuffer : Bytes) (page : Nat) (subpage : UInt8) (lastSubpage : Bool) :
    (imageReply txBuffer page subpage lastSubpage).length = 24 := by
  simp [imageReply, lastHop_length]

/-- The twelve bytes of the awaited reply that stay the same from subpage to subpage. -/
def addressed (txBuffer header : Bytes) : Prop :=
  slice header 3 12 = slice txBuffer 3 8 ++ lastHop txBuffer

/-- The awaited reply is built behind the header of the frame that was sent last. -/
theorem response_addressed (txBuffer header : Bytes) :
    addressed txBuffer (overwrite header 0 (slice txBuffer 0 11 ++ lastHop txBuffer)) := by
  have hop := lastHop_length txBuffer
  have copied : slice (overwrite header 0 (slice txBuffer 0 11 ++ lastHop txBuffer)) 3 12 =
      slice (slice txBuffer 0 11 ++ lastHop txBuffer) 3 12 := by
    apply slice_congr
    intro index inside
    rw [byteAt_overwrite, if_pos (by simp [hop]; omega), Nat.sub_zero]
  have front : slice (slice txBuffer 0 11 ++ lastHop txBuffer) 3 8 = slice txBuffer 3 8 := by
    apply slice_congr
    intro index inside
    rw [byteAt_append_left _ _ _ (by simp; omega), byteAt_slice _ _ _ _ (by omega), Nat.zero_add]
  have behind := slice_append_right (slice txBuffer 0 11) (lastHop txBuffer) 0 4
  rw [slice_length, ← hop, slice_whole, hop] at behind
  rw [addressed, copied, show (12 : Nat) = 8 + 4 from rfl, slice_append, front, behind]

theorem buildImageTfExpectedRx_addressed (txBuffer header : Bytes) (page : Nat) (subpage : UInt8)
    (lastSubpage : Bool) (known : addressed txBuffer header) :
    addressed txBuffer (buildImageTfExpectedRx header 15 page subpage lastSubpage) := by
  unfold addressed buildImageTfExpectedRx
  rw [slice_overwrite_apart _ _ _ _ _ (by simp), slice_overwrite_apart _ _ _ _ _ (by simp),
    slice_overwrite_apart _ _ _ _ _ (by simp)]
  exact known

theorem buildImageTfExpectedRx_reply (txBuffer header : Bytes) (page : Nat) (subpage : UInt8)
    (lastSubpage : Bool) (known : addressed txBuffer header) :
    slice (buildImageTfExpectedRx header 15 page subpage lastSubpage) 0 24 =
      imageReply txBuffer page subpage lastSubpage := by
  have middle := buildImageTfExpectedRx_addressed txBuffer header page subpage lastSubpage known
  have opened : slice (buildImageTfExpectedRx header 15 page subpage lastSubpage) 0 3 =
      [0x2E, 0x17, 0x0A] := by
    unfold buildImageTfExpectedRx
    rw [slice_overwrite_apart _ _ _ _ _ (by simp), slice_overwrite_apart _ _ _ _ _ (by simp)]
    exact slice_overwrite header 0 [0x2E, 0x17, 0x0A]
  have command : slice (buildImageTfExpectedRx header 15 page subpage lastSubpage) 15 8 =
      [0x2D, 0x08, 0x07, 0x01, subpage, UInt8.ofNat (page / 256), UInt8.ofNat page,
        if lastSubpage then 0x00 else 0x01] := by
    unfold buildImageTfExpectedRx
    rw [slice_overwrite_apart _ _ _ _ _ (by simp)]
    exact slice_overwrite _ 15 [0x2D, 0x08, 0x07, 0x01, subpage, _, _, _]
  have summed := slice_overwrite (overwrite (overwrite header 0 [0x2E, 0x17, 0x0A]) 15
    [0x2D, 0x08, 0x07, 0x01, subpage, UInt8.ofNat (page / 256), UInt8.ofNat page,
      if lastSubpage then 0x00 else 0x01]) 23 [calculateChecksum [0x2D, 0x08, 0x07, 0x01, subpage,
        UInt8.ofNat (page / 256), UInt8.ofNat page, if lastSubpage then 0x00 else 0x01] 0 8]
  rw [show (24 : Nat) = 3 + 12 + 8 + 1 from rfl, slice_append, slice_append, slice_append,
    opened, show 0 + 3 = 3 from rfl, middle, show 0 + (3 + 12) = 15 from rfl, command]
  congr 1

/-- What stands behind the four bytes of the command in an image frame. -/
theorem slice_imageFrame (command : Bytes) (headerLen page : Nat) (subpage : UInt8) (payload : Bytes)
    (place length : Nat) (inside : place + length ≤ payload.length + 3) :
    slice (imageFrame command headerLen page subpage payload) (headerLen + 4 + place) length =
      slice ([subpage, UInt8.ofNat (page / 256), UInt8.ofNat page] ++ payload) place length := by
  unfold imageFrame
  rw [slice_overwrite_apart _ _ _ _ _ (by simp; omega),
    slice_overwrite_apart _ _ _ _ _ (by simp; omega),
    slice_overwrite_apart _ _ _ _ _ (by simp; omega)]
  apply slice_congr
  intro index within
  rw [byteAt_overwrite, if_pos (by simp; omega)]
  congr 1
  omega

section Labels

variable (command : Bytes) (headerLen page : Nat) (subpage : UInt8) (payload : Bytes)

/-- The bytes of an image frame that are transmitted: its length is one byte. -/
def frameBytes : Bytes :=
  slice (imageFrame command headerLen page subpage payload) 0 ((headerLen + 8 + payload.length) % 256)

variable (room : headerLen + 8 + payload.length ≤ 255)

include room

theorem slice_frameBytes (place length : Nat) (inside : place + length ≤ payload.length + 3) :
    slice (frameBytes command headerLen page subpage payload) (headerLen + 4 + place) length =
      slice ([subpage, UInt8.ofNat (page / 256), UInt8.ofNat page] ++ payload) place length := by
  rw [← slice_imageFrame command headerLen page subpage payload place length inside, frameBytes,
    Nat.mod_eq_of_lt (by omega)]
  apply slice_congr
  intro index within
  rw [byteAt_slice _ _ _ _ (by omega), Nat.zero_add]

theorem page_frameBytes :
    bigEndian (slice (frameBytes command headerLen page subpage payload) (headerLen + 5) 2) =
      page % 65536 := by
  rw [show headerLen + 5 = headerLen + 4 + 1 from rfl, slice_frameBytes _ _ _ _ _ room 1 2 (by omega)]
  simp [slice, List.range_succ, byteAt, bigEndian]
  omega

theorem subpage_frameBytes :
    byteAt (frameBytes command headerLen page subpage payload) (headerLen + 4) = subpage := by
  have first := congrArg (fun bytes => byteAt bytes 0)
    (slice_frameBytes command headerLen page subpage payload room 0 1 (by omega))
  simp only [byteAt_slice _ _ _ _ Nat.zero_lt_one, Nat.add_zero] at first
  simpa [byteAt] using first

theorem payload_frameBytes :
    slice (frameBytes command headerLen page subpage payload) (headerLen + 7) payload.length =
      payload := by
  rw [show headerLen + 7 = headerLen + 4 + 3 from rfl, slice_frameBytes _ _ _ _ _ room 3 _ (by omega)]
  exact (slice_append_right [subpage, _, _] payload 0 _).trans (slice_whole _)

end Labels

/-- A frame says the place of its payload, if its length fits into a byte; else it has none. -/
structure Carries (layout : Paging.Layout) (content : Bytes) (cursor : Paging.Cursor)
    (frame : ImageFrame) : Prop where
  position : frame.position = cursor.position
  fits : frame.headerLen + 8 + (layout.chunk content cursor).length ≤ 255 ->
    frame.page = cursor.page % 65536 /\ frame.subpage = cursor.sub /\
      frame.payload = layout.chunk content cursor
  wraps : 255 < frame.headerLen + 8 + (layout.chunk content cursor).length -> frame.payload = []

theorem carries_imageFrame (layout : Paging.Layout) (content : Bytes) (cursor : Paging.Cursor)
    (command : Bytes) (headerLen : Nat) (subpage : UInt8) (lastSubpage : Bool)
    (same : subpage.toNat = cursor.sub) (short : headerLen ≤ 255)
    (small : (layout.chunk content cursor).length ≤ 120) :
    Carries layout content cursor {
      headerLen := headerLen
      bytes := slice (imageFrame command headerLen cursor.page subpage (layout.chunk content cursor)) 0
        ((headerLen + 8 + (layout.chunk content cursor).length) % 256)
      position := cursor.position
      lastSubpage := lastSubpage } := by
  constructor
  next => rfl
  next =>
    intro room
    dsimp only at room
    refine ⟨page_frameBytes command headerLen cursor.page subpage _ room, ?_, ?_⟩
    next =>
      have label := subpage_frameBytes command headerLen cursor.page subpage _ room
      exact (congrArg UInt8.toNat label).trans same
    next =>
      have whole := payload_frameBytes command headerLen cursor.page subpage _ room
      simp only [ImageFrame.payload, slice_length, Nat.mod_eq_of_lt
        (show headerLen + 8 + (layout.chunk content cursor).length < 256 by omega), Nat.add_sub_cancel_left]
      rw [frameBytes, Nat.mod_eq_of_lt (by omega)] at whole
      exact whole
  next =>
    intro wrapped
    dsimp only at wrapped
    simp only [ImageFrame.payload, slice_length]
    rw [show (headerLen + 8 + (layout.chunk content cursor).length) % 256 - (headerLen + 8) = 0 by
      omega]
    rfl

end Bytes

section Environment

/-- The pages of the image, and the subpages they are sent in. -/
def layout (fuota : Fuota) : Paging.Layout where
  sector := fuota.firmware.sectorValue
  limit := maxPayloadSize (uploadHeaderLen fuota.radio.clientTxBuffer)
  pages := maxPageCount fuota.firmware.totalFirmwaresize fuota.firmware.sectorValue
  width := 256

/-- Nothing is read before the poll is over, or nothing at all. -/
def Arrival.silent (arrival : Arrival) : Prop := arrival = .timedOut \/ arrival = .data []

/-- The place of the reply to each frame, behind the silent reads in front of it. -/
def firstRead (silent : Nat -> Nat) (start : Nat) : Nat -> Nat
  | 0 => start
  | index + 1 => firstRead silent start index + silent index + 1

/-- The reply to the frame of a cursor, behind its silent reads. -/
def AnsweredAt (before : Fuota) (silent : Nat -> Nat) (cursor : Paging.Cursor) (index : Nat) : Prop :=
  let start := firstRead silent before.counters.arrivals index
  (∀ poll < silent index, (before.inputs.arrival (start + poll)).silent) /\
    before.inputs.arrival (start + silent index) = .data (imageReply before.radio.clientTxBuffer
      cursor.page (UInt8.ofNat cursor.sub) ((layout before).isLast cursor))

/-- Every frame that is sent is answered by its reply, after fewer than three silent reads. -/
def Answered (fuota : Fuota) (content : Bytes) : Prop :=
  exists silent : Nat -> Nat, (forall index, silent index < 3) /\
    forall index cursor, ((layout fuota).cursors content (content.length + 1) {})[index]? = some cursor ->
      AnsweredAt fuota silent cursor index

/-- An upload of an open file to a node that answers. -/
structure Uploading (fuota : Fuota) (content : Bytes) : Prop where
  transferring : fuota.machine.ondemandFuotaState = .fwImageTransfer
  file : fuota.firmware.foutaReadFd.map OpenFile.content = some content
  size : fuota.firmware.totalFirmwaresize = content.length % 2 ^ 32
  sector : 0 < fuota.firmware.sectorValue
  writes : forall index, fuota.inputs.write index = true
  reads : forall index, fuota.inputs.fread index = none
  fuel : content.length + 4 < fuota.inputs.fuel
  answered : Answered fuota content

def sentFrames (log : List Event) : List ImageFrame :=
  log.filterMap fun event => match event with
    | .imageSent _ frame => some frame
    | _ => none

def acknowledgedFrames (log : List Event) : List ImageFrame :=
  log.filterMap fun event => match event with
    | .imageAcknowledged frame => some frame
    | _ => none

/-- The place in the image that a frame names. -/
def ImageFrame.place (frame : ImageFrame) (sector limit : Nat) : Nat :=
  frame.page * sector + frame.subpage * limit

def rebuild (sector limit : Nat) (frames : List ImageFrame) : Bytes :=
  frames.foldl (fun image frame => overwrite image (frame.place sector limit) frame.payload) []

/-- The whole image is delivered, and every frame names the place its payload was read from. -/
structure Delivered (before after : Fuota) (content : Bytes) : Prop where
  ended : after.machine.ondemandFuotaState = .fwImageEndofPageTransfer
  rebuilt : rebuild (layout before).sector (layout before).limit
    ((acknowledgedFrames after.log).drop (acknowledgedFrames before.log).length) = content
  placed : ∀ frame ∈ (sentFrames after.log).drop (sentFrames before.log).length,
    frame.place (layout before).sector (layout before).limit = frame.position /\
      frame.payload ≠ [] /\ frame.payload <+: content.drop frame.position

/-- The layout fits the image, and the length of every frame a byte. -/
def Fits (fuota : Fuota) (content : Bytes) : Prop :=
  content = [] \/ ((layout fuota).Exact 65536 content.length /\
    uploadHeaderLen fuota.radio.clientTxBuffer + 8 + min (layout fuota).limit (layout fuota).sector ≤ 255)

end Environment

section Run

/-- What an exchange leaves as it is. -/
def settled (fuota : Fuota) :=
  (fuota.inputs, fuota.client, fuota.firmware, fuota.machine.ondemandFuotaState, fuota.radio,
    fuota.upload.pageCount,
    fuota.upload.subpageCount, fuota.upload.fuotaCmdHeaderLen, fuota.upload.fuotaRespHeaderLen,
    fuota.upload.imageTfCommand, fuota.upload.rfFuotaExpectedRespHeader)

/-- The reads so far, and the history with the updates of the status left out. -/
def trail (fuota : Fuota) :=
  (fuota.counters.arrivals, sentFrames fuota.log, acknowledgedFrames fuota.log)

theorem exchangeTurn_silent (frame : ImageFrame) (fuota : Fuota)
    (again : fuota.upload.fuotaImagetfRetryCount < 3)
    (written : fuota.inputs.write fuota.counters.writes = true)
    (silent : (fuota.inputs.arrival fuota.counters.arrivals).silent) :
    exists after, exchangeTurn frame fuota = (some (.again ()), after) /\
      settled after = settled fuota /\
      after.upload.fuotaImagetfRetryCount = fuota.upload.fuotaImagetfRetryCount + 1 /\
      after.counters.arrivals = fuota.counters.arrivals + 1 /\
      after.log = fuota.log ++ [.imageSent fuota.client.requestId frame] := by
  rcases silent with timedOut | nothing
  · simp [exchangeTurn, maxFuotaRetries, bind, observe, pure, nextWrite, nextArrival, note, update,
      countRetry, setUpload, again, written, timedOut, settled]
  · simp [exchangeTurn, maxFuotaRetries, bind, observe, pure, nextWrite, nextArrival, note, update,
      countRetry, setUpload, again, written, nothing, settled]

/-- The awaited reply is a frame of 24 bytes. -/
theorem imageReply_second (txBuffer header : Bytes) (page : Nat) (subpage : UInt8)
    (lastSubpage : Bool)
    (awaited : slice header 0 24 = imageReply txBuffer page subpage lastSubpage) :
    byteAt header 1 = 0x17 := by
  have second := congrArg (fun bytes => byteAt bytes 1) awaited
  simp only [byteAt_slice _ _ _ _ (show 1 < 24 by omega)] at second
  exact second

theorem exchangeTurn_answered (frame : ImageFrame) (fuota : Fuota) (txBuffer : Bytes) (page : Nat)
    (subpage : UInt8) (lastSubpage : Bool)
    (again : fuota.upload.fuotaImagetfRetryCount < 3)
    (written : fuota.inputs.write fuota.counters.writes = true)
    (awaited : slice fuota.upload.rfFuotaExpectedRespHeader 0 24 =
      imageReply txBuffer page subpage lastSubpage)
    (answered : fuota.inputs.arrival fuota.counters.arrivals =
      .data (imageReply txBuffer page subpage lastSubpage)) :
    exists after, exchangeTurn frame fuota = (some (.done .acknowledged), after) /\
      settled after = settled fuota /\
      after.counters.arrivals = fuota.counters.arrivals + 1 /\
      after.log = fuota.log ++ [.imageSent fuota.client.requestId frame] := by
  have length := imageReply_length txBuffer page subpage lastSubpage
  have second := imageReply_second txBuffer _ page subpage lastSubpage awaited
  have read : (imageReply txBuffer page subpage lastSubpage).take 130 =
      imageReply txBuffer page subpage lastSubpage := List.take_of_length_le (by omega)
  have some : imageReply txBuffer page subpage lastSubpage ≠ [] := by
    intro empty
    rw [empty] at length
    simp at length
  have matched : slice (overwrite fuota.upload.fuotaRbuf 0
      (imageReply txBuffer page subpage lastSubpage)) 0 24 =
        slice fuota.upload.rfFuotaExpectedRespHeader 0 24 := by
    rw [awaited]
    conv => lhs; rw [← length]
    exact slice_overwrite _ 0 _
  simp [exchangeTurn, judge, handleFuotaPostRead, matchesExpected, setCntx, setMachine, maxFuotaRetries,
    bind, observe, pure, nextWrite, nextArrival, note, update, setUpload, again, written, answered, read,
    some, second, matched, settled]

/-- A frame is sent until the reply to it comes. -/
theorem exchange_answered (frame : ImageFrame) (txBuffer : Bytes) (page : Nat) (subpage : UInt8)
    (lastSubpage : Bool) (polls fuel : Nat) (fuota : Fuota)
    (few : fuota.upload.fuotaImagetfRetryCount + polls < 3) (enough : polls < fuel)
    (written : forall index, fuota.inputs.write index = true)
    (awaited : slice fuota.upload.rfFuotaExpectedRespHeader 0 24 =
      imageReply txBuffer page subpage lastSubpage)
    (silent : ∀ poll < polls, (fuota.inputs.arrival (fuota.counters.arrivals + poll)).silent)
    (answered : fuota.inputs.arrival (fuota.counters.arrivals + polls) =
      .data (imageReply txBuffer page subpage lastSubpage)) :
    exists after, loop (fun _ => exchangeTurn frame) fuel () fuota = (some .acknowledged, after) /\
      settled after = settled fuota /\
      after.counters.arrivals = fuota.counters.arrivals + polls + 1 /\
      after.log = fuota.log ++
        List.replicate (polls + 1) (.imageSent fuota.client.requestId frame) := by
  induction polls generalizing fuel fuota with
  | zero =>
    obtain ⟨after, ran, same, reads, log⟩ := exchangeTurn_answered frame fuota txBuffer page subpage
      lastSubpage (by omega) (written _) awaited answered
    cases fuel with
    | zero => omega
    | succ fuel =>
      refine ⟨after, ?_, same, by omega, by simpa using log⟩
      rw [loop, ran_bind ran]
      rfl
  | succ polls ih =>
    obtain ⟨middle, ran, same, retried, reads, log⟩ := exchangeTurn_silent frame fuota (by omega)
      (written _) (silent 0 (by omega))
    simp only [settled, Prod.mk.injEq] at same
    obtain ⟨inputs, client, firmware, state, radio, pages, subpages, commands, responses, command,
      header⟩ := same
    cases fuel with
    | zero => omega
    | succ fuel =>
      obtain ⟨after, later, kept, behind, history⟩ := ih fuel middle (by omega) (by omega)
        (by rw [inputs]; exact written) (by rw [header]; exact awaited)
        (by
          intro poll early
          rw [inputs, reads, Nat.add_assoc, Nat.add_comm 1 poll]
          exact silent (poll + 1) (by omega))
        (by rw [inputs, reads, Nat.add_assoc, Nat.add_comm 1 polls]; exact answered)
      refine ⟨after, ?_, ?_, by omega, ?_⟩
      next =>
        rw [loop, ran_bind ran]
        exact later
      next =>
        rw [kept]
        simp only [settled, inputs, client, firmware, state, radio, pages, subpages, commands, responses,
          command, header]
      next =>
        rw [history, log, client, List.append_assoc, @List.replicate_succ _ _ (polls + 1)]
        rfl

theorem updateStatus_settled (requestStatus errorCode : Nat) (fuota : Fuota) :
    exists after, updateStatus requestStatus errorCode fuota = (some (), after) /\
      settled after = settled fuota /\ after.upload = fuota.upload /\ trail after = trail fuota := by
  simp only [updateStatus, ondemandFuotaUpdateStatus, bind, observe, update]
  split
  next => exact ⟨fuota, rfl, rfl, rfl, rfl⟩
  next =>
    refine ⟨_, rfl, ?_, rfl, ?_⟩
    next =>
      simp only [settled, apply_ite Machine.ondemandFuotaState, Machine.terminal, ite_self]
    next => simp [trail, sentFrames, acknowledgedFrames]

/-- In front of a subpage: numbers and file are at the cursor, and the next reply is its own. -/
structure At (before : Fuota) (content : Bytes) (silent : Nat -> Nat) (cursor : Paging.Cursor)
    (index : Nat) (fuota : Fuota) : Prop where
  inputs : fuota.inputs = before.inputs
  radio : fuota.radio = before.radio
  size : fuota.firmware.totalFirmwaresize = before.firmware.totalFirmwaresize
  sector : fuota.firmware.sectorValue = before.firmware.sectorValue
  file : fuota.firmware.foutaReadFd = some { content := content, position := cursor.position }
  state : fuota.machine.ondemandFuotaState = .fwImageTransfer
  page : fuota.upload.pageCount = cursor.page
  subpage : fuota.upload.subpageCount.toNat = cursor.sub
  commandLen : fuota.upload.fuotaCmdHeaderLen = uploadHeaderLen before.radio.clientTxBuffer
  responseLen : fuota.upload.fuotaRespHeaderLen = 15
  header : addressed before.radio.clientTxBuffer fuota.upload.rfFuotaExpectedRespHeader
  reads : fuota.counters.arrivals = firstRead silent before.counters.arrivals index

theorem fread_whole (count : Nat) (fuota : Fuota) (file : OpenFile)
    (opened : fuota.firmware.foutaReadFd = some file)
    (good : fuota.inputs.fread fuota.counters.freads = none) :
    exists freads, fread count fuota = (some ((file.content.drop file.position).take count), { fuota with
      counters := { fuota.counters with freads := freads }
      firmware := { fuota.firmware with foutaReadFd := some { file with
        position := file.position + ((file.content.drop file.position).take count).length } } }) := by
  exact ⟨fuota.counters.freads + 1, by simp [fread, opened, good]⟩

variable {before : Fuota} {content : Bytes} {silent : Nat -> Nat}

/-- The file has moved behind what was read. -/
def readBehind (fuota : Fuota) (content : Bytes) (position freads : Nat) : Fuota := { fuota with
  counters := { fuota.counters with freads := freads }
  firmware := { fuota.firmware with foutaReadFd := some { content := content, position := position } } }

theorem uploadTurn_reads (cursor : Paging.Cursor) (index : Nat) (fuota : Fuota)
    (uploading : Uploading before content) (known : At before content silent cursor index fuota)
    (counted : cursor.page < (layout before).pages) :
    exists freads, uploadTurn () fuota =
      (if (layout before).chunk content cursor = [] then pure (.done true)
        else sendSubpage ((layout before).chunk content cursor) cursor.position
          ((layout before).isLast cursor))
        (readBehind fuota content
          (cursor.position + ((layout before).chunk content cursor).length) freads) := by
  obtain ⟨freads, read⟩ := fread_whole ((layout before).want cursor) fuota _ known.file
    (by rw [known.inputs]; exact uploading.reads _)
  refine ⟨freads, ?_⟩
  have inside : fuota.upload.pageCount < maxPageCount fuota.firmware.totalFirmwaresize
      fuota.firmware.sectorValue := by
    rw [known.page, known.size, known.sector]
    exact counted
  have last : (decide (fuota.upload.subpageCount.toNat = maxSubPageCount fuota.firmware.sectorValue
      fuota.upload.fuotaCmdHeaderLen - 1)) = (layout before).isLast cursor := by
    rw [known.subpage, known.sector, known.commandLen]
    rfl
  have wanted : (if (layout before).isLast cursor then
      minPayloadSize fuota.firmware.sectorValue fuota.upload.fuotaCmdHeaderLen
      else maxPayloadSize fuota.upload.fuotaCmdHeaderLen) = (layout before).want cursor := by
    rw [known.sector, known.commandLen, minPayloadSize_mod]
    rfl
  have place : filePosition fuota = (some cursor.position, fuota) := by
    simp [filePosition, observe, known.file]
  simp only [uploadTurn]
  rw [ran_bind (show observe id fuota = (some fuota, fuota) from rfl)]
  simp only [if_pos inside, last, wanted]
  rw [ran_bind place, ran_bind read]
  by_cases empty : (layout before).chunk content cursor = []
  next =>
    have nothing : (content.drop cursor.position).take ((layout before).want cursor) = [] := empty
    simp only [empty, nothing, if_true]
    rfl
  next =>
    have something : (content.drop cursor.position).take ((layout before).want cursor) ≠ [] := empty
    simp only [empty, something, if_false]
    rfl

theorem uploadTurn_stopped (cursor : Paging.Cursor) (index : Nat) (fuota : Fuota)
    (uploading : Uploading before content) (known : At before content silent cursor index fuota)
    (stopped : (layout before).stopped content cursor) :
    exists after, uploadTurn () fuota = (some (.done true), after) /\
      after.machine.ondemandFuotaState = .fwImageTransfer /\ after.log = fuota.log := by
  by_cases counted : cursor.page < (layout before).pages
  next =>
    have empty : (layout before).chunk content cursor = [] := by
      rcases stopped with behind | empty
      · omega
      · exact empty
    obtain ⟨freads, ran⟩ := uploadTurn_reads cursor index fuota uploading known counted
    rw [ran, if_pos empty]
    exact ⟨_, rfl, known.state, rfl⟩
  next =>
    refine ⟨fuota, ?_, known.state, rfl⟩
    have beyond : ¬ fuota.upload.pageCount < maxPageCount fuota.firmware.totalFirmwaresize
        fuota.firmware.sectorValue := by
      rw [known.page, known.size, known.sector]
      exact counted
    simp [uploadTurn, bind, observe, pure, beyond]

theorem buildSubpage_ran (payload : Bytes) (lastSubpage : Bool) (fuota : Fuota) :
    exists built, buildSubpage payload lastSubpage fuota = (some (), built) /\
      built.inputs = fuota.inputs /\ built.radio = fuota.radio /\
      built.firmware = fuota.firmware /\ built.machine = fuota.machine /\
      trail built = trail fuota /\
      built.upload = { fuota.upload with
        imageTfCommand := imageFrame fuota.upload.imageTfCommand fuota.upload.fuotaCmdHeaderLen
          fuota.upload.pageCount fuota.upload.subpageCount payload
        rfFuotaExpectedRespHeader := buildImageTfExpectedRx fuota.upload.rfFuotaExpectedRespHeader
          fuota.upload.fuotaRespHeaderLen fuota.upload.pageCount fuota.upload.subpageCount lastSubpage
        fuotaImagetfRetryCount := 0 } :=
  ⟨_, rfl, rfl, rfl, rfl, rfl, rfl, rfl⟩

theorem advance_ran (lastSubpage : Bool) (fuota : Fuota) :
    exists after, advance lastSubpage fuota = (some (), after) /\
      after.inputs = fuota.inputs /\ after.radio = fuota.radio /\
      after.firmware = fuota.firmware /\ after.machine = fuota.machine /\
      trail after = trail fuota /\
      after.upload = (if lastSubpage then
          { fuota.upload with subpageCount := 0, pageCount := fuota.upload.pageCount + 1 }
        else { fuota.upload with subpageCount := fuota.upload.subpageCount + 1 }) :=
  ⟨_, rfl, rfl, rfl, rfl, rfl, rfl, rfl⟩

theorem sentFrames_append (first second : List Event) :
    sentFrames (first ++ second) = sentFrames first ++ sentFrames second := List.filterMap_append

theorem acknowledgedFrames_append (first second : List Event) :
    acknowledgedFrames (first ++ second) = acknowledgedFrames first ++ acknowledgedFrames second :=
  List.filterMap_append

theorem sentFrames_replicate (count : Nat) (requestId : Int) (frame : ImageFrame) :
    sentFrames (List.replicate count (.imageSent requestId frame)) = List.replicate count frame := by
  simp [sentFrames]

theorem acknowledgedFrames_replicate (count : Nat) (requestId : Int) (frame : ImageFrame) :
    acknowledgedFrames (List.replicate count (.imageSent requestId frame)) = [] := by
  simp [acknowledgedFrames]

/-- An answered frame ends with its acknowledgement, and the numbers of the next one. -/
theorem sendSubpage_answered (payload : Bytes) (position : Nat) (lastSubpage : Bool) (polls : Nat)
    (txBuffer : Bytes) (fuota : Fuota) (few : polls < 3) (enough : 3 ≤ fuota.inputs.fuel)
    (written : forall index, fuota.inputs.write index = true)
    (responseLen : fuota.upload.fuotaRespHeaderLen = 15)
    (header : addressed txBuffer fuota.upload.rfFuotaExpectedRespHeader)
    (silent : ∀ poll < polls, (fuota.inputs.arrival (fuota.counters.arrivals + poll)).silent)
    (answered : fuota.inputs.arrival (fuota.counters.arrivals + polls) =
      .data (imageReply txBuffer fuota.upload.pageCount fuota.upload.subpageCount lastSubpage)) :
    let frame : ImageFrame := {
      headerLen := fuota.upload.fuotaCmdHeaderLen
      bytes := slice (imageFrame fuota.upload.imageTfCommand fuota.upload.fuotaCmdHeaderLen
        fuota.upload.pageCount fuota.upload.subpageCount payload) 0
        ((fuota.upload.fuotaCmdHeaderLen + 8 + payload.length) % 256)
      position := position
      lastSubpage := lastSubpage }
    exists after, sendSubpage payload position lastSubpage fuota = (some (.again ()), after) /\
      after.inputs = fuota.inputs /\ after.radio = fuota.radio /\
      after.firmware = fuota.firmware /\
      after.machine.ondemandFuotaState = fuota.machine.ondemandFuotaState /\
      after.upload.pageCount = (if lastSubpage then fuota.upload.pageCount + 1
        else fuota.upload.pageCount) /\
      after.upload.subpageCount = (if lastSubpage then 0 else fuota.upload.subpageCount + 1) /\
      after.upload.fuotaCmdHeaderLen = fuota.upload.fuotaCmdHeaderLen /\
      after.upload.fuotaRespHeaderLen = 15 /\
      addressed txBuffer after.upload.rfFuotaExpectedRespHeader /\
      trail after = (fuota.counters.arrivals + polls + 1,
        sentFrames fuota.log ++ List.replicate (polls + 1) frame,
        acknowledgedFrames fuota.log ++ [frame]) := by
  intro frame
  obtain ⟨built, ranBuild, builtInputs, builtRadio, builtFirmware, builtMachine, builtTrail,
    builtUpload⟩ := buildSubpage_ran payload lastSubpage fuota
  obtain ⟨updated, ranUpdate, kept, uploadUpdate, trailUpdate⟩ := updateStatus_settled 11 1 built
  simp only [settled, Prod.mk.injEq] at kept
  obtain ⟨inputs, client, firmware, state, radio, _⟩ := kept
  have awaited := buildImageTfExpectedRx_reply txBuffer fuota.upload.rfFuotaExpectedRespHeader
    fuota.upload.pageCount fuota.upload.subpageCount lastSubpage header
  rw [builtTrail] at trailUpdate
  simp only [trail, Prod.mk.injEq] at trailUpdate
  obtain ⟨reads, sentUpdate, acknowledgedUpdate⟩ := trailUpdate
  obtain ⟨replied, ranLoop, keptLoop, readsLoop, logLoop⟩ := exchange_answered frame txBuffer
    fuota.upload.pageCount fuota.upload.subpageCount lastSubpage polls built.inputs.fuel updated
    (by rw [uploadUpdate, builtUpload]; simpa using few) (by rw [builtInputs]; omega)
    (by rw [inputs, builtInputs]; exact written)
    (by rw [uploadUpdate, builtUpload, responseLen]; exact awaited)
    (by rw [inputs, builtInputs, reads]; exact silent)
    (by rw [inputs, builtInputs, reads]; exact answered)
  simp only [settled, Prod.mk.injEq] at keptLoop
  obtain ⟨loopInputs, loopClient, loopFirmware, loopState, loopRadio, loopPages, loopSubpages,
    loopCommands, loopResponses, loopCommand, loopHeader⟩ := keptLoop
  obtain ⟨after, ranAdvance, lastInputs, lastRadio, lastFirmware, lastMachine, lastTrail, lastUpload⟩ :=
    advance_ran lastSubpage { replied with log := replied.log ++ [.imageAcknowledged frame] }
  refine ⟨after, ?_, ?_, ?_, ?_, ?_, ?_, ?_, ?_, ?_, ?_, ?_⟩
  next =>
    rw [sendSubpage, ran_bind ranBuild,
      ran_bind (show observe id built = (some built, built) from rfl), ran_bind ranUpdate]
    rw [builtUpload, ran_bind ranLoop, afterExchange]
    rw [ran_bind (show note (.imageAcknowledged frame) replied = (some (), _) from rfl),
      ran_bind ranAdvance]
    rfl
  next => rw [lastInputs, loopInputs, inputs, builtInputs]
  next => rw [lastRadio, loopRadio, radio, builtRadio]
  next => rw [lastFirmware, loopFirmware, firmware, builtFirmware]
  next => rw [lastMachine, loopState, state, builtMachine]
  next =>
    rw [lastUpload]
    cases lastSubpage <;> simp [loopPages, uploadUpdate, builtUpload]
  next =>
    rw [lastUpload]
    cases lastSubpage <;> simp [loopSubpages, uploadUpdate, builtUpload]
  next =>
    rw [lastUpload]
    cases lastSubpage <;> simp [loopCommands, uploadUpdate, builtUpload]
  next =>
    rw [lastUpload]
    cases lastSubpage <;> simp [loopResponses, uploadUpdate, builtUpload, responseLen]
  next =>
    have kept := buildImageTfExpectedRx_addressed txBuffer fuota.upload.rfFuotaExpectedRespHeader
      fuota.upload.pageCount fuota.upload.subpageCount lastSubpage header
    rw [lastUpload]
    cases lastSubpage <;> simpa [loopHeader, uploadUpdate, builtUpload, responseLen] using kept
  next =>
    have noted : sentFrames [.imageAcknowledged frame] = [] /\
        acknowledgedFrames [.imageAcknowledged frame] = [frame] := ⟨rfl, rfl⟩
    rw [lastTrail]
    simp [trail, readsLoop, reads, logLoop, sentFrames_append, sentUpdate, sentFrames_replicate,
      acknowledgedFrames_append, acknowledgedUpdate, acknowledgedFrames_replicate, noted]

theorem uploadTurn_answered (cursor : Paging.Cursor) (index : Nat) (fuota : Fuota)
    (uploading : Uploading before content) (few : silent index < 3)
    (answered : AnsweredAt before silent cursor index)
    (known : At before content silent cursor index fuota)
    (going : ¬ (layout before).stopped content cursor) :
    exists after frame, uploadTurn () fuota = (some (.again ()), after) /\
      At before content silent ((layout before).next cursor
        ((layout before).chunk content cursor).length) (index + 1) after /\
      Carries (layout before) content cursor frame /\
      frame.headerLen = uploadHeaderLen before.radio.clientTxBuffer /\
      sentFrames after.log = sentFrames fuota.log ++ List.replicate (silent index + 1) frame /\
      acknowledgedFrames after.log = acknowledgedFrames fuota.log ++ [frame] := by
  have enough := uploading.fuel
  have counted : cursor.page < (layout before).pages := by
    by_contra beyond
    exact going (Or.inl (by omega))
  have some : (layout before).chunk content cursor ≠ [] := fun empty => going (Or.inr empty)
  have small : ((layout before).chunk content cursor).length ≤ 120 := by
    have limit := maxPayloadSize_small (uploadHeaderLen before.radio.clientTxBuffer)
    have positive := maxPayloadSize_positive before.radio.clientTxBuffer
    have wanted : (layout before).want cursor ≤
        maxPayloadSize (uploadHeaderLen before.radio.clientTxBuffer) := by
      unfold Paging.Layout.want
      split
      next => exact (Nat.mod_lt _ positive).le
      next => exact le_rfl
    simp only [Paging.Layout.chunk, List.length_take]
    omega
  obtain ⟨freads, ran⟩ := uploadTurn_reads cursor index fuota uploading known counted
  obtain ⟨quiet, reply⟩ := answered
  have number : UInt8.ofNat cursor.sub = fuota.upload.subpageCount := by
    rw [← known.subpage, UInt8.ofNat_toNat]
  rw [number, ← known.page] at reply
  obtain ⟨after, sent, inputs, radio, firmware, state, pages, subpages, commandLen, responseLen, header,
    history⟩ := sendSubpage_answered ((layout before).chunk content cursor) cursor.position
      ((layout before).isLast cursor) (silent index) before.radio.clientTxBuffer
      (readBehind fuota content
        (cursor.position + ((layout before).chunk content cursor).length) freads)
      few (by rw [readBehind, known.inputs]; omega) (by rw [readBehind, known.inputs]; exact uploading.writes)
      known.responseLen known.header (by rw [readBehind, known.inputs, known.reads]; exact quiet)
      (by rw [readBehind, known.inputs, known.reads]; exact reply)
  simp only [trail, Prod.mk.injEq] at history
  obtain ⟨reads, frames, acknowledged⟩ := history
  refine ⟨after, _, ?_, ?_, ?_, ?_, frames, acknowledged⟩
  next => rw [ran, if_neg some, sent]
  next =>
    constructor
    next => rw [inputs, readBehind, known.inputs]
    next => rw [radio, readBehind, known.radio]
    next => rw [firmware, readBehind, known.size]
    next => rw [firmware, readBehind, known.sector]
    next => rw [firmware, readBehind, Paging.Layout.next_position]
    next => rw [state, readBehind, known.state]
    next =>
      rw [pages, readBehind, known.page, Paging.Layout.next]
      split <;> rfl
    next =>
      rw [subpages, readBehind, Paging.Layout.next]
      split
      next => rfl
      next => simp [UInt8.toNat_add, known.subpage, layout]
    next => rw [commandLen, readBehind, known.commandLen]
    next => exact responseLen
    next => exact header
    next => rw [reads, readBehind, known.reads, firstRead]
  next =>
    have carried := carries_imageFrame (layout before) content cursor fuota.upload.imageTfCommand
      fuota.upload.fuotaCmdHeaderLen fuota.upload.subpageCount ((layout before).isLast cursor)
      known.subpage (by rw [known.commandLen]; unfold uploadHeaderLen; omega) small
    rw [← known.page] at carried
    exact carried
  next => exact known.commandLen

/-- The frames of an upload, one for each cursor, and each of them sent at least once. -/
theorem upload_answered (turns fuel : Nat) (cursor : Paging.Cursor) (index : Nat) (fuota : Fuota)
    (uploading : Uploading before content) (few : forall index, silent index < 3)
    (answered : forall number visited,
      ((layout before).cursors content turns cursor)[number]? = some visited ->
        AnsweredAt before silent visited (index + number))
    (inside : cursor.position ≤ content.length) (enough : content.length - cursor.position < turns)
    (fueled : turns ≤ fuel) (known : At before content silent cursor index fuota) :
    exists after frames sent, loop uploadTurn fuel () fuota = (some true, after) /\
      after.machine.ondemandFuotaState = .fwImageTransfer /\
      List.Forall₂ (fun visited (frame : ImageFrame) =>
          Carries (layout before) content visited frame /\
            frame.headerLen = uploadHeaderLen before.radio.clientTxBuffer)
        ((layout before).cursors content turns cursor) frames /\
      acknowledgedFrames after.log = acknowledgedFrames fuota.log ++ frames /\
      sentFrames after.log = sentFrames fuota.log ++ sent /\
      forall frame, frame ∈ sent <-> frame ∈ frames := by
  induction turns generalizing fuel cursor index fuota with
  | zero => omega
  | succ turns ih =>
    cases fuel with
    | zero => omega
    | succ fuel =>
      by_cases stopped : (layout before).stopped content cursor
      next =>
        obtain ⟨after, ran, state, log⟩ := uploadTurn_stopped cursor index fuota uploading known stopped
        refine ⟨after, [], [], ?_, state, ?_, by simp [log], by simp [log], by simp⟩
        next =>
          rw [loop, ran_bind ran]
          rfl
        next => simp [Paging.Layout.cursors, stopped]
      next =>
        have first := answered 0 cursor (by simp [Paging.Layout.cursors, stopped])
        obtain ⟨middle, frame, ran, next, carries, header, sentFirst, acknowledgedFirst⟩ :=
          uploadTurn_answered cursor index fuota uploading (few index) first known stopped
        have positive := (layout before).chunk_positive content cursor stopped
        have within := (layout before).chunk_inside content cursor inside
        obtain ⟨after, frames, sent, later, state, carried, acknowledged, history, same⟩ := ih fuel _ _
          middle (by
            intro number visited member
            rw [Nat.add_assoc, Nat.add_comm 1 number]
            exact answered (number + 1) visited (by simp [Paging.Layout.cursors, stopped, member]))
          (by simpa using within) (by rw [Paging.Layout.next_position]; omega) (by omega) next
        refine ⟨after, frame :: frames, List.replicate (silent index + 1) frame ++ sent, ?_, state, ?_,
          ?_, ?_, ?_⟩
        next =>
          rw [loop, ran_bind ran]
          exact later
        next =>
          simp only [Paging.Layout.cursors, stopped, if_false]
          exact List.Forall₂.cons ⟨carries, header⟩ carried
        next => rw [acknowledged, acknowledgedFirst, List.append_assoc, List.singleton_append]
        next => rw [history, sentFirst, List.append_assoc]
        next =>
          intro other
          simp [same, List.mem_replicate]

end Run

section Rebuilding

theorem overwrite_take (content chunk : Bytes) (position : Nat) (inside : position ≤ content.length)
    (read : chunk <+: content.drop position) :
    overwrite (content.take position) position chunk = content.take (position + chunk.length) := by
  have length : (content.take position).length = position := by
    rw [List.length_take]
    omega
  have front := slice_whole (content.take position)
  rw [length] at front
  rw [overwrite, front, List.drop_eq_nil_of_le (by omega), List.append_nil, List.take_add,
    ← List.prefix_iff_eq_take.mp read]

variable {before : Fuota} {content : Bytes}

/-- A frame that names the place of its payload, with the payload that was read. -/
def ImageFrame.sound (frame : ImageFrame) (before : Fuota) (content : Bytes) : Prop :=
  frame.place (layout before).sector (layout before).limit = frame.position /\
    frame.payload ≠ [] /\ frame.payload <+: content.drop frame.position

theorem sound_iff (cursor : Paging.Cursor) (frame : ImageFrame)
    (carries : Carries (layout before) content cursor frame)
    (going : ¬ (layout before).stopped content cursor) :
    frame.sound before content <-> (layout before).placed 65536 cursor /\
      frame.headerLen + 8 + ((layout before).chunk content cursor).length ≤ 255 := by
  constructor
  next =>
    rintro ⟨place, payload, _⟩
    have fits : frame.headerLen + 8 + ((layout before).chunk content cursor).length ≤ 255 := by
      by_contra wraps
      exact payload (carries.wraps (by omega))
    obtain ⟨page, subpage, _⟩ := carries.fits fits
    rw [ImageFrame.place, page, subpage, carries.position] at place
    exact ⟨place, fits⟩
  next =>
    rintro ⟨placed, fits⟩
    obtain ⟨page, subpage, payload⟩ := carries.fits fits
    refine ⟨?_, ?_, ?_⟩
    next =>
      rw [ImageFrame.place, page, subpage, carries.position]
      exact placed
    next =>
      rw [payload]
      exact fun empty => going (Or.inr empty)
    next =>
      rw [payload, carries.position]
      exact List.take_prefix _ _

/-- Sound frames put the image together up to the place of the last cursor. -/
theorem rebuild_finish (turns : Nat) (cursor : Paging.Cursor) (frames : List ImageFrame)
    (inside : cursor.position ≤ content.length)
    (carried : List.Forall₂ (fun visited (frame : ImageFrame) =>
        Carries (layout before) content visited frame /\
          frame.headerLen = uploadHeaderLen before.radio.clientTxBuffer)
      ((layout before).cursors content turns cursor) frames)
    (sound : ∀ frame ∈ frames, frame.sound before content) :
    frames.foldl (fun image (frame : ImageFrame) => overwrite image
        (frame.place (layout before).sector (layout before).limit) frame.payload)
      (content.take cursor.position) =
      content.take ((layout before).finish content turns cursor).position := by
  induction turns generalizing cursor frames with
  | zero =>
    simp only [Paging.Layout.cursors, List.forall₂_nil_left_iff] at carried
    subst carried
    rfl
  | succ turns ih =>
    by_cases stopped : (layout before).stopped content cursor
    next =>
      simp only [Paging.Layout.cursors, stopped, if_true, List.forall₂_nil_left_iff] at carried
      subst carried
      simp [Paging.Layout.finish, stopped]
    next =>
      simp only [Paging.Layout.cursors, stopped, if_false, List.forall₂_cons_left_iff] at carried
      obtain ⟨frame, rest, ⟨carries, _⟩, later, same⟩ := carried
      subst same
      have here := sound frame (by simp)
      have fits := ((sound_iff cursor frame carries stopped).mp here).2
      obtain ⟨_, _, payload⟩ := carries.fits fits
      have within := (layout before).chunk_inside content cursor inside
      have joined := overwrite_take content frame.payload cursor.position inside (by
        rw [← carries.position]
        exact here.2.2)
      rw [List.foldl_cons, here.1, carries.position, joined, payload]
      simp only [Paging.Layout.finish, stopped, if_false]
      rw [← Paging.Layout.next_position (layout before)]
      exact ih _ rest (by simpa using within) later fun other member => sound other (by simp [member])

end Rebuilding

section Result

variable {before : Fuota} {content : Bytes}

theorem layout_room (uploading : Uploading before content) :
    (layout before).pages * (layout before).sector ≤ content.length := by
  have whole := Nat.div_mul_le_self before.firmware.totalFirmwaresize before.firmware.sectorValue
  have size := uploading.size
  have less := Nat.mod_le content.length (2 ^ 32)
  simp only [layout, maxPageCount]
  omega

theorem startUpload_at (silent : Nat -> Nat) (uploading : Uploading before content) :
    exists started, startUpload before = (some (), started) /\
      At before content silent {} 0 started /\ sentFrames started.log = sentFrames before.log /\
      acknowledgedFrames started.log = acknowledgedFrames before.log := by
  obtain ⟨file, opened, same⟩ := Option.map_eq_some_iff.mp uploading.file
  refine ⟨_, rfl, ?_, ?_, ?_⟩
  next =>
    constructor
    next => rfl
    next => rfl
    next => rfl
    next => rfl
    next =>
      simp only [opened, Option.map_some]
      rw [same]
    next => exact uploading.transferring
    next => rfl
    next => rfl
    next => rfl
    next => rfl
    next => exact response_addressed before.radio.clientTxBuffer _
    next => rfl
  next => simp [sentFrames]
  next => simp [acknowledgedFrames]

/-- The machine and the frames of the image stay as they are. -/
def Aside (before after : Fuota) : Prop :=
  after.machine.ondemandFuotaState = before.machine.ondemandFuotaState /\
    sentFrames after.log = sentFrames before.log /\
      acknowledgedFrames after.log = acknowledgedFrames before.log

theorem aside_refl (fuota : Fuota) : Aside fuota fuota := ⟨rfl, rfl, rfl⟩

theorem aside_trans (first second third : Fuota) (before : Aside first second)
    (behind : Aside second third) : Aside first third :=
  ⟨behind.1.trans before.1, behind.2.1.trans before.2.1, behind.2.2.trans before.2.2⟩

theorem aside_writeFrame : Respects Aside writeFrame := by
  apply respects_bind aside_trans
  next => exact fun fuota => ⟨rfl, rfl, rfl⟩
  next =>
    intro written
    apply respects_bind aside_trans
    next => exact fun fuota => ⟨rfl, by simp [update, sentFrames], by simp [update, acknowledgedFrames]⟩
    next => exact fun _ => respects_pure aside_refl written

theorem aside_buildNetworkCommand : Respects Aside buildNetworkCommand := by
  apply respects_bind aside_trans (respects_observe aside_refl _)
  intro machine
  split
  next => exact fun fuota => ⟨rfl, rfl, rfl⟩
  next => exact respects_pure aside_refl ()

theorem aside_buildAndStoreFuotaCmd : Respects Aside buildAndStoreFuotaCmd := by
  apply respects_bind aside_trans aside_buildNetworkCommand
  intro _
  apply respects_bind aside_trans aside_writeFrame
  intro written
  split
  next => exact fun fuota => ⟨rfl, rfl, rfl⟩
  next => exact respects_pure aside_refl false

theorem aside_prepareAndGetTheEndofImageTransfer :
    Respects Aside prepareAndGetTheEndofImageTransfer := by
  apply respects_bind aside_trans
  next => exact fun fuota => ⟨rfl, rfl, rfl⟩
  next =>
    intro _
    apply respects_bind aside_trans aside_buildAndStoreFuotaCmd
    exact fun _ => respects_pure aside_refl ()

/-- What the upload leaves, as one frame for each cursor. -/
theorem upload_ran (uploading : Uploading before content) :
    exists frames sent, ((fuotaUploadingProcess before).2).machine.ondemandFuotaState =
        .fwImageEndofPageTransfer /\
      List.Forall₂ (fun visited (frame : ImageFrame) =>
          Carries (layout before) content visited frame /\
            frame.headerLen = uploadHeaderLen before.radio.clientTxBuffer)
        ((layout before).cursors content (content.length + 1) {}) frames /\
      acknowledgedFrames (fuotaUploadingProcess before).2.log =
        acknowledgedFrames before.log ++ frames /\
      sentFrames (fuotaUploadingProcess before).2.log = sentFrames before.log ++ sent /\
      forall frame, frame ∈ sent <-> frame ∈ frames := by
  obtain ⟨silent, few, answered⟩ := uploading.answered
  obtain ⟨started, ranStart, known, sentStart, acknowledgedStart⟩ := startUpload_at silent uploading
  have fuel := uploading.fuel
  obtain ⟨looped, frames, sent, ranLoop, state, carried, acknowledged, history, same⟩ :=
    upload_answered (content.length + 1) before.inputs.fuel {} 0 started uploading few
      (by simpa using answered) (Nat.zero_le _) (by simp) (by omega) known
  let ended : Fuota := { looped with
    machine := { looped.machine with ondemandFuotaState := .fwImageEndofPageTransfer }
    log := looped.log ++ [.uploadEnded] ++ [.assigned .fwImageEndofPageTransfer] }
  have ranEnd : endUpload looped = (some (), ended) := by
    rw [endUpload, ran_bind (show note .uploadEnded looped = (some (), _) from rfl),
      ran_bind (show getState _ = (some _, _) from rfl), if_pos state]
    rfl
  have ran : fuotaUploadingProcess before = prepareAndGetTheEndofImageTransfer ended := by
    have fueled : observe (fun fuota => fuota.inputs.fuel) started =
        (some before.inputs.fuel, started) := by rw [observe, known.inputs]
    rw [fuotaUploadingProcess, ran_bind ranStart, ran_bind fueled, ran_bind ranLoop]
    exact ran_bind ranEnd
  obtain ⟨asideState, asideSent, asideAcknowledged⟩ := aside_prepareAndGetTheEndofImageTransfer ended
  refine ⟨frames, sent, ?_, carried, ?_, ?_, same⟩
  next => rw [ran, asideState]
  next =>
    rw [ran, asideAcknowledged, ← acknowledgedStart, ← acknowledged]
    simp [ended, acknowledgedFrames]
  next =>
    rw [ran, asideSent, ← sentStart, ← history]
    simp [ended, sentFrames]

theorem forall₂_mem {A B : Type} {rel : A -> B -> Prop} {first : List A} {second : List B}
    (related : List.Forall₂ rel first second) :
    (∀ item ∈ first, ∃ other ∈ second, rel item other) /\
      ∀ other ∈ second, ∃ item ∈ first, rel item other := by
  induction related with
  | nil => simp
  | cons head tail ih =>
    obtain ⟨left, right⟩ := ih
    constructor
    next =>
      intro item member
      rcases List.mem_cons.mp member with same | later
      · exact ⟨_, List.mem_cons_self, same ▸ head⟩
      · obtain ⟨other, inside, holds⟩ := left item later
        exact ⟨other, List.mem_cons_of_mem _ inside, holds⟩
    next =>
      intro other member
      rcases List.mem_cons.mp member with same | later
      · exact ⟨_, List.mem_cons_self, same ▸ head⟩
      · obtain ⟨item, inside, holds⟩ := right other later
        exact ⟨item, List.mem_cons_of_mem _ inside, holds⟩

/-- An upload to a node that answers its only frame at once. -/
def shortUpload (content : Bytes) (sectorValue : Nat) : Fuota := {
  inputs := { arrival := fun _ => .data (imageReply [] 0 0 true), fuel := 8 }
  machine := { ondemandFuotaState := .fwImageTransfer }
  firmware := {
    foutaReadFd := some { content := content }
    totalFirmwaresize := content.length % 2 ^ 32
    sectorValue := sectorValue } }

theorem shortUpload_uploading (content : Bytes) (sectorValue : Nat) (positive : 0 < sectorValue)
    (short : content.length < 4)
    (single : (layout (shortUpload content sectorValue)).cursors content (content.length + 1) {} = [{}])
    (last : (layout (shortUpload content sectorValue)).isLast {} = true) :
    Uploading (shortUpload content sectorValue) content where
  transferring := rfl
  file := rfl
  size := rfl
  sector := positive
  writes _ := rfl
  reads _ := rfl
  fuel := by simp only [shortUpload]; omega
  answered := by
    refine ⟨fun _ => 0, fun _ => Nat.succ_pos 2, ?_⟩
    intro index cursor member
    rw [single] at member
    obtain ⟨_, same⟩ := List.getElem?_eq_some_iff.mp member
    have first : cursor = {} := by simpa using same.symm
    subst first
    refine ⟨fun poll early => absurd early (Nat.not_lt_zero poll), ?_⟩
    rw [last]
    rfl

end Result

end Hes.Fuota
