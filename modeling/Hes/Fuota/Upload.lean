import Hes.Fuota.Silence

set_option autoImplicit false

namespace Hes.Fuota

open Prog

def phyLayerPktSize : Nat := 128

def fuotaCmdLen : Nat := 8

def maxPageCount (fwSize sectorValue : Nat) : Nat := fwSize / sectorValue

def maxPayloadSize (headerLen : Nat) : Nat :=
  if phyLayerPktSize < headerLen + fuotaCmdLen then phyLayerPktSize - 25
  else phyLayerPktSize - headerLen - fuotaCmdLen

def maxSubPageCount (sectorValue headerLen : Nat) : Nat := sectorValue / maxPayloadSize headerLen + 1

def minPayloadSize (sectorValue headerLen : Nat) : Nat :=
  sectorValue - (maxSubPageCount sectorValue headerLen - 1) * maxPayloadSize headerLen

def maxFuotaRetries : Nat := 3

/-- The address of the node a frame is for: the gateway's own, or that of the last hop. -/
def lastHop (txBuffer : Bytes) : Bytes :=
  let hopCount := (byteAt txBuffer 12).toNat
  if hopCount = 0 then slice txBuffer 13 4 else slice txBuffer (13 + (hopCount - 1) * 4) 4

def updateFuotaResponseBuff : Prog Fuota Nat := do
  let txBuffer <- observe fun fuota => fuota.radio.clientTxBuffer
  setUpload fun upload => { upload with
    rfFuotaExpectedRespHeader := overwrite upload.rfFuotaExpectedRespHeader 0
      (slice txBuffer 0 11 ++ lastHop txBuffer) }
  return 15

def updateFuotaImageTransferTxBuff : Prog Fuota Nat := do
  let txBuffer <- observe fun fuota => fuota.radio.clientTxBuffer
  let destLen := (byteAt txBuffer 12).toNat * 4
  let copied := 13 + if destLen = 0 then 4 else destLen
  setUpload fun upload => { upload with
    imageTfCommand := overwrite upload.imageTfCommand 0 (slice txBuffer 0 copied) }
  return copied % 256

/-- The next bytes of the open file, as many as are asked for where no error stops the read. -/
def fread (count : Nat) : Prog Fuota Bytes := fun fuota =>
  let counters := { fuota.counters with freads := fuota.counters.freads + 1 }
  match fuota.firmware.foutaReadFd with
  | none => (some [], fuota)
  | some file =>
    let wanted := min count ((fuota.inputs.fread fuota.counters.freads).getD count)
    let bytes := (file.content.drop file.position).take wanted
    let moved := { file with position := file.position + bytes.length }
    (some bytes, { fuota with
      counters := counters, firmware := { fuota.firmware with foutaReadFd := some moved } })

def fseek (position : Nat) : Prog Fuota Unit :=
  setFirmware fun firmware => { firmware with
    foutaReadFd := firmware.foutaReadFd.map fun file => { file with position := position } }

def filePosition : Prog Fuota Nat := observe fun fuota =>
  match fuota.firmware.foutaReadFd with
  | some file => file.position
  | none => 0

/-- The reply awaited for a subpage. -/
def buildImageTfExpectedRx (header : Bytes) (baseHdrLen page : Nat) (subpage : UInt8)
    (lastSubpage : Bool) : Bytes :=
  let dlms := [0x2D, 0x08, 0x07, 0x01, subpage, UInt8.ofNat (page / 256), UInt8.ofNat page,
    if lastSubpage then 0x00 else 0x01]
  let opened := overwrite (overwrite header 0 [0x2E, 0x17, 0x0A]) baseHdrLen dlms
  overwrite opened (baseHdrLen + 8) [calculateChecksum dlms 0 8]

/-- The image frame of a subpage, in the command buffer behind the header. -/
def imageFrame (command : Bytes) (baseHdrLen page : Nat) (subpage : UInt8) (payload : Bytes) : Bytes :=
  let behind := [subpage, UInt8.ofNat (page / 256), UInt8.ofNat page] ++ payload
  let placed := overwrite (overwrite command (baseHdrLen + 4) behind) (baseHdrLen + 1)
    [UInt8.ofNat (payload.length + 7)]
  let length := (UInt8.ofNat (payload.length + 7)).toNat
  let summed := overwrite placed (baseHdrLen + 7 + payload.length)
    [calculateChecksum placed baseHdrLen length]
  overwrite summed 0 [0x2E, UInt8.ofNat (baseHdrLen + 7 + payload.length)]

/-- `FuotaStatus` without the error texts. -/
inductive PostRead where
  | success
  | retry
  | jump
  | abort
  deriving DecidableEq, Repr

/-- Page and subpage of the last sector status, from the reply or from its last bytes. -/
def lastSectorStatus (resp : Bytes) (expectedHdrLen : Nat) : Option (Nat × Nat) :=
  if resp.length > expectedHdrLen + 6 then
    some ((byteAt resp (expectedHdrLen + 5)).toNat * 256 + (byteAt resp (expectedHdrLen + 6)).toNat,
      (byteAt resp (expectedHdrLen + 7)).toNat)
  else if resp.length ≥ 6 then
    some ((byteAt resp (resp.length - 3)).toNat, (byteAt resp (resp.length - 2)).toNat)
  else none

/-- A reply that asks to try again. -/
def retryReply (resp : Bytes) : Bool :=
  byteAt resp 2 = 0x09 &&
    (byteAt resp (resp.length - 1) = 0x06 || byteAt resp (resp.length - 1) = 0x07)

def lastSectorAttempts : Nat -> Prog Fuota (Option (Nat × Nat))
  | 0 => return none
  | attempts + 1 => do
    if <- writeFrame then
      match <- nextArrival with
      | .data bytes =>
        let resp := bytes.take 512
        if resp = [] || retryReply resp then lastSectorAttempts attempts
        else
          let expectedHdrLen <- updateFuotaResponseBuff
          return lastSectorStatus resp expectedHdrLen
      | .timedOut | .failed => lastSectorAttempts attempts
    else lastSectorAttempts attempts

def rffuotaReadLastsectorPageAndSubpageStatus : Prog Fuota (Option (Nat × Nat)) := do
  updateStatus 12 1
  framePmeshFuotaCmdHeaderForTargetNode fuotaDataQuery lastsectorPageRead
  lastSectorAttempts 3

/-- Zeros: the buffer that is copied over the awaited reply is never written. -/
def tempExpectBuf (length : Nat) : Bytes := List.replicate length 0

def restoreExpected : Prog Fuota Unit :=
  setUpload fun upload => { upload with
    rfFuotaExpectedRespHeader :=
      overwrite upload.rfFuotaExpectedRespHeader 0 (tempExpectBuf upload.responseLength) }

def fixPageSubpageAndSeek : Prog Fuota Unit := do
  let sectorValue <- observe fun fuota => fuota.firmware.sectorValue
  setUpload fun upload =>
    if upload.subpageCount.toNat ≥ maxSubPageCount sectorValue upload.fuotaCmdHeaderLen then
      { upload with subpageCount := 0, pageCount := upload.pageCount + 1 }
    else upload
  let upload <- observe fun fuota => fuota.upload
  fseek (upload.pageCount * sectorValue +
    upload.subpageCount.toNat * maxPayloadSize upload.fuotaCmdHeaderLen)
  let place := [upload.subpageCount, UInt8.ofNat (upload.pageCount / 256),
    UInt8.ofNat upload.pageCount]
  setUpload fun upload => { upload with
    imageTfCommand := overwrite upload.imageTfCommand (upload.fuotaCmdHeaderLen + 4) place
    rfFuotaExpectedRespHeader := overwrite upload.rfFuotaExpectedRespHeader
      (upload.fuotaRespHeaderLen + 4) place }
  restoreExpected

/-- A page or a subpage mismatch: the upload goes on where the node says it is. -/
def jumpToLastSector (forward : Nat) : Prog Fuota PostRead := do
  match <- rffuotaReadLastsectorPageAndSubpageStatus with
  | none => return .retry
  | some (page, subpage) =>
    setUpload fun upload => { upload with
      pageCount := page, subpageCount := UInt8.ofNat (subpage + forward) }
    fixPageSubpageAndSeek
    setUpload fun upload => { upload with
      fuotaImagetfRetryCount := 0, fuotaimagetfAlternateCount := 0 }
    return .jump

/-- No match and no mismatch: three tries on the primary and three on the alternate path. -/
def retryHandling : Prog Fuota PostRead := do
  let upload <- observe fun fuota => fuota.upload
  if !upload.usingAlternatePath then
    let retries := upload.fuotaImagetfRetryCount + 1
    setUpload fun upload => { upload with fuotaImagetfRetryCount := retries }
    if retries < 3 then
      restoreExpected
      return .retry
    else
      setUpload fun upload => { upload with
        usingAlternatePath := true, fuotaimagetfAlternateCount := 0 }
      let payloadLen := (byteAt upload.imageTfCommand (upload.fuotaCmdHeaderLen + 1)).toNat
      prepareAlternateSamerouteRetry (some (upload.imageTfCommand.drop upload.fuotaCmdHeaderLen))
        payloadLen
      return .retry
  else
    let alternates := upload.fuotaimagetfAlternateCount + 1
    setUpload fun upload => { upload with fuotaimagetfAlternateCount := alternates }
    if alternates < 3 then
      restoreExpected
      return .retry
    else return .abort

def matchesExpected (upload : Upload) : Bool :=
  slice upload.fuotaRbuf 0 upload.responseLength =
    slice upload.rfFuotaExpectedRespHeader 0 upload.responseLength

/-- The bytes read last, or none after a read that failed. -/
def handleFuotaPostRead (bytesRead : Option Nat) : Prog Fuota PostRead := do
  let upload <- observe fun fuota => fuota.upload
  if matchesExpected upload then
    setCntx fun cntx => { cntx with alternateRetry := 0 }
    setUpload fun upload => { upload with
      fuotaImagetfRetryCount := 0, fuotaimagetfAlternateCount := 0, usingAlternatePath := false }
    return .success
  else
    match bytesRead with
    | none =>
      let retries := upload.fuotaImagetfRetryCount + 1
      setUpload fun upload => { upload with fuotaImagetfRetryCount := retries }
      updateStatus 4 0
      return if retries ≥ maxFuotaRetries then .abort else .retry
    | some length =>
      let kind := byteAt upload.fuotaRbuf (length - 2)
      if byteAt upload.fuotaRbuf 2 = 0x0A && kind = 0x03 then jumpToLastSector 1
      else if byteAt upload.fuotaRbuf 2 = 0x0A && kind = 0x02 then jumpToLastSector 0
      else retryHandling

/-- How the exchange for one subpage ends. -/
inductive Exchange where
  | acknowledged
  | jumped
  | exhausted
  | aborted
  | writeFailed
  deriving DecidableEq, Repr

def countRetry : Prog Fuota Unit :=
  setUpload fun upload => { upload with fuotaImagetfRetryCount := upload.fuotaImagetfRetryCount + 1 }

/-- The reply that was read, or that none could be read, against the awaited one. -/
def judge (bytesRead : Option Nat) : Prog Fuota (Turn Unit Exchange) := do
  setUpload fun upload => { upload with
    responseLength := (byteAt upload.rfFuotaExpectedRespHeader 1 + 1).toNat }
  match <- handleFuotaPostRead bytesRead with
  | .success => return .done .acknowledged
  | .retry => return .again ()
  | .jump => return .done .jumped
  | .abort => return .done .aborted

/-- One turn of the loop around a subpage: its frame goes out and a reply is awaited. -/
def exchangeTurn (frame : ImageFrame) : Prog Fuota (Turn Unit Exchange) := do
  let fuota <- observe id
  if fuota.upload.fuotaImagetfRetryCount < maxFuotaRetries then
    let written <- nextWrite
    note (.imageSent fuota.client.requestId frame)
    if written then
      match <- nextArrival with
      | .timedOut =>
        countRetry
        return .again ()
      | .failed => judge none
      | .data bytes =>
        let read := bytes.take 130
        setUpload fun upload => { upload with fuotaRbuf := overwrite upload.fuotaRbuf 0 read }
        if read = [] then
          countRetry
          return .again ()
        else judge (some read.length)
    else return .done .writeFailed
  else return .done .exhausted

/-- The frame of the subpage and the reply awaited for it. -/
def buildSubpage (payload : Bytes) (lastSubpage : Bool) : Prog Fuota Unit :=
  setUpload fun upload => { upload with
    imageTfCommand := imageFrame upload.imageTfCommand upload.fuotaCmdHeaderLen upload.pageCount
      upload.subpageCount payload
    rfFuotaExpectedRespHeader := buildImageTfExpectedRx upload.rfFuotaExpectedRespHeader
      upload.fuotaRespHeaderLen upload.pageCount upload.subpageCount lastSubpage
    fuotaImagetfRetryCount := 0 }

def advance (lastSubpage : Bool) : Prog Fuota Unit :=
  setUpload fun upload =>
    if lastSubpage then { upload with subpageCount := 0, pageCount := upload.pageCount + 1 }
    else { upload with subpageCount := upload.subpageCount + 1 }

/-- True for an upload that came to the end of its loop, false for one that was given up. -/
def afterExchange (frame : ImageFrame) (exchange : Exchange) : Prog Fuota (Turn Unit Bool) := do
  match exchange with
  | .acknowledged =>
    note (.imageAcknowledged frame)
    advance frame.lastSubpage
    return .again ()
  | .jumped =>
    advance frame.lastSubpage
    return .again ()
  | .exhausted =>
    let alternates <- observe fun fuota => fuota.machine.cntx.alternateRetry
    setUpload fun upload => { upload with
      usingAlternatePath := true, fuotaimagetfAlternateCount := alternates }
    if alternates < 3 then
      handleFuotaCompletion
      return .done false
    else
      advance frame.lastSubpage
      return .again ()
  | .aborted =>
    updateStatus 11 0
    handleFuotaCompletion
    return .done false
  | .writeFailed =>
    updateStatus 1 0
    return .done false

/-- The frame of one subpage, sent until its exchange ends. -/
def sendSubpage (payload : Bytes) (position : Nat) (lastSubpage : Bool) :
    Prog Fuota (Turn Unit Bool) := do
  buildSubpage payload lastSubpage
  let fuota <- observe id
  let headerLen := fuota.upload.fuotaCmdHeaderLen
  let frame : ImageFrame := {
    headerLen := headerLen
    bytes := slice fuota.upload.imageTfCommand 0 ((headerLen + 8 + payload.length) % 256)
    position := position
    lastSubpage := lastSubpage }
  updateStatus 11 1
  afterExchange frame (<- loop (fun _ => exchangeTurn frame) fuota.inputs.fuel ())

def uploadTurn (_ : Unit) : Prog Fuota (Turn Unit Bool) := do
  let fuota <- observe id
  let sectorValue := fuota.firmware.sectorValue
  let headerLen := fuota.upload.fuotaCmdHeaderLen
  if fuota.upload.pageCount < maxPageCount fuota.firmware.totalFirmwaresize sectorValue then
    let lastSubpage : Bool := fuota.upload.subpageCount.toNat = maxSubPageCount sectorValue headerLen - 1
    let position <- filePosition
    let payload <- fread (if lastSubpage then minPayloadSize sectorValue headerLen
      else maxPayloadSize headerLen)
    if payload = [] then return .done true else sendSubpage payload position lastSubpage
  else return .done true

def prepareAndGetTheEndofImageTransfer : Prog Fuota Unit := do
  framePmeshFuotaCmdHeaderForTargetNode fuotaDataQuery endofImageTransfer
  let _ <- buildAndStoreFuotaCmd

def startUpload : Prog Fuota Unit := do
  setUpload fun upload => { upload with pageCount := 0, subpageCount := 0, fuotaImagetfRetryCount := 0 }
  let fuotaRespHeaderLen <- updateFuotaResponseBuff
  let fuotaCmdHeaderLen <- updateFuotaImageTransferTxBuff
  setUpload fun upload => { upload with
    fuotaRespHeaderLen := fuotaRespHeaderLen
    fuotaCmdHeaderLen := fuotaCmdHeaderLen
    imageTfCommand := overwrite upload.imageTfCommand fuotaCmdHeaderLen imageTransfer }
  fseek 0
  note (.uploadStarted (<- observe fun fuota => fuota.radio.built))

def endUpload : Prog Fuota Unit := do
  note .uploadEnded
  if (<- getState) = .fwImageTransfer then setState .fwImageEndofPageTransfer else return ()

def fuotaUploadingProcess : Prog Fuota Unit := do
  startUpload
  if <- loop uploadTurn (<- observe fun fuota => fuota.inputs.fuel) () then
    endUpload
    prepareAndGetTheEndofImageTransfer
  else return ()

end Hes.Fuota
