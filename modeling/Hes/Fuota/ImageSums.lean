import Hes.Fuota.Activation
import Hes.Fuota.CrcTable

set_option autoImplicit false

namespace Hes.Fuota

open Prog Text Mqtt Transition Relation

/-- The events that say which request is served: its command, or the file of a pending one. -/
def Event.requests : Event -> Bool
  | .dequeued _ | .opened _ => true
  | _ => false

def Event.dequeuedCommand : Event -> Option Bytes
  | .dequeued command => some command
  | _ => none

def Event.openedPath : Event -> Option Bytes
  | .opened path => some path
  | _ => none

/-- The file that the last command names; without any command that of the pending request. -/
def requestFile (core : Core) (log : List Event) : Option Bytes :=
  match ((log.filter Event.requests).filterMap Event.dequeuedCommand).getLast? with
  | some command => some (core.firmwareAt (part (split colon command) 6))
  | none => ((log.filter Event.requests).filterMap Event.openedPath).head?

/-- The complete content of the firmware file of a request. -/
def imageOf (core : Core) (log : List Event) : Option Bytes :=
  (requestFile core log).bind core.inputs.files

/-- A verification carries the checksum of the image of the request that it was built for. -/
def CarriesSum (core : Core) (log : List Event) (built : Built) : Prop :=
  Verifying built.command -> built.place ≤ log.length /\
    exists image, imageOf core (log.take built.place) = some image /\
      built.command = verifyCommand (bitwiseCrc image 0)

def VerifiesImages (fuota : Fuota) : Prop :=
  forall sent, .sent sent ∈ fuota.log -> CarriesSum (core fuota) fuota.log sent.built

/-- Also the frame in the buffer does, which may be transmitted again. -/
structure Core.SumsCarried (core : Core) : Prop where
  built : CarriesSum core core.log core.built
  sent : forall sent, .sent sent ∈ core.log -> CarriesSum core core.log sent.built

section Moves

variable {before after : Core}

theorem imageOf_fixed (inputs : after.inputs = before.inputs) (gatewayId : after.gatewayId = before.gatewayId)
    (log : List Event) : imageOf after log = imageOf before log := by
  simp only [imageOf, requestFile, Core.firmwareAt, inputs, gatewayId]

theorem CarriesSum.later {log more : List Event} {built other : Built} (carries : CarriesSum before log built)
    (inputs : after.inputs = before.inputs) (gatewayId : after.gatewayId = before.gatewayId)
    (same : Verifying other.command -> other.command = built.command /\ other.place = built.place) :
    CarriesSum after (log ++ more) other := by
  intro verifying
  obtain ⟨command, place⟩ := same verifying
  rw [command] at verifying
  obtain ⟨within, image, known, sum⟩ := carries verifying
  rw [place, command]
  refine ⟨by simp; omega, image, ?_, sum⟩
  rw [List.take_append_of_le_length within, imageOf_fixed inputs gatewayId, known]

theorem Core.SumsCarried.continued (carrying : before.SumsCarried) (more : List Event)
    (log : after.log = before.log ++ more) (inputs : after.inputs = before.inputs)
    (gatewayId : after.gatewayId = before.gatewayId)
    (built : Verifying after.built.command ->
      after.built.command = before.built.command /\ after.built.place = before.built.place)
    (sent : forall sent, .sent sent ∈ more -> sent.built = before.built) : after.SumsCarried := by
  constructor
  next =>
    rw [log]
    exact carrying.built.later inputs gatewayId built
  next =>
    intro frame inside
    rw [log] at inside ⊢
    rcases List.mem_append.mp inside with earlier | added
    next => exact (carrying.sent frame earlier).later inputs gatewayId fun _ => ⟨rfl, rfl⟩
    next =>
      rw [sent frame added]
      exact carrying.built.later inputs gatewayId fun _ => ⟨rfl, rfl⟩

variable {permitted : Cause -> Core -> Prop}

/-- What is known where a verification is built from the sum of the machine. -/
def SumKnown (core : Core) : Prop :=
  exists image, imageOf core core.log = some image /\ core.crc.value = bitwiseCrc image 0

theorem Move.carrying (move : Move permitted before after) (carrying : before.SumsCarried)
    (sums : permitted .summed before -> before.state = .newFwimageCrcCalculate -> SumKnown before) :
    after.SumsCarried := by
  obtain ⟨inputs, gatewayId, _⟩ := move.fixed
  have same : Verifying before.built.command ->
      before.built.command = before.built.command /\ before.built.place = before.built.place :=
    fun _ => ⟨rfl, rfl⟩
  cases move with
  | gateway command sequence =>
    exact carrying.continued [] (by simp) inputs gatewayId
      (fun verifying => absurd verifying (sequence_plain sequence).2) (by simp)
  | network command sequence =>
    exact carrying.continued [] (by simp) inputs gatewayId
      (fun verifying => absurd verifying (sequence_plain sequence).2) (by simp)
  | target command ok hops activates verifies =>
    refine ⟨fun verifying => ?_, carrying.sent⟩
    obtain ⟨state, summed, made⟩ := verifies verifying
    obtain ⟨image, known, sum⟩ := sums summed state
    refine ⟨le_rfl, image, ?_, ?_⟩
    next =>
      show imageOf _ (before.log.take before.log.length) = some image
      rw [List.take_length]
      exact known
    next =>
      show command = _
      rw [made, sum]
  | alternate => exact carrying.continued [] (by simp) inputs gatewayId same (by simp)
  | routed | detoured | addressed | retargeted | closed | summed | crcReset | crcVerified | compared
  | shrunk | queued => exact carrying.continued [] (by simp) inputs gatewayId same (by simp)
  | sent frame written =>
    refine carrying.continued [_] rfl inputs gatewayId same fun sent known => ?_
    cases List.mem_singleton.mp known
    rfl
  | updated | uploadStarted | imaged | imageAcknowledged | acknowledged | leafAcknowledged | accepted
  | sectored | reopened | recorded | leafRecorded =>
    exact carrying.continued [_] rfl inputs gatewayId same (by simp)
  | assigned | skipped | unopened | jumped | located =>
    exact carrying.continued [.assigned _] rfl inputs gatewayId same (by simp)
  | uploaded =>
    exact carrying.continued [.uploadEnded, .assigned .fwImageEndofPageTransfer]
      (by simp [Core.note, Core.assign]) inputs gatewayId same (by simp)
  | proceeded next =>
    exact carrying.continued [.accepted before.state, .assigned next] (by simp [Core.note, Core.assign])
      inputs gatewayId same (by simp)
  | took cause command | completed command | started command =>
    exact carrying.continued [.dequeued command, .assigned .openFile] (by simp [Core.note, Core.assign])
      inputs gatewayId same (by simp)
  | opened name =>
    exact carrying.continued [.opened (before.firmwareAt name), .assigned .gatewayPathSilence]
      (by simp [Core.note, Core.assign, Core.withFile]) inputs gatewayId same (by simp)
  | resumed path =>
    exact carrying.continued [.opened path, .assigned .openFile]
      (by simp [Core.note, Core.assign, Core.withFile]) inputs gatewayId same (by simp)

theorem moves_carrying (moves : ReflTransGen (Move permitted) before after) (carrying : before.SumsCarried)
    (sums : forall now, permitted .summed now -> now.state = .newFwimageCrcCalculate -> SumKnown now) :
    after.SumsCarried := by
  induction moves with
  | refl => exact carrying
  | tail _ move ih => exact move.carrying ih (sums _)

end Moves

section Sums

variable {fuota after : Fuota} {file : OpenFile}

/-- A loop over a file that is long enough does not run dry, where its reads meet no error. -/
theorem chunks_undried (fuel remaining : Nat) (opened : fuota.firmware.foutaReadFd = some file)
    (sector : 0 < fuota.firmware.sectorValue)
    (read : ∀ turn < remaining, fuota.inputs.fread (fuota.counters.freads + turn) ≠ some 0)
    (long : file.position + remaining ≤ file.content.length) :
    (loop crcTurn fuel remaining fuota).1 ≠ some false := by
  induction fuel generalizing fuota file remaining with
  | zero => simp [loop, waiting]
  | succ fuel ih =>
    rw [loop]
    cases Nat.eq_zero_or_pos remaining with
    | inl none =>
      subst none
      rw [ran_bind (crcTurn_finished fuota)]
      simp [pure]
    | inr left =>
      have given := nextChunk_given fuota file remaining sector (read 0 left) left long
      have within := nextChunk_length fuota file remaining
      rw [ran_bind (crcTurn_reads opened remaining left (List.ne_nil_of_length_pos given))]
      refine ih _ rfl sector ?_ ?_
      next =>
        intro turn below
        have later := read (turn + 1) (by omega)
        rwa [show fuota.counters.freads + (turn + 1) = fuota.counters.freads + 1 + turn by omega] at later
      next => simp only; omega

/-- The file is that of the request and can be read, and the computation begins with nothing. -/
structure ReadsImage (fuota : Fuota) (image : Bytes) : Prop where
  file : fuota.firmware.foutaReadFd.map OpenFile.content = some image
  size : fuota.firmware.totalFirmwaresize = image.length
  full : image ≠ []
  clear : fuota.crc.crc = 0
  table : fuota.statics.crcTab16Init = true -> fuota.crc.crcTab16 = initCrc16Tab
  sector : 0 < fuota.firmware.sectorValue
  read : ∀ turn < image.length, fuota.inputs.fread (fuota.counters.freads + turn) ≠ some 0

/-- The sum that is kept is that of the image, or none is kept and the image is read for it. -/
def SumsImage (fuota : Fuota) (image : Bytes) : Prop :=
  if fuota.crc.rfFuotaCrcCalculated then fuota.crc.rfFuotaCrcValue = bitwiseCrc image 0
  else ReadsImage fuota image

theorem calculateCrcForTargetNode_sums (image : Bytes) (sums : SumsImage fuota image)
    (ran : calculateCrcForTargetNode fuota = (some (), after)) :
    after.crc.value = bitwiseCrc image 0 := by
  let tabled : Fuota := (ensureCrcTable fuota).2
  have kept : tabled.crc.rfFuotaCrcCalculated = fuota.crc.rfFuotaCrcCalculated /\
      tabled.crc.rfFuotaCrcValue = fuota.crc.rfFuotaCrcValue /\ tabled.crc.crc = fuota.crc.crc /\
      tabled.firmware = fuota.firmware /\ tabled.inputs = fuota.inputs /\
      tabled.counters = fuota.counters := by
    simp only [tabled, ensureCrcTable, update]
    split <;> simp
  have filled (table : fuota.statics.crcTab16Init = true -> fuota.crc.crcTab16 = initCrc16Tab) :
      tabled.crc.crcTab16 = initCrc16Tab := by
    simp only [tabled, ensureCrcTable, update]
    split
    next built => exact table built
    next => rfl
  obtain ⟨calculated, value, crc, firmware, inputs, counters⟩ := kept
  rw [calculateCrcForTargetNode, ran_bind (show ensureCrcTable fuota = (some (), tabled) from rfl),
    ran_bind (show observe id tabled = (some tabled, tabled) from rfl)] at ran
  unfold SumsImage at sums
  by_cases cached : fuota.crc.rfFuotaCrcCalculated = true
  next =>
    rw [if_pos cached] at sums
    rw [if_pos (calculated.trans cached)] at ran
    obtain rfl : _ = after := congrArg Prod.snd ran
    exact value.trans sums
  next =>
    rw [if_neg cached] at sums
    rw [if_neg (calculated ▸ cached)] at ran
    obtain ⟨opened, known, content⟩ := Option.map_eq_some_iff.mp sums.file
    have long : 0 < image.length := List.length_pos_iff.mpr sums.full
    let sought : Fuota := (fseek 0 tabled).2
    rw [if_neg (by simp [firmware, known, sums.size, sums.full]),
      ran_bind (show fseek 0 tabled = (some (), sought) from rfl)] at ran
    have here : sought.firmware.foutaReadFd = some { opened with position := 0 } := by
      show tabled.firmware.foutaReadFd.map _ = _
      rw [firmware, known]
      rfl
    have undried := chunks_undried tabled.inputs.fuel tabled.firmware.totalFirmwaresize here
      (by
        show 0 < tabled.firmware.sectorValue
        rw [firmware]
        exact sums.sector) (by
        show ∀ turn < tabled.firmware.totalFirmwaresize, tabled.inputs.fread
          (tabled.counters.freads + turn) ≠ some 0
        rw [firmware, inputs, counters, sums.size]
        exact sums.read) (by
        show 0 + tabled.firmware.totalFirmwaresize ≤ opened.content.length
        rw [firmware, sums.size, content]
        omega)
    cases looped : loop crcTurn tabled.inputs.fuel tabled.firmware.totalFirmwaresize sought with
    | mk outcome last =>
      rw [looped] at undried
      cases outcome with
      | none =>
        rw [waited_bind looped] at ran
        cases ran
      | some complete =>
        cases complete with
        | false => exact absurd rfl undried
        | true =>
          have sum := chunks_crc _ _ here looped
          rw [ran_bind looped, if_pos rfl] at ran
          obtain rfl : _ = after := congrArg Prod.snd ran
          show last.crc.crc = _
          rw [sum, show sought.crc.crcTab16 = initCrc16Tab from filled sums.table,
            show sought.crc.crc = 0 from crc.trans sums.clear, crc16Update_bitwise, firmware, sums.size,
            List.drop_zero, content, List.take_length]

end Sums

section Replies

/-- Nothing is changed that a checksum is computed from, but that its register may be cleared. -/
structure Intact (before after : Fuota) : Prop where
  crc : after.crc = before.crc \/ after.crc = { before.crc with crc := 0 }
  opened : after.firmware.foutaReadFd = before.firmware.foutaReadFd
  size : after.firmware.totalFirmwaresize = before.firmware.totalFirmwaresize
  sector : after.firmware.sectorValue = before.firmware.sectorValue
  table : after.statics.crcTab16Init = before.statics.crcTab16Init
  inputs : after.inputs = before.inputs
  freads : after.counters.freads = before.counters.freads
  gatewayId : after.client.gatewayId = before.client.gatewayId
  requests : after.log.filter Event.requests = before.log.filter Event.requests

theorem intact_refl (fuota : Fuota) : Intact fuota fuota :=
  ⟨Or.inl rfl, rfl, rfl, rfl, rfl, rfl, rfl, rfl, rfl⟩

theorem intact_trans (first second third : Fuota) (before : Intact first second)
    (behind : Intact second third) : Intact first third where
  crc := by
    rcases behind.crc with same | cleared
    next => rw [same]; exact before.crc
    next =>
      rw [cleared]
      rcases before.crc with same | cleared
      next => rw [same]; exact Or.inr rfl
      next => rw [cleared]; exact Or.inr rfl
  opened := behind.opened.trans before.opened
  size := behind.size.trans before.size
  sector := behind.sector.trans before.sector
  table := behind.table.trans before.table
  inputs := behind.inputs.trans before.inputs
  freads := behind.freads.trans before.freads
  gatewayId := behind.gatewayId.trans before.gatewayId
  requests := behind.requests.trans before.requests

theorem requests_event (log : List Event) (event : Event) (other : event.requests = false) :
    (log ++ [event]).filter Event.requests = log.filter Event.requests := by
  simp [other]

theorem setRadio_intact (change : Radio -> Radio) : Respects Intact (setRadio change) :=
  fun _ => ⟨Or.inl rfl, rfl, rfl, rfl, rfl, rfl, rfl, rfl, rfl⟩

theorem setMachine_intact (change : Machine -> Machine) : Respects Intact (setMachine change) :=
  fun _ => ⟨Or.inl rfl, rfl, rfl, rfl, rfl, rfl, rfl, rfl, rfl⟩

theorem setState_intact (state : FuotaState) : Respects Intact (setState state) :=
  fun _ => ⟨Or.inl rfl, rfl, rfl, rfl, rfl, rfl, rfl, rfl, requests_event _ _ rfl⟩

theorem writeFrame_intact : Respects Intact writeFrame :=
  fun _ => ⟨Or.inl rfl, rfl, rfl, rfl, rfl, rfl, rfl, rfl, requests_event _ _ rfl⟩

theorem buildAndStoreFuotaCmd_intact : Respects Intact buildAndStoreFuotaCmd := by
  apply respects_bind intact_trans
  next =>
    apply respects_bind intact_trans (respects_observe intact_refl _)
    intro machine
    split
    next =>
      apply respects_bind intact_trans (respects_observe intact_refl _)
      intro gatewayId
      apply respects_bind intact_trans (respects_observe intact_refl _)
      exact fun _ => setRadio_intact _
    next => exact respects_pure intact_refl ()
  next =>
    intro _
    apply respects_bind intact_trans writeFrame_intact
    intro written
    split
    next =>
      apply respects_bind intact_trans (setMachine_intact _)
      exact fun _ _ => ⟨Or.inl rfl, rfl, rfl, rfl, rfl, rfl, rfl, rfl, rfl⟩
    next => exact respects_pure intact_refl false

theorem executeStep_intact (attempts : Nat) : Respects Intact (executeStep attempts) := by
  have waits : Respects Intact waitForSocketResponse :=
    waitForSocketResponse_respects intact_refl intact_trans writeFrame_intact
      fun _ => ⟨Or.inl rfl, rfl, rfl, rfl, rfl, rfl, rfl, rfl, rfl⟩
  induction attempts with
  | zero => exact respects_pure intact_refl false
  | succ attempts ih =>
    apply respects_bind intact_trans buildAndStoreFuotaCmd_intact
    intro written
    split
    next =>
      apply respects_bind intact_trans waits
      intro answered
      split
      next =>
        exact fun _ => ⟨Or.inl rfl, rfl, rfl, rfl, rfl, rfl, rfl, rfl, requests_event _ _ rfl⟩
      next => exact ih
    next => exact ih

theorem executeFuotasequence_intact (states : List Nat) : Respects Intact (executeFuotasequence states) := by
  induction states with
  | nil => exact respects_pure intact_refl true
  | cons state rest ih =>
    apply respects_bind intact_trans (setMachine_intact _)
    intro _
    apply respects_bind intact_trans (executeStep_intact 3)
    intro answered
    split
    next => exact ih
    next => exact respects_pure intact_refl false

theorem disableLeaf_intact (leaf : MeterVitalInfo) : Respects Intact (disableLeaf leaf) := by
  have addressed : Respects Intact (addressLeaf leaf) := by
    apply respects_bind intact_trans (setRadio_intact _)
    intro _
    apply respects_bind intact_trans (respects_observe intact_refl _)
    intro routes
    split
    next => exact respects_pure intact_refl false
    next => exact respects_bind intact_trans (setRadio_intact _) fun _ => respects_pure intact_refl true
  apply respects_bind intact_trans
  next =>
    apply respects_bind intact_trans addressed
    intro found
    split
    next =>
      apply respects_bind intact_trans (setMachine_intact _)
      intro _
      apply respects_bind intact_trans (executeFuotasequence_intact sequenceSteps)
      intro success
      exact respects_bind intact_trans (setMachine_intact _) fun _ => respects_pure intact_refl success
    next => exact respects_pure intact_refl false
  next =>
    intro success
    split
    next => exact fun _ => ⟨Or.inl rfl, rfl, rfl, rfl, rfl, rfl, rfl, rfl, requests_event _ _ rfl⟩
    next => exact fun _ => ⟨Or.inl rfl, rfl, rfl, rfl, rfl, rfl, rfl, rfl, requests_event _ _ rfl⟩

theorem undernodes_intact : Respects Intact undernodes := by
  apply respects_bind intact_trans
  next => exact fun _ => ⟨Or.inl rfl, rfl, rfl, rfl, rfl, rfl, rfl, rfl, rfl⟩
  next =>
    intro found
    split
    next => exact respects_pure intact_refl _
    next => exact respects_waiting intact_refl

theorem sendNetworkUnsilence_intact : Respects Intact sendNetworkUnsilence := by
  apply respects_bind intact_trans
  next => exact fun _ => ⟨Or.inl rfl, rfl, rfl, rfl, rfl, rfl, rfl, rfl, rfl⟩
  next =>
    intro empty
    split
    next =>
      apply respects_bind intact_trans (setRadio_intact _)
      intro _
      apply respects_bind intact_trans (setState_intact _)
      intro _
      apply respects_bind intact_trans (respects_observe intact_refl _)
      intro state
      split
      next =>
        apply respects_bind intact_trans
        next =>
          apply respects_bind intact_trans (respects_observe intact_refl _)
          intro gatewayId
          apply respects_bind intact_trans (respects_observe intact_refl _)
          exact fun _ => setRadio_intact _
        next =>
          intro _
          exact respects_bind intact_trans buildAndStoreFuotaCmd_intact fun _ => respects_pure intact_refl ()
      next => exact respects_pure intact_refl ()
    next =>
      apply respects_bind intact_trans undernodes_intact
      intro meters
      apply respects_bind intact_trans (setRadio_intact _)
      intro _
      apply respects_bind intact_trans (setRadio_intact _)
      intro _
      apply respects_bind intact_trans (respects_observe intact_refl _)
      intro ondemandMac
      apply respects_bind intact_trans undernodes_intact
      intro meters
      split
      next => exact respects_pure intact_refl ()
      next =>
        apply respects_bind intact_trans
        next =>
          apply respects_bind intact_trans (setRadio_intact _)
          exact fun _ => forEach_respects intact_refl intact_trans disableLeaf disableLeaf_intact _
        next => exact fun _ => setState_intact _

theorem updateStatus_intact (requestStatus errorCode : Nat) :
    Respects Intact (updateStatus requestStatus errorCode) := by
  intro fuota
  simp only [updateStatus, ondemandFuotaUpdateStatus, observe, update, bind]
  split
  next => exact intact_refl fuota
  next => exact ⟨Or.inl rfl, rfl, rfl, rfl, rfl, rfl, rfl, rfl, requests_event _ _ rfl⟩

/-- Only a command that is taken up changes the request, and leaves the machine in OPEN_FILE. -/
theorem handleFuotaCompletion_intact (fuota : Fuota) :
    Intact fuota (handleFuotaCompletion fuota).2 \/
      (handleFuotaCompletion fuota).2.machine.ondemandFuotaState = .openFile := by
  cases queue : fuota.client.rfMeterFuota with
  | nil =>
    have front : dequeueFuota fuota = (some none, fuota) := by simp [dequeueFuota, queue]
    left
    rw [handleFuotaCompletion, ran_bind front]
    exact respects_bind intact_trans (setState_intact _) (fun _ => sendNetworkUnsilence_intact) fuota
  | cons command rest =>
    let taken : Fuota := { fuota with
      client := { fuota.client with rfMeterFuota := rest }
      machine := { fuota.machine with cmdBytes := command } }
    have front : dequeueFuota fuota = (some (some command), { fuota with
        client := { fuota.client with rfMeterFuota := rest } }) := by simp [dequeueFuota, queue]
    have kept : Intact fuota taken := ⟨Or.inl rfl, rfl, rfl, rfl, rfl, rfl, rfl, rfl, rfl⟩
    have parsed := parseAndUpdateFuotaRequest_ran command taken
    rw [handleFuotaCompletion, ran_bind front]
    dsimp only
    rw [continueWith, ran_bind (show setMachine _ _ = (some (), taken) from rfl)]
    by_cases short : (split colon command).length < 7
    next =>
      rw [if_pos short] at parsed
      rw [ran_bind parsed]
      exact Or.inl kept
    next =>
      rw [if_neg short] at parsed
      cases id : stoi (part (split colon command) 0) with
      | error kind =>
        rw [id] at parsed
        rw [waited_bind parsed]
        exact Or.inl kept
      | ok requestId =>
        rw [id] at parsed
        rw [ran_bind parsed]
        exact Or.inr rfl

theorem resetCrc_intact : Respects Intact resetCrc :=
  fun _ => ⟨Or.inr rfl, rfl, rfl, rfl, rfl, rfl, rfl, rfl, rfl⟩

theorem proceed_intact (next : FuotaState) : Respects Intact (proceed next) :=
  fun _ => ⟨Or.inl rfl, rfl, rfl, rfl, rfl, rfl, rfl, rfl, by simp [proceed, update, Event.requests]⟩

theorem replyIn_intact (fuota : Fuota) (data : Bytes) (sums : Sums fuota data) :
    Intact fuota (replyIn fuota.machine.ondemandFuotaState data fuota).2 \/
      (replyIn fuota.machine.ondemandFuotaState data fuota).2.machine.ondemandFuotaState = .openFile := by
  unfold Sums at sums
  cases state : fuota.machine.ondemandFuotaState <;> rw [state] at sums
  case fwImageEndofPageTransfer =>
    left
    rw [replyIn, replyFwImageEndofPageTransfer, if_pos sums]
    apply respects_bind intact_trans (updateStatus_intact 13 1)
    exact fun _ => respects_bind intact_trans (setMachine_intact _) fun _ => proceed_intact _
  case newFwimageCrcCalculate =>
    rw [replyIn, replyNewFwimageCrcCalculate, if_neg (by simp [sums])]
    rw [retryOr, ran_bind (show observe _ fuota = (some fuota.machine.cntx.retryCount, fuota) from rfl)]
    split
    next =>
      left
      exact respects_bind intact_trans (setMachine_intact _) (fun _ => setState_intact _) fuota
    next =>
      let told : Fuota := (updateStatus 14 0 fuota).2
      let reset : Fuota := (resetCrc told).2
      let stopped : Fuota := (setMachine (fun machine => { machine with
        waitingForResponse := false, cntx := { machine.cntx with retryCount := 0 } }) reset).2
      have kept : Intact fuota stopped :=
        intact_trans _ _ _ (intact_trans _ _ _ (updateStatus_intact 14 0 fuota) (resetCrc_intact told))
          (setMachine_intact _ reset)
      rw [ran_bind (show (updateStatus 14 0 >>= fun _ => resetCrc) fuota = (some (), reset) from rfl),
        ran_bind (show setMachine _ reset = (some (), stopped) from rfl)]
      exact (handleFuotaCompletion_intact stopped).imp_left (intact_trans _ _ _ kept)
  all_goals exact sums.elim

theorem SumsImage.intact {before after : Fuota} {image : Bytes} (sums : SumsImage before image)
    (intact : Intact before after) : SumsImage after image := by
  have kept : after.crc.rfFuotaCrcCalculated = before.crc.rfFuotaCrcCalculated /\
      after.crc.rfFuotaCrcValue = before.crc.rfFuotaCrcValue /\
      after.crc.crcTab16 = before.crc.crcTab16 /\ (before.crc.crc = 0 -> after.crc.crc = 0) := by
    rcases intact.crc with same | cleared
    next => simp [same]
    next => simp [cleared]
  obtain ⟨calculated, value, table, clear⟩ := kept
  unfold SumsImage at sums ⊢
  rw [calculated, value]
  split
  next cached => rwa [if_pos cached] at sums
  next uncached =>
    rw [if_neg uncached] at sums
    constructor
    next => rw [intact.opened, sums.file]
    next => rw [intact.size, sums.size]
    next => exact sums.full
    next => exact clear sums.clear
    next => rw [intact.table, table]; exact sums.table
    next => rw [intact.sector]; exact sums.sector
    next => rw [intact.inputs, intact.freads]; exact sums.read

end Replies

section Steps

/-- A step that computes a checksum computes that of the request's image. -/
def SumsOwnImage (fuota : Fuota) : Action -> Prop
  | .reply data => Sums fuota data ->
    match imageOf (core fuota) fuota.log with
    | some image => SumsImage fuota image
    | none => False
  | _ => True

theorem step_carrying (fuota : Fuota) (action : Action) (carrying : (core fuota).SumsCarried)
    (careful : SumsOwnImage fuota action) : (core (perform action fuota).2).SumsCarried := by
  refine moves_carrying (perform_moves fuota action) carrying fun now cause state => ?_
  cases action with
  | reply data =>
    obtain ⟨sums, route, summed, rfl, ran⟩ := cause
    have changed := summing_calculateCrcForTargetNode
      (replyIn fuota.machine.ondemandFuotaState data fuota).2
    rw [ran] at changed
    rcases replyIn_intact fuota data sums with intact | opened
    next =>
      have careful := careful sums
      cases known : imageOf (core fuota) fuota.log with
      | none =>
        rw [known] at careful
        exact careful.elim
      | some image =>
        rw [known] at careful
        refine ⟨image, ?_, calculateCrcForTargetNode_sums image (careful.intact intact) ran⟩
        have log : summed.log = _ := congrArg Core.log changed
        have inputs : summed.inputs = _ := congrArg Core.inputs changed
        have gatewayId : summed.client.gatewayId = _ := congrArg Core.gatewayId changed
        rw [← known]
        show imageOf { core summed with route := route } summed.log = _
        simp only [imageOf, requestFile, Core.firmwareAt, core, log, inputs, gatewayId, intact.requests,
          intact.inputs, intact.gatewayId]
    next =>
      have place : summed.machine.ondemandFuotaState = _ := congrArg Core.state changed
      have sent : summed.machine.ondemandFuotaState = .newFwimageCrcCalculate := state
      rw [show summed.machine.ondemandFuotaState = .openFile from place.trans opened] at sent
      cases sent
  | _ => simp [Causes] at cause

end Steps

section Objects

/-- The objects of one process, and the static variables that they share. -/
structure FuotaProcess where
  objects : Nat -> Fuota
  statics : Statics := {}

def FuotaProcess.object (process : FuotaProcess) (number : Nat) : Fuota :=
  { process.objects number with statics := process.statics }

/-- Any object takes a step of its own at any time. -/
def processStep : Step FuotaProcess (Nat × Action) := fun process (number, action) =>
  let next := (perform action (process.object number)).2
  some { objects := Function.update process.objects number next, statics := next.statics }

def FuotaProcess.begun (process : FuotaProcess) : FuotaProcess :=
  { process with objects := fun number => Fuota.begun (process.objects number) }

def SumsOwn (process : FuotaProcess) (served : Nat × Action) : Prop :=
  SumsOwnImage (process.object served.1) served.2

theorem processStep_carrying (process : FuotaProcess) (served : Nat × Action) (next : FuotaProcess)
    (carrying : forall number, (core (process.objects number)).SumsCarried)
    (careful : SumsOwn process served) (stepped : processStep process served = some next) :
    forall number, (core (next.objects number)).SumsCarried := by
  obtain ⟨mine, action⟩ := served
  obtain rfl : _ = next := Option.some.inj stepped
  intro number
  have before : (core (process.object mine)).SumsCarried :=
    ⟨(carrying mine).built, (carrying mine).sent⟩
  have after := step_carrying (process.object mine) action before careful
  by_cases same : number = mine
  next =>
    subst same
    simpa using after
  next => simpa [Function.update_of_ne same] using carrying number

/-- In every run whose computations are each over the image of the request, every verification that
is transmitted carries the checksum of its request's image. -/
theorem verifications_carry (process last : FuotaProcess) (actions : List (Nat × Action))
    (careful : AllAllowed processStep SumsOwn process.begun actions)
    (finished : run processStep process.begun actions = some last) :
    forall number, VerifiesImages (last.objects number) := by
  have plain : ¬ Verifying ([] : Bytes) := by
    unfold Verifying
    decide
  have initial (number : Nat) : (core (process.begun.objects number)).SumsCarried := by
    constructor
    next => exact fun verifying => absurd verifying plain
    next => simp [FuotaProcess.begun, Fuota.begun, core]
  have kept := run_guarded_invariant processStep SumsOwn
    (fun process => forall number, (core (process.objects number)).SumsCarried) processStep_carrying
    process.begun last actions initial careful finished
  exact fun number => (kept number).sent

def sumsNow (fuota : Fuota) (data : Bytes) : Bool :=
  if fuota.machine.ondemandFuotaState = .fwImageEndofPageTransfer then
    accepts .fwImageEndofPageTransfer data
  else if fuota.machine.ondemandFuotaState = .newFwimageCrcCalculate then
    !accepts .newFwimageCrcCalculate data
  else false

theorem sumsNow_iff (fuota : Fuota) (data : Bytes) : sumsNow fuota data = true <-> Sums fuota data := by
  unfold Sums sumsNow
  cases fuota.machine.ondemandFuotaState <;> simp

instance (fuota : Fuota) (data : Bytes) : Decidable (Sums fuota data) :=
  @decidable_of_iff _ (sumsNow fuota data = true) (sumsNow_iff fuota data)
    (instDecidableEqBool (sumsNow fuota data) true)

instance (fuota : Fuota) (image : Bytes) : Decidable (ReadsImage fuota image) :=
  decidable_of_iff (fuota.firmware.foutaReadFd.map OpenFile.content = some image /\
      fuota.firmware.totalFirmwaresize = image.length /\ image ≠ [] /\ fuota.crc.crc = 0 /\
      (fuota.statics.crcTab16Init = true -> fuota.crc.crcTab16 = initCrc16Tab) /\
      0 < fuota.firmware.sectorValue /\
      ∀ turn < image.length, fuota.inputs.fread (fuota.counters.freads + turn) ≠ some 0)
    ⟨fun ⟨file, size, full, clear, table, sector, read⟩ =>
        ⟨file, size, full, clear, table, sector, read⟩,
      fun reads => ⟨reads.file, reads.size, reads.full, reads.clear, reads.table, reads.sector,
        reads.read⟩⟩

instance (fuota : Fuota) (image : Bytes) : Decidable (SumsImage fuota image) :=
  inferInstanceAs (Decidable (if fuota.crc.rfFuotaCrcCalculated then _ else ReadsImage fuota image))

instance (fuota : Fuota) (action : Action) : Decidable (SumsOwnImage fuota action) :=
  match action with
  | .reply data =>
    match image : imageOf (core fuota) fuota.log with
    | some bytes => decidable_of_iff (Sums fuota data -> SumsImage fuota bytes) (by simp [SumsOwnImage, image])
    | none => decidable_of_iff (Sums fuota data -> False) (by simp [SumsOwnImage, image])
  | .queue | .pollTimeout | .packet | .resume _ _ | .enqueue _ | .cancel _ => isTrue trivial

instance (process : FuotaProcess) (served : Nat × Action) : Decidable (SumsOwn process served) :=
  inferInstanceAs (Decidable (SumsOwnImage _ _))

def verifies : Event -> Bool
  | .sent sent => sent.built.command.take 4 = verifyImage.take 4
  | _ => false

/-- A process of objects with the same request each. -/
def sectorProcess : FuotaProcess := { objects := fun _ => sectorRequest }

theorem verifications_carry_sector : exists last,
    run processStep sectorProcess.begun ((verifiedUp 1).map fun action => (0, action)) = some last /\
      (last.objects 0).log.any verifies /\ forall number, VerifiesImages (last.objects number) := by
  have verified : (run processStep sectorProcess.begun ((verifiedUp 1).map fun action => (0, action))).map
      (fun last => (last.objects 0).log.any verifies) = some true := by decide +kernel
  obtain ⟨last, finished, known⟩ := Option.map_eq_some_iff.mp verified
  exact ⟨last, finished, known, verifications_carry sectorProcess last _ (by decide +kernel) finished⟩

/-- A verification with another checksum than that of the request's image. -/
def carriesOther (fuota : Fuota) : Event -> Bool
  | .sent sent => sent.built.command.take 4 = verifyImage.take 4 &&
    (imageOf (core fuota) (fuota.log.take sent.built.place)).all fun image =>
      sent.built.command ≠ verifyCommand (bitwiseCrc image 0)
  | _ => false

/-- A request for one byte is verified by one object, and then by another one. -/
def verifiedTwice : List (Nat × Action) :=
  (verifiedUp 16).map (fun action => (0, action)) ++ (verifiedUp 16).map fun action => (1, action)

/-- The second object never gets a table, as the flag for it is a static variable. -/
theorem second_object_other : ¬ forall (process last : FuotaProcess) (actions : List (Nat × Action)),
    run processStep process.begun actions = some last ->
      forall number, VerifiesImages (last.objects number) := by
  intro carry
  have other : (run processStep ({ objects := fun _ => oneRequest } : FuotaProcess).begun verifiedTwice).map
      (fun last => (last.objects 1).log.any (carriesOther (last.objects 1))) = some true := by
    decide +kernel
  obtain ⟨last, finished, known⟩ := Option.map_eq_some_iff.mp other
  obtain ⟨event, inside, wrong⟩ := List.any_eq_true.mp known
  cases event with
  | sent sent =>
    simp only [carriesOther, Bool.and_eq_true, decide_eq_true_eq] at wrong
    obtain ⟨_, image, found, sum⟩ := carry _ last _ finished 1 sent inside wrong.1
    simp [found, sum] at wrong
  | _ => simp [carriesOther] at wrong

end Objects

end Hes.Fuota
