import Hes.Fuota.Machine
import Hes.Fuota.Delivery

set_option autoImplicit false

namespace Hes.Fuota

open Prog

def imageTfCommandSize : Nat := 128

/-- The firmware of the request can be opened, with the bytes that it has. -/
structure Opens (fuota : Fuota) (content : Bytes) : Prop where
  folder : fuota.firmware.dcuFolder ≠ []
  path : fuota.client.firmwarePath ≠ []
  opens : fuota.inputs.fopen fuota.counters.fopens = true
  file : fuota.inputs.files fuota.client.firmwarePath = some content

/-- The counts and sizes that the announcement and the upload compute, with the fields they go to;
`fileSize` is the size of the file, and `headerLen` that of the header of the image frames. -/
structure SoundGeometry (firmware : Firmware) (fileSize headerLen : Nat) : Prop where
  divisors : 0 < firmware.sectorValue /\ 0 < maxPayloadSize firmware.session.headerLen
  positive : 0 < maxPayloadSize headerLen /\ 0 < minPayloadSize firmware.sectorValue headerLen
  framed : forall command page subpage payload, payload.length ≤ maxPayloadSize headerLen ->
    headerLen + 8 + payload.length ≤ imageTfCommandSize /\
      (byteAt (imageFrame command headerLen page subpage payload) 1).toNat =
        headerLen + 7 + payload.length
  pages : maxPageCount fileSize firmware.sectorValue < 2 ^ 16
  subpages : maxSubPageCount firmware.sectorValue firmware.session.headerLen < 2 ^ 8 /\
    maxSubPageCount firmware.sectorValue headerLen < 2 ^ 8
  announcedPages : bigEndian (slice (fwInfo firmware) 8 2) =
    maxPageCount firmware.totalFirmwaresize firmware.sectorValue
  announcedSubpages : (byteAt (fwInfo firmware) 10).toNat =
    maxSubPageCount firmware.sectorValue headerLen

/-- The reply is handled, and the geometry it leaves is sound for frames behind the header of
`txBuffer`. -/
def GeometryHolds (before : Fuota) (data content txBuffer : Bytes) : Prop :=
  exists after, replySectorRead data before = (some (), after) /\
    SoundGeometry after.firmware content.length (uploadHeaderLen txBuffer)

/-- Sectors of `high` times 256 bytes that both computations divide alike, at a number of hops. -/
def AlikeSectors (high hopCount : Nat) : Prop :=
  (hopCount ≤ 1 /\ 1 ≤ high /\ high ≤ 102) \/
    (2 ≤ hopCount /\ hopCount ≤ 5 /\ high = 1) \/
    (hopCount = 2 /\ (high = 3 \/ high = 5))

instance (high hopCount : Nat) : Decidable (AlikeSectors high hopCount) :=
  inferInstanceAs (Decidable (_ \/ _))

/-- The second byte from the end of an accepted reply is its status 0, so a sector has a multiple of
256 bytes. -/
def Regular (data : Bytes) (fileSize hopCount : Nat) : Prop :=
  AlikeSectors (fromEnd data 3).toNat hopCount /\
    fileSize / ((fromEnd data 3).toNat * 256) < 2 ^ 16

section Reply

/-- What `dynamic_fuota_calculate` reads. -/
def reads (fuota : Fuota) := (fuota.inputs, fuota.client, fuota.counters, fuota.firmware)

theorem updateStatus_reads (requestStatus errorCode : Nat) (fuota : Fuota) :
    exists after, updateStatus requestStatus errorCode fuota = (some (), after) /\
      reads after = reads fuota := by
  simp only [updateStatus, ondemandFuotaUpdateStatus, bind, observe, update]
  split
  next => exact ⟨fuota, rfl, rfl⟩
  next => exact ⟨_, rfl, rfl⟩

theorem opens_congr (fuota after : Fuota) (content : Bytes) (opens : Opens fuota content)
    (inputs : after.inputs = fuota.inputs) (client : after.client = fuota.client)
    (counters : after.counters = fuota.counters)
    (folder : after.firmware.dcuFolder = fuota.firmware.dcuFolder) : Opens after content where
  folder := by rw [folder]; exact opens.folder
  path := by rw [client]; exact opens.path
  opens := by rw [inputs, counters]; exact opens.opens
  file := by rw [inputs, client]; exact opens.file

/-- The division waits for ever where the sector value is 0. -/
theorem dynamicFuotaCalculate_ran (fuota : Fuota) (content : Bytes) (opens : Opens fuota content) :
    exists after,
      dynamicFuotaCalculate fuota =
        (if fuota.firmware.sectorValue = 0 then none else some true, after) /\
      after.firmware.sectorValue = fuota.firmware.sectorValue /\
      after.firmware.session.headerLen = headerLenWithoutPath /\
      after.firmware.totalFirmwaresize = content.length % 2 ^ 32 := by
  obtain ⟨told, updated, same⟩ := updateStatus_reads 8 1 fuota
  simp only [reads, Prod.mk.injEq] at same
  obtain ⟨inputs, client, counters, firmware⟩ := same
  have again := opens_congr fuota told content opens inputs client counters (by rw [firmware])
  have first : (observe fun fuota : Fuota => fuota.firmware.dcuFolder) fuota =
      (some fuota.firmware.dcuFolder, fuota) := rfl
  have second : (observe id : Prog Fuota Fuota) told = (some told, told) := rfl
  have third : (setFirmware fun firmware => { firmware with
        session := { headerLen := headerLenWithoutPath, file := told.client.firmwarePath } }) told =
      (some (), { told with firmware := { told.firmware with
        session := { headerLen := headerLenWithoutPath, file := told.client.firmwarePath } } }) := rfl
  rw [dynamicFuotaCalculate, ran_bind first, if_neg opens.folder, ran_bind updated, ran_bind second,
    ran_bind third, if_neg again.path]
  have opened : fopen told.client.firmwarePath { told with firmware := { told.firmware with
        session := { headerLen := headerLenWithoutPath, file := told.client.firmwarePath } } } =
      (some (some content), { told with
        firmware := { told.firmware with
          session := { headerLen := headerLenWithoutPath, file := told.client.firmwarePath } }
        counters := { told.counters with fopens := told.counters.fopens + 1 } }) := by
    simp [fopen, again.opens, again.file]
  rw [ran_bind opened]
  simp only [keepOpen, setFirmware, note, bind, update]
  by_cases zero : told.firmware.sectorValue = 0
  next =>
    have same : fuota.firmware.sectorValue = 0 := by rw [← firmware, zero]
    rw [if_pos zero, if_pos same]
    exact ⟨_, rfl, by rw [← firmware], rfl, rfl⟩
  next =>
    have other : fuota.firmware.sectorValue ≠ 0 := by rw [← firmware]; exact zero
    rw [if_neg zero, if_neg other]
    exact ⟨_, rfl, by rw [← firmware], rfl, rfl⟩

theorem accepted_sector (data : Bytes) (accepted : accepts .sectorRead data = true) :
    (fromEnd data 3).toNat * 256 + (fromEnd data 2).toNat = (fromEnd data 3).toNat * 256 := by
  have status : fromEnd data 2 = 0 := by
    simp only [accepts, Bool.and_eq_true, decide_eq_true_eq] at accepted
    exact accepted.1
  rw [status, UInt8.toNat_zero, Nat.add_zero]

/-- An accepted reply leaves the sizes of the announcement, or is divided by 0. -/
theorem replySectorRead_ran (before : Fuota) (data content : Bytes)
    (accepted : accepts .sectorRead data = true) (opens : Opens before content) :
    exists after,
      replySectorRead data before = (if (fromEnd data 3).toNat = 0 then none else some (), after) /\
      after.firmware.sectorValue = (fromEnd data 3).toNat * 256 /\
      after.firmware.session.headerLen = headerLenWithoutPath /\
      after.firmware.totalFirmwaresize = content.length % 2 ^ 32 := by
  have noted : note (.accepted .sectorRead) before =
      (some (), { before with log := before.log ++ [.accepted .sectorRead] }) := rfl
  generalize known : { before with log := before.log ++ [Event.accepted .sectorRead] } = logged at noted
  have valued : setFirmware (fun firmware => { firmware with
        sectorValue := (fromEnd data 3).toNat * 256 + (fromEnd data 2).toNat }) logged =
      (some (), { logged with firmware := { logged.firmware with
        sectorValue := (fromEnd data 3).toNat * 256 } }) := by
    rw [setFirmware, update, accepted_sector data accepted]
  obtain ⟨told, updated, same⟩ := updateStatus_reads 7 1 { logged with
    firmware := { logged.firmware with sectorValue := (fromEnd data 3).toNat * 256 } }
  simp only [reads, Prod.mk.injEq] at same
  obtain ⟨inputs, client, counters, firmware⟩ := same
  have succeeded : succeed told = (some (), (succeed told).2) := rfl
  have readable : Opens (succeed told).2 content := by
    apply opens_congr before _ content opens
    next => rw [← known] at inputs; exact inputs
    next => rw [← known] at client; exact client
    next => rw [← known] at counters; exact counters
    next =>
      have kept : (succeed told).2.firmware = told.firmware := rfl
      rw [kept, firmware, ← known]
  obtain ⟨after, ran, sector, headerLen, size⟩ :=
    dynamicFuotaCalculate_ran (succeed told).2 content readable
  have value : (succeed told).2.firmware.sectorValue = (fromEnd data 3).toNat * 256 := by
    have kept : (succeed told).2.firmware = told.firmware := rfl
    rw [kept, firmware]
  rw [value] at ran sector
  rw [replySectorRead, if_pos accepted, ran_bind noted, ran_bind valued, ran_bind updated,
    ran_bind succeeded]
  by_cases zero : (fromEnd data 3).toNat = 0
  next =>
    rw [if_pos (by omega)] at ran
    rw [waited_bind ran, if_pos zero]
    exact ⟨after, rfl, sector, headerLen, size⟩
  next =>
    rw [if_neg (by omega)] at ran
    rw [ran_bind ran, if_pos rfl, if_neg zero]
    exact ⟨_, rfl, sector, headerLen, size⟩

end Reply

section Arithmetic

theorem fwInfo_counts (firmware : Firmware) :
    bigEndian (slice (fwInfo firmware) 8 2) =
        maxPageCount firmware.totalFirmwaresize firmware.sectorValue % 2 ^ 16 /\
      (byteAt (fwInfo firmware) 10).toNat =
        maxSubPageCount firmware.sectorValue firmware.session.headerLen % 2 ^ 8 := by
  have bytes : forall index, 4 ≤ index -> index < 11 -> byteAt (fwInfo firmware) index =
      byteAt [UInt8.ofNat (firmware.totalFirmwaresize / 2 ^ 24),
        UInt8.ofNat (firmware.totalFirmwaresize / 2 ^ 16),
        UInt8.ofNat (firmware.totalFirmwaresize / 2 ^ 8), UInt8.ofNat firmware.totalFirmwaresize,
        UInt8.ofNat (maxPageCount firmware.totalFirmwaresize firmware.sectorValue / 256),
        UInt8.ofNat (maxPageCount firmware.totalFirmwaresize firmware.sectorValue),
        UInt8.ofNat (maxSubPageCount firmware.sectorValue firmware.session.headerLen)]
          (index - 4) := by
    intro index low high
    rw [fwInfo, byteAt_overwrite, if_neg (by simp; omega), byteAt_overwrite,
      if_pos (by simp; omega)]
  constructor
  next =>
    simp only [slice, bigEndian, List.range, List.range.loop, List.map_cons, List.map_nil,
      List.foldl_cons, List.foldl_nil]
    rw [bytes 8 (by omega) (by omega), bytes 9 (by omega) (by omega)]
    simp only [byteAt, List.getD_eq_getElem?_getD]
    simp
    omega
  next =>
    rw [bytes 10 (by omega) (by omega)]
    simp [byteAt]

theorem imageFrame_length (command : Bytes) (headerLen page : Nat) (subpage : UInt8)
    (payload : Bytes) : (byteAt (imageFrame command headerLen page subpage payload) 1).toNat =
      (headerLen + 7 + payload.length) % 2 ^ 8 := by
  rw [imageFrame, byteAt_overwrite, if_pos (by simp)]
  simp [byteAt]

/-- Length of the header in front of the image frames, for a number of hops. -/
def headerLenOf (hopCount : Nat) : Nat := 13 + if hopCount = 0 then 4 else hopCount * 4

theorem uploadHeaderLen_near (txBuffer : Bytes) (near : (byteAt txBuffer 12).toNat ≤ 32) :
    uploadHeaderLen txBuffer = headerLenOf (byteAt txBuffer 12).toNat := by
  unfold uploadHeaderLen headerLenOf
  split <;> split <;> omega

/-- The numbers that do not depend on the file: a sector that is not empty and has no empty last
subpage, a frame that fits, and one count of subpages that fits a byte. -/
def Alike (sector hopCount : Nat) : Prop :=
  0 < sector /\ 0 < minPayloadSize sector (headerLenOf hopCount) /\
    headerLenOf hopCount + 8 + maxPayloadSize (headerLenOf hopCount) ≤ imageTfCommandSize /\
    maxSubPageCount sector headerLenWithoutPath < 2 ^ 8 /\
    maxSubPageCount sector headerLenWithoutPath = maxSubPageCount sector (headerLenOf hopCount)

instance (sector hopCount : Nat) : Decidable (Alike sector hopCount) :=
  inferInstanceAs (Decidable (_ /\ _))

theorem alike_near (high hopCount : Nat) (near : hopCount ≤ 1) :
    Alike (high * 256) hopCount <-> 1 ≤ high /\ high ≤ 102 := by
  have header : headerLenOf hopCount = headerLenWithoutPath := by
    unfold headerLenOf headerLenWithoutPath
    split <;> omega
  have limit : maxPayloadSize headerLenWithoutPath = 103 := rfl
  rw [Alike, header, minPayloadSize_mod, maxSubPageCount, limit, imageTfCommandSize,
    headerLenWithoutPath]
  omega

theorem alike_far (sector hopCount : Nat) (far : 27 ≤ hopCount) : ¬ Alike sector hopCount := by
  rintro ⟨-, -, room, -⟩
  unfold maxPayloadSize headerLenOf phyLayerPktSize fuotaCmdLen imageTfCommandSize at room
  split at room <;> split at room <;> omega

/-- From eleven times 256 bytes on, a shorter payload needs at least one subpage more. -/
theorem alike_large (sector hopCount : Nat) (large : 11 * 256 ≤ sector) (hops : 2 ≤ hopCount)
    (inside : hopCount ≤ 26) : ¬ Alike sector hopCount := by
  rintro ⟨-, -, -, -, same⟩
  have limit : maxPayloadSize (headerLenOf hopCount) = 107 - hopCount * 4 := by
    unfold maxPayloadSize headerLenOf phyLayerPktSize fuotaCmdLen
    split <;> split <;> omega
  have announced : maxPayloadSize headerLenWithoutPath = 103 := rfl
  rw [maxSubPageCount, maxSubPageCount, announced, limit] at same
  have more : sector / 99 ≤ sector / (107 - hopCount * 4) :=
    Nat.div_le_div_left (by omega) (by omega)
  omega

theorem alike_small : forall (high : Fin 11) (hopCount : Fin 27), 2 ≤ hopCount.val ->
    (Alike (high.val * 256) hopCount <-> AlikeSectors high hopCount) := by
  decide +kernel

theorem alikeSectors_iff (high hopCount : Nat) :
    Alike (high * 256) hopCount <-> AlikeSectors high hopCount := by
  by_cases near : hopCount ≤ 1
  next =>
    rw [alike_near high hopCount near, AlikeSectors]
    omega
  by_cases far : 27 ≤ hopCount
  next =>
    have other : ¬ AlikeSectors high hopCount := by
      unfold AlikeSectors
      omega
    simp [alike_far (high * 256) hopCount far, other]
  by_cases large : 11 ≤ high
  next =>
    have other : ¬ AlikeSectors high hopCount := by
      unfold AlikeSectors
      omega
    simp [alike_large (high * 256) hopCount (by omega) (by omega) (by omega), other]
  next => exact alike_small ⟨high, by omega⟩ ⟨hopCount, by omega⟩ (by dsimp only; omega)

theorem pages_small (fileSize high : Nat) (small : high < 256) (known : 0 < high)
    (few : fileSize / (high * 256) < 2 ^ 16) : fileSize % 2 ^ 32 = fileSize := by
  have size := (Nat.div_lt_iff_lt_mul (by omega)).mp few
  exact Nat.mod_eq_of_lt (by omega)

theorem headerLenOf_positive (hopCount : Nat) : 0 < maxPayloadSize (headerLenOf hopCount) := by
  -- a payload has room for a byte at any number of hops
  unfold maxPayloadSize headerLenOf phyLayerPktSize fuotaCmdLen
  split <;> split <;> omega

theorem maxPayloadSize_announced : 0 < maxPayloadSize headerLenWithoutPath := by decide

theorem sound_iff_regular (firmware : Firmware) (data : Bytes) (fileSize hopCount : Nat)
    (sector : firmware.sectorValue = (fromEnd data 3).toNat * 256)
    (headerLen : firmware.session.headerLen = headerLenWithoutPath)
    (size : firmware.totalFirmwaresize = fileSize % 2 ^ 32) :
    SoundGeometry firmware fileSize (headerLenOf hopCount) <-> Regular data fileSize hopCount := by
  have inside := (fromEnd data 3).toNat_lt
  have alike := alikeSectors_iff (fromEnd data 3).toNat hopCount
  obtain ⟨announcedPages, announcedSubpages⟩ := fwInfo_counts firmware
  rw [size, sector] at announcedPages
  rw [sector, headerLen] at announcedSubpages
  rw [Regular]
  constructor
  next =>
    intro sound
    have positive := sound.positive.2
    have divisor := sound.divisors.1
    have subpages := sound.subpages.1
    have pages := sound.pages
    have room := (sound.framed [] 0 0 (List.replicate (maxPayloadSize (headerLenOf hopCount)) 0)
      (by simp)).1
    have same := sound.announcedSubpages
    rw [List.length_replicate] at room
    rw [sector] at positive divisor pages
    rw [sector, headerLen] at subpages
    rw [sector, announcedSubpages, Nat.mod_eq_of_lt subpages] at same
    exact ⟨alike.mp ⟨divisor, positive, room, subpages, same⟩, pages⟩
  next =>
    rintro ⟨regular, few⟩
    obtain ⟨divisor, positive, room, subpages, same⟩ := alike.mpr regular
    have whole := pages_small fileSize _ inside (by omega) few
    rw [imageTfCommandSize] at room
    refine
      { divisors := ⟨by omega, by rw [headerLen]; exact maxPayloadSize_announced⟩
        positive := ⟨headerLenOf_positive hopCount, by rwa [sector]⟩
        framed := ?_
        pages := by rwa [sector]
        subpages := ⟨by rwa [sector, headerLen], by rwa [sector, ← same]⟩
        announcedPages := ?_
        announcedSubpages := ?_ }
    next =>
      intro command page subpage payload short
      rw [imageTfCommandSize, imageFrame_length]
      exact ⟨by omega, Nat.mod_eq_of_lt (by omega)⟩
    next =>
      rw [announcedPages, size, sector, whole]
      exact Nat.mod_eq_of_lt few
    next => rw [announcedSubpages, sector, ← same, Nat.mod_eq_of_lt subpages]

end Arithmetic

/-- For every accepted reply, every file and up to 32 hops, the geometry is sound exactly where both
computations divide the sector alike and the pages can be counted in 16 bits. -/
theorem geometryHolds_iff (before : Fuota) (data content txBuffer : Bytes)
    (accepted : accepts .sectorRead data = true) (opens : Opens before content)
    (near : (byteAt txBuffer 12).toNat ≤ 32) :
    GeometryHolds before data content txBuffer <->
      Regular data content.length (byteAt txBuffer 12).toNat := by
  obtain ⟨after, ran, sector, headerLen, size⟩ :=
    replySectorRead_ran before data content accepted opens
  have sound := sound_iff_regular after.firmware data content.length (byteAt txBuffer 12).toNat sector
    headerLen size
  rw [GeometryHolds, uploadHeaderLen_near txBuffer near]
  constructor
  next =>
    rintro ⟨last, returned, holds⟩
    rw [ran] at returned
    rw [← (Prod.mk.inj returned).2] at holds
    exact sound.mp holds
  next =>
    intro regular
    have divisor := (sound.mpr regular).divisors.1
    refine ⟨after, ?_, sound.mpr regular⟩
    rw [ran, if_neg (by omega)]

/-- A request whose file is there. -/
def requested (content : Bytes) : Fuota := {
  inputs := { files := fun _ => some content }
  client := { firmwarePath := [0x66] }
  firmware := { dcuFolder := [0x64] } }

theorem requested_opens (content : Bytes) : Opens (requested content) content where
  folder := by simp [requested]
  path := by simp [requested]
  opens := rfl
  file := rfl

/-- The reply of a node with sectors of 4096 bytes. -/
def sectorReply : Bytes := [0x2E, 0x16, 0x0A, 0x2D, 0x06, 0x01, 0x01, 0x10, 0x00, 0x45]

/-- The header of a frame to a node behind two hops. -/
def twoHops : Bytes := [0x2E, 0x1F, 0x09, 0, 0, 0, 0, 0, 0, 0, 0, 0, 2, 0, 0, 0, 1, 0, 0, 0, 2]

theorem geometryHolds_iff_requested :
    accepts .sectorRead sectorReply = true /\ Opens (requested [0x11]) [0x11] /\
      (byteAt twoHops 12).toNat ≤ 32 /\
      (GeometryHolds (requested [0x11]) sectorReply [0x11] twoHops <->
        Regular sectorReply [0x11].length (byteAt twoHops 12).toNat) :=
  ⟨by decide, requested_opens [0x11], by decide,
    geometryHolds_iff (requested [0x11]) sectorReply [0x11] twoHops (by decide)
      (requested_opens [0x11]) (by decide)⟩

/-- The node is told 40 subpages, and is sent 42. -/
theorem twoHops_disagree :
    ¬ forall before data content txBuffer, accepts .sectorRead data = true -> Opens before content ->
      (byteAt txBuffer 12).toNat ≤ 32 -> GeometryHolds before data content txBuffer := by
  intro every
  obtain ⟨last, returned, sound⟩ := every (requested [0x11]) sectorReply [0x11] twoHops (by decide)
    (requested_opens [0x11]) (by decide)
  obtain ⟨after, ran, sector, headerLen, size⟩ :=
    replySectorRead_ran (requested [0x11]) sectorReply [0x11] (by decide) (requested_opens [0x11])
  rw [ran] at returned
  rw [← (Prod.mk.inj returned).2] at sound
  have told := sound.announcedSubpages
  rw [(fwInfo_counts after.firmware).2, sector, headerLen] at told
  revert told
  decide +kernel

end Hes.Fuota
