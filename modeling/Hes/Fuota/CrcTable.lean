import Hes.Fuota.Machine
import Hes.Lib.Crc

set_option autoImplicit false

namespace Hes.Fuota

open Prog

/-- The reflected CRC-16 with the polynomial 0xA001, bit by bit. -/
def bitwiseCrc (data : Bytes) (crc : UInt16) : UInt16 :=
  UInt16.ofBitVec (Crc.remainder 0xA001#16 crc.toBitVec (data.map UInt8.toBitVec))

section Table

theorem odd_iff (register : UInt16) :
    register &&& 0x0001 ≠ 0 <-> register.toBitVec.getLsbD 0 = true := by
  have bit := @BitVec.and_one_eq_setWidth_ofBool_getLsbD 16 register.toBitVec
  rw [Ne, ← UInt16.toBitVec_inj, UInt16.toBitVec_and, show (0x0001 : UInt16).toBitVec = 1#16 from rfl, bit]
  cases register.toBitVec.getLsbD 0 <;> decide

theorem crcBit_shift : Function.Semiconj (fun kc => kc.1.toBitVec ^^^ kc.2.toBitVec)
    crcBit (Crc.shift 0xA001#16) := by
  intro kc
  have odd := odd_iff (kc.1 ^^^ kc.2)
  rw [UInt16.toBitVec_xor] at odd
  by_cases set : (kc.1.toBitVec ^^^ kc.2.toBitVec).getLsbD 0 = true
  next =>
    rw [crcBit, if_pos (odd.mpr set), Crc.shift, if_pos set]
    simp only [UInt16.toBitVec_xor, UInt16.toBitVec_shiftRight, BitVec.ushiftRight_xor_distrib]
    ac_rfl
  next =>
    rw [crcBit, if_neg (mt odd.mp set), Crc.shift, if_neg set]
    simp [BitVec.ushiftRight_xor_distrib]

theorem crcBits_rest (kc : UInt16 × UInt16) (count : Nat) :
    (crcBit^[count] kc).2.toNat = kc.2.toNat / 2 ^ count := by
  induction count with
  | zero => simp
  | succ count ih =>
    rw [Function.iterate_succ_apply', crcBit, UInt16.toNat_shiftRight, ih, Nat.shiftRight_eq_div_pow,
      Nat.div_div_eq_div_mul, Nat.pow_succ]
    rfl

theorem crcEntry_shifts (index : Nat) (octet : index < 256) :
    (crcEntry index).toBitVec = (Crc.shift 0xA001#16)^[8] (BitVec.ofNat 16 index) := by
  -- after eight steps nothing is left of an octet, and the remainder is the entry
  have used : (crcBit^[8] (0, UInt16.ofNat index)).2 = 0 := by
    apply UInt16.toNat_inj.mp
    rw [crcBits_rest]
    simp
    omega
  have stepped := crcBit_shift.iterate_right 8 (0, UInt16.ofNat index)
  simp only [used] at stepped
  rw [crcEntry]
  calc (crcBit^[8] (0, UInt16.ofNat index)).1.toBitVec
    _ = (crcBit^[8] (0, UInt16.ofNat index)).1.toBitVec ^^^ (0 : UInt16).toBitVec := by
      rw [UInt16.toBitVec_zero, BitVec.xor_zero]
    _ = (Crc.shift 0xA001#16)^[8] ((0 : UInt16).toBitVec ^^^ (UInt16.ofNat index).toBitVec) := stepped
    _ = _ := by rw [UInt16.toBitVec_zero, BitVec.zero_xor, UInt16.toBitVec_ofNat']

theorem initCrc16Tab_getD (index : Nat) (octet : index < 256) :
    initCrc16Tab.getD index 0 = crcEntry index := by
  simp [initCrc16Tab, List.getD_eq_getElem?_getD, octet]

theorem lookup_feed (crc : UInt16) (byte : UInt8) :
    ((crc >>> 8) ^^^ initCrc16Tab.getD ((crc ^^^ byte.toUInt16) &&& 0xFF).toNat 0).toBitVec =
      Crc.feed 0xA001#16 crc.toBitVec byte.toBitVec := by
  have octet : ((crc ^^^ byte.toUInt16) &&& 0xFF).toNat < 256 := by
    simp only [UInt16.toNat_and]
    exact Nat.lt_of_le_of_lt Nat.and_le_right (by decide)
  have index : BitVec.ofNat 16 ((crc ^^^ byte.toUInt16) &&& 0xFF).toNat =
      Crc.low 8 (crc.toBitVec ^^^ byte.toBitVec.setWidth 16) := by
    rw [Crc.low_mask, ← UInt16.toNat_toBitVec, BitVec.ofNat_toNat, BitVec.setWidth_eq]
    rfl
  rw [initCrc16Tab_getD _ octet, UInt16.toBitVec_xor, crcEntry_shifts _ octet, index, Crc.feed_table]
  rfl

theorem crc16Update_bitwise (data : Bytes) (crc : UInt16) :
    crc16Update initCrc16Tab data crc = bitwiseCrc data crc := by
  apply UInt16.toBitVec_inj.mp
  induction data generalizing crc with
  | nil => rfl
  | cons byte rest ih =>
    have later := ih ((crc >>> 8) ^^^ initCrc16Tab.getD ((crc ^^^ byte.toUInt16) &&& 0xFF).toNat 0)
    simp only [crc16Update, bitwiseCrc, Crc.remainder, List.foldl_cons, List.map_cons] at later ⊢
    rw [later, lookup_feed]

theorem crc16Update_append (crcTab16 : List UInt16) (first second : Bytes) (crc : UInt16) :
    crc16Update crcTab16 (first ++ second) crc = crc16Update crcTab16 second (crc16Update crcTab16 first crc) :=
  List.foldl_append

end Table

section Chunks

/-- What the next read of the loop gives. -/
def nextChunk (fuota : Fuota) (file : OpenFile) (remaining : Nat) : Bytes :=
  let sectorValue := fuota.firmware.sectorValue
  let chunk := if remaining > sectorValue then sectorValue else remaining
  (file.content.drop file.position).take
    (min chunk ((fuota.inputs.fread fuota.counters.freads).getD chunk))

/-- The object behind a turn that read a chunk. -/
def chunkRead (fuota : Fuota) (file : OpenFile) (chunk : Bytes) : Fuota :=
  { fuota with
    counters := { fuota.counters with freads := fuota.counters.freads + 1 }
    firmware := { fuota.firmware with
      foutaReadFd := some { file with position := file.position + chunk.length } }
    crc := { fuota.crc with crc := crc16Update fuota.crc.crcTab16 chunk fuota.crc.crc } }

variable {fuota after : Fuota} {file : OpenFile}

theorem observed_sector (fuota : Fuota) : observe (fun fuota : Fuota => fuota.firmware.sectorValue) fuota =
    (some fuota.firmware.sectorValue, fuota) := rfl

theorem crcTurn_reads (opened : fuota.firmware.foutaReadFd = some file) (remaining : Nat)
    (left : 0 < remaining) (given : nextChunk fuota file remaining ≠ []) :
    crcTurn remaining fuota = (some (.again (remaining - (nextChunk fuota file remaining).length)),
      chunkRead fuota file (nextChunk fuota file remaining)) := by
  have read : fread (if remaining > fuota.firmware.sectorValue then fuota.firmware.sectorValue
      else remaining) fuota = (some (nextChunk fuota file remaining), { fuota with
        counters := { fuota.counters with freads := fuota.counters.freads + 1 }
        firmware := { fuota.firmware with foutaReadFd := some { file with
          position := file.position + (nextChunk fuota file remaining).length } } }) := by
    simp [fread, opened, nextChunk]
  rw [crcTurn, if_pos left, ran_bind (observed_sector fuota), ran_bind read, if_neg given]
  rfl

theorem crcTurn_dry (opened : fuota.firmware.foutaReadFd = some file) (remaining : Nat)
    (left : 0 < remaining) (dry : nextChunk fuota file remaining = []) :
    (crcTurn remaining fuota).1 = some (.done false) := by
  have read : (fread (if remaining > fuota.firmware.sectorValue then fuota.firmware.sectorValue
      else remaining) fuota).1 = some [] := by
    simpa [fread, opened, nextChunk] using dry
  rw [crcTurn, if_pos left, ran_bind (observed_sector fuota), ran_bind (returned_of_fst _ _ _ read)]
  rfl

theorem crcTurn_finished (fuota : Fuota) : crcTurn 0 fuota = (some (.done true), fuota) := rfl

theorem nextChunk_cut (fuota : Fuota) (file : OpenFile) (remaining : Nat) :
    ∃ wanted ≤ remaining, nextChunk fuota file remaining =
      (file.content.drop file.position).take wanted := by
  refine ⟨_, ?_, rfl⟩
  split <;> omega

theorem nextChunk_length (fuota : Fuota) (file : OpenFile) (remaining : Nat) :
    (nextChunk fuota file remaining).length ≤ remaining := by
  obtain ⟨wanted, within, cut⟩ := nextChunk_cut fuota file remaining
  simp only [cut, List.length_take]
  omega

theorem nextChunk_part (fuota : Fuota) (file : OpenFile) (remaining : Nat) :
    (file.content.drop file.position).take remaining = nextChunk fuota file remaining ++
      (file.content.drop (file.position + (nextChunk fuota file remaining).length)).take
        (remaining - (nextChunk fuota file remaining).length) := by
  obtain ⟨wanted, within, cut⟩ := nextChunk_cut fuota file remaining
  rw [cut, ← List.drop_drop]
  by_cases enough : wanted ≤ (file.content.drop file.position).length
  next => rw [List.length_take, Nat.min_eq_left enough, ← List.take_add, Nat.add_sub_cancel' within]
  next =>
    -- the file ends within the chunk
    rw [List.take_of_length_le (by omega), List.take_of_length_le (by omega), List.drop_length,
      List.take_nil, List.append_nil]

/-- Short of its end, and short of an error, a read gives something. -/
theorem nextChunk_given (fuota : Fuota) (file : OpenFile) (remaining : Nat)
    (sector : 0 < fuota.firmware.sectorValue)
    (read : fuota.inputs.fread fuota.counters.freads ≠ some 0)
    (left : 0 < remaining) (long : file.position + remaining ≤ file.content.length) :
    0 < (nextChunk fuota file remaining).length := by
  have positive (chunk : Nat) (wanted : 0 < chunk) :
      0 < (fuota.inputs.fread fuota.counters.freads).getD chunk := by
    cases given : fuota.inputs.fread fuota.counters.freads with
    | none => exact wanted
    | some count =>
      rw [given] at read
      exact Nat.pos_of_ne_zero fun none => read (congrArg some none)
  have asked : 0 < if remaining > fuota.firmware.sectorValue then fuota.firmware.sectorValue else remaining := by
    split <;> omega
  have answered := positive _ asked
  simp only [nextChunk, List.length_take, List.length_drop]
  omega

/-- However the file is cut, a loop that gets through leaves the checksum of the bytes it read. -/
theorem chunks_crc (fuel remaining : Nat) (opened : fuota.firmware.foutaReadFd = some file)
    (ran : loop crcTurn fuel remaining fuota = (some true, after)) :
    after.crc.crc = crc16Update fuota.crc.crcTab16
      ((file.content.drop file.position).take remaining) fuota.crc.crc := by
  induction fuel generalizing fuota file remaining with
  | zero => simp [loop, waiting] at ran
  | succ fuel ih =>
    rw [loop] at ran
    cases Nat.eq_zero_or_pos remaining with
    | inl none =>
      subst none
      rw [ran_bind (crcTurn_finished fuota)] at ran
      obtain rfl : fuota = after := (Prod.mk.inj ran).2
      rfl
    | inr left =>
      by_cases dry : nextChunk fuota file remaining = []
      next =>
        rw [ran_bind (returned_of_fst _ _ _ (crcTurn_dry opened remaining left dry))] at ran
        simp at ran
      next =>
        rw [ran_bind (crcTurn_reads opened remaining left dry)] at ran
        rw [nextChunk_part fuota file remaining, crc16Update_append]
        exact ih _ rfl ran

/-- A file that is long enough is read to its end where no read fails. -/
theorem chunks_complete (fuel remaining : Nat) (opened : fuota.firmware.foutaReadFd = some file)
    (sector : 0 < fuota.firmware.sectorValue) (read : forall index, fuota.inputs.fread index ≠ some 0)
    (long : file.position + remaining ≤ file.content.length) (turns : remaining < fuel) :
    (loop crcTurn fuel remaining fuota).1 = some true := by
  induction fuel generalizing fuota file remaining with
  | zero => omega
  | succ fuel ih =>
    rw [loop]
    cases Nat.eq_zero_or_pos remaining with
    | inl none =>
      subst none
      rw [ran_bind (crcTurn_finished fuota)]
      rfl
    | inr left =>
      have given := nextChunk_given fuota file remaining sector (read _) left long
      have within := nextChunk_length fuota file remaining
      rw [ran_bind (crcTurn_reads opened remaining left (List.ne_nil_of_length_pos given))]
      refine ih _ rfl sector read ?_ ?_
      next => simp only; omega
      next => omega

end Chunks

section Image

/-- The lookups do the bits, and the calculation over the image is that over any cut of it. -/
theorem crc16Update_refines :
    (forall (data : Bytes) (crc : UInt16), crc16Update initCrc16Tab data crc = bitwiseCrc data crc) /\
    (forall (first second : Bytes) (crc : UInt16),
      crc16Update initCrc16Tab second (crc16Update initCrc16Tab first crc) =
        crc16Update initCrc16Tab (first ++ second) crc) /\
    (forall (fuota : Fuota) (file : OpenFile) (remaining : Nat),
      fuota.firmware.foutaReadFd = some file -> fuota.crc.crcTab16 = initCrc16Tab ->
      (forall (fuel : Nat) (after : Fuota), loop crcTurn fuel remaining fuota = (some true, after) ->
        after.crc.crc =
          bitwiseCrc ((file.content.drop file.position).take remaining) fuota.crc.crc) /\
      (0 < fuota.firmware.sectorValue -> (forall index, fuota.inputs.fread index ≠ some 0) ->
        file.position + remaining ≤ file.content.length ->
        forall fuel, remaining < fuel -> (loop crcTurn fuel remaining fuota).1 = some true)) := by
  refine ⟨crc16Update_bitwise, fun first second crc => (crc16Update_append _ first second crc).symm, ?_⟩
  intro fuota file remaining opened filled
  constructor
  next =>
    intro fuel after ran
    rw [chunks_crc fuel remaining opened ran, filled, crc16Update_bitwise]
  next => exact fun sector read long fuel turns => chunks_complete fuel remaining opened sector read long turns

/-- An image read two bytes at a time. -/
def inTwos : Fuota where
  firmware := { foutaReadFd := some { content := [0x31, 0x32, 0x33, 0x34, 0x35] }, sectorValue := 2 }
  crc := { crcTab16 := initCrc16Tab }

theorem crc16Update_refines_inTwos :
    (loop crcTurn 6 5 inTwos).1 = some true /\
      (loop crcTurn 6 5 inTwos).2.crc.crc = bitwiseCrc [0x31, 0x32, 0x33, 0x34, 0x35] 0 := by
  have image := crc16Update_refines.2.2 inTwos _ 5 rfl rfl
  have ended := image.2 (by decide) (by simp [inTwos]) (by decide) 6 (by decide)
  exact ⟨ended, image.1 6 _ (returned_of_fst _ _ _ ended)⟩

end Image

end Hes.Fuota
