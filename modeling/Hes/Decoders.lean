import Mathlib.Data.List.TakeWhile
import Hes.Dlms
import Hes.OdmProfiles

set_option autoImplicit false

namespace Hes.Decoders

/-- How the value of a data type is laid out. -/
inductive Shape where
  | fixed (width : Nat)
  | counted
  deriving DecidableEq, Repr

-- the types one of the two decoders names with a width of their own; a NONE has no value
def shape (type : UInt8) : Option Shape :=
  match type with
  | 0x00 | 0x01 => some (.fixed 0)
  | 0x03 | 0x0F | 0x11 | 0x16 => some (.fixed 1)
  | 0x10 | 0x12 => some (.fixed 2)
  | 0x05 | 0x06 | 0x19 | 0x17 => some (.fixed 4)
  | 0x14 | 0x15 | 0x18 => some (.fixed 8)
  | 0x04 | 0x09 | 0x0A | 0x0C => some .counted
  | _ => none

structure Record where
  index : UInt8
  type : UInt8
  bytes : Bytes
  deriving DecidableEq, Repr

namespace Record

def counts (record : Record) : Bytes :=
  if shape record.type = some .counted then [UInt8.ofNat record.bytes.length] else []

def encode (record : Record) : Bytes :=
  [record.index, 0x00, record.type] ++ record.counts ++ record.bytes

def WellFormed (record : Record) : Prop :=
  match shape record.type with
  | some (.fixed width) => record.bytes.length = width
  | some .counted => record.bytes.length < 256
  | none => False

end Record

/-- The offsets the records stand at. -/
def offsets : Nat -> List Record -> List Nat
  | _, [] => []
  | offset, record :: rest => offset :: offsets (offset + record.encode.length) rest

def encodeAll (records : List Record) : Bytes := records.flatMap Record.encode

/-- The DLMS data of a packet: eight bytes, the number of records, the records and the checksum. -/
def payload (head : Bytes) (records : List Record) (checksum : UInt8) : Bytes :=
  head ++ [UInt8.ofNat records.length] ++ encodeAll records ++ [checksum]

/-- The bytes a parsed value was made of, in front of `next`. -/
def rawBytes (data : Bytes) (offset next : Nat) : Bytes :=
  if shape (byteAt data (offset + 2)) = some .counted then
    slice data (offset + 4) (next - (offset + 4))
  else slice data (offset + 3) (next - (offset + 3))

/-- `recordsFrom` with the bytes of each value in place of the value. -/
def pushRecords (data : Bytes) : Nat -> Nat -> List Record
  | 0, _ => []
  | fuel + 1, offset =>
    if offset < data.length - 1 then
      match Dlms.parseRecord data offset with
      | some (record, next) =>
        { index := record.1, type := record.2.type, bytes := rawBytes data offset next } ::
          pushRecords data fuel next
      | none => []
    else []

/-- The value `parseByType` makes of the bytes. -/
def decode (type : UInt8) (bytes : Bytes) : Dlms.DlmsValue :=
  if shape type = some .counted then { type := type, octetString := bytes }
  else if type = 0x03 then { type := type, uint64Value := if byteAt bytes 0 = 0 then 0 else 1 }
  else { type := type, uint64Value := UInt64.ofNat (bigEndian bytes) }

def fields (records : List Record) : List (UInt8 × Bytes) :=
  records.map fun record => (record.index, record.bytes)

/-- What the on-demand decoder stores of the record at an offset. -/
def odmField (data : Bytes) (offset : Nat) : Option (UInt8 × Bytes) :=
  let type := byteAt data (offset + 2)
  let (dataOff, fieldLen) := OdmProfiles.logDlmsDataType data offset type
  if type ≠ 0 then
    some (byteAt data offset,
      (OdmProfiles.extractDlmsValue data (offset + dataOff) type fieldLen).bytes)
  else none

theorem byteAt_slice_zero (data : Bytes) (start length : Nat) (some : 0 < length) :
    byteAt (slice data start length) 0 = byteAt data start := by
  simp [slice, byteAt, List.getD_eq_getElem?_getD, some]

theorem parseByType_decode (data : Bytes) (offset next : Nat) (value : Dlms.DlmsValue)
    (parsed : Dlms.parseByType data (offset + 3) (byteAt data (offset + 2)) = some (value, next)) :
    value = decode (byteAt data (offset + 2)) (rawBytes data offset next) := by
  unfold rawBytes
  generalize byteAt data (offset + 2) = type at parsed
  have number (width : Nat) (uncounted : shape type ≠ some .counted) (other : type ≠ 0x03)
      (parsed : Dlms.numeric data (offset + 3) type width = some (value, next)) :
      value = decode type (if shape type = some .counted then
        slice data (offset + 4) (next - (offset + 4))
        else slice data (offset + 3) (next - (offset + 3))) := by
    unfold Dlms.numeric at parsed
    split at parsed
    next => simp at parsed
    next =>
      simp only [Option.some.injEq, Prod.mk.injEq] at parsed
      obtain ⟨rfl, rfl⟩ := parsed
      simp [decode, uncounted, other]
  have octets (counted : shape type = some .counted)
      (parsed : Dlms.octets data (offset + 3) type = some (value, next)) :
      value = decode type (if shape type = some .counted then
        slice data (offset + 4) (next - (offset + 4))
        else slice data (offset + 3) (next - (offset + 3))) := by
    unfold Dlms.octets at parsed
    dsimp only at parsed
    split at parsed
    next => simp at parsed
    next =>
      simp only [Option.some.injEq, Prod.mk.injEq] at parsed
      obtain ⟨rfl, rfl⟩ := parsed
      simp [decode, counted]
  unfold Dlms.parseByType at parsed
  split at parsed
  next => simp at parsed
  split at parsed
  case h_1 =>
    simp only [Option.some.injEq, Prod.mk.injEq] at parsed
    obtain ⟨rfl, rfl⟩ := parsed
    simp [decode, shape, slice, bigEndian]
  case h_2 =>
    simp only [Option.some.injEq, Prod.mk.injEq] at parsed
    obtain ⟨rfl, rfl⟩ := parsed
    simp [decode, shape, byteAt_slice_zero, show offset + 3 + 1 - (offset + 3) = 1 by omega]
  all_goals first
    | exact number _ (by decide) (by decide) parsed
    | exact octets (by decide) parsed
    | simp at parsed

/-- The records that are stored are made of the bytes named here. -/
theorem recordsFrom_raw (data : Bytes) (fuel offset : Nat) :
    Dlms.recordsFrom data fuel offset =
      (pushRecords data fuel offset).map fun record =>
        (record.index, decode record.type record.bytes) := by
  induction fuel generalizing offset with
  | zero => rfl
  | succ fuel ih =>
    rw [Dlms.recordsFrom, pushRecords]
    split
    next =>
      cases parsed : Dlms.parseRecord data offset with
      | none => rfl
      | some result =>
        obtain ⟨⟨index, value⟩, next⟩ := result
        have typed : Dlms.parseByType data (offset + 3) (byteAt data (offset + 2)) =
            some (value, next) := by
          unfold Dlms.parseRecord at parsed
          split at parsed
          next => simp at parsed
          next =>
            split at parsed
            next => simp at parsed
            next =>
              obtain ⟨⟨value', next'⟩, typed, same⟩ := Option.map_eq_some_iff.mp parsed
              simp only [Prod.mk.injEq] at same
              obtain ⟨⟨rfl, rfl⟩, rfl⟩ := same
              exact typed
        have made := parseByType_decode data offset next value typed
        have itsType : value.type = byteAt data (offset + 2) := by
          rw [made, decode]
          (repeat' split) <;> rfl
        simp only [List.map_cons, ih next, itsType, <- made]
    next => rfl

/-- The types `parseByType` knows. -/
def pushSupports (type : UInt8) : Bool :=
  type ∈ [0x01, 0x03, 0x04, 0x05, 0x06, 0x09, 0x0A, 0x0C, 0x0F, 0x10, 0x11, 0x12, 0x14, 0x15, 0x19]

/-- The types `log_dlms_data_type` gives a data offset. -/
def odmSupports (type : UInt8) : Bool :=
  type ∈ [0x01, 0x03, 0x05, 0x06, 0x09, 0x0A, 0x0F, 0x10, 0x11, 0x12, 0x14, 0x15, 0x16, 0x19]

theorem shape_cases (type : UInt8) (known : shape type ≠ none) :
    type ∈ [0x00, 0x01, 0x03, 0x04, 0x05, 0x06, 0x09, 0x0A, 0x0C, 0x0F, 0x10, 0x11, 0x12, 0x14,
      0x15, 0x16, 0x17, 0x18, 0x19] := by
  unfold shape at known
  split at known <;> simp_all

theorem encode_length (record : Record) :
    record.encode.length = 3 + record.counts.length + record.bytes.length := by
  simp [Record.encode]
  omega

section Step

variable (before tail : Bytes) (record : Record)

theorem encode_byteAt (index : Nat) (inside : index < 3) :
    byteAt (before ++ (record.encode ++ tail)) (before.length + index) =
      byteAt [record.index, 0x00, record.type] index := by
  rw [byteAt_append_right, Record.encode, List.append_assoc, List.append_assoc,
    byteAt_append_left _ _ _ (by simpa using inside)]

theorem encode_count (counted : shape record.type = some .counted)
    (short : record.bytes.length < 256) :
    (byteAt (before ++ (record.encode ++ tail)) (before.length + 3)).toNat =
      record.bytes.length := by
  have three : ([record.index, 0x00, record.type] : Bytes).length = 3 := rfl
  rw [byteAt_append_right, Record.encode, List.append_assoc, List.append_assoc,
    show 3 = ([record.index, 0x00, record.type] : Bytes).length + 0 from rfl, byteAt_append_right]
  simp [Record.counts, counted, byteAt]
  omega

theorem parseByType_encode (wellFormed : record.WellFormed)
    (more : tail ≠ [] \/ record.type ≠ 0x01) :
    (Dlms.parseByType (before ++ (record.encode ++ tail)) (before.length + 3) record.type).map
        Prod.snd =
      if pushSupports record.type then some (before.length + record.encode.length) else none := by
  have long := encode_length record
  rw [<- List.length_pos_iff] at more
  have size : (before ++ (record.encode ++ tail)).length =
      before.length + record.encode.length + tail.length := by
    simp [Nat.add_assoc]
  have known : shape record.type ≠ none := by
    intro unknown
    simp [Record.WellFormed, unknown] at wellFormed
  have count : shape record.type = some .counted ->
      (byteAt (before ++ (record.encode ++ tail)) (before.length + 3)).toNat =
        record.bytes.length := by
    intro counted
    exact encode_count before tail record counted (by
      simpa [Record.WellFormed, counted] using wellFormed)
  unfold Dlms.parseByType Dlms.numeric Dlms.octets
  rw [size]
  -- one case for each type with a layout
  have types := shape_cases record.type known
  simp only [List.mem_cons, List.not_mem_nil, or_false] at types
  rcases types with type | type | type | type | type | type | type | type | type | type | type |
    type | type | type | type | type | type | type | type
  all_goals
    simp only [Record.WellFormed, Record.counts, type, shape] at wellFormed long count more
    simp [type, pushSupports]
  all_goals
    simp at long count more
    omega

theorem rawBytes_encode :
    rawBytes (before ++ (record.encode ++ tail)) before.length
      (before.length + record.encode.length) = record.bytes := by
  have long := encode_length record
  have type : byteAt (before ++ (record.encode ++ tail)) (before.length + 2) = record.type :=
    encode_byteAt before tail record 2 (by decide)
  unfold rawBytes
  rw [type]
  have behind (front : Bytes) (split : record.encode = front ++ record.bytes) :
      slice (before ++ (record.encode ++ tail)) (before.length + front.length)
        record.bytes.length = record.bytes := by
    rw [slice_append_right, split, List.append_assoc, show front.length = front.length + 0 from rfl,
      slice_append_right, slice_append_whole]
  by_cases counted : shape record.type = some .counted
  next =>
    rw [if_pos counted]
    have counts : record.counts = [UInt8.ofNat record.bytes.length] := by
      simp [Record.counts, counted]
    have width : before.length + record.encode.length - (before.length + 4) =
        record.bytes.length := by
      rw [counts] at long
      simp only [List.length_singleton] at long
      omega
    rw [width]
    exact behind [record.index, 0x00, record.type, UInt8.ofNat record.bytes.length]
      (by simp [Record.encode, counts])
  next =>
    rw [if_neg counted]
    have counts : record.counts = [] := by
      simp [Record.counts, counted]
    have width : before.length + record.encode.length - (before.length + 3) =
        record.bytes.length := by
      rw [counts] at long
      simp only [List.length_nil] at long
      omega
    rw [width]
    exact behind [record.index, 0x00, record.type] (by simp [Record.encode, counts])

/-- The push decoder takes a record exactly when it knows its type. -/
theorem parseRecord_encode (wellFormed : record.WellFormed)
    (more : tail ≠ [] \/ record.type ≠ 0x01) :
    (Dlms.parseRecord (before ++ (record.encode ++ tail)) before.length).map (fun parsed =>
        ({ index := parsed.1.1, type := parsed.1.2.type,
           bytes := rawBytes (before ++ (record.encode ++ tail)) before.length parsed.2 : Record },
          parsed.2)) =
      if pushSupports record.type then some (record, before.length + record.encode.length)
      else none := by
  have parsed := parseByType_encode before tail record wellFormed more
  have raw := rawBytes_encode before tail record
  have index : byteAt (before ++ (record.encode ++ tail)) before.length = record.index :=
    encode_byteAt before tail record 0 (by decide)
  have status : byteAt (before ++ (record.encode ++ tail)) (before.length + 1) = 0 :=
    encode_byteAt before tail record 1 (by decide)
  have type : byteAt (before ++ (record.encode ++ tail)) (before.length + 2) = record.type :=
    encode_byteAt before tail record 2 (by decide)
  have size : (before ++ (record.encode ++ tail)).length =
      before.length + record.encode.length + tail.length := by
    simp [Nat.add_assoc]
  have long := encode_length record
  have header : ¬ before.length + 3 > (before ++ (record.encode ++ tail)).length := by
    omega
  have zero : ¬ byteAt (before ++ (record.encode ++ tail)) (before.length + 1) ≠ 0 := by
    simp [status]
  rw [Dlms.parseRecord, if_neg header, if_neg zero, index, type]
  cases result : Dlms.parseByType (before ++ (record.encode ++ tail)) (before.length + 3)
      record.type with
  | none =>
    rw [result] at parsed
    split at parsed
    next => simp at parsed
    next unsupported => simp [unsupported]
  | some value =>
    obtain ⟨value, next⟩ := value
    rw [result] at parsed
    split at parsed
    next supported =>
      simp only [Option.map_some, Option.some.injEq] at parsed
      rw [<- type] at result
      have made := parseByType_decode _ _ _ _ result
      rw [type] at made
      have itsType : value.type = record.type := by
        rw [made, decode]
        (repeat' split) <;> rfl
      subst parsed
      simp [supported, raw, itsType]
    next => simp at parsed

end Step

theorem pushRecords_step (data : Bytes) (fuel offset : Nat) :
    pushRecords data (fuel + 1) offset =
      if offset < data.length - 1 then
        match (Dlms.parseRecord data offset).map (fun parsed =>
          ({ index := parsed.1.1, type := parsed.1.2.type,
             bytes := rawBytes data offset parsed.2 : Record }, parsed.2)) with
        | some (record, next) => record :: pushRecords data fuel next
        | none => []
      else [] := by
  rw [pushRecords]
  cases Dlms.parseRecord data offset <;> rfl

theorem encodeAll_cons (record : Record) (records : List Record) :
    encodeAll (record :: records) = record.encode ++ encodeAll records := rfl

/-- The push decoder stores the records in front of the first one of a type it does not know. -/
theorem pushRecords_encodeAll (checksum : UInt8) (before : Bytes) (records : List Record)
    (fuel : Nat) (enough : records.length < fuel)
    (wellFormed : ∀ record ∈ records, record.WellFormed) :
    pushRecords (before ++ (encodeAll records ++ [checksum])) fuel before.length =
      records.takeWhile fun record => pushSupports record.type := by
  induction records generalizing before fuel with
  | nil =>
    cases fuel with
    | zero => rfl
    | succ fuel => simp [pushRecords_step, encodeAll]
  | cons record records ih =>
    cases fuel with
    | zero => simp at enough
    | succ fuel =>
      have more : encodeAll records ++ [checksum] ≠ [] := by simp
      have step := parseRecord_encode before (encodeAll records ++ [checksum]) record
        (wellFormed record (List.mem_cons_self ..)) (.inl more)
      have inside : before.length <
          (before ++ (record.encode ++ (encodeAll records ++ [checksum]))).length - 1 := by
        have long := encode_length record
        simp only [List.length_append, List.length_singleton]
        omega
      rw [encodeAll_cons, List.append_assoc, pushRecords_step, if_pos inside, step]
      by_cases supported : pushSupports record.type = true
      next =>
        have rest := ih (before ++ record.encode) fuel (by simp at enough; omega)
          (fun other among => wellFormed other (List.mem_cons_of_mem record among))
        rw [List.append_assoc, List.length_append] at rest
        simp [supported, rest]
      next => simp [supported]

theorem takeWhile_length (p : Record -> Bool) (records : List Record) :
    (records.takeWhile p).length = records.length <-> ∀ record ∈ records, p record := by
  constructor
  next =>
    intro whole
    have same := (List.takeWhile_prefix p).eq_of_length whole
    exact List.takeWhile_eq_self_iff.mp same
  next =>
    intro all
    rw [List.takeWhile_eq_self_iff.mpr all]

section Walk

variable (before tail : Bytes) (record : Record)

theorem logDlmsDataType_encode (wellFormed : record.WellFormed) :
    OdmProfiles.logDlmsDataType (before ++ (record.encode ++ tail)) before.length record.type =
      if odmSupports record.type then (3 + record.counts.length, record.bytes.length)
      else (0, 0) := by
  have known : shape record.type ≠ none := by
    intro unknown
    simp [Record.WellFormed, unknown] at wellFormed
  have count : shape record.type = some .counted ->
      (byteAt (before ++ (record.encode ++ tail)) (before.length + 3)).toNat =
        record.bytes.length := by
    intro counted
    exact encode_count before tail record counted (by
      simpa [Record.WellFormed, counted] using wellFormed)
  have types := shape_cases record.type known
  simp only [List.mem_cons, List.not_mem_nil, or_false] at types
  rcases types with type | type | type | type | type | type | type | type | type | type | type |
    type | type | type | type | type | type | type | type
  all_goals
    simp only [Record.WellFormed, type, shape] at wellFormed count
    simp [Record.counts, shape, type, odmSupports, OdmProfiles.logDlmsDataType]
  all_goals
    simp at count
    omega

theorem valueWidth_encode (wellFormed : record.WellFormed) (supported : odmSupports record.type) :
    OdmProfiles.valueWidth record.type record.bytes.length = record.bytes.length := by
  simp only [odmSupports, List.mem_cons, List.not_mem_nil, or_false, decide_eq_true_eq]
    at supported
  rcases supported with type | type | type | type | type | type | type | type | type | type | type |
    type | type | type
  all_goals
    simp only [Record.WellFormed, type, shape] at wellFormed
    simp [type, OdmProfiles.valueWidth, wellFormed]

theorem slice_encode_bytes :
    slice (before ++ (record.encode ++ tail)) (before.length + (3 + record.counts.length))
      record.bytes.length = record.bytes := by
  have front : ([record.index, 0x00, record.type] ++ record.counts).length =
      3 + record.counts.length := by
    simp
    omega
  rw [slice_append_right, Record.encode, List.append_assoc, <- front, <- Nat.add_zero (List.length _),
    slice_append_right, slice_append_whole]

theorem odmField_encode (wellFormed : record.WellFormed) (known : pushSupports record.type) :
    odmField (before ++ (record.encode ++ tail)) before.length =
        some (record.index, record.bytes) <->
      odmSupports record.type = true \/ record.bytes = [] := by
  have index : byteAt (before ++ (record.encode ++ tail)) before.length = record.index :=
    encode_byteAt before tail record 0 (by decide)
  have type : byteAt (before ++ (record.encode ++ tail)) (before.length + 2) = record.type :=
    encode_byteAt before tail record 2 (by decide)
  have valued : record.type ≠ 0 := by
    intro none
    simp [none, pushSupports] at known
  simp only [odmField, type, index, logDlmsDataType_encode before tail record wellFormed,
    if_pos valued]
  by_cases supported : odmSupports record.type = true
  next =>
    simp only [OdmProfiles.extractDlmsValue, supported, if_true,
      valueWidth_encode record wellFormed supported, slice_encode_bytes, true_or]
  next =>
    -- a bit string or a UTF-8 string: no bytes are taken
    have width : OdmProfiles.valueWidth record.type 0 = 0 := by
      simp only [pushSupports, List.mem_cons, List.not_mem_nil, or_false, decide_eq_true_eq]
        at known
      rcases known with type | type | type | type | type | type | type | type | type | type |
        type | type | type | type | type
      all_goals
        simp [type, OdmProfiles.valueWidth, odmSupports] at supported ⊢
    simp [supported, OdmProfiles.extractDlmsValue, width, slice, eq_comm]

end Walk

section Offsets

theorem recordOffsets_cons (data : Bytes) (length records offset : Nat) (inside : offset < length) :
    OdmProfiles.recordOffsets data length (records + 1) offset =
      offset :: OdmProfiles.recordOffsets data length records
        ((offset + ((OdmProfiles.logDlmsDataType data offset (byteAt data (offset + 2))).1 +
          (OdmProfiles.logDlmsDataType data offset (byteAt data (offset + 2))).2) % 256) % 256) := by
  rw [OdmProfiles.recordOffsets, if_neg (by omega)]

theorem recordOffsets_head (data : Bytes) (length records offset first : Nat) (rest : List Nat)
    (same : OdmProfiles.recordOffsets data length records offset = first :: rest) :
    offset = first := by
  cases records with
  | zero => simp [OdmProfiles.recordOffsets] at same
  | succ records =>
    rw [OdmProfiles.recordOffsets] at same
    split at same
    next => simp at same
    next =>
      simp only [List.cons.injEq] at same
      exact same.1

theorem encode_pos (record : Record) : 3 ≤ record.encode.length := by
  rw [encode_length]
  omega

/-- The on-demand decoder stays in step over the types it knows, within the reach of a `uint8_t`. -/
theorem recordOffsets_encodeAll (tail before : Bytes) (records : List Record) (length : Nat)
    (wellFormed : ∀ record ∈ records, record.WellFormed) (near : before.length < 256)
    (long : before.length + (encodeAll records).length ≤ length) :
    OdmProfiles.recordOffsets (before ++ (encodeAll records ++ tail)) length records.length
        before.length = offsets before.length records <->
      (∀ record ∈ records.dropLast, odmSupports record.type = true) /\
        ∀ offset ∈ offsets before.length records, offset < 256 := by
  induction records generalizing before with
  | nil => simp [OdmProfiles.recordOffsets, offsets]
  | cons record rest ih =>
    have three := encode_pos record
    have whole := wellFormed record (List.mem_cons_self ..)
    rw [encodeAll_cons, List.length_append] at long
    rw [encodeAll_cons, List.append_assoc, List.length_cons,
      recordOffsets_cons _ _ _ _ (by omega)]
    have type : byteAt (before ++ (record.encode ++ (encodeAll rest ++ tail)))
        (before.length + 2) = record.type :=
      encode_byteAt before _ record 2 (by decide)
    rw [type, logDlmsDataType_encode before _ record whole]
    cases rest with
    | nil => simp [OdmProfiles.recordOffsets, offsets, near]
    | cons second rest =>
      have others := fun other among => wellFormed other (List.mem_cons_of_mem record among)
      have behind := ih (before ++ record.encode) others
      rw [List.append_assoc, List.length_append] at behind
      have size := encode_length record
      simp only [offsets, List.cons.injEq, true_and, List.dropLast_cons_cons, List.mem_cons,
        forall_eq_or_imp] at behind ⊢
      by_cases supported : odmSupports record.type = true
      next =>
        rw [if_pos supported]
        have step : (before.length +
            (3 + record.counts.length + record.bytes.length) % 256) % 256 =
              (before.length + record.encode.length) % 256 := by
          rw [size]
          omega
        rw [step]
        by_cases reach : before.length + record.encode.length < 256
        next =>
          rw [Nat.mod_eq_of_lt reach]
          have inStep := behind reach (by omega)
          simp only [List.length_cons] at inStep
          simp [inStep, supported, near]
        next =>
          constructor
          next =>
            intro same
            have wrapped := recordOffsets_head _ _ _ _ _ _ same
            omega
          next =>
            intro inStep
            exact absurd inStep.2.2.1 reach
      next =>
        rw [if_neg supported]
        constructor
        next =>
          intro same
          have stuck := recordOffsets_head _ _ _ _ _ _ same
          omega
        next =>
          intro inStep
          exact absurd inStep.1.1 supported

/-- The values the profile parser stores, by their index and bytes. -/
def odmFields (store : Store) (data : Bytes) (length : Nat) : List (UInt8 × Bytes) :=
  (OdmProfiles.parseRecords store data length {}).values.map fun stored =>
    (stored.index, stored.content.bytes)

theorem odmFields_offsets (store : Store) (data : Bytes) (length : Nat) :
    odmFields store data length =
      (OdmProfiles.recordOffsets data length (byteAt data 8).toNat 9).filterMap (odmField data) := by
  have run (walked : List Nat) (profiles : OdmProfiles) :
      (walked.foldl (OdmProfiles.storeRecord data store) profiles).values.map
          (fun stored => (stored.index, stored.content.bytes)) =
        profiles.values.map (fun stored => (stored.index, stored.content.bytes)) ++
          walked.filterMap (odmField data) := by
    induction walked generalizing profiles with
    | nil => simp
    | cons offset walked ih =>
      rw [List.foldl_cons, ih]
      by_cases none : byteAt data (offset + 2) = 0
      next => simp [OdmProfiles.storeRecord, odmField, none]
      next => simp [OdmProfiles.storeRecord, OdmProfiles.pushBack, odmField, none]
  simpa [odmFields, OdmProfiles.parseRecords] using run _ {}

theorem odmFields_encodeAll (tail before : Bytes) (records : List Record)
    (wellFormed : ∀ record ∈ records, record.WellFormed)
    (known : ∀ record ∈ records, pushSupports record.type = true)
    (supported : ∀ record ∈ records.dropLast, odmSupports record.type = true) :
    (offsets before.length records).filterMap (odmField (before ++ (encodeAll records ++ tail))) =
        fields records <->
      ∀ record ∈ records.getLast?, odmSupports record.type = true \/ record.bytes = [] := by
  induction records generalizing before with
  | nil => simp [offsets, fields]
  | cons record rest ih =>
    have field := odmField_encode before (encodeAll rest ++ tail) record
      (wellFormed record (List.mem_cons_self ..)) (known record (List.mem_cons_self ..))
    have behind := ih (before ++ record.encode)
      (fun other among => wellFormed other (List.mem_cons_of_mem record among))
      (fun other among => known other (List.mem_cons_of_mem record among))
    rw [List.append_assoc, List.length_append] at behind
    rw [encodeAll_cons, List.append_assoc, offsets]
    cases rest with
    | nil =>
      rw [List.filterMap_cons]
      cases stored : odmField (before ++ (record.encode ++ (encodeAll [] ++ tail)))
          before.length with
      | none => simpa [stored, fields, offsets] using field
      | some value => simpa [stored, fields, offsets] using field
    | cons second rest =>
      have inStep := field.mpr (.inl (supported record (by simp)))
      rw [List.filterMap_cons_some inStep]
      have others := behind (fun other among => supported other (by
        rw [List.dropLast_cons_cons]
        exact List.mem_cons_of_mem record among))
      simpa [fields] using others

end Offsets

/-- The records of a packet whose DLMS data starts behind the mesh header. -/
def pushFields (frame : Bytes) : List (UInt8 × Bytes) :=
  fields (pushRecords frame frame.length (Dlms.pmeshHeaderSize + Dlms.dlmsHeaderSize))

/-- Both decoders accept the payload or none does, and they take the same values from it. -/
structure Agree (store : Store) (pmesh payload : Bytes) (records : List Record) : Prop where
  succeed : Dlms.parses (pmesh ++ payload) (byteAt payload 8) = true <->
    OdmProfiles.recordOffsets payload (payload.length - 1) (byteAt payload 8).toNat 9 =
      offsets 9 records
  extract : Dlms.parses (pmesh ++ payload) (byteAt payload 8) = true ->
    pushFields (pmesh ++ payload) = odmFields store payload (payload.length - 1)

/-- The on-demand decoder does not lose its place. -/
def Walkable (records : List Record) : Prop :=
  (∀ record ∈ records.dropLast, odmSupports record.type = true) /\
    ∀ offset ∈ offsets 9 records, offset < 256

/-- Types of both decoders; only a bit string or a UTF-8 string without bytes may end the list. -/
def Common (records : List Record) : Prop :=
  (∀ record ∈ records, pushSupports record.type = true) /\ Walkable records /\
    ∀ record ∈ records.getLast?, odmSupports record.type = true \/ record.bytes = []

section Payload

variable (store : Store) (pmesh head : Bytes) (records : List Record) (checksum : UInt8)

theorem payload_count (eight : head.length = 8) (few : records.length < 256) :
    (byteAt (payload head records checksum) 8).toNat = records.length := by
  rw [payload, List.append_assoc, List.append_assoc, show 8 = head.length + 0 by omega,
    byteAt_append_right]
  simp [byteAt]
  omega

theorem payload_behind :
    payload head records checksum =
      (head ++ [UInt8.ofNat records.length]) ++ (encodeAll records ++ [checksum]) := by
  simp [payload]

theorem encodeAll_length : 3 * records.length ≤ (encodeAll records).length := by
  induction records with
  | nil => simp [encodeAll]
  | cons record records ih =>
    have three := encode_pos record
    rw [encodeAll_cons, List.length_append, List.length_cons]
    omega

theorem pushRecords_payload (mesh : pmesh.length = 17) (eight : head.length = 8)
    (wellFormed : ∀ record ∈ records, record.WellFormed) :
    pushRecords (pmesh ++ payload head records checksum)
        (pmesh ++ payload head records checksum).length
        (Dlms.pmeshHeaderSize + Dlms.dlmsHeaderSize) =
      records.takeWhile fun record => pushSupports record.type := by
  have many := encodeAll_length records
  have start : (pmesh ++ (head ++ [UInt8.ofNat records.length])).length =
      Dlms.pmeshHeaderSize + Dlms.dlmsHeaderSize := by
    simp [mesh, eight, Dlms.pmeshHeaderSize, Dlms.dlmsHeaderSize]
  rw [payload_behind, <- List.append_assoc, <- start]
  refine pushRecords_encodeAll checksum _ records _ ?_ wellFormed
  simp only [List.length_append, List.length_singleton]
  omega

theorem parses_payload (mesh : pmesh.length = 17) (eight : head.length = 8)
    (few : records.length < 256) (wellFormed : ∀ record ∈ records, record.WellFormed) :
    Dlms.parses (pmesh ++ payload head records checksum)
        (byteAt (payload head records checksum) 8) = true <->
      ∀ record ∈ records, pushSupports record.type = true := by
  have long : Dlms.pmeshHeaderSize + Dlms.dlmsHeaderSize ≤
      (pmesh ++ payload head records checksum).length := by
    simp only [payload, List.length_append, List.length_singleton, mesh, eight,
      Dlms.pmeshHeaderSize, Dlms.dlmsHeaderSize]
    omega
  have stored := pushRecords_payload pmesh head records checksum mesh eight wellFormed
  rw [Dlms.parses, Dlms.storedRecords, if_neg (by omega), recordsFrom_raw, stored,
    payload_count head records checksum eight few, <- takeWhile_length, decide_eq_true long]
  simp

theorem recordOffsets_payload (eight : head.length = 8) (few : records.length < 256)
    (wellFormed : ∀ record ∈ records, record.WellFormed) :
    OdmProfiles.recordOffsets (payload head records checksum)
        ((payload head records checksum).length - 1)
        (byteAt (payload head records checksum) 8).toNat 9 = offsets 9 records <->
      Walkable records := by
  have nine : (head ++ [UInt8.ofNat records.length]).length = 9 := by
    simp [eight]
  rw [payload_count head records checksum eight few, payload_behind]
  have walked := recordOffsets_encodeAll [checksum] (head ++ [UInt8.ofNat records.length]) records
    (((head ++ [UInt8.ofNat records.length]) ++ (encodeAll records ++ [checksum])).length - 1)
    wellFormed (by omega) (by simp; omega)
  rw [nine] at walked
  exact walked

theorem odmFields_payload (eight : head.length = 8) (few : records.length < 256)
    (wellFormed : ∀ record ∈ records, record.WellFormed) (walkable : Walkable records)
    (known : ∀ record ∈ records, pushSupports record.type = true) :
    odmFields store (payload head records checksum)
        ((payload head records checksum).length - 1) = fields records <->
      ∀ record ∈ records.getLast?, odmSupports record.type = true \/ record.bytes = [] := by
  have nine : (head ++ [UInt8.ofNat records.length]).length = 9 := by
    simp [eight]
  rw [odmFields_offsets, (recordOffsets_payload head records checksum eight few wellFormed).mpr
    walkable, payload_behind]
  have taken := odmFields_encodeAll [checksum] (head ++ [UInt8.ofNat records.length]) records
    wellFormed known walkable.1
  rw [nine] at taken
  exact taken

theorem decoders_agree_iff (mesh : pmesh.length = 17) (eight : head.length = 8)
    (few : records.length < 256) (wellFormed : ∀ record ∈ records, record.WellFormed) :
    Agree store pmesh (payload head records checksum) records <->
      Common records \/
        ((∃ record ∈ records, pushSupports record.type = false) /\ ¬ Walkable records) := by
  have push := parses_payload pmesh head records checksum mesh eight few wellFormed
  have walk := recordOffsets_payload head records checksum eight few wellFormed
  have taken := odmFields_payload store head records checksum eight few wellFormed
  have all : (∀ record ∈ records, pushSupports record.type = true) ->
      pushFields (pmesh ++ payload head records checksum) = fields records := by
    intro known
    rw [pushFields, pushRecords_payload pmesh head records checksum mesh eight wellFormed,
      List.takeWhile_eq_self_iff.mpr known]
  have none : (¬ ∀ record ∈ records, pushSupports record.type = true) <->
      ∃ record ∈ records, pushSupports record.type = false := by
    simp
  constructor
  next =>
    intro agree
    by_cases known : ∀ record ∈ records, pushSupports record.type = true
    next =>
      have walkable := walk.mp (agree.succeed.mp (push.mpr known))
      have same := agree.extract (push.mpr known)
      rw [all known] at same
      exact .inl ⟨known, walkable, (taken walkable known).mp same.symm⟩
    next =>
      apply Or.inr
      refine ⟨none.mp known, ?_⟩
      intro walkable
      exact known (push.mp (agree.succeed.mpr (walk.mpr walkable)))
  next =>
    intro cases
    rcases cases with common | fail
    next =>
      obtain ⟨known, walkable, last⟩ := common
      constructor
      next => exact iff_of_true (push.mpr known) (walk.mpr walkable)
      next =>
        intro accepted
        rw [all known, (taken walkable known).mpr last]
    next =>
      obtain ⟨unknown, lost⟩ := fail
      have failed := none.mpr unknown
      constructor
      next => exact iff_of_false (mt push.mp failed) (mt walk.mp lost)
      next =>
        intro accepted
        exact absurd (push.mp accepted) failed

end Payload

/-- A number and, last, a UTF-8 string without bytes. -/
def commonRecords : List Record :=
  [{ index := 1, type := 0x11, bytes := [5] }, { index := 2, type := 0x0C, bytes := [] }]

theorem decoders_agree_common :
    Agree .ip (List.replicate 17 0)
      (payload [0x2B, 0x00, 0x11, 0x00, 0x0E, 0x01, 0x00, 0x00] commonRecords 0x81)
      commonRecords := by
  apply (decoders_agree_iff .ip (List.replicate 17 0) _ commonRecords 0x81 (by decide) (by decide)
    (by decide) (by simp [commonRecords, Record.WellFormed, shape])).mpr
  refine .inl ⟨by decide, ⟨by decide, by decide⟩, ?_⟩
  simp [commonRecords]

/-- An enumeration between two numbers of one byte. -/
def enumRecords : List Record :=
  [{ index := 1, type := 0x11, bytes := [5] }, { index := 2, type := 0x16, bytes := [7] },
   { index := 3, type := 0x11, bytes := [9] }]

def enumHead : Bytes := [0x2B, 0x00, 0x15, 0x00, 0x0E, 0x00, 0x00, 0x00]

theorem enum_only_on_demand :
    (∀ record ∈ enumRecords, record.WellFormed) /\
    (payload enumHead enumRecords 0xA4).dropLast.sum = 0xA4 /\
    Dlms.parses (List.replicate 17 0 ++ payload enumHead enumRecords 0xA4) 3 = false /\
    odmFields .namePlate (payload enumHead enumRecords 0xA4) 21 = fields enumRecords /\
    ¬ Agree .namePlate (List.replicate 17 0) (payload enumHead enumRecords 0xA4) enumRecords := by
  have rejected : Dlms.parses (List.replicate 17 0 ++ payload enumHead enumRecords 0xA4) 3 =
      false := by
    decide +kernel
  refine ⟨by simp [enumRecords, Record.WellFormed, shape], by decide +kernel, rejected,
    by decide +kernel, ?_⟩
  intro agree
  have accepted := agree.succeed.mpr (by decide +kernel)
  rw [show byteAt (payload enumHead enumRecords 0xA4) 8 = 3 by decide +kernel, rejected]
    at accepted
  exact absurd accepted (by decide)

end Hes.Decoders
