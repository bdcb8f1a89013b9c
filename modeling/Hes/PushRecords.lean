import Hes.Decoders

set_option autoImplicit false

namespace Hes.PushRecords

open Dlms Decoders

/-- Where the record loop stands when it ends: behind the last record it stored. -/
def offsetAfter (data : Bytes) : Nat -> Nat -> Nat
  | 0, offset => offset
  | fuel + 1, offset =>
    if offset < data.length - 1 then
      match parseRecord data offset with
      | some (_, next) => offsetAfter data fuel next
      | none => offset
    else offset

def consumed (data : Bytes) : Nat :=
  offsetAfter data data.length (pmeshHeaderSize + dlmsHeaderSize)

/-- The record between two offsets. -/
def recordAt (data : Bytes) (offset next : Nat) (parsed : UInt8 × DlmsValue) : Record :=
  { index := parsed.1, type := parsed.2.type, bytes := rawBytes data offset next }

def Complete (record : Record) : Prop :=
  record.WellFormed /\ pushSupports record.type = true

/-- The complete records from an offset on, and where a record loop has to leave them. -/
structure Reads (data : Bytes) (start : Nat) (records : List Record) (stop : Nat) : Prop where
  complete : ∀ record ∈ records, Complete record
  after : stop = start + (encodeAll records).length
  bytes : slice data start (encodeAll records).length = encodeAll records
  within : stop ≤ data.length
  -- an array has no value bytes, and is read only where a byte follows it
  followed : stop = data.length -> ∀ record ∈ records.getLast?, record.type ≠ 0x01
  ended : data.length - 1 ≤ stop \/ parseRecord data stop = none

theorem slice_three (data : Bytes) (start : Nat) :
    slice data start 3 = [byteAt data start, byteAt data (start + 1), byteAt data (start + 2)] :=
  rfl

theorem parseRecord_cases (data : Bytes) (offset next : Nat) (record : UInt8 × DlmsValue)
    (parsed : parseRecord data offset = some (record, next)) :
    offset + 3 < data.length /\ byteAt data (offset + 1) = 0 /\ record.1 = byteAt data offset /\
      parseByType data (offset + 3) (byteAt data (offset + 2)) = some (record.2, next) := by
  unfold parseRecord at parsed
  split at parsed
  next => simp at parsed
  next =>
    split at parsed
    next => simp at parsed
    next =>
      obtain ⟨⟨value, after⟩, typed, same⟩ := Option.map_eq_some_iff.mp parsed
      simp only [Prod.mk.injEq] at same
      obtain ⟨rfl, rfl⟩ := same
      have inside : offset + 3 < data.length := by
        by_contra beyond
        simp [parseByType, show offset + 3 ≥ data.length by omega] at typed
      exact ⟨inside, by simpa using ‹¬ byteAt data (offset + 1) ≠ 0›, rfl, typed⟩

/-- A value of a width of its own, read from the bytes behind the record header. -/
theorem fixed_complete (data : Bytes) (offset width : Nat) (index type : UInt8)
    (here : byteAt data (offset + 2) = type) (fixed : shape type = some (.fixed width))
    (known : pushSupports type = true) :
    let record : Record :=
      { index := index, type := type, bytes := rawBytes data offset (offset + 3 + width) }
    Complete record /\ offset + 3 + width = offset + record.encode.length /\
      slice data (offset + 3) (record.counts ++ record.bytes).length =
        record.counts ++ record.bytes := by
  have raw : rawBytes data offset (offset + 3 + width) = slice data (offset + 3) width := by
    simp [rawBytes, here, fixed]
  simp only [raw]
  refine ⟨⟨by simp [Record.WellFormed, fixed], known⟩, ?_, by simp [Record.counts, fixed]⟩
  simp [Record.counts, Record.encode, fixed]
  omega

/-- A string: the length byte in front of it counts its bytes. -/
theorem counted_complete (data : Bytes) (offset : Nat) (index type : UInt8)
    (here : byteAt data (offset + 2) = type) (counted : shape type = some .counted)
    (known : pushSupports type = true) :
    let next := offset + 3 + 1 + (byteAt data (offset + 3)).toNat
    let record : Record := { index := index, type := type, bytes := rawBytes data offset next }
    Complete record /\ next = offset + record.encode.length /\
      slice data (offset + 3) (record.counts ++ record.bytes).length =
        record.counts ++ record.bytes := by
  intro next record
  have raw : record.bytes = slice data (offset + 4) (byteAt data (offset + 3)).toNat := by
    simp [record, rawBytes, here, counted, next]
  have few := (byteAt data (offset + 3)).toNat_lt
  have length : record.bytes.length = (byteAt data (offset + 3)).toNat := by
    simp [raw]
  have counts : record.counts = [byteAt data (offset + 3)] := by
    simp [Record.counts, record, counted, rawBytes, here, next]
  refine ⟨⟨?_, known⟩, ?_, ?_⟩
  next => simpa [Record.WellFormed, record, counted, rawBytes, here, next] using few
  next => simp only [encode_length, counts, length, next, List.length_singleton]; omega
  next =>
    rw [counts, List.length_append, List.length_singleton, length, slice_append, <- raw]
    rfl

/-- What the push decoder takes for a value is a complete value of its type. -/
theorem parseByType_complete (data : Bytes) (offset next : Nat) (index type : UInt8)
    (value : DlmsValue) (here : byteAt data (offset + 2) = type)
    (parsed : parseByType data (offset + 3) type = some (value, next)) :
    let record : Record := { index := index, type := type, bytes := rawBytes data offset next }
    next ≤ data.length /\ (next = data.length -> type ≠ 0x01) /\
      Complete record /\ next = offset + record.encode.length /\
      slice data (offset + 3) (record.counts ++ record.bytes).length =
        record.counts ++ record.bytes := by
  have number (width : Nat) (fixed : shape type = some (.fixed width)) (other : type ≠ 0x01)
      (known : pushSupports type = true)
      (parsed : numeric data (offset + 3) type width = some (value, next)) :
      let record : Record := { index := index, type := type, bytes := rawBytes data offset next }
      next ≤ data.length /\ (next = data.length -> type ≠ 0x01) /\
        Complete record /\ next = offset + record.encode.length /\
        slice data (offset + 3) (record.counts ++ record.bytes).length =
          record.counts ++ record.bytes := by
    unfold numeric at parsed
    split at parsed
    next => simp at parsed
    next =>
      simp only [Option.some.injEq, Prod.mk.injEq] at parsed
      obtain ⟨rfl, rfl⟩ := parsed
      exact ⟨by omega, fun _ => other, fixed_complete data offset width index type here fixed known⟩
  have string (counted : shape type = some .counted) (other : type ≠ 0x01)
      (known : pushSupports type = true)
      (parsed : octets data (offset + 3) type = some (value, next)) :
      let record : Record := { index := index, type := type, bytes := rawBytes data offset next }
      next ≤ data.length /\ (next = data.length -> type ≠ 0x01) /\
        Complete record /\ next = offset + record.encode.length /\
        slice data (offset + 3) (record.counts ++ record.bytes).length =
          record.counts ++ record.bytes := by
    unfold octets at parsed
    dsimp only at parsed
    split at parsed
    next => simp at parsed
    next =>
      simp only [Option.some.injEq, Prod.mk.injEq] at parsed
      obtain ⟨rfl, rfl⟩ := parsed
      exact ⟨by omega, fun _ => other, counted_complete data offset index type here counted known⟩
  unfold parseByType at parsed
  split at parsed
  next => simp at parsed
  next inside =>
    split at parsed
    case h_1 =>
      simp only [Option.some.injEq, Prod.mk.injEq] at parsed
      obtain ⟨rfl, rfl⟩ := parsed
      exact ⟨by omega, fun last => absurd last (by omega),
        fixed_complete data offset 0 index _ here (by decide) (by decide)⟩
    case h_2 =>
      simp only [Option.some.injEq, Prod.mk.injEq] at parsed
      obtain ⟨rfl, rfl⟩ := parsed
      exact ⟨by omega, fun _ => by decide,
        fixed_complete data offset 1 index _ here (by decide) (by decide)⟩
    all_goals first
      | exact number _ (by decide) (by decide) (by decide) parsed
      | exact string (by decide) (by decide) (by decide) parsed
      | simp at parsed

theorem parseRecord_complete (data : Bytes) (offset next : Nat) (parsed : UInt8 × DlmsValue)
    (read : parseRecord data offset = some (parsed, next)) :
    let record := recordAt data offset next parsed
    next ≤ data.length /\ (next = data.length -> record.type ≠ 0x01) /\ Complete record /\
      next = offset + record.encode.length /\
      slice data offset record.encode.length = record.encode := by
  obtain ⟨inside, delimiter, index, typed⟩ := parseRecord_cases data offset next parsed read
  have type : parsed.2.type = byteAt data (offset + 2) := by
    rw [parseByType_decode data offset next parsed.2 typed, decode]
    (repeat' split) <;> rfl
  have found := parseByType_complete data offset next parsed.1 _ parsed.2 rfl typed
  have same : recordAt data offset next parsed =
      { index := parsed.1, type := byteAt data (offset + 2), bytes := rawBytes data offset next } := by
    simp [recordAt, type]
  rw [same]
  obtain ⟨within, followed, complete, after, bytes⟩ := found
  refine ⟨within, followed, complete, after, ?_⟩
  rw [encode_length, Nat.add_assoc, <- List.length_append, slice_append, bytes, slice_three,
    delimiter, <- index, Record.encode, List.append_assoc]

theorem pushRecords_reads (data : Bytes) (fuel offset : Nat) (inside : offset ≤ data.length)
    (enough : data.length ≤ fuel + offset) :
    Reads data offset (pushRecords data fuel offset) (offsetAfter data fuel offset) := by
  -- the record loop reads complete records up to the first place it cannot go on from
  have nothing (ended : data.length - 1 ≤ offset \/ parseRecord data offset = none) :
      Reads data offset [] offset :=
    { complete := by simp, after := by simp [encodeAll], bytes := rfl, within := inside
      followed := by simp, ended := ended }
  induction fuel generalizing offset with
  | zero => exact nothing (.inl (by omega))
  | succ fuel ih =>
    rw [pushRecords, offsetAfter]
    split
    next =>
      cases read : parseRecord data offset with
      | none => exact nothing (.inr read)
      | some result =>
        obtain ⟨parsed, next⟩ := result
        obtain ⟨within, followed, complete, after, bytes⟩ :=
          parseRecord_complete data offset next parsed read
        have later := parseRecord_advances data offset next parsed read
        have rest := ih next within (by omega) (fun ended =>
          { complete := by simp, after := by simp [encodeAll], bytes := rfl, within := within
            followed := by simp, ended := ended })
        change Reads data offset (recordAt data offset next parsed :: pushRecords data fuel next)
          (offsetAfter data fuel next)
        constructor
        next =>
          intro record among
          rcases List.mem_cons.mp among with first | behind
          next => exact first ▸ complete
          next => exact rest.complete record behind
        next =>
          have stop := rest.after
          rw [encodeAll_cons, List.length_append]
          omega
        next =>
          rw [encodeAll_cons, List.length_append, slice_append, bytes, <- after, rest.bytes]
        next => exact rest.within
        next =>
          intro last
          have others := rest.followed last
          cases remaining : pushRecords data fuel next with
          | nil =>
            have stop := rest.after
            rw [remaining] at stop
            simp only [encodeAll, List.flatMap_nil, List.length_nil, Nat.add_zero] at stop
            simpa [remaining] using followed (stop ▸ last)
          | cons second others' =>
            rw [remaining] at others
            simpa only [List.getLast?_cons_cons] using others
        next => exact rest.ended
    next => exact nothing (.inl (by omega))

theorem slice_eq_take (data : Bytes) (start length : Nat) (inside : start + length ≤ data.length) :
    slice data start length = (data.drop start).take length := by
  apply List.ext_getElem
  next => simp; omega
  next =>
    intro index _ within
    have here : start + index < data.length := by
      simp at within
      omega
    simp [slice, byteAt, here]

theorem split_at (data bytes : Bytes) (offset : Nat) (inside : offset + bytes.length ≤ data.length)
    (found : slice data offset bytes.length = bytes) :
    data = data.take offset ++ (bytes ++ data.drop (offset + bytes.length)) := by
  rw [slice_eq_take data offset bytes.length inside] at found
  conv => lhs; rw [<- List.take_append_drop offset data]
  rw [List.append_cancel_left_eq]
  conv => lhs; rw [<- List.take_append_drop bytes.length (data.drop offset), found]
  rw [List.drop_drop]

/-- A complete record is read where its bytes stand, the array in front of a byte only. -/
theorem parseRecord_found (data : Bytes) (offset : Nat) (record : Record)
    (inside : offset + record.encode.length ≤ data.length)
    (found : slice data offset record.encode.length = record.encode) (complete : Complete record)
    (followed : offset + record.encode.length = data.length -> record.type ≠ 0x01) :
    exists parsed, parseRecord data offset = some (parsed, offset + record.encode.length) /\
      recordAt data offset (offset + record.encode.length) parsed = record := by
  have whole := split_at data record.encode offset inside found
  have start : (data.take offset).length = offset := by
    simp
    omega
  have more : data.drop (offset + record.encode.length) ≠ [] \/ record.type ≠ 0x01 := by
    by_cases last : offset + record.encode.length = data.length
    next => exact .inr (followed last)
    next =>
      apply Or.inl
      simp
      omega
  have read := parseRecord_encode (data.take offset) _ record complete.1 more
  rw [<- whole, start, if_pos complete.2] at read
  obtain ⟨⟨parsed, next⟩, taken, same⟩ := Option.map_eq_some_iff.mp read
  simp only [Prod.mk.injEq] at same
  obtain ⟨same, rfl⟩ := same
  exact ⟨parsed, taken, same⟩

theorem getLast_behind {record last : Record} {rest : List Record}
    (among : last ∈ rest.getLast?) : last ∈ (record :: rest).getLast? := by
  cases rest with
  | nil => simp at among
  | cons second rest => rwa [List.getLast?_cons_cons]

theorem reads_unique (data : Bytes) (records : List Record) (fuel offset stop : Nat)
    (enough : data.length ≤ fuel + offset) (reads : Reads data offset records stop) :
    pushRecords data fuel offset = records /\ offsetAfter data fuel offset = stop := by
  have within := reads.within
  have after := reads.after
  induction records generalizing fuel offset with
  | nil =>
    simp only [encodeAll, List.flatMap_nil, List.length_nil, Nat.add_zero] at after
    cases fuel with
    | zero => exact ⟨rfl, after.symm⟩
    | succ fuel =>
      rw [pushRecords, offsetAfter]
      split
      next inside =>
        have halted := reads.ended.resolve_left (by omega)
        rw [after] at halted
        simp [halted, after]
      next => exact ⟨rfl, after.symm⟩
  | cons record rest ih =>
    have three := encode_pos record
    have bytes := reads.bytes
    rw [encodeAll_cons, List.length_append] at after
    rw [encodeAll_cons, List.length_append, slice_append] at bytes
    obtain ⟨first, others⟩ := List.append_inj bytes (by simp)
    have last : offset + record.encode.length = data.length -> record.type ≠ 0x01 := by
      intro last
      have none : rest = [] := by
        have many := encodeAll_length rest
        exact List.length_eq_zero_iff.mp (by omega)
      exact reads.followed (by omega) record (by simp [none])
    obtain ⟨parsed, read, same⟩ := parseRecord_found data offset record (by omega) first
      (reads.complete record (List.mem_cons_self ..)) last
    have behind : Reads data (offset + record.encode.length) rest stop :=
      { complete := fun other among => reads.complete other (List.mem_cons_of_mem record among)
        after := by omega
        bytes := others
        within := within
        followed := fun final other among =>
          reads.followed final other (getLast_behind among)
        ended := reads.ended }
    cases fuel with
    | zero => omega
    | succ fuel =>
      have remaining := ih fuel (offset + record.encode.length) (by omega) behind (by omega)
      rw [pushRecords, offsetAfter]
      split
      next =>
        rw [read]
        exact ⟨congrArg₂ List.cons same remaining.1, remaining.2⟩
      next outside => omega

def recordsStart : Nat := pmeshHeaderSize + dlmsHeaderSize

/-- The record whose bytes stand at an offset. -/
structure StandsAt (data : Bytes) (offset : Nat) (record : Record) : Prop where
  complete : Complete record
  inside : offset + record.encode.length ≤ data.length
  bytes : slice data offset record.encode.length = record.encode
  -- an array has no value bytes, and is read only where a byte follows it
  followed : offset + record.encode.length = data.length -> record.type ≠ 0x01

theorem parseRecord_none_iff (data : Bytes) (offset : Nat) :
    parseRecord data offset = none <-> forall record, ¬ StandsAt data offset record := by
  constructor
  next =>
    intro none record stands
    obtain ⟨parsed, read, -⟩ := parseRecord_found data offset record stands.inside stands.bytes
      stands.complete stands.followed
    simp [none] at read
  next =>
    intro nothing
    cases read : parseRecord data offset with
    | none => rfl
    | some result =>
      obtain ⟨parsed, next⟩ := result
      obtain ⟨within, followed, complete, after, bytes⟩ :=
        parseRecord_complete data offset next parsed read
      rw [after] at within followed
      exact absurd { complete := complete, inside := within, bytes := bytes, followed := followed }
        (nothing _)

/-- The announced number of complete records fills the bytes in front of the checksum byte. -/
def Exact (data : Bytes) (numberOfRecords : UInt8) : Prop :=
  exists records : List Record, records.length = numberOfRecords.toNat /\
    (∀ record ∈ records, Complete record) /\
    slice data recordsStart (data.length - 1 - recordsStart) = encodeAll records

/-- The checksum byte is a byte of the last announced record, behind its type. -/
def Swallowed (data : Bytes) (numberOfRecords : UInt8) : Prop :=
  exists records : List Record, records.length = numberOfRecords.toNat /\
    (∀ record ∈ records, Complete record) /\
    slice data recordsStart (data.length - recordsStart) = encodeAll records /\
    ∀ record ∈ records.getLast?, record.type ≠ 0x01

/-- Two bytes or more that are no record follow the announced number of records. -/
def Trailing (data : Bytes) (numberOfRecords : UInt8) : Prop :=
  exists records : List Record, records.length = numberOfRecords.toNat /\
    (∀ record ∈ records, Complete record) /\
    slice data recordsStart (encodeAll records).length = encodeAll records /\
    recordsStart + (encodeAll records).length + 1 < data.length /\
    forall record, ¬ StandsAt data (recordsStart + (encodeAll records).length) record

section Accepted

variable (data : Bytes) (numberOfRecords : UInt8)

def standing : List Record := pushRecords data data.length recordsStart

theorem storedRecords_standing (headers : recordsStart ≤ data.length) :
    storedRecords data =
      (standing data).map fun record => (record.index, decode record.type record.bytes) := by
  rw [storedRecords, if_neg (by simpa [recordsStart] using headers)]
  exact recordsFrom_raw data data.length recordsStart

theorem parses_iff (headers : recordsStart ≤ data.length) :
    parses data numberOfRecords = true <->
      (standing data).length = numberOfRecords.toNat := by
  have long : decide (pmeshHeaderSize + dlmsHeaderSize ≤ data.length) = true :=
    decide_eq_true headers
  simp [parses, long, storedRecords_standing data headers]

theorem standing_reads (headers : recordsStart ≤ data.length) :
    Reads data recordsStart (standing data) (consumed data) :=
  pushRecords_reads data data.length recordsStart headers (by omega)

theorem reads_standing {records : List Record} {stop : Nat}
    (reads : Reads data recordsStart records stop) :
    standing data = records /\ consumed data = stop :=
  reads_unique data records data.length recordsStart stop (by omega) reads

theorem exact_iff (whole : recordsStart + 1 ≤ data.length) :
    Exact data numberOfRecords <->
      (standing data).length = numberOfRecords.toNat /\ consumed data + 1 = data.length := by
  constructor
  next =>
    rintro ⟨records, count, complete, bytes⟩
    have size := congrArg List.length bytes
    rw [slice_length] at size
    have reads : Reads data recordsStart records (data.length - 1) :=
      { complete := complete
        after := by omega
        bytes := size ▸ bytes
        within := by omega
        followed := fun last => absurd last (by omega)
        ended := .inl (by omega) }
    obtain ⟨rfl, stop⟩ := reads_standing data reads
    exact ⟨count, by omega⟩
  next =>
    rintro ⟨count, stop⟩
    have reads := standing_reads data (by omega)
    have after := reads.after
    refine ⟨standing data, count, reads.complete, ?_⟩
    rw [show data.length - 1 - recordsStart = (encodeAll (standing data)).length by omega]
    exact reads.bytes

theorem swallowed_iff (whole : recordsStart + 1 ≤ data.length) :
    Swallowed data numberOfRecords <->
      (standing data).length = numberOfRecords.toNat /\ consumed data = data.length := by
  constructor
  next =>
    rintro ⟨records, count, complete, bytes, followed⟩
    have size := congrArg List.length bytes
    rw [slice_length] at size
    have reads : Reads data recordsStart records data.length :=
      { complete := complete
        after := by omega
        bytes := size ▸ bytes
        within := by omega
        followed := fun _ => followed
        ended := .inl (by omega) }
    obtain ⟨rfl, stop⟩ := reads_standing data reads
    exact ⟨count, stop⟩
  next =>
    rintro ⟨count, stop⟩
    have reads := standing_reads data (by omega)
    have after := reads.after
    refine ⟨standing data, count, reads.complete, ?_, reads.followed stop⟩
    rw [show data.length - recordsStart = (encodeAll (standing data)).length by omega]
    exact reads.bytes

theorem trailing_iff (whole : recordsStart + 1 ≤ data.length) :
    Trailing data numberOfRecords <->
      (standing data).length = numberOfRecords.toNat /\ consumed data + 1 < data.length := by
  constructor
  next =>
    rintro ⟨records, count, complete, bytes, more, nothing⟩
    have reads : Reads data recordsStart records (recordsStart + (encodeAll records).length) :=
      { complete := complete
        after := rfl
        bytes := bytes
        within := by omega
        followed := fun last => absurd last (by omega)
        ended := .inr ((parseRecord_none_iff _ _).mpr nothing) }
    obtain ⟨rfl, stop⟩ := reads_standing data reads
    exact ⟨count, by omega⟩
  next =>
    rintro ⟨count, stop⟩
    have reads := standing_reads data (by omega)
    have after := reads.after
    refine ⟨standing data, count, reads.complete, reads.bytes, by omega, ?_⟩
    rw [<- after]
    exact (parseRecord_none_iff _ _).mp (reads.ended.resolve_left (by omega))

theorem accepted_exact_iff (records : PacketBuffer DlmsRecordMap) (blocks : PacketBuffer BlockLoad)
    (whole : 27 ≤ data.length) :
    (((parseDLMSRecords data numberOfRecords records).1 = true \/
        (parseBlockLoadDLMSRecords data numberOfRecords blocks).1 = true) ->
      Exact data numberOfRecords) <->
      ¬ Swallowed data numberOfRecords /\ ¬ Trailing data numberOfRecords := by
  have long : recordsStart + 1 ≤ data.length := whole
  have accepted := parses_iff data numberOfRecords (by omega)
  have within := (standing_reads data (by omega)).within
  rw [exact_iff data numberOfRecords long, swallowed_iff data numberOfRecords long,
    trailing_iff data numberOfRecords long]
  simp only [parseDLMSRecords, parseBlockLoadDLMSRecords, parseRecordsInto, or_self, accepted]
  omega

end Accepted

def pmeshHeader : Bytes := [0x2E, 0x1E, 0x00, 0, 0, 0, 0, 0, 0, 0, 0, 1, 2, 3, 4, 0, 0]

def wholePage : Bytes :=
  pmeshHeader ++ [0x2C, 0x00, 0x0D, 0x00, 0x0E, 0x01, 0x00, 0x00, 0x01] ++
    [0x01, 0x00, 0x11, 0x05] ++ [0x60]

theorem whole_page_exact : 27 ≤ wholePage.length /\ Exact wholePage 1 := by
  have long : recordsStart + 1 ≤ wholePage.length := by decide
  refine ⟨long, (accepted_exact_iff wholePage 1 { profileData := fun _ => none }
    { profileData := {} } long).mpr ⟨?_, ?_⟩ (.inl (by decide +kernel))⟩
  next =>
    rw [swallowed_iff wholePage 1 long]
    decide +kernel
  next =>
    rw [trailing_iff wholePage 1 long]
    decide +kernel

/-- A page of one record, a UINT16 that has lost its low byte. -/
def cutPage : Bytes :=
  pmeshHeader ++ [0x2C, 0x00, 0x0D, 0x00, 0x0E, 0x01, 0x00, 0x00, 0x01] ++
    [0x01, 0x00, 0x12, 0x05] ++ [0x61]

theorem checksum_taken_for_value :
    parseDLMSRecords cutPage 1 { profileData := fun _ => none } =
      (true, { profileData := fun id =>
        if id = 1 then some { type := 0x12, uint64Value := 0x0561 } else none }) /\
    calculateChecksum cutPage 17 13 = 0x61 /\ ¬ Exact cutPage 1 := by
  have kept : storedRecords cutPage = [(1, { type := 0x12, uint64Value := 0x0561 })] := by
    decide +kernel
  refine ⟨?_, by decide +kernel, ?_⟩
  next =>
    have accepted : parses cutPage 1 = true := by decide +kernel
    simp only [parseDLMSRecords, parseRecordsInto, accepted, kept, List.foldl_cons, List.foldl_nil]
    congr 2
    funext id
    by_cases same : id = 1 <;> simp [storeRecord, same]
  next =>
    rw [exact_iff cutPage 1 (by decide)]
    decide +kernel

section Merge

def lastWith (id : UInt8) (records : List (UInt8 × DlmsValue)) : Option (UInt8 × DlmsValue) :=
  records.reverse.find? fun record => record.1 = id

theorem foldl_storeRecord_apply (records : List (UInt8 × DlmsValue)) (map : DlmsRecordMap)
    (id : UInt8) :
    records.foldl storeRecord map id = ((lastWith id records).map Prod.snd).or (map id) := by
  induction records using List.reverseRecOn with
  | nil => rfl
  | append_singleton records record ih =>
    by_cases same : record.1 = id
    next => simp [storeRecord, lastWith, same]
    next => simp [storeRecord, lastWith, same, Ne.symm same, ih]

theorem foldl_storeRecord_fixed (records : List (UInt8 × DlmsValue)) (map : DlmsRecordMap) :
    records.foldl storeRecord map = map <->
      forall id record, lastWith id records = some record -> map id = some record.2 := by
  constructor
  next =>
    intro unchanged id record last
    have stored := foldl_storeRecord_apply records map id
    rw [unchanged, last] at stored
    exact stored
  next =>
    intro held
    funext id
    rw [foldl_storeRecord_apply]
    cases last : lastWith id records with
    | none => rfl
    | some record => exact (held id record last).symm

theorem foldl_storeBlockRecord_blocks (records : List (UInt8 × DlmsValue)) (blocks : BlockLoad) :
    (records.foldl storeBlockRecord blocks).profilesData.length =
      blocks.profilesData.length + (records.filter fun record => record.1 = 0x06).length := by
  induction records generalizing blocks with
  | nil => rfl
  | cons record records ih =>
    rw [List.foldl_cons, ih]
    by_cases last : record.1 = 0x06
    next => simp [storeBlockRecord, last]; omega
    next => simp [storeBlockRecord, last]

theorem foldl_storeBlockRecord_partway (records : List (UInt8 × DlmsValue)) (blocks : BlockLoad)
    (partway : ∀ record ∈ records, record.1 ≠ 0x06) :
    records.foldl storeBlockRecord blocks =
      { blocks with partialProfile := records.foldl storeRecord blocks.partialProfile } := by
  induction records generalizing blocks with
  | nil => rfl
  | cons record records ih =>
    have first := partway record (List.mem_cons_self ..)
    rw [List.foldl_cons, ih _ fun other among => partway other (List.mem_cons_of_mem record among)]
    simp [storeBlockRecord, first]

theorem foldl_storeBlockRecord_fixed (records : List (UInt8 × DlmsValue)) (blocks : BlockLoad) :
    records.foldl storeBlockRecord blocks = blocks <->
      (∀ record ∈ records, record.1 ≠ 0x06) /\
        forall id record, lastWith id records = some record ->
          blocks.partialProfile id = some record.2 := by
  constructor
  next =>
    intro unchanged
    have completed := foldl_storeBlockRecord_blocks records blocks
    rw [unchanged] at completed
    have partway : ∀ record ∈ records, record.1 ≠ 0x06 := by
      intro record among last
      have none : records.filter (fun record => record.1 = 0x06) = [] :=
        List.length_eq_zero_iff.mp (by omega)
      have here : record ∈ records.filter fun record => record.1 = 0x06 :=
        List.mem_filter.mpr ⟨among, by simp [last]⟩
      simp [none] at here
    rw [foldl_storeBlockRecord_partway records blocks partway] at unchanged
    exact ⟨partway, (foldl_storeRecord_fixed _ _).mp (congrArg BlockLoad.partialProfile unchanged)⟩
  next =>
    rintro ⟨partway, held⟩
    rw [foldl_storeBlockRecord_partway records blocks partway,
      (foldl_storeRecord_fixed _ _).mpr held]

end Merge

/-- What a record leaves in the map. -/
def stored (record : Record) : UInt8 × DlmsValue :=
  (record.index, decode record.type record.bytes)

/-- The announced number of complete records stands behind the headers. -/
def Announced (data : Bytes) (numberOfRecords : UInt8) : Prop :=
  exists records stop, Reads data recordsStart records stop /\
    records.length = numberOfRecords.toNat

/-- The map already holds the last value of every record in front of the fault. -/
def Held (data : Bytes) (map : DlmsRecordMap) : Prop :=
  forall records stop, Reads data recordsStart records stop ->
    forall id record, lastWith id (records.map stored) = some record -> map id = some record.2

/-- No record in front of the fault ends a block. -/
def Partway (data : Bytes) : Prop :=
  forall records stop, Reads data recordsStart records stop ->
    ∀ record ∈ records, record.index ≠ 0x06

section Rejected

variable (data : Bytes) (numberOfRecords : UInt8)

theorem short_reads (short : data.length < recordsStart) (records : List Record) (stop : Nat) :
    ¬ Reads data recordsStart records stop := by
  intro reads
  have within := reads.within
  have after := reads.after
  omega

theorem announced_iff : parses data numberOfRecords = true <-> Announced data numberOfRecords := by
  by_cases headers : recordsStart ≤ data.length
  next =>
    rw [parses_iff data numberOfRecords headers]
    constructor
    next => exact fun count => ⟨_, _, standing_reads data headers, count⟩
    next =>
      rintro ⟨records, stop, reads, count⟩
      rwa [(reads_standing data reads).1]
  next =>
    have short := short_reads data (by omega)
    have small : ¬ pmeshHeaderSize + dlmsHeaderSize ≤ data.length := headers
    constructor
    next => simp [parses, small]
    next =>
      rintro ⟨records, stop, reads, -⟩
      exact absurd reads (short records stop)

theorem held_iff (map : DlmsRecordMap) :
    (storedRecords data).foldl storeRecord map = map <-> Held data map := by
  rw [foldl_storeRecord_fixed]
  by_cases headers : recordsStart ≤ data.length
  next =>
    rw [storedRecords_standing data headers]
    constructor
    next =>
      intro held records stop reads
      rwa [<- (reads_standing data reads).1]
    next => exact fun held => held _ _ (standing_reads data headers)
  next =>
    have small : storedRecords data = [] := by
      rw [storedRecords, if_pos (by simpa [recordsStart] using headers)]
    constructor
    next => exact fun _ records stop reads => absurd reads (short_reads data (by omega) _ _)
    next => simp [small, lastWith]

theorem partway_iff : (∀ record ∈ storedRecords data, record.1 ≠ 0x06) <-> Partway data := by
  by_cases headers : recordsStart ≤ data.length
  next =>
    rw [storedRecords_standing data headers]
    simp only [List.mem_map, forall_exists_index, and_imp, forall_apply_eq_imp_iff₂]
    constructor
    next =>
      intro partway records stop reads
      rwa [<- (reads_standing data reads).1]
    next => exact fun partway => partway _ _ (standing_reads data headers)
  next =>
    have small : storedRecords data = [] := by
      rw [storedRecords, if_pos (by simpa [recordsStart] using headers)]
    constructor
    next => exact fun _ records stop reads => absurd reads (short_reads data (by omega) _ _)
    next => simp [small]

theorem rejected_unchanged_iff (records : PacketBuffer DlmsRecordMap)
    (blocks : PacketBuffer BlockLoad) :
    (((parseDLMSRecords data numberOfRecords records).1 = false ->
        (parseDLMSRecords data numberOfRecords records).2 = records) <->
      Announced data numberOfRecords \/ Held data records.profileData) /\
    (((parseBlockLoadDLMSRecords data numberOfRecords blocks).1 = false ->
        (parseBlockLoadDLMSRecords data numberOfRecords blocks).2 = blocks) <->
      Announced data numberOfRecords \/
        (Partway data /\ Held data blocks.profileData.partialProfile)) := by
  have same {T : Type} (buffer : PacketBuffer T) (content : T) :
      { buffer with profileData := content } = buffer <-> content = buffer.profileData := by
    constructor
    next => exact fun equal => congrArg PacketBuffer.profileData equal
    next => rintro rfl; rfl
  rw [<- announced_iff, <- held_iff, <- held_iff, <- partway_iff]
  simp only [parseDLMSRecords, parseBlockLoadDLMSRecords, parseRecordsInto, same,
    foldl_storeBlockRecord_fixed, foldl_storeRecord_fixed]
  cases parses data numberOfRecords <;> simp

end Rejected

/-- A page that announces two records and has one. -/
def shortPage : Bytes :=
  pmeshHeader ++ [0x2C, 0x00, 0x0D, 0x00, 0x0E, 0x01, 0x00, 0x00, 0x02] ++
    [0x01, 0x00, 0x11, 0x05] ++ [0x61]

theorem rejected_page_merged :
    (parseDLMSRecords shortPage 2 { profileData := fun _ => none }).1 = false /\
    (parseDLMSRecords shortPage 2 { profileData := fun _ => none }).2 ≠
      { profileData := fun _ => none } := by
  refine ⟨by decide +kernel, ?_⟩
  intro same
  have kept : (parseDLMSRecords shortPage 2 { profileData := fun _ => none }).2.profileData 1 =
      some { type := 0x11, uint64Value := 5 } := by
    decide +kernel
  simp [same] at kept

end Hes.PushRecords
