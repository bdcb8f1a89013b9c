import Hes.Checksum
import Hes.Recovery

set_option autoImplicit false

namespace Hes.NextPages

open Prog Client Mqtt OdmFrames

section Bytes

variable (bytes : Bytes)

theorem byteAt_set (place index : Nat) (byte : UInt8) (inside : place < bytes.length) :
    byteAt (bytes.set place byte) index = if index = place then byte else byteAt bytes index := by
  simp only [byteAt, List.getD_eq_getElem?_getD, List.getElem?_set, inside, if_true]
  by_cases same : place = index
  next => simp [same]
  next => simp [same, Ne.symm same]

theorem calculateChecksum_one (place : Nat) : calculateChecksum bytes place 1 = byteAt bytes place := by
  have small := (byteAt bytes place).toNat_lt
  apply UInt8.toNat_inj.mp
  simp [calculateChecksum, slice]

theorem calculateChecksum_set (start length place : Nat) (byte : UInt8) (above : start ≤ place)
    (below : place < start + length) (inside : place < bytes.length) :
    calculateChecksum (bytes.set place byte) start length + byteAt bytes place =
      calculateChecksum bytes start length + byte := by
  -- only the middle one of the three parts has the place
  have parts (bytes : Bytes) : calculateChecksum bytes start length =
      calculateChecksum bytes start (place - start) + byteAt bytes place +
        calculateChecksum bytes (place + 1) (start + length - (place + 1)) := by
    have first := Checksum.calculateChecksum_append bytes start (place - start) (start + length - place)
    have second := Checksum.calculateChecksum_append bytes place 1 (start + length - (place + 1))
    rw [show place - start + (start + length - place) = length from by omega,
      show start + (place - start) = place from by omega,
      show start + length - place = 1 + (start + length - (place + 1)) from by omega, second,
      calculateChecksum_one, ← UInt8.add_assoc] at first
    exact first
  have front : calculateChecksum (bytes.set place byte) start (place - start) =
      calculateChecksum bytes start (place - start) := by
    apply Checksum.calculateChecksum_congr
    intro index small
    rw [byteAt_set _ _ _ _ inside, if_neg (by omega)]
  have back : calculateChecksum (bytes.set place byte) (place + 1) (start + length - (place + 1)) =
      calculateChecksum bytes (place + 1) (start + length - (place + 1)) := by
    apply Checksum.calculateChecksum_congr
    intro index small
    rw [byteAt_set _ _ _ _ inside, if_neg (by omega)]
  rw [parts (bytes.set place byte), parts bytes, front, back, byteAt_set _ _ _ _ inside, if_pos rfl]
  ac_rfl

end Bytes

section Frames

/-- Where the DLMS part of a packet begins, behind the header and the path. -/
def dlmsStart (packet : Bytes) : Nat := headerEnd (byteAt packet 12)

/-- The packet ends with a DLMS part of page index 0 and of a right checksum. -/
structure DlmsPart (packet : Bytes) : Prop where
  long : dlmsStart packet + 8 ≤ packet.length
  page : byteAt packet (dlmsStart packet + 2) = 0
  sum : byteAt packet (packet.length - 1) =
    calculateChecksum packet (dlmsStart packet) (packet.length - 1 - dlmsStart packet)

/-- The `page`-th frame of a packet: its header and path, sized, numbered and summed. -/
structure WellFormed (packet : Bytes) (page : Nat) (frame : Bytes) : Prop where
  long : dlmsStart packet + 2 < frame.length
  header : ∀ index < dlmsStart packet, index ≠ 1 -> byteAt frame index = byteAt packet index
  size : (byteAt frame 1).toNat = frame.length - 1
  page : byteAt frame (dlmsStart packet + 2) = UInt8.ofNat page
  sum : byteAt frame (frame.length - 1) =
    calculateChecksum frame (dlmsStart packet) (frame.length - 1 - dlmsStart packet)

/-- The bytes that the first next page cuts off, for the profiles asked for by a range. -/
def rangeRemoved (downloadDataType : UInt8) : Option Nat :=
  if downloadDataType = 2 then some 13
  else if downloadDataType = 3 || downloadDataType = 4 then some 18
  else none

/-- So many pages are asked for as they should be. -/
def Paged (packet : Bytes) (downloadDataType : UInt8) (pages : Nat) : Prop :=
  pages = 0 \/
    match rangeRemoved downloadDataType with
    | some removed =>
      packet.length = dlmsStart packet + removed /\ dlmsStart packet ≤ 248 /\ pages ≤ 256
    | none => (byteAt packet 1).toNat = packet.length - 1

/-- Whether the packet still has the length it was built with after so many pages. -/
def Whole (downloadDataType : UInt8) (pages : Nat) : Prop :=
  pages = 0 \/ rangeRemoved downloadDataType = none

instance (downloadDataType : UInt8) (pages : Nat) : Decidable (Whole downloadDataType pages) :=
  inferInstanceAs (Decidable (_ \/ _))

/-- What packet and page index are after so many next pages that were asked for well. -/
structure Reached (packet : Bytes) (downloadDataType : UInt8) (pages : Nat)
    (state : Bytes × UInt8) : Prop where
  part : DlmsPart packet
  index : state.2 = UInt8.ofNat (pages + 1)
  length : state.1.length =
    if Whole downloadDataType pages then packet.length else dlmsStart packet + 8
  header : ∀ index < dlmsStart packet, index ≠ 1 -> byteAt state.1 index = byteAt packet index
  size : byteAt state.1 1 =
    if Whole downloadDataType pages then byteAt packet 1 else UInt8.ofNat (dlmsStart packet + 7)
  page : byteAt state.1 (dlmsStart packet + 2) = UInt8.ofNat pages
  sum : byteAt state.1 (state.1.length - 1) =
    calculateChecksum state.1 (dlmsStart packet) (state.1.length - 1 - dlmsStart packet)
  paged : Paged packet downloadDataType pages

variable {packet : Bytes} {downloadDataType : UInt8}

theorem dlmsStart_long (packet : Bytes) : 17 ≤ dlmsStart packet := by
  unfold dlmsStart headerEnd
  omega

theorem not_whole {pages removed : Nat} (later : pages ≠ 0)
    (range : rangeRemoved downloadDataType = some removed) : ¬ Whole downloadDataType pages := by
  rintro (first | plain)
  next => exact later first
  next => simp [range] at plain

theorem reached_first (part : DlmsPart packet) : Reached packet downloadDataType 0 (packet, 1) where
  part := part
  index := rfl
  length := by simp [Whole]
  header := fun _ _ _ => rfl
  size := by simp [Whole]
  page := part.page
  sum := part.sum
  paged := .inl rfl

theorem reached_hops {pages : Nat} {state : Bytes × UInt8}
    (reached : Reached packet downloadDataType pages state) : byteAt state.1 12 = byteAt packet 12 := by
  have long := dlmsStart_long packet
  exact reached.header 12 (by omega) (by omega)

theorem reached_long {pages : Nat} {state : Bytes × UInt8}
    (reached : Reached packet downloadDataType pages state) : dlmsStart packet + 8 ≤ state.1.length := by
  have long := reached.part.long
  rw [reached.length]
  split <;> omega

theorem paged_of_le {pages more : Nat} (paged : Paged packet downloadDataType more)
    (few : pages ≤ more) : Paged packet downloadDataType pages := by
  rcases paged with rfl | paged
  next => exact .inl (by omega)
  next =>
    apply Or.inr
    split at paged
    next =>
      obtain ⟨length, fits, most⟩ := paged
      exact ⟨length, fits, by omega⟩
    next => exact paged

theorem reached_size {pages : Nat} {state : Bytes × UInt8} (later : pages ≠ 0)
    (reached : Reached packet downloadDataType pages state) :
    (byteAt state.1 1).toNat = state.1.length - 1 := by
  have paged := reached.paged.resolve_left later
  rw [reached.size, reached.length]
  split at paged
  next removed range =>
    obtain ⟨length, fits, most⟩ := paged
    rw [if_neg (not_whole later range), if_neg (not_whole later range), UInt8.toNat_ofNat']
    omega
  next plain => rwa [if_pos (.inr plain), if_pos (.inr plain)]

theorem reached_wellFormed {pages : Nat} {state : Bytes × UInt8} (later : pages ≠ 0)
    (reached : Reached packet downloadDataType pages state) : WellFormed packet pages state.1 where
  long := by
    have long := reached_long reached
    omega
  header := reached.header
  size := reached_size later reached
  page := reached.page
  sum := reached.sum

end Frames

section Steps

variable {packet : Bytes} {downloadDataType : UInt8}

theorem page_place (packet : Bytes) (fits : dlmsStart packet ≤ 248) :
    (if (byteAt packet 12).toNat = 0 then 19 else (19 + ((byteAt packet 12).toNat - 1) * 4) % 256) =
      dlmsStart packet + 2 := by
  unfold dlmsStart headerEnd at fits ⊢
  split <;> omega

theorem countPage_eq (buf : Bytes) (page : UInt8) (fits : dlmsStart buf ≤ 248) :
    countPage buf page =
      (buf.set (dlmsStart buf + 2) page).set (buf.length - 1) (byteAt buf (buf.length - 1) + 1) := by
  unfold countPage
  simp only [page_place buf fits]

theorem countPage_length (buf : Bytes) (page : UInt8) : (countPage buf page).length = buf.length := by
  simp [countPage]

theorem countPage_byte (buf : Bytes) (page : UInt8) (index : Nat) (fits : dlmsStart buf ≤ 248)
    (long : dlmsStart buf + 8 ≤ buf.length) : byteAt (countPage buf page) index =
      if index = buf.length - 1 then byteAt buf (buf.length - 1) + 1
      else if index = dlmsStart buf + 2 then page else byteAt buf index := by
  rw [countPage_eq buf page fits, byteAt_set _ _ _ _ (by rw [List.length_set]; omega),
    byteAt_set _ _ _ _ (by omega)]

theorem countPage_size (buf : Bytes) (page : UInt8) (long : dlmsStart buf + 8 ≤ buf.length) :
    byteAt (countPage buf page) 1 = byteAt buf 1 := by
  have start := dlmsStart_long buf
  unfold countPage
  dsimp only
  rw [byteAt_set _ _ _ _ (by rw [List.length_set]; omega), if_neg (by omega), byteAt_set _ _ _ _, if_neg]
  next => split <;> omega
  next =>
    unfold dlmsStart headerEnd at long
    split <;> omega

theorem countPage_sum (buf : Bytes) (page : UInt8) (fits : dlmsStart buf ≤ 248)
    (long : dlmsStart buf + 8 ≤ buf.length) (next : page = byteAt buf (dlmsStart buf + 2) + 1) :
    calculateChecksum (countPage buf page) (dlmsStart buf) (buf.length - 1 - dlmsStart buf) =
      calculateChecksum buf (dlmsStart buf) (buf.length - 1 - dlmsStart buf) + 1 := by
  have front : calculateChecksum (countPage buf page) (dlmsStart buf) (buf.length - 1 - dlmsStart buf) =
      calculateChecksum (buf.set (dlmsStart buf + 2) page) (dlmsStart buf)
        (buf.length - 1 - dlmsStart buf) := by
    apply Checksum.calculateChecksum_congr
    intro index small
    rw [countPage_eq buf page fits, byteAt_set _ _ _ _ (by rw [List.length_set]; omega),
      if_neg (by omega)]
  have replaced := calculateChecksum_set buf (dlmsStart buf) (buf.length - 1 - dlmsStart buf)
    (dlmsStart buf + 2) page (by omega) (by omega) (by omega)
  rw [front]
  apply add_right_cancel (b := byteAt buf (dlmsStart buf + 2))
  rw [replaced, next]
  ac_rfl

theorem ofNat_succ (number : Nat) : UInt8.ofNat (number + 1) = UInt8.ofNat number + 1 := by
  apply UInt8.toNat_inj.mp
  simp

theorem reached_start {pages : Nat} {state : Bytes × UInt8}
    (reached : Reached packet downloadDataType pages state) : dlmsStart state.1 = dlmsStart packet :=
  congrArg headerEnd (reached_hops reached)

theorem countPage_reached {pages : Nat} {state : Bytes × UInt8}
    (reached : Reached packet downloadDataType pages state) (fits : dlmsStart packet ≤ 248)
    (same : Whole downloadDataType (pages + 1) <-> Whole downloadDataType pages)
    (paged : Paged packet downloadDataType (pages + 1)) :
    Reached packet downloadDataType (pages + 1) (countPage state.1 state.2, state.2 + 1) := by
  have start := dlmsStart_long packet
  have place := reached_start reached
  have long := reached_long reached
  have byte (index : Nat) := countPage_byte state.1 state.2 index (by omega) (by omega)
  have sum := countPage_sum state.1 state.2 (by omega) (by omega)
  rw [place] at byte sum
  constructor
  case part => exact reached.part
  case index => rw [reached.index, ofNat_succ (pages + 1)]
  case length => rw [countPage_length, reached.length, if_congr same rfl rfl]
  case header =>
    intro index inside other
    rw [byte, if_neg (by omega), if_neg (by omega)]
    exact reached.header index inside other
  case size =>
    rw [byte, if_neg (by omega), if_neg (by omega), reached.size, if_congr same rfl rfl]
  case page =>
    rw [byte, if_neg (by omega), if_pos rfl]
    exact reached.index
  case sum =>
    -- the page index goes up by one, and so does the checksum without being computed
    rw [countPage_length, byte, if_pos rfl, sum, reached.sum]
    rw [reached.index, reached.page, ofNat_succ]
  case paged => exact paged

/-- The command that asks for the next page of a profile, of page 1. -/
def shortCommand (downloadDataType : UInt8) : Bytes :=
  [0x2B, 0x07, 0x01, 0x0E, downloadDataType, 0x00, 0x00, 0x41 + downloadDataType]

theorem rangeRemoved_some {removed : Nat} (range : rangeRemoved downloadDataType = some removed) :
    (downloadDataType = 2 /\ removed = 13) \/
      ((downloadDataType = 3 \/ downloadDataType = 4) /\ removed = 18) := by
  unfold rangeRemoved at range
  split at range
  next billing => exact .inl ⟨billing, (Option.some.inj range).symm⟩
  next =>
    split at range
    next load => exact .inr ⟨by simpa using load, (Option.some.inj range).symm⟩
    next => simp at range

theorem nextPageCommand_range {removed : Nat} (range : rangeRemoved downloadDataType = some removed)
    (buf : Bytes) (page : UInt8) : nextPageCommand buf downloadDataType page =
      if page = 1 then shortenCommand buf removed (shortCommand downloadDataType)
      else countPage buf page := by
  rcases rangeRemoved_some range with ⟨rfl, rfl⟩ | ⟨rfl | rfl, rfl⟩ <;> rfl

theorem nextPageCommand_counts (plain : rangeRemoved downloadDataType = none) (buf : Bytes)
    (page : UInt8) : nextPageCommand buf downloadDataType page = countPage buf page := by
  have two : downloadDataType ≠ 2 := by
    rintro rfl
    simp [rangeRemoved] at plain
  have three : downloadDataType ≠ 3 := by
    rintro rfl
    simp [rangeRemoved] at plain
  have four : downloadDataType ≠ 4 := by
    rintro rfl
    simp [rangeRemoved] at plain
  unfold nextPageCommand
  split <;> simp_all

theorem ranged_type {removed : Nat} (range : rangeRemoved downloadDataType = some removed) :
    downloadDataType ∈ ([2, 3, 4] : List UInt8) := by
  rcases rangeRemoved_some range with ⟨rfl, -⟩ | ⟨rfl | rfl, -⟩ <;> simp

theorem shortCommand_sum {removed : Nat} (range : rangeRemoved downloadDataType = some removed) :
    calculateChecksum (shortCommand downloadDataType) 0 7 = byteAt (shortCommand downloadDataType) 7 := by
  have every : ∀ type ∈ ([2, 3, 4] : List UInt8),
      calculateChecksum (shortCommand type) 0 7 = byteAt (shortCommand type) 7 := by decide +kernel
  exact every downloadDataType (ranged_type range)

theorem shortCommand_one {removed index : Nat} (range : rangeRemoved downloadDataType = some removed)
    (one : byteAt (shortCommand downloadDataType) index = 1) : index = 2 := by
  have inside : index < 8 := by
    by_contra beyond
    rw [byteAt_beyond _ _ (by simpa [shortCommand] using beyond)] at one
    exact absurd one (by decide)
  have every : ∀ type ∈ ([2, 3, 4] : List UInt8), ∀ index ∈ List.range 8,
      byteAt (shortCommand type) index = 1 -> index = 2 := by
    decide +kernel
  exact every downloadDataType (ranged_type range) index (List.mem_range.mpr inside) one

theorem shortenCommand_length (buf : Bytes) (removed : Nat) :
    (shortenCommand buf removed (shortCommand downloadDataType)).length = buf.length - removed + 8 := by
  simp [shortenCommand, shortCommand]

theorem shortenCommand_size (buf short : Bytes) (removed : Nat) (inside : removed + 2 ≤ buf.length) :
    byteAt (shortenCommand buf removed short) 1 = UInt8.ofNat (buf.length - removed + 7) := by
  unfold shortenCommand
  rw [byteAt_set _ _ _ _ (by rw [List.length_append, List.length_take]; omega), if_pos rfl]
  rfl

theorem shortenCommand_byte (buf short : Bytes) (removed index : Nat) (inside : removed + 2 ≤ buf.length)
    (other : index ≠ 1) : byteAt (shortenCommand buf removed short) index =
      if index < buf.length - removed then byteAt buf index
      else byteAt short (index - (buf.length - removed)) := by
  have front : (buf.take (buf.length - removed)).length = buf.length - removed := by
    rw [List.length_take]
    omega
  unfold shortenCommand
  rw [byteAt_set _ _ _ _ (by rw [List.length_append, front]; omega), if_neg other]
  split
  next kept =>
    rw [byteAt_append_left _ _ _ (by omega), byteAt, byteAt, List.getD_eq_getElem?_getD,
      List.getElem?_take_of_lt kept, List.getD_eq_getElem?_getD]
  next behind =>
    have place := byteAt_append_right (buf.take (buf.length - removed)) short
      (index - (buf.length - removed))
    rw [front, show buf.length - removed + (index - (buf.length - removed)) = index from by omega] at place
    exact place

theorem shortenCommand_page {removed start size : Nat} {buf : Bytes}
    (range : rangeRemoved downloadDataType = some removed) (behind : 17 ≤ start)
    (length : buf.length = start + size) (long : 8 ≤ size)
    (blank : removed < size -> byteAt buf (start + 2) = 0)
    (page : byteAt (shortenCommand buf removed (shortCommand downloadDataType)) (start + 2) = 1) :
    size = removed := by
  -- the page index is where it belongs only if the range is what is cut off
  have few : removed ≤ 18 := by
    rcases rangeRemoved_some range with ⟨-, rfl⟩ | ⟨-, rfl⟩ <;> omega
  rw [shortenCommand_byte buf _ removed _ (by omega) (by omega)] at page
  split at page
  next inside =>
    rw [blank (by omega)] at page
    exact absurd page (by decide)
  next =>
    have two := shortCommand_one range page
    omega

theorem shortenCommand_reached {removed : Nat} {state : Bytes × UInt8}
    (range : rangeRemoved downloadDataType = some removed)
    (reached : Reached packet downloadDataType 0 state) (paged : Paged packet downloadDataType 1) :
    Reached packet downloadDataType 1
      (shortenCommand state.1 removed (shortCommand downloadDataType), state.2 + 1) := by
  have start := dlmsStart_long packet
  have short : ¬ Whole downloadDataType 1 := not_whole (by omega) range
  have length : state.1.length = dlmsStart packet + removed := by
    have paged := paged.resolve_left (by omega)
    rw [range] at paged
    rw [reached.length, if_pos (.inl rfl), paged.1]
  have rest : state.1.length - removed = dlmsStart packet := by omega
  have whole : (shortenCommand state.1 removed (shortCommand downloadDataType)).length =
      state.1.length - removed + 8 := shortenCommand_length state.1 removed
  have byte (index : Nat) (other : index ≠ 1) :=
    shortenCommand_byte state.1 (shortCommand downloadDataType) removed index (by omega) other
  rw [rest] at whole byte
  constructor
  case part => exact reached.part
  case index => rw [reached.index, ofNat_succ 1]
  case length => rw [whole, if_neg short]
  case header =>
    intro index inside other
    rw [byte index other, if_pos inside]
    exact reached.header index inside other
  case size => rw [shortenCommand_size _ _ _ (by omega), rest, if_neg short]
  case page =>
    rw [byte _ (by omega), if_neg (by omega), show dlmsStart packet + 2 - dlmsStart packet = 2 from by omega]
    rfl
  case sum =>
    rw [whole, byte _ (by omega), if_neg (by omega),
      show dlmsStart packet + 8 - 1 - dlmsStart packet = 7 from by omega, ← shortCommand_sum range]
    apply Checksum.calculateChecksum_congr
    intro index small
    rw [byte _ (by omega), if_neg (by omega), show dlmsStart packet + index - dlmsStart packet = 0 + index from
      by omega]
  case paged => exact paged

/-- Behind the first page of a range, the page index is 1 again at the 257th. -/
theorem page_one_iff {pages : Nat} (later : pages ≠ 0) (few : pages ≤ 256) :
    UInt8.ofNat (pages + 1) = 1 <-> pages = 256 := by
  rw [← UInt8.toNat_inj, UInt8.toNat_ofNat']
  change (pages + 1) % 2 ^ 8 = 1 <-> _
  omega

theorem nextPageCommand_reached {pages : Nat} {state : Bytes × UInt8}
    (reached : Reached packet downloadDataType pages state)
    (paged : Paged packet downloadDataType (pages + 1)) :
    Reached packet downloadDataType (pages + 1)
      (nextPageCommand state.1 downloadDataType state.2, state.2 + 1) := by
  have known := paged.resolve_left (by omega)
  have long := reached.part.long
  split at known
  next removed range =>
    obtain ⟨length, fits, most⟩ := known
    rw [nextPageCommand_range range]
    by_cases first : pages = 0
    next =>
      -- the range, and nothing else, is cut off
      subst first
      have index : state.2 = 1 := reached.index
      rw [if_pos index]
      exact shortenCommand_reached range reached paged
    next =>
      have index : state.2 ≠ 1 := by
        rw [reached.index, Ne, page_one_iff first (by omega)]
        omega
      rw [if_neg index]
      apply countPage_reached reached fits _ paged
      exact iff_of_false (not_whole (by omega) range) (not_whole first range)
  next plain =>
    have byte := (byteAt packet 1).toNat_lt
    rw [nextPageCommand_counts plain]
    apply countPage_reached reached (by omega) _ paged
    exact iff_of_true (.inr plain) (.inr plain)

theorem nextPageCommand_paged {pages : Nat} {state : Bytes × UInt8}
    (reached : Reached packet downloadDataType pages state)
    (well : WellFormed packet (pages + 1) (nextPageCommand state.1 downloadDataType state.2)) :
    Paged packet downloadDataType (pages + 1) := by
  have start := dlmsStart_long packet
  have long := reached_long reached
  have part := reached.part.long
  have size := well.size
  have page := well.page
  have byte := (byteAt (nextPageCommand state.1 downloadDataType state.2) 1).toNat_lt
  apply Or.inr
  split
  next removed range =>
    have known := nextPageCommand_range range state.1 state.2
    by_cases first : pages = 0
    next =>
      subst first
      have length : state.1.length = packet.length := by rw [reached.length, if_pos (.inl rfl)]
      have index : state.2 = 1 := reached.index
      rw [known, if_pos index] at page size byte
      have rest : state.1.length = dlmsStart packet + (packet.length - dlmsStart packet) := by omega
      have same := shortenCommand_page range start rest (by omega) (fun _ => reached.page) page
      rw [shortenCommand_length] at size
      omega
    next =>
      have paged := reached.paged.resolve_left first
      rw [range] at paged
      obtain ⟨length, fits, most⟩ := paged
      refine ⟨length, fits, ?_⟩
      by_contra many
      have last : pages = 256 := by omega
      have short : state.1.length = dlmsStart packet + 8 := by
        rw [reached.length, if_neg (not_whole first range)]
      have one : UInt8.ofNat (pages + 1) = 1 := (page_one_iff first most).mpr last
      rw [known, if_pos (reached.index.trans one), one] at page
      -- the short command is cut a second time
      have same := shortenCommand_page range start short (by omega) (fun few => by
        rcases rangeRemoved_some range with ⟨-, rfl⟩ | ⟨-, rfl⟩ <;> omega) page
      rcases rangeRemoved_some range with ⟨-, rfl⟩ | ⟨-, rfl⟩ <;> omega
  next plain =>
    have start := reached_start reached
    rw [nextPageCommand_counts plain, countPage_length, countPage_size _ _ (by omega), reached.size,
      reached.length, if_pos (.inr plain), if_pos (.inr plain)] at size
    exact size

theorem recalculateDlmsChecksum_reached {pages : Nat} {state : Bytes × UInt8}
    (reached : Reached packet downloadDataType pages state) :
    recalculateDlmsChecksum state.1 = state.1 := by
  have start := dlmsStart_long packet
  have long := reached_long reached
  have place : (if (byteAt state.1 12).toNat ≤ 1 then 17 else 17 + ((byteAt state.1 12).toNat - 1) * 4) =
      dlmsStart packet := by
    rw [reached_hops reached, dlmsStart, headerEnd]
    split <;> omega
  have last : byteAt state.1 (state.1.length - 1) = state.1[state.1.length - 1] := by
    rw [byteAt, List.getD_eq_getElem?_getD, List.getElem?_eq_getElem (by omega), Option.getD_some]
  -- the byte that is written is the one that is there
  unfold recalculateDlmsChecksum
  simp only [place, ← reached.sum, last, List.set_getElem_self]
  split
  next => rfl
  next => split <;> rfl

end Steps

section Turns

variable (requestId : Int) (downloadDataType : UInt8)

/-- Packet and page index after a turn that is not the last, by the code of its reply. -/
def served (code : Option Code) (state : Bytes × UInt8) : Bytes × UInt8 :=
  match code with
  | some .succesNextPage => (nextPageCommand state.1 downloadDataType state.2, state.2 + 1)
  | some .dlmsChecksumError => (recalculateDlmsChecksum state.1, state.2)
  | _ => state

def Left (state : Bytes × UInt8) (turn : Turn OdmVars Exit) (_ : Client) : Prop :=
  forall next, turn = .again next -> (next.buf, next.pageIndex) = state

/-- A turn of the receive loop leaves packet and page index as its reply asks. -/
theorem odmTurn_served (start : Client) (vars : OdmVars) :
    Returns (· = start) (odmTurn requestId downloadDataType vars)
      (Left (served downloadDataType (receiveDataAndValidateResponse start).1 (vars.buf, vars.pageIndex))) := by
  apply returns_of_returned
  rintro client turn after rfl ran next rfl
  obtain ⟨code, received, heard, goesOn⟩ := Recovery.odmTurn_again requestId downloadDataType ran
  rw [heard]
  cases code with
  | success | dlmsSuccess => rw [goesOn.1]; rfl
  | timeoutReceived | dlmsConnectionFailed => rw [goesOn.2.1]; rfl
  | pollTimeout => rw [goesOn.2.2.1]; rfl
  | succesNextPage | dlmsChecksumError => rw [goesOn.2.2]; rfl
  | invalidResponse | commandInProgress => rw [goesOn.1]; rfl
  | failure | enabled | failedResponse | nextPagePresent | pushDataReceived => rw [goesOn.1]; rfl
  | pmeshError | failedPmeshError | dlmsError => exact goesOn.elim

end Turns

section Runs

/-- The frames are numbered from this page on, and each is well-formed. -/
def Numbered (packet : Bytes) : Nat -> List Bytes -> Prop
  | _, [] => True
  | page, frame :: rest => WellFormed packet page frame /\ Numbered packet (page + 1) rest

theorem numbered_iff (packet : Bytes) (page : Nat) (frames : List Bytes) :
    Numbered packet page frames <->
      forall index frame, frames[index]? = some frame -> WellFormed packet (page + index) frame := by
  induction frames generalizing page with
  | nil => simp [Numbered]
  | cons first rest ih =>
    rw [Numbered, ih]
    constructor
    next =>
      rintro ⟨well, behind⟩ index frame at_
      cases index with
      | zero =>
        simp only [List.getElem?_cons_zero, Option.some.injEq] at at_
        exact at_ ▸ well
      | succ index =>
        have place : page + (index + 1) = page + 1 + index := by omega
        exact place ▸ behind index frame at_
    next =>
      intro every
      refine ⟨every 0 first rfl, fun index frame at_ => ?_⟩
      have place : page + (index + 1) = page + 1 + index := by omega
      exact place ▸ every (index + 1) frame at_

/-- The turns of the receive loop that `handle_next_page` is called in. -/
def pageTurns (turns : List (OdmVars × Client)) : List (OdmVars × Client) :=
  turns.filter fun turn => (receiveDataAndValidateResponse turn.2).1 = some .succesNextPage

def pageFrames (downloadDataType : UInt8) (turns : List (OdmVars × Client)) : List Bytes :=
  (pageTurns turns).map fun turn => nextPageCommand turn.1.buf downloadDataType turn.1.pageIndex

variable {packet : Bytes} {downloadDataType : UInt8}

theorem served_reached {pages : Nat} {state : Bytes × UInt8} (code : Option Code)
    (reached : Reached packet downloadDataType pages state) (other : code ≠ some .succesNextPage) :
    Reached packet downloadDataType pages (served downloadDataType code state) := by
  unfold served
  split
  next => contradiction
  next =>
    rw [recalculateDlmsChecksum_reached reached]
    exact reached
  next => exact reached

theorem pageFrames_numbered_iff (requestId : Int) (fuel pages : Nat) (vars : OdmVars) (client : Client)
    (reached : Reached packet downloadDataType pages (vars.buf, vars.pageIndex)) :
    let turns := entered (odmTurn requestId downloadDataType) fuel vars client
    Numbered packet (pages + 1) (pageFrames downloadDataType turns) <->
      pageTurns turns = [] \/ Paged packet downloadDataType (pages + (pageTurns turns).length) := by
  induction fuel generalizing pages vars client with
  | zero => simp [entered, pageTurns, pageFrames, Numbered]
  | succ fuel ih =>
    intro turns
    -- what the induction says of the turns behind this one, if there are any
    have later (pages : Nat) (reached : Reached packet downloadDataType pages
        (served downloadDataType (receiveDataAndValidateResponse client).1 (vars.buf, vars.pageIndex))) :
        Numbered packet (pages + 1) (pageFrames downloadDataType turns.tail) <-> pageTurns turns.tail = [] \/
          Paged packet downloadDataType (pages + (pageTurns turns.tail).length) := by
      simp only [turns, entered, List.tail_cons]
      split
      next next after ran =>
        rw [← (odmTurn_served requestId downloadDataType client vars).returned rfl ran next rfl] at reached
        exact ih pages next after reached
      next => simp [pageTurns, pageFrames, Numbered]
    have parts : turns = (vars, client) :: turns.tail := rfl
    by_cases asked : (receiveDataAndValidateResponse client).1 = some .succesNextPage
    next =>
      have filtered : pageTurns turns = (vars, client) :: pageTurns turns.tail := by
        rw [parts, pageTurns, List.filter_cons_of_pos (by simpa using asked)]
        rfl
      have frames : pageFrames downloadDataType turns =
          nextPageCommand vars.buf downloadDataType vars.pageIndex :: pageFrames downloadDataType turns.tail := by
        rw [pageFrames, filtered]
        rfl
      have total : pages + (pageTurns turns).length = pages + 1 + (pageTurns turns.tail).length := by
        rw [filtered, List.length_cons]
        omega
      rw [asked] at later
      rw [frames, Numbered, total, or_iff_right (by rw [filtered]; simp)]
      constructor
      next =>
        rintro ⟨well, behind⟩
        have paged := nextPageCommand_paged reached well
        rcases (later _ (nextPageCommand_reached reached paged)).mp behind with last | more
        next => rwa [last]
        next => exact more
      next =>
        intro paged
        have reached := nextPageCommand_reached reached (paged_of_le paged (by omega))
        exact ⟨reached_wellFormed (by omega) reached, (later _ reached).mpr (.inr paged)⟩
    next =>
      have filtered : pageTurns turns = pageTurns turns.tail := by
        rw [parts, pageTurns, List.filter_cons_of_neg (by simpa using asked)]
        rfl
      rw [pageFrames, filtered]
      exact later pages (served_reached _ reached asked)

def requestTurns (fuel : Nat) (request : OdmRequest) (client : Client) : List (OdmVars × Client) :=
  match Recovery.opening request client with
  | (some .success, sent) => entered (odmTurn request.requestId request.downloadType) fuel
      { buf := request.packet } (Recovery.tailKept request sent)
  | _ => []

theorem requestTurns_numbered_iff (fuel : Nat) (request : OdmRequest) (client : Client)
    (part : DlmsPart request.packet) :
    Numbered request.packet 1 (pageFrames request.downloadType (requestTurns fuel request client)) <->
      Paged request.packet request.downloadType (pageTurns (requestTurns fuel request client)).length := by
  unfold requestTurns
  split
  next sent _ =>
    have first : Reached request.packet request.downloadType 0 (request.packet, 1) := reached_first part
    have run := pageFrames_numbered_iff request.requestId fuel 0 { buf := request.packet }
      (Recovery.tailKept request sent) first
    simp only [Nat.zero_add] at run
    apply run.trans
    apply or_iff_right_of_imp
    intro quiet
    exact .inl (by rw [quiet]; rfl)
  next => simp [pageFrames, pageTurns, Numbered, Paged]

end Runs

section Requests

theorem request_paged_iff (command : OdmCommand) (lookup : PathLookup) (request : OdmRequest)
    (prepared : prepareOdm lookup command.cmd = .ok (.request request)) (pages : Nat) :
    Paged request.packet request.downloadType pages <-> pages = 0 \/
      match rangeRemoved request.downloadType with
      | some removed =>
        command.decoded.length = removed /\ headerEnd command.hops ≤ 248 /\ pages ≤ 256
      | none =>
        if request.downloadType = 13 then (byteAt command.decoded 1).toNat = command.decoded.length - 1
        else headerEnd command.hops + command.decoded.length ≤ 256 := by
  have known := Recovery.prepared_request command lookup request prepared
  have start : 17 ≤ headerEnd command.hops := by
    unfold headerEnd
    omega
  unfold Paged
  apply or_congr_right
  by_cases ping : request.downloadType = 13
  next =>
    rw [if_pos ping] at known
    rw [ping, known]
    rfl
  next =>
    rw [if_neg ping] at known
    have built (index : Nat) (inside : index < headerEnd command.hops) :
        byteAt request.packet index = byteAt command.header index := by
      rw [known.1, command.frame_byte index inside]
    have place : dlmsStart request.packet = headerEnd command.hops := by
      rw [dlmsStart, built 12 (by omega), command.header_fields.2.2.2.1]
    have size : (byteAt request.packet 1).toNat =
        (headerEnd command.hops + command.decoded.length - 1) % 256 := by
      rw [built 1 (by omega), command.header_fields.2.1, UInt8.toNat_ofNat']
    have length : request.packet.length = headerEnd command.hops + command.decoded.length := by
      rw [known.1, command.frame_length]
    rw [place, size, length]
    split
    next removed range => omega
    next =>
      rw [if_neg ping]
      omega

end Requests

/-- The gateway's page of a profile, with another one behind it. -/
def pageOf (command page : UInt8) : Received :=
  let dlms := [0x2D, 0x00, 0x0D, page, 0x0E, command, 0x00, 0x01, 0x01, 0x04, 0x00, 0x06, 0x05]
  .data ([0x2E, 0x1E, 0x08, 0, 0, 0, 0, 0, 0, 0, 0, 0xA3, 0x53, 0x54, 0x35, 0x00, 0x00] ++ dlms ++
    [calculateChecksum dlms 0 13]) none

def twoPages (command : UInt8) : Client := Recovery.answered [pageOf command 0, pageOf command 1]

/-- The daily load of the gateway, asked for without a range. -/
def dailyLoad : OdmCommand where
  gatewayId := gatewayLetters
  seen := {}
  payload := commandOver "0" 0 "03:2B07000E03000043"
  cmd := commandOver "0" 0 "03:2B07000E03000043"
  queued := ⟨[.odm _], { globalSeenReqIds := [Text.ascii "1"] }, by decide +kernel,
    List.mem_singleton.mpr rfl⟩

def dailyLoadRequest : OdmRequest :=
  { requestId := 1, downloadType := 3, gatewayId := gatewayLetters, meterMacAddress := gatewayLetters
    meterSerialNo := Text.ascii "A3535435", packet := dailyLoad.frame, pmeshHeader := dailyLoad.header }


end Hes.NextPages
