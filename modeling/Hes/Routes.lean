import Hes.Mqtt

set_option autoImplicit false

namespace Hes.Routes

open Text Mqtt

/-- A copy between two buffers, by offset, length and the sizes of both. -/
structure Copy where
  source : Nat
  sourceSize : Nat
  dest : Nat
  destSize : Nat
  length : Nat
  deriving DecidableEq, Repr

def Copy.Inside (copy : Copy) : Prop :=
  copy.source + copy.length ≤ copy.sourceSize /\ copy.dest + copy.length ≤ copy.destSize

instance (copy : Copy) : Decidable copy.Inside := inferInstanceAs (Decidable (_ /\ _))

/-- The route a decoder leaves, and the copies it made for it. -/
structure Decoded where
  route : Bytes := []
  copies : List Copy := []
  deriving DecidableEq, Repr

def Decoded.append (first second : Decoded) : Decoded :=
  { route := first.route ++ second.route, copies := first.copies ++ second.copies }

/-- One turn after the other, for `index` from 0 on. -/
def eachHop (hopCount : Nat) (turn : Nat -> Decoded) : Decoded :=
  { route := (List.range hopCount).flatMap fun hop => (turn hop).route
    copies := (List.range hopCount).flatMap fun hop => (turn hop).copies }

def kChunkHexLen : Nat := 8

def extractChunks (hexPath : Bytes) (expectedLen : Nat) : Nat -> Nat -> Bool -> Result Decoded
  | 0, _, _ => .ok {}
  | fuel + 1, pos, take =>
    if pos + kChunkHexLen ≤ expectedLen then do
      let own <- if take then hexPairs (slice hexPath pos kChunkHexLen) else .ok []
      let copies : List Copy :=
        if take then [{ source := pos, sourceSize := hexPath.length, dest := 0,
                        destSize := kChunkHexLen, length := kChunkHexLen }]
        else []
      let later <- extractChunks hexPath expectedLen fuel (pos + kChunkHexLen) (!take)
      return { route := own, copies := copies : Decoded }.append later
    else .ok {}

def extractPath (hexPath : Bytes) (hopCount : Nat) : Result (Option Decoded) :=
  let kExpectedLen := hopCount * 16
  if hexPath.length ≠ kExpectedLen then .ok none
  else (extractChunks hexPath kExpectedLen kExpectedLen 0 false).map some

def highNibble (letter : UInt8) : UInt8 :=
  if 0x30 ≤ letter && letter ≤ 0x39 then letter - 0x30
  else if 0x41 ≤ letter && letter ≤ 0x46 then letter - 55
  -- the test for a small letter looks at the other nibble, which is then overwritten
  else letter

def lowNibble (letter : UInt8) : UInt8 :=
  if 0x30 ≤ letter && letter ≤ 0x39 then letter - 0x30
  else if 0x41 ≤ letter && letter ≤ 0x46 then letter - (0x41 - 10)
  else if 0x61 ≤ letter && letter ≤ 0x66 then letter - (0x61 - 10)
  else letter

def aschexstr2hex (source : Bytes) (length : UInt8) : Bytes :=
  let length := if length % 2 ≠ 0 then length + 1 else length
  (List.range length.toNat).map fun index =>
    highNibble (byteAt source (2 * index)) <<< 4 ||| lowNibble (byteAt source (2 * index + 1))

/-- `route_path` of a meter and the `route_data` it is arranged in. -/
def routePathSize : Nat := 100

def arrangeRoutePath (source : Bytes) (hopCount : Nat) : Decoded :=
  let turns := eachHop hopCount fun hop =>
    { route := aschexstr2hex (slice source (8 + 16 * hop) 8) 4
      copies := [{ source := 8 + 16 * hop, sourceSize := routePathSize, dest := 0, destSize := 10,
                   length := 8 },
                 { source := 0, sourceSize := 8, dest := 4 * hop, destSize := routePathSize,
                   length := 4 }] }
  { turns with
    -- the memset in front of the turns
    copies := { source := 0, sourceSize := hopCount * 4, dest := 0, destSize := routePathSize,
                length := hopCount * 4 } :: turns.copies }

/-- The route of a row. Memory behind a buffer is left as it was by a copy that is too long. -/
def gatewayUndernodeRoute (path : Bytes) (hopCount : Nat) : Decoded :=
  let hopCount := hopCount % 256
  if 0 < hopCount then
    let arranged := arrangeRoutePath (slice path 0 (hopCount * 16)) hopCount
    { arranged with
      copies := { source := 0, sourceSize := path.length + 1, dest := 0, destSize := routePathSize,
                  length := hopCount * 16 } :: arranged.copies ++
        [{ source := 0, sourceSize := routePathSize, dest := 0, destSize := routePathSize,
           length := hopCount * 4 }] }
  else {}

/-- `route_path` of an alternate path. -/
def alternateRouteSize : Nat := 128

def insertAlternatePath (routePathFull : Bytes) (hopCount : Nat) : Decoded :=
  let hopCount := hopCount % 256
  let totalFullBytes := hopCount * 8
  eachHop hopCount fun hop =>
    let srcOffset := hop * 8 + 4
    let dstOffset := hop * 4
    if srcOffset + 4 ≤ totalFullBytes && dstOffset + 4 ≤ alternateRouteSize then
      { route := slice routePathFull srcOffset 4
        copies := [{ source := srcOffset, sourceSize := routePathFull.length, dest := dstOffset,
                     destSize := alternateRouteSize, length := 4 }] }
    else
      { route := [0, 0, 0, 0]
        copies := [{ source := 0, sourceSize := 4, dest := dstOffset,
                     destSize := alternateRouteSize, length := 4 }] }

def extractLetters (rawPath : Bytes) (totalLength : Nat) : Nat -> Nat -> Bytes
  | 0, _ => []
  | fuel + 1, copyStart =>
    if copyStart + 8 ≤ totalLength && copyStart < rawPath.length then
      (rawPath.drop copyStart).take 8 ++ extractLetters rawPath totalLength fuel (copyStart + 16)
    else []

/-- The text of the route; the queue entry copies its letters by the hop count. -/
def fetchPathRecord (path : Bytes) (hopCount : Nat) : Decoded :=
  let hopCount := hopCount % 256
  let totalLength := hopCount * 16
  let letters := extractLetters path totalLength path.length 8 ++ [0]
  let destAddress := if letters.length > 65 then letters.take 64 ++ [0] else letters
  let pathLen := hopCount * 8 % 256
  { route := slice destAddress 0 pathLen
    copies := [{ source := 0, sourceSize := destAddress.length, dest := 0, destSize := pathLen,
                 length := pathLen }] }

def hexByte (high low : UInt8) : UInt8 :=
  UInt8.ofNat ((digitValue high).getD 0 * 16 + (digitValue low).getD 0)

/-- The bytes a text of hexadecimal digits stands for. -/
def hexDecode (text : Bytes) : Bytes :=
  (List.range (text.length / 2)).map fun index =>
    hexByte (byteAt text (2 * index)) (byteAt text (2 * index + 1))

/-- The last four bytes of each hop. -/
def addresses (path : Bytes) (hopCount : Nat) : Bytes :=
  (List.range hopCount).flatMap fun hop => slice (hexDecode path) (8 * hop + 4) 4

/-- All four decoders take the addresses of the hops from a path, and copy nothing beyond a buffer. -/
structure Agree (path : Bytes) (hopCount : Nat) : Prop where
  extracted : exists decoded, extractPath path hopCount = .ok (some decoded) /\
    decoded.route = addresses path hopCount /\ ∀ copy ∈ decoded.copies, copy.Inside
  arranged : (gatewayUndernodeRoute path hopCount).route = addresses path hopCount
  arrangedInside : ∀ copy ∈ (gatewayUndernodeRoute path hopCount).copies, copy.Inside
  inserted : (insertAlternatePath (hexDecode path) hopCount).route = addresses path hopCount
  insertedInside : ∀ copy ∈ (insertAlternatePath (hexDecode path) hopCount).copies, copy.Inside
  fetched : hexDecode (fetchPathRecord path hopCount).route = addresses path hopCount
  fetchedInside : ∀ copy ∈ (fetchPathRecord path hopCount).copies, copy.Inside

def isSmallLetter (letter : UInt8) : Bool := 0x61 ≤ letter && letter ≤ 0x66

/-- No address of a hop has a small letter in front of one of its bytes. -/
def PlainHigh (path : Bytes) (hopCount : Nat) : Prop :=
  ∀ hop < hopCount, ∀ index < 4, isSmallLetter (byteAt path (16 * hop + 8 + 2 * index)) = false

section Digits

def hexDigits : Bytes :=
  [0x30, 0x31, 0x32, 0x33, 0x34, 0x35, 0x36, 0x37, 0x38, 0x39, 0x41, 0x42, 0x43, 0x44, 0x45, 0x46,
   0x61, 0x62, 0x63, 0x64, 0x65, 0x66]

theorem hexDigits_of_value (letter : UInt8) (digit : (digitValue letter).isSome) :
    letter ∈ hexDigits := by
  have all : ∀ value < 256, (digitValue (UInt8.ofNat value)).isSome = true ->
      UInt8.ofNat value ∈ hexDigits := by
    decide +kernel
  have this := all letter.toNat letter.toNat_lt
  rw [UInt8.ofNat_toNat] at this
  exact this digit

theorem stoi_pair (high low : UInt8) (first : high ∈ hexDigits) (second : low ∈ hexDigits) :
    stoiBase 16 [high, low] =
      .ok (((digitValue high).getD 0 * 16 + (digitValue low).getD 0 : Nat) : Int) := by
  revert low second
  revert high first
  decide +kernel

theorem hexByte_pair (high low : UInt8) (first : high ∈ hexDigits) (second : low ∈ hexDigits) :
    UInt8.ofNat ((((digitValue high).getD 0 * 16 + (digitValue low).getD 0 : Nat) : Int) %
      256).toNat = hexByte high low := by
  revert low second
  revert high first
  decide +kernel

/-- The conversion is right for a pair of digits unless the first one is a small letter. -/
theorem nibbles_iff (high low : UInt8) (first : high ∈ hexDigits) (second : low ∈ hexDigits) :
    highNibble high <<< 4 ||| lowNibble low = hexByte high low <-> isSmallLetter high = false := by
  revert low second
  revert high first
  decide +kernel

end Digits

def HexText (text : Bytes) : Prop := ∀ letter ∈ text, (digitValue letter).isSome = true

theorem HexText.digit {text : Bytes} (hex : HexText text) (index : Nat)
    (inside : index < text.length) : byteAt text index ∈ hexDigits := by
  have known : byteAt text index = text[index] := by
    simp [byteAt, inside]
  rw [known]
  exact hexDigits_of_value _ (hex _ (List.getElem_mem inside))

theorem hexDecode_cons (high low : UInt8) (rest : Bytes) :
    hexDecode (high :: low :: rest) = hexByte high low :: hexDecode rest := by
  have halves : (high :: low :: rest).length / 2 = rest.length / 2 + 1 := by
    simp only [List.length_cons]
    omega
  rw [hexDecode, halves, List.range_succ_eq_map, List.map_cons, List.map_map, hexDecode]
  rfl

theorem hexPairs_decode (text : Bytes) (even : text.length % 2 = 0) (hex : HexText text) :
    hexPairs text = .ok (hexDecode text) := by
  induction text using hexPairs.induct with
  | case1 high low rest ih =>
    have first := hexDigits_of_value high (hex high (by simp))
    have second := hexDigits_of_value low (hex low (by simp))
    have later := ih (by simp at even; omega) fun letter among =>
      hex letter (List.mem_cons_of_mem _ (List.mem_cons_of_mem _ among))
    rw [hexPairs, stoi_pair high low first second, later, hexDecode_cons,
      <- hexByte_pair high low first second]
    rfl
  | case2 text short =>
    have none : text = [] := by
      cases text with
      | nil => rfl
      | cons first rest =>
        cases rest with
        | nil => simp at even
        | cons second rest => exact absurd rfl (short first second rest)
    subst none
    rfl

theorem hexDecode_append (first second : Bytes) (even : first.length % 2 = 0) :
    hexDecode (first ++ second) = hexDecode first ++ hexDecode second := by
  induction first using hexPairs.induct with
  | case1 high low rest ih =>
    have later := ih (by simp at even; omega)
    rw [List.cons_append, List.cons_append, hexDecode_cons, hexDecode_cons, later, List.cons_append]
  | case2 text short =>
    have none : text = [] := by
      cases text with
      | nil => rfl
      | cons first rest =>
        cases rest with
        | nil => simp at even
        | cons second rest => exact absurd rfl (short first second rest)
    subst none
    rfl

/-- The four bytes of a hop, from the digits of its second half. -/
def hopAddress (path : Bytes) (hop : Nat) : Bytes :=
  (List.range 4).map fun index =>
    hexByte (byteAt path (16 * hop + 8 + 2 * index)) (byteAt path (16 * hop + 8 + 2 * index + 1))

theorem hexDecode_slice (path : Bytes) (hop : Nat) :
    hexDecode (slice path (16 * hop + 8) 8) = hopAddress path hop := by
  rw [hexDecode, slice_length]
  apply List.map_congr_left
  intro index four
  have here := List.mem_range.mp four
  rw [byteAt_slice _ _ _ _ (by omega), byteAt_slice _ _ _ _ (by omega)]
  simp only [Nat.add_assoc]

theorem byteAt_hexDecode (text : Bytes) (index : Nat) (inside : index < text.length / 2) :
    byteAt (hexDecode text) index = hexByte (byteAt text (2 * index)) (byteAt text (2 * index + 1)) := by
  simp [hexDecode, byteAt, inside]

theorem slice_hexDecode (path : Bytes) (hop : Nat) (inside : 16 * hop + 16 ≤ path.length) :
    slice (hexDecode path) (8 * hop + 4) 4 = hopAddress path hop := by
  apply List.map_congr_left
  intro index four
  have here := List.mem_range.mp four
  rw [byteAt_hexDecode path _ (by omega)]
  congr 2 <;> omega

def route (path : Bytes) (hopCount : Nat) : Bytes :=
  (List.range hopCount).flatMap (hopAddress path)

theorem addresses_route (path : Bytes) (hopCount : Nat) (sized : path.length = 16 * hopCount) :
    addresses path hopCount = route path hopCount := by
  apply List.flatMap_congr
  intro hop inside
  have here := List.mem_range.mp inside
  exact slice_hexDecode path hop (by omega)

theorem range_shift (count : Nat) (block : Nat -> Bytes) (hop : Nat) :
    (List.range (count + 1)).flatMap (fun later => block (hop + later)) =
      block hop ++ (List.range count).flatMap fun later => block (hop + 1 + later) := by
  rw [List.range_succ_eq_map, List.flatMap_cons, List.flatMap_map, Nat.add_zero]
  congr 2
  funext later
  congr 1
  omega

theorem extractChunks_route (path : Bytes) (hopCount count : Nat) (hop fuel : Nat)
    (sized : path.length = 16 * hopCount) (hex : HexText path) (left : hop + count = hopCount)
    (enough : 2 * count ≤ fuel) :
    exists decoded, extractChunks path (hopCount * 16) fuel (16 * hop) false = .ok decoded /\
      decoded.route = (List.range count).flatMap (fun later => hopAddress path (hop + later)) /\
      ∀ copy ∈ decoded.copies, copy.Inside := by
  induction count generalizing hop fuel with
  | zero =>
    refine ⟨{}, ?_, rfl, by simp⟩
    cases fuel with
    | zero => rfl
    | succ fuel => rw [extractChunks, if_neg (by simp only [kChunkHexLen]; omega)]
  | succ count ih =>
    obtain ⟨fuel, rfl⟩ : exists rest, fuel = rest + 2 := ⟨fuel - 2, by omega⟩
    obtain ⟨later, read, route, inside⟩ := ih (hop + 1) fuel (by omega) (by omega)
    have eight : HexText (slice path (16 * hop + 8) 8) := by
      intro letter among
      obtain ⟨index, within, rfl⟩ := List.mem_map.mp among
      have below := List.mem_range.mp within
      have known : byteAt path (16 * hop + 8 + index) = path[16 * hop + 8 + index] := by
        simp [byteAt, show 16 * hop + 8 + index < path.length by omega]
      rw [known]
      exact hex _ (List.getElem_mem _)
    have pairs := hexPairs_decode _ (by simp) eight
    rw [hexDecode_slice] at pairs
    have next : 16 * hop + kChunkHexLen + kChunkHexLen = 16 * (hop + 1) := by
      simp only [kChunkHexLen]
      omega
    refine ⟨{ route := hopAddress path hop ++ later.route
              copies := { source := 16 * hop + 8, sourceSize := path.length, dest := 0,
                          destSize := 8, length := 8 } :: later.copies }, ?_, ?_, ?_⟩
    next =>
      have first : 16 * hop + kChunkHexLen ≤ hopCount * 16 := by
        simp only [kChunkHexLen]
        omega
      have second : 16 * hop + kChunkHexLen + kChunkHexLen ≤ hopCount * 16 := by
        simp only [kChunkHexLen]
        omega
      -- the first half of the hop is skipped, the second one taken
      rw [extractChunks, if_pos first, extractChunks, if_pos second, next]
      simp only [Bool.not_false, Bool.not_true, if_true, Bool.false_eq_true, if_false, read]
      rw [show slice path (16 * hop + kChunkHexLen) kChunkHexLen = slice path (16 * hop + 8) 8 from rfl,
        pairs]
      rfl
    next => rw [range_shift, route]
    next =>
      intro copy among
      rcases List.mem_cons.mp among with first | behind
      next =>
        subst first
        exact ⟨show 16 * hop + 8 + 8 ≤ path.length by omega, Nat.le_refl 8⟩
      next => exact inside copy behind

theorem extracted_addresses (path : Bytes) (hopCount : Nat) (sized : path.length = 16 * hopCount)
    (hex : HexText path) :
    exists decoded, extractPath path hopCount = .ok (some decoded) /\
      decoded.route = addresses path hopCount /\ ∀ copy ∈ decoded.copies, copy.Inside := by
  obtain ⟨decoded, read, same, inside⟩ :=
    extractChunks_route path hopCount hopCount 0 (hopCount * 16) sized hex (by omega) (by omega)
  refine ⟨decoded, ?_, ?_, inside⟩
  next =>
    rw [extractPath, if_neg (by omega), read]
    rfl
  next =>
    rw [same, addresses_route path hopCount sized, route]
    simp

theorem inserted_addresses (path : Bytes) (hopCount : Nat) (few : hopCount ≤ 32) :
    (insertAlternatePath (hexDecode path) hopCount).route = addresses path hopCount := by
  rw [insertAlternatePath, Nat.mod_eq_of_lt (by omega)]
  apply List.flatMap_congr
  intro hop inside
  have here := List.mem_range.mp inside
  have room : (hop * 8 + 4 + 4 ≤ hopCount * 8 && hop * 4 + 4 ≤ alternateRouteSize) = true := by
    have first : hop * 8 + 4 + 4 ≤ hopCount * 8 := by omega
    have second : hop * 4 + 4 ≤ 128 := by omega
    simp [alternateRouteSize, first, second]
  simp only [room, if_true, Nat.mul_comm]

theorem inserted_inside (path : Bytes) (hopCount : Nat) (few : hopCount ≤ 32)
    (sized : path.length = 16 * hopCount) :
    ∀ copy ∈ (insertAlternatePath (hexDecode path) hopCount).copies, copy.Inside := by
  rw [insertAlternatePath, Nat.mod_eq_of_lt (by omega)]
  intro copy among
  obtain ⟨hop, inside, made⟩ := List.mem_flatMap.mp among
  have here := List.mem_range.mp inside
  have room : (hop * 8 + 4 + 4 ≤ hopCount * 8 && hop * 4 + 4 ≤ alternateRouteSize) = true := by
    have first : hop * 8 + 4 + 4 ≤ hopCount * 8 := by omega
    have second : hop * 4 + 4 ≤ 128 := by omega
    simp [alternateRouteSize, first, second]
  simp only [room, if_true, List.mem_singleton] at made
  subst made
  simp only [Copy.Inside, alternateRouteSize, hexDecode, List.length_map, List.length_range]
  omega

theorem slice_take (path : Bytes) (start length : Nat) (inside : start + length ≤ path.length) :
    (path.drop start).take length = slice path start length := by
  apply List.ext_getElem
  next => simp; omega
  next =>
    intro index _ within
    have here : start + index < path.length := by
      simp at within
      omega
    simp [slice, byteAt, here]

theorem extractLetters_route (path : Bytes) (hopCount count : Nat) (hop fuel : Nat)
    (sized : path.length = 16 * hopCount) (left : hop + count = hopCount) (enough : count ≤ fuel) :
    extractLetters path (hopCount * 16) fuel (16 * hop + 8) =
      (List.range count).flatMap fun later => slice path (16 * (hop + later) + 8) 8 := by
  induction count generalizing hop fuel with
  | zero =>
    cases fuel with
    | zero => rfl
    | succ fuel =>
      have ended : ¬ 16 * hop + 8 + 8 ≤ hopCount * 16 := by omega
      simp [extractLetters, ended]
  | succ count ih =>
    obtain ⟨fuel, rfl⟩ : exists rest, fuel = rest + 1 := ⟨fuel - 1, by omega⟩
    have more : 16 * hop + 8 + 8 ≤ hopCount * 16 := by omega
    have inside : 16 * hop + 8 < path.length := by omega
    rw [range_shift count (fun hop => slice path (16 * hop + 8) 8) hop,
      <- ih (hop + 1) fuel (by omega) (by omega), extractLetters]
    simp only [more, inside, decide_true, Bool.and_self, if_true]
    rw [slice_take path _ _ (by omega)]
    rfl

theorem flatMap_blocks_length (count size : Nat) (block : Nat -> Bytes)
    (sized : forall hop, (block hop).length = size) :
    ((List.range count).flatMap block).length = size * count := by
  induction count with
  | zero => simp
  | succ count ih =>
    rw [List.range_succ, List.flatMap_append, List.length_append, ih]
    simp [sized, Nat.mul_succ]

theorem flatMap_blocks_eq (count size : Nat) (first second : Nat -> Bytes)
    (firstSized : forall hop, (first hop).length = size)
    (secondSized : forall hop, (second hop).length = size) :
    (List.range count).flatMap first = (List.range count).flatMap second <->
      ∀ hop < count, first hop = second hop := by
  induction count with
  | zero => simp
  | succ count ih =>
    have lengths := (flatMap_blocks_length count size first firstSized).trans
      (flatMap_blocks_length count size second secondSized).symm
    rw [List.range_succ, List.flatMap_append, List.flatMap_append]
    simp only [List.flatMap_cons, List.flatMap_nil, List.append_nil]
    constructor
    next =>
      intro same hop inside
      obtain ⟨before, last⟩ := List.append_inj same lengths
      by_cases final : hop = count
      next => exact final ▸ last
      next => exact ih.mp before hop (by omega)
    next =>
      intro all
      rw [ih.mpr fun hop inside => all hop (by omega), all count (by omega)]

theorem hexDecode_blocks (count : Nat) (block : Nat -> Bytes)
    (even : forall hop, (block hop).length % 2 = 0) :
    hexDecode ((List.range count).flatMap block) =
      (List.range count).flatMap fun hop => hexDecode (block hop) := by
  induction count with
  | zero => simp [hexDecode]
  | succ count ih =>
    have before : ((List.range count).flatMap block).length % 2 = 0 := by
      clear ih
      induction count with
      | zero => rfl
      | succ count ih =>
        have last := even count
        rw [List.range_succ, List.flatMap_append, List.length_append]
        simp only [List.flatMap_cons, List.flatMap_nil, List.append_nil]
        omega
    rw [List.range_succ, List.flatMap_append, hexDecode_append _ _ before, ih]
    simp

theorem fetched_addresses (path : Bytes) (hopCount : Nat) (few : hopCount ≤ 8)
    (sized : path.length = 16 * hopCount) :
    hexDecode (fetchPathRecord path hopCount).route = addresses path hopCount /\
      ∀ copy ∈ (fetchPathRecord path hopCount).copies, copy.Inside := by
  have letters := extractLetters_route path hopCount hopCount 0 path.length sized (by omega)
    (by omega)
  have length := flatMap_blocks_length hopCount 8 (fun hop => slice path (16 * (0 + hop) + 8) 8)
    (by simp)
  rw [Nat.mul_zero, Nat.zero_add] at letters
  unfold fetchPathRecord
  simp only [Nat.mod_eq_of_lt (show hopCount < 256 by omega), letters,
    Nat.mod_eq_of_lt (show hopCount * 8 < 256 by omega)]
  have short : ¬ ((List.range hopCount).flatMap (fun hop => slice path (16 * (0 + hop) + 8) 8) ++
      [0]).length > 65 := by
    rw [List.length_append, length, List.length_singleton]
    omega
  rw [if_neg short]
  constructor
  next =>
    rw [Nat.mul_comm hopCount 8, <- length, slice_append_whole,
      hexDecode_blocks hopCount _ (by simp), addresses_route path hopCount sized, route]
    simp only [Nat.zero_add, hexDecode_slice]
  next =>
    intro copy among
    obtain rfl := List.mem_singleton.mp among
    simp only [Copy.Inside, List.length_append, length, List.length_singleton]
    omega

theorem aschexstr2hex_four (source : Bytes) :
    aschexstr2hex source 4 = (List.range 4).map fun index =>
      highNibble (byteAt source (2 * index)) <<< 4 ||| lowNibble (byteAt source (2 * index + 1)) := by
  rfl

theorem aschexstr2hex_hop (path : Bytes) (hop : Nat) (inside : 16 * hop + 16 ≤ path.length)
    (hex : HexText path) :
    aschexstr2hex (slice path (8 + 16 * hop) 8) 4 = hopAddress path hop <->
      ∀ index < 4, isSmallLetter (byteAt path (16 * hop + 8 + 2 * index)) = false := by
  rw [aschexstr2hex_four, hopAddress, List.map_inj_left]
  have digits (index : Nat) (four : index < 4) :
      highNibble (byteAt (slice path (8 + 16 * hop) 8) (2 * index)) <<< 4 |||
          lowNibble (byteAt (slice path (8 + 16 * hop) 8) (2 * index + 1)) =
        hexByte (byteAt path (16 * hop + 8 + 2 * index))
          (byteAt path (16 * hop + 8 + 2 * index + 1)) <->
        isSmallLetter (byteAt path (16 * hop + 8 + 2 * index)) = false := by
    rw [byteAt_slice _ _ _ _ (by omega), byteAt_slice _ _ _ _ (by omega),
      show 8 + 16 * hop + 2 * index = 16 * hop + 8 + 2 * index by omega,
      show 8 + 16 * hop + (2 * index + 1) = 16 * hop + 8 + 2 * index + 1 by omega]
    exact nibbles_iff _ _ (hex.digit _ (by omega)) (hex.digit _ (by omega))
  constructor
  next => exact fun same index four => (digits index four).mp (same index (List.mem_range.mpr four))
  next =>
    intro plain index among
    have four := List.mem_range.mp among
    exact (digits index four).mpr (plain index four)

theorem arranged_route (path : Bytes) (hopCount : Nat) (some : 0 < hopCount) (few : hopCount < 256)
    (sized : path.length = 16 * hopCount) :
    (gatewayUndernodeRoute path hopCount).route =
      (List.range hopCount).flatMap fun hop => aschexstr2hex (slice path (8 + 16 * hop) 8) 4 := by
  unfold gatewayUndernodeRoute
  simp only [Nat.mod_eq_of_lt few, some, if_true, arrangeRoutePath, eachHop]
  rw [show hopCount * 16 = path.length by omega, slice_whole]

theorem arranged_inside_iff (path : Bytes) (hopCount : Nat) (some : 0 < hopCount)
    (few : hopCount < 256) (sized : path.length = 16 * hopCount) :
    (∀ copy ∈ (gatewayUndernodeRoute path hopCount).copies, copy.Inside) <-> hopCount ≤ 6 := by
  unfold gatewayUndernodeRoute
  simp only [Nat.mod_eq_of_lt few, some, if_true, arrangeRoutePath, eachHop]
  constructor
  next =>
    intro inside
    have first := inside _ (List.mem_append_left _ (List.mem_cons_self ..))
    simp only [Copy.Inside, routePathSize] at first
    omega
  next =>
    intro six copy among
    simp only [List.cons_append, List.mem_cons, List.mem_append, List.mem_flatMap, List.mem_range,
      List.not_mem_nil, or_false] at among
    rcases among with rfl | rfl | ⟨hop, here, rfl | rfl⟩ | rfl
    all_goals
      simp only [Copy.Inside, routePathSize]
      omega

/-- The route decoders agree on the paths of one to six hops without small letters there. -/
theorem route_decoders_agree_iff (path : Bytes) (hopCount : Nat) (hops : 1 ≤ hopCount)
    (sized : path.length = 16 * hopCount) (hex : HexText path) :
    Agree path hopCount <-> hopCount ≤ 6 /\ PlainHigh path hopCount := by
  have plain (few : hopCount ≤ 6) :
      (gatewayUndernodeRoute path hopCount).route = addresses path hopCount <->
        PlainHigh path hopCount := by
    rw [arranged_route path hopCount hops (by omega) sized, addresses_route path hopCount sized,
      route, flatMap_blocks_eq hopCount 4 _ _ (by simp [aschexstr2hex_four])
        (by simp [hopAddress]), PlainHigh]
    constructor
    next => exact fun same hop here => (aschexstr2hex_hop path hop (by omega) hex).mp (same hop here)
    next => exact fun all hop here => (aschexstr2hex_hop path hop (by omega) hex).mpr (all hop here)
  constructor
  next =>
    intro agree
    have length := congrArg List.length agree.arranged
    rw [addresses_route path hopCount sized, route,
      flatMap_blocks_length hopCount 4 _ (by simp [hopAddress])] at length
    have few : hopCount ≤ 6 := by
      have inside := agree.arrangedInside
      unfold gatewayUndernodeRoute at length inside
      by_cases wrapped : 0 < hopCount % 256
      next =>
        simp only [wrapped, if_true, arrangeRoutePath, eachHop] at length inside
        rw [flatMap_blocks_length _ 4 _ (by simp [aschexstr2hex_four])] at length
        have first := inside _ (List.mem_append_left _ (List.mem_cons_self ..))
        simp only [Copy.Inside, routePathSize] at first
        omega
      next =>
        simp only [wrapped, if_false, List.length_nil] at length
        omega
    exact ⟨few, (plain few).mp agree.arranged⟩
  next =>
    rintro ⟨few, small⟩
    obtain ⟨fetched, fetchedInside⟩ := fetched_addresses path hopCount (by omega) sized
    exact {
      extracted := extracted_addresses path hopCount sized hex
      arranged := (plain few).mpr small
      arrangedInside := (arranged_inside_iff path hopCount hops (by omega) sized).mpr few
      inserted := inserted_addresses path hopCount (by omega)
      insertedInside := inserted_inside path hopCount (by omega) sized
      fetched := fetched
      fetchedInside := fetchedInside }

theorem route_decoders_agree_two_hops :
    (ascii "3CC1F60102030405A1B2C3D4E5F60708").length = 32 /\
    Agree (ascii "3CC1F60102030405A1B2C3D4E5F60708") 2 := by
  refine ⟨by decide, (route_decoders_agree_iff (ascii "3CC1F60102030405A1B2C3D4E5F60708") 2
    (by decide) (by decide) ?_).mpr ⟨by decide, ?_⟩⟩
  next =>
    unfold HexText
    decide +kernel
  next =>
    unfold PlainHigh
    decide +kernel

theorem small_letters_misread :
    HexText (ascii "3cc1f601a1b2c3d4") /\ (ascii "3cc1f601a1b2c3d4").length = 16 /\
    addresses (ascii "3cc1f601a1b2c3d4") 1 = [0xA1, 0xB2, 0xC3, 0xD4] /\
    (gatewayUndernodeRoute (ascii "3cc1f601a1b2c3d4") 1).route = [0x11, 0x22, 0x33, 0x44] /\
    ¬ Agree (ascii "3cc1f601a1b2c3d4") 1 /\ ¬ Agree (List.replicate 112 0x30) 7 := by
  have read : addresses (ascii "3cc1f601a1b2c3d4") 1 = [0xA1, 0xB2, 0xC3, 0xD4] := by
    decide +kernel
  have misread : (gatewayUndernodeRoute (ascii "3cc1f601a1b2c3d4") 1).route =
      [0x11, 0x22, 0x33, 0x44] := by
    decide +kernel
  have hex : HexText (ascii "3cc1f601a1b2c3d4") := by
    unfold HexText
    decide +kernel
  refine ⟨hex, by decide, read, misread, ?_, ?_⟩
  next =>
    intro agree
    have same := agree.arranged
    rw [read, misread] at same
    exact absurd same (by decide)
  next =>
    intro agree
    have inside := agree.arrangedInside
    -- 112 digits are copied into the 100 bytes of route_path
    revert inside
    decide +kernel

end Hes.Routes
