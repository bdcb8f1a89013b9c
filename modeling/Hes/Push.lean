import Mathlib.Data.List.Perm.Subperm
import Mathlib.Data.List.Range
import Mathlib.Data.List.Nodup
import Hes.Dlms

set_option autoImplicit false

namespace Hes.Push

open Dlms

abbrev Mac := Bytes

def proprietaryMacAddress : Bytes := [0x3C, 0xC1, 0xF6, 0x01]

def toMacArray (mac : Bytes) : Mac := proprietaryMacAddress ++ mac

inductive Profile where
  | instantaneous
  | dailyLoad
  | blockLoad
  | billingHistory
  | powerOnEvent
  | powerOffEvent
  deriving DecidableEq, Repr

abbrev Profile.Data : Profile -> Type
  | .blockLoad => BlockLoad
  | _ => DlmsRecordMap

def Profile.empty : (profile : Profile) -> profile.Data
  | .blockLoad => {}
  | .instantaneous | .dailyLoad | .billingHistory | .powerOnEvent | .powerOffEvent => fun _ => none

def Profile.store : (profile : Profile) -> profile.Data -> UInt8 × DlmsValue -> profile.Data
  | .blockLoad => storeBlockRecord
  | .instantaneous | .dailyLoad | .billingHistory | .powerOnEvent | .powerOffEvent => storeRecord

def Profile.clear (profile : Profile) (buffer : PacketBuffer profile.Data) :
    PacketBuffer profile.Data :=
  match profile with
  -- PacketBufferBlockLoad::clear leaves last_packet_time alone
  | .blockLoad => { buffer with totalPacketsReceived := 0, profileData := {} }
  | profile => { profileData := profile.empty }

/-- The memory from the start of the frame on, and the length the splitter read. -/
structure Packet where
  buff : Bytes
  length : Nat
  deriving DecidableEq, Repr

namespace Packet

variable (packet : Packet)

def pmeshLength : UInt8 := byteAt packet.buff 1

def destinationAddr : Bytes := slice packet.buff 11 4

def dlmsDataLength : Nat := bigEndian (slice packet.buff 18 2)

def currentPageIndex : UInt8 := byteAt packet.buff 20

def frameId : UInt8 := byteAt packet.buff 21

def command : UInt8 := byteAt packet.buff 22

def nextPageStatus : UInt8 := byteAt packet.buff 24

def noOfRecords : UInt8 := byteAt packet.buff 25

def data : Bytes := slice packet.buff 0 packet.length

def checksumMatches : Bool :=
  byteAt packet.buff packet.pmeshLength.toNat ==
    calculateChecksum packet.buff pmeshHeaderSize packet.dlmsDataLength

def mac : Mac := toMacArray packet.destinationAddr

def parses : Bool := Dlms.parses packet.data packet.noOfRecords

end Packet

/-- `push_node_info`: a node that no packet named yet has the default buffers. -/
structure PushData where
  pushNodeInfo : Mac -> (profile : Profile) -> PacketBuffer profile.Data :=
    fun _ profile => { profileData := profile.empty }

structure Insert where
  profile : Profile
  mac : Mac
  lastPage : UInt8
  buffer : PacketBuffer profile.Data

def PushData.setBuffer (state : PushData) (mac : Mac) (profile : Profile)
    (buffer : PacketBuffer profile.Data) : PushData :=
  { pushNodeInfo := Function.update state.pushNodeInfo mac
      (Function.update (state.pushNodeInfo mac) profile buffer) }

def acceptPacket (profile : Profile) (packet : Packet) (now : Int)
    (buffer : PacketBuffer profile.Data) : PacketBuffer profile.Data :=
  let parsed := parseRecordsInto profile.store packet.data packet.noOfRecords buffer
  if parsed.1 then
    { parsed.2 with
      lastPacketTime := now
      totalPacketsReceived := parsed.2.totalPacketsReceived + 1 }
  else parsed.2

/-- The body the six handlers share; the last page either inserts and clears or only clears. -/
def processProfile (profile : Profile) (state : PushData) (packet : Packet) (now : Int) :
    PushData × Option Insert :=
  if packet.checksumMatches = false then (state, none)
  else
    let merged := acceptPacket profile packet now (state.pushNodeInfo packet.mac profile)
    if packet.nextPageStatus = 0 then
      (state.setBuffer packet.mac profile (profile.clear merged),
        if merged.totalPacketsReceived = packet.currentPageIndex.toNat + 1 then
          some { profile := profile, mac := packet.mac, lastPage := packet.currentPageIndex,
                 buffer := merged }
        else none)
    else (state.setBuffer packet.mac profile merged, none)

def processIPPushData := processProfile .instantaneous

def processDLPPushData := processProfile .dailyLoad

def processBLPPushData := processProfile .blockLoad

def processBHPPushData := processProfile .billingHistory

def processPowerOnEvent := processProfile .powerOnEvent

def processPowerOffEvent := processProfile .powerOffEvent

def processPushData (state : PushData) (packet : Packet) (now : Int) : PushData × Option Insert :=
  match packet.frameId with
  | 0x0E =>
    match packet.command with
    | 0x01 => processIPPushData state packet now
    | 0x04 => processBLPPushData state packet now
    | 0x03 => processDLPPushData state packet now
    | 0x02 => processBHPPushData state packet now
    | _ => (state, none)
  | 0x10 => processPowerOnEvent state packet now
  | 0x11 => processPowerOffEvent state packet now
  | _ => (state, none)

/-- Two minutes, in the nanoseconds of the system clock. -/
def timeout : Int := 120000000000

def expired {T : Type} (now : Int) (buffer : PacketBuffer T) : Bool :=
  decide (0 < buffer.totalPacketsReceived) && decide (timeout < now - buffer.lastPacketTime)

def cleanupPushProfiles (state : PushData) (now : Int) : PushData :=
  { pushNodeInfo := fun mac profile =>
      let buffer := state.pushNodeInfo mac profile
      if expired now buffer then profile.clear buffer else buffer }

inductive Event where
  | packet (packet : Packet) (now : Int)
  | cleanup (now : Int)
  deriving DecidableEq, Repr

def step (state : PushData) : Event -> PushData × Option Insert
  | .packet packet now => processPushData state packet now
  | .cleanup now => (cleanupPushProfiles state now, none)

/-- The handler a packet reaches. -/
def Packet.route (packet : Packet) : Option Profile :=
  match packet.frameId with
  | 0x0E =>
    match packet.command with
    | 0x01 => some .instantaneous
    | 0x04 => some .blockLoad
    | 0x03 => some .dailyLoad
    | 0x02 => some .billingHistory
    | _ => none
  | 0x10 => some .powerOnEvent
  | 0x11 => some .powerOffEvent
  | _ => none

def Packet.BelongsTo (packet : Packet) (mac : Mac) (profile : Profile) : Prop :=
  packet.checksumMatches = true /\ packet.mac = mac /\ packet.route = some profile

instance (packet : Packet) (mac : Mac) (profile : Profile) :
    Decidable (packet.BelongsTo mac profile) :=
  inferInstanceAs (Decidable (_ /\ _ /\ _))

/-- The packets of one buffer since it was last cleared, kept beside the state they explain. -/
abbrev History := Mac -> Profile -> List Packet

def historyStep (state : PushData) (history : History) : Event -> History
  | .packet packet _ => fun mac profile =>
      if packet.BelongsTo mac profile then
        if packet.nextPageStatus = 0 then [] else history mac profile ++ [packet]
      else history mac profile
  | .cleanup now => fun mac profile =>
      if expired now (state.pushNodeInfo mac profile) then [] else history mac profile

structure Observed where
  push : PushData := {}
  since : History := fun _ _ => []

def Observed.next (observed : Observed) (event : Event) : Observed :=
  { push := (step observed.push event).1
    since := historyStep observed.push observed.since event }

def observe (events : List Event) : Observed := events.foldl Observed.next {}

/-- What the packets merge to when an empty buffer takes them in turn. -/
def merge (profile : Profile) (packets : List Packet) : profile.Data :=
  packets.foldl (fun content packet => (storedRecords packet.data).foldl profile.store content)
    profile.empty

/-- The buffer holds the records of pages 0 to the last one, each from one packet that parsed. -/
def Insert.Sound (insert : Insert) (since : List Packet) : Prop :=
  exists pages : List Packet, pages.Sublist since /\
    (∀ packet ∈ pages, packet.BelongsTo insert.mac insert.profile /\ packet.parses = true) /\
    (pages.map fun packet => packet.currentPageIndex.toNat).Perm
      (List.range (insert.lastPage.toNat + 1)) /\
    insert.buffer.profileData = merge insert.profile pages

/-- No duplicate page, no page beyond the last one, and nothing left by packets that failed. -/
structure Complete (profile : Profile) (since : List Packet) (lastPage : UInt8) : Prop where
  distinct : ((since.filter Packet.parses).map fun packet => packet.currentPageIndex.toNat).Nodup
  within : ∀ packet ∈ since, packet.parses = true ->
    packet.currentPageIndex.toNat ≤ lastPage.toNat
  clean : merge profile since = merge profile (since.filter Packet.parses)

theorem failing_stores_nothing_clean (profile : Profile) (since : List Packet)
    (quiet : ∀ packet ∈ since, packet.parses = false -> storedRecords packet.data = []) :
    merge profile since = merge profile (since.filter Packet.parses) := by
  unfold merge
  generalize profile.empty = content
  induction since generalizing content with
  | nil => rfl
  | cons packet rest ih =>
    have later := ih fun other inside => quiet other (List.mem_cons_of_mem packet inside)
    cases parsed : packet.parses with
    | true => simp only [List.foldl_cons, List.filter_cons, parsed, if_true, later]
    | false =>
      have nothing := quiet packet List.mem_cons_self parsed
      simp [parsed, nothing, later]

structure Explained (profile : Profile) (buffer : PacketBuffer profile.Data)
    (since : List Packet) : Prop where
  counted : buffer.totalPacketsReceived = (since.filter Packet.parses).length
  merged : buffer.profileData = merge profile since

def Observed.Valid (observed : Observed) : Prop :=
  forall mac profile,
    Explained profile (observed.push.pushNodeInfo mac profile) (observed.since mac profile) /\
    ∀ packet ∈ observed.since mac profile, packet.BelongsTo mac profile

theorem acceptPacket_explained (profile : Profile) (packet : Packet) (now : Int)
    (buffer : PacketBuffer profile.Data) (since : List Packet)
    (explained : Explained profile buffer since) :
    Explained profile (acceptPacket profile packet now buffer) (since ++ [packet]) := by
  have content : (acceptPacket profile packet now buffer).profileData =
      merge profile (since ++ [packet]) := by
    cases parsed : parses packet.data packet.noOfRecords <;>
      simp [acceptPacket, parseRecordsInto, merge, parsed, explained.merged]
  refine ⟨?_, content⟩
  cases parsed : packet.parses <;>
    simp_all [acceptPacket, parseRecordsInto, Packet.parses, explained.counted]

theorem clear_explained (profile : Profile) (buffer : PacketBuffer profile.Data) :
    Explained profile (profile.clear buffer) [] := by
  cases profile <;> constructor <;> rfl

@[simp]
theorem setBuffer_same (state : PushData) (mac : Mac) (profile : Profile)
    (buffer : PacketBuffer profile.Data) :
    (state.setBuffer mac profile buffer).pushNodeInfo mac profile = buffer := by
  simp [PushData.setBuffer]

theorem setBuffer_other (state : PushData) (mac other : Mac) (profile kind : Profile)
    (buffer : PacketBuffer profile.Data) (different : ¬ (other = mac /\ kind = profile)) :
    (state.setBuffer mac profile buffer).pushNodeInfo other kind =
      state.pushNodeInfo other kind := by
  by_cases same : other = mac
  next =>
    have distinct : kind ≠ profile := fun equal => different ⟨same, equal⟩
    simp [PushData.setBuffer, same, distinct]
  next => simp [PushData.setBuffer, same]

theorem processPushData_routed (state : PushData) (packet : Packet) (now : Int) :
    processPushData state packet now =
      match packet.route with
      | some profile => processProfile profile state packet now
      | none => (state, none) := by
  unfold processPushData Packet.route
  split <;> try rfl
  split <;> rfl

theorem processProfile_buffer (profile : Profile) (state : PushData) (packet : Packet) (now : Int)
    (intact : packet.checksumMatches = true) :
    (processProfile profile state packet now).1.pushNodeInfo packet.mac profile =
      let merged := acceptPacket profile packet now (state.pushNodeInfo packet.mac profile)
      if packet.nextPageStatus = 0 then profile.clear merged else merged := by
  by_cases last : packet.nextPageStatus = 0 <;> simp [processProfile, intact, last]

theorem processProfile_elsewhere (profile kind : Profile) (state : PushData) (packet : Packet)
    (now : Int) (mac : Mac)
    (other : ¬ (packet.checksumMatches = true /\ packet.mac = mac /\ profile = kind)) :
    (processProfile profile state packet now).1.pushNodeInfo mac kind =
      state.pushNodeInfo mac kind := by
  cases intact : packet.checksumMatches with
  | false => simp [processProfile, intact]
  | true =>
    have different : ¬ (mac = packet.mac /\ kind = profile) := by
      rintro ⟨rfl, rfl⟩
      exact other ⟨intact, rfl, rfl⟩
    by_cases last : packet.nextPageStatus = 0 <;>
      simp [processProfile, intact, last, setBuffer_other _ _ _ _ _ _ different]

theorem processPushData_elsewhere (state : PushData) (packet : Packet) (now : Int) (mac : Mac)
    (profile : Profile) (foreign : ¬ packet.BelongsTo mac profile) :
    (processPushData state packet now).1.pushNodeInfo mac profile =
      state.pushNodeInfo mac profile := by
  rw [processPushData_routed]
  cases routed : packet.route with
  | none => rfl
  | some kind =>
    refine processProfile_elsewhere kind profile state packet now mac ?_
    rintro ⟨intact, here, rfl⟩
    exact foreign ⟨intact, here, routed⟩

theorem initial_valid : Observed.Valid {} := by
  intro mac profile
  exact ⟨⟨rfl, rfl⟩, by simp⟩

theorem packet_valid (observed : Observed) (valid : observed.Valid) (packet : Packet) (now : Int) :
    (observed.next (.packet packet now)).Valid := by
  intro mac profile
  obtain ⟨explained, belong⟩ := valid mac profile
  by_cases mine : packet.BelongsTo mac profile
  next =>
    obtain ⟨intact, rfl, routed⟩ := mine
    have here : packet.BelongsTo packet.mac profile := ⟨intact, rfl, routed⟩
    have accepted := acceptPacket_explained profile packet now _ _ explained
    have after := processProfile_buffer profile observed.push packet now intact
    simp only [Observed.next, step, historyStep, processPushData_routed, routed, after, here, if_true]
    by_cases last : packet.nextPageStatus = 0
    next => simpa [last] using clear_explained profile _
    next =>
      simp only [last, if_false]
      refine ⟨accepted, ?_⟩
      intro other inside
      rcases List.mem_append.mp inside with earlier | newest
      next => exact belong other earlier
      next => exact List.mem_singleton.mp newest ▸ here
  next =>
    have unchanged := processPushData_elsewhere observed.push packet now mac profile mine
    simpa only [Observed.next, step, historyStep, unchanged, mine, if_false] using
      And.intro explained belong

theorem cleanup_valid (observed : Observed) (valid : observed.Valid) (now : Int) :
    (observed.next (.cleanup now)).Valid := by
  intro mac profile
  simp only [Observed.next, step, historyStep, cleanupPushProfiles]
  cases gone : expired now (observed.push.pushNodeInfo mac profile) with
  | true => simpa using clear_explained profile _
  | false => simpa using valid mac profile

theorem observe_valid (events : List Event) : (observe events).Valid := by
  unfold observe
  have run : forall observed : Observed, observed.Valid ->
      (events.foldl Observed.next observed).Valid := by
    induction events with
    | nil => exact fun _ valid => valid
    | cons event rest ih =>
      intro observed valid
      cases event with
      | packet packet now => exact ih _ (packet_valid observed valid packet now)
      | cleanup now => exact ih _ (cleanup_valid observed valid now)
  exact run {} initial_valid

theorem insert_cases (state : PushData) (packet : Packet) (now : Int) (insert : Insert)
    (inserted : (processPushData state packet now).2 = some insert) :
    packet.BelongsTo insert.mac insert.profile /\ insert.lastPage = packet.currentPageIndex /\
      insert.buffer = acceptPacket insert.profile packet now
        (state.pushNodeInfo insert.mac insert.profile) /\
      insert.buffer.totalPacketsReceived = insert.lastPage.toNat + 1 := by
  rw [processPushData_routed] at inserted
  cases routed : packet.route with
  | none => simp [routed] at inserted
  | some profile =>
    cases intact : packet.checksumMatches with
    | false => simp [routed, processProfile, intact] at inserted
    | true =>
      simp only [routed, processProfile, intact] at inserted
      split at inserted
      next impossible => simp at impossible
      next =>
        split at inserted
        next =>
          split at inserted
          next counted =>
            have same := Option.some.inj inserted
            subst same
            exact ⟨⟨intact, rfl, routed⟩, rfl, rfl, counted⟩
          next => simp at inserted
        next => simp at inserted

theorem counted_last_page_inserts (events : List Event) (packet : Packet) (now : Int)
    (profile : Profile) (here : packet.BelongsTo packet.mac profile)
    (last : packet.nextPageStatus = 0)
    (counted : (((observe events).since packet.mac profile ++ [packet]).filter
      Packet.parses).length = packet.currentPageIndex.toNat + 1) :
    exists insert, (step (observe events).push (.packet packet now)).2 = some insert /\
      insert.profile = profile /\ insert.mac = packet.mac /\
      insert.lastPage = packet.currentPageIndex := by
  have explained := (observe_valid events packet.mac profile).1
  have accepted := acceptPacket_explained profile packet now _ _ explained
  have received := accepted.counted.trans counted
  simp only [step, processPushData_routed, here.2.2, processProfile, here.1, last, received, if_true,
    Bool.true_eq_false, if_false]
  exact ⟨_, rfl, rfl, rfl, rfl⟩

theorem successful_pages_exact (pages : List Nat) (last : Nat) (count : pages.length = last + 1) :
    pages.Perm (List.range (last + 1)) <-> pages.Nodup /\ ∀ page ∈ pages, page ≤ last := by
  constructor
  next =>
    intro same
    refine ⟨same.nodup_iff.mpr List.nodup_range, ?_⟩
    intro page inside
    have bounded := List.mem_range.mp (same.mem_iff.mp inside)
    omega
  next =>
    rintro ⟨distinct, bounded⟩
    have subset : pages ⊆ List.range (last + 1) := by
      intro page inside
      have within := bounded page inside
      exact List.mem_range.mpr (by omega)
    have contained := List.subperm_of_subset distinct subset
    exact contained.perm_of_length_le (by simp [count])

/-- An instantaneous page of node 01020304 with one record of type UINT8. -/
def instantaneousPage (page nextPage recordId value : UInt8) : Packet :=
  let dlms := [0x2C, 0x00, 0x0D, page, 0x0E, 0x01, 0x00, nextPage, 0x01,
    recordId, 0x00, 0x11, value]
  { buff := [0x2E, 0x1E, 0x00, 0, 0, 0, 0, 0, 0, 0, 0, 1, 2, 3, 4, 0, 0] ++ dlms ++
      [calculateChecksum dlms 0 13]
    length := 31 }

/-- An insert is sound exactly when the packets behind it are complete, after any events. -/
theorem push_insert_sound_iff (events : List Event) (packet : Packet) (now : Int) (insert : Insert)
    (inserted : (step (observe events).push (.packet packet now)).2 = some insert) :
    let since := (observe events).since insert.mac insert.profile ++ [packet]
    insert.Sound since <-> Complete insert.profile since insert.lastPage := by
  intro since
  obtain ⟨here, -, merged, counted⟩ := insert_cases _ _ _ _ inserted
  obtain ⟨explained, belong⟩ := observe_valid events insert.mac insert.profile
  have accepted : Explained insert.profile insert.buffer since :=
    merged ▸ acceptPacket_explained insert.profile packet now _ _ explained
  have count : (since.filter Packet.parses).length = insert.lastPage.toNat + 1 :=
    accepted.counted ▸ counted
  have pagesExact := successful_pages_exact
    ((since.filter Packet.parses).map fun packet => packet.currentPageIndex.toNat)
    insert.lastPage.toNat (by simpa using count)
  constructor
  next =>
    rintro ⟨pages, sublist, good, permuted, content⟩
    -- as many successful packets as pages: the sublist can only be all of them
    have chosen : pages = since.filter Packet.parses := by
      have filtered : pages.filter Packet.parses = pages :=
        List.filter_eq_self.mpr fun page inside => (good page inside).2
      have contained : pages.Sublist (since.filter Packet.parses) :=
        filtered ▸ sublist.filter Packet.parses
      have size : pages.length = insert.lastPage.toNat + 1 := by
        simpa using permuted.length_eq
      exact contained.eq_of_length (by omega)
    subst chosen
    obtain ⟨distinct, bounded⟩ := pagesExact.mp permuted
    refine ⟨distinct, ?_, accepted.merged ▸ content⟩
    intro page inside parsed
    exact bounded _ (List.mem_map.mpr ⟨page, List.mem_filter.mpr ⟨inside, parsed⟩, rfl⟩)
  next =>
    intro complete
    refine ⟨since.filter Packet.parses, List.filter_sublist, ?_, pagesExact.mpr ⟨complete.distinct, ?_⟩,
      accepted.merged.trans complete.clean⟩
    next =>
      intro page inside
      obtain ⟨member, parsed⟩ := List.mem_filter.mp inside
      rcases List.mem_append.mp member with earlier | newest
      next => exact ⟨belong page earlier, parsed⟩
      next => exact ⟨List.mem_singleton.mp newest ▸ here, parsed⟩
    next =>
      intro page inside
      obtain ⟨source, member, rfl⟩ := List.mem_map.mp inside
      obtain ⟨present, parsed⟩ := List.mem_filter.mp member
      exact complete.within source present parsed

theorem push_insert_sound_two_pages :
    exists insert, (step (observe [.packet (instantaneousPage 0 1 5 7) 0]).push
        (.packet (instantaneousPage 1 0 6 8) 1)).2 = some insert /\
      insert.Sound [instantaneousPage 0 1 5 7, instantaneousPage 1 0 6 8] := by
  obtain ⟨insert, inserted, profile, mac, last⟩ := counted_last_page_inserts
    [.packet (instantaneousPage 0 1 5 7) 0] (instantaneousPage 1 0 6 8) 1 .instantaneous
    (by decide) (by decide) (by decide)
  have since : (observe [.packet (instantaneousPage 0 1 5 7) 0]).since insert.mac insert.profile =
      [instantaneousPage 0 1 5 7] := by
    rw [profile, mac]
    rfl
  have exact_iff := push_insert_sound_iff [.packet (instantaneousPage 0 1 5 7) 0]
    (instantaneousPage 1 0 6 8) 1 insert inserted
  rw [since, last] at exact_iff
  refine ⟨insert, inserted, exact_iff.mpr ⟨by decide, by decide, ?_⟩⟩
  exact failing_stores_nothing_clean _ _ (by decide)

/-- Page 0 arrives twice and page 1 never: three packets pass for pages 0 to 2. -/
theorem duplicate_page_inserted :
    exists events packet now insert, (step (observe events).push (.packet packet now)).2 =
        some insert /\
      ¬ insert.Sound ((observe events).since insert.mac insert.profile ++ [packet]) := by
  let events : List Event := [.packet (instantaneousPage 0 1 5 7) 0,
    .packet (instantaneousPage 0 1 5 7) 1]
  obtain ⟨insert, inserted, profile, mac, last⟩ := counted_last_page_inserts events
    (instantaneousPage 2 0 7 9) 2 .instantaneous (by decide) (by decide) (by decide)
  refine ⟨events, instantaneousPage 2 0 7 9, 2, insert, inserted, ?_⟩
  have since : (observe events).since insert.mac insert.profile =
      [instantaneousPage 0 1 5 7, instantaneousPage 0 1 5 7] := by
    rw [profile, mac]
    rfl
  rw [since]
  rintro ⟨pages, sublist, -, permuted, -⟩
  have needed : 1 ∈ pages.map fun packet => packet.currentPageIndex.toNat := by
    refine permuted.mem_iff.mpr ?_
    rw [last]
    decide
  obtain ⟨page, inside, index⟩ := List.mem_map.mp needed
  have absent : ∀ packet ∈ [instantaneousPage 0 1 5 7, instantaneousPage 0 1 5 7] ++
      [instantaneousPage 2 0 7 9], packet.currentPageIndex.toNat ≠ 1 := by decide
  exact absent page (sublist.subset inside) index

end Hes.Push
