import Hes.Push
import Hes.PushRecords

set_option autoImplicit false

namespace Hes.PushRecords

open Dlms Decoders Push

/-- The records of a capture: the one with id 0x06 ends it. -/
structure Block where
  records : List Record
  last : Record
  partway : ∀ record ∈ records, record.index ≠ 0x06
  ends : last.index = 0x06
  complete : ∀ record ∈ records ++ [last], Complete record

namespace Block

def all (block : Block) : List Record := block.records ++ [block.last]

/-- What the map of the block holds: the last value of an id. -/
def recordMap (block : Block) : DlmsRecordMap :=
  (block.all.map stored).foldl storeRecord fun _ => none

end Block

/-- A page as it is received, with the count of records that its header announces. -/
structure Page where
  headers : Bytes
  records : List Record
  checksum : UInt8
  numberOfRecords : UInt8
  whole : headers.length = recordsStart

namespace Page

def data (page : Page) : Bytes := page.headers ++ (encodeAll page.records ++ [page.checksum])

end Page

def feedPages (pages : List Page) (buffer : PacketBuffer BlockLoad) : PacketBuffer BlockLoad :=
  pages.foldl (fun buffer page =>
    (parseBlockLoadDLMSRecords page.data page.numberOfRecords buffer).2) buffer

/-- A page stores its records, wherever a block begins or ends in it. -/
theorem page_stored (page : Page) (complete : ∀ record ∈ page.records, Complete record) :
    storedRecords page.data = page.records.map stored := by
  have long : ¬ page.data.length < pmeshHeaderSize + dlmsHeaderSize := by
    have whole : page.headers.length = pmeshHeaderSize + dlmsHeaderSize := page.whole
    simp only [Page.data, List.length_append]
    omega
  have enough : page.records.length < page.data.length := by
    have many := encodeAll_length page.records
    simp only [Page.data, List.length_append, List.length_singleton]
    omega
  have read := pushRecords_encodeAll page.checksum page.headers page.records page.data.length enough
    fun record among => (complete record among).1
  have supported : page.records.takeWhile (fun record => pushSupports record.type) = page.records := by
    rw [List.takeWhile_eq_self_iff]
    exact fun record among => (complete record among).2
  rw [supported, page.whole] at read
  rw [storedRecords, if_neg long, recordsFrom_raw]
  exact congrArg _ read

theorem feedPages_flatten (pages : List Page) (buffer : PacketBuffer BlockLoad)
    (complete : ∀ page ∈ pages, ∀ record ∈ page.records, Complete record) :
    (feedPages pages buffer).profileData =
      ((pages.flatMap Page.records).map stored).foldl storeBlockRecord buffer.profileData := by
  induction pages generalizing buffer with
  | nil => rfl
  | cons page rest ih =>
    have first := page_stored page (complete page (List.mem_cons_self ..))
    have behind := ih (parseBlockLoadDLMSRecords page.data page.numberOfRecords buffer).2
      fun other among => complete other (List.mem_cons_of_mem page among)
    rw [feedPages, List.foldl_cons]
    change (feedPages rest _).profileData = _
    rw [behind, List.flatMap_cons, List.map_append, List.foldl_append]
    simp only [parseBlockLoadDLMSRecords, parseRecordsInto, first]

theorem block_completed (block : Block) (completed : List DlmsRecordMap) :
    (block.all.map stored).foldl storeBlockRecord { profilesData := completed } =
      { profilesData := completed ++ [block.recordMap] } := by
  have partway : ∀ record ∈ block.records.map stored, record.1 ≠ 0x06 := by
    intro record among
    obtain ⟨source, inside, rfl⟩ := List.mem_map.mp among
    exact block.partway source inside
  have ends : (stored block.last).1 = 0x06 := block.ends
  have map : block.recordMap = storeRecord
      ((block.records.map stored).foldl storeRecord fun _ => none) (stored block.last) := by
    simp [Block.recordMap, Block.all]
  rw [Block.all, List.map_append, List.foldl_append,
    foldl_storeBlockRecord_partway _ _ partway, map]
  simp [storeBlockRecord, ends]

theorem blocks_completed (blocks : List Block) (completed : List DlmsRecordMap) :
    ((blocks.flatMap Block.all).map stored).foldl storeBlockRecord { profilesData := completed } =
      { profilesData := completed ++ blocks.map Block.recordMap } := by
  induction blocks generalizing completed with
  | nil => simp
  | cons block rest ih =>
    rw [List.flatMap_cons, List.map_append, List.foldl_append, block_completed, ih]
    simp

/-- However the records of the blocks are cut into pages, the pages leave the blocks' maps. -/
theorem blocks_kept_by_pages (blocks : List Block) (pages : List Page)
    (cut : pages.flatMap Page.records = blocks.flatMap Block.all) (buffer : PacketBuffer BlockLoad) :
    (feedPages pages (Profile.blockLoad.clear buffer)).profileData =
      { profilesData := blocks.map Block.recordMap, partialProfile := fun _ => none } := by
  have complete : ∀ page ∈ pages, ∀ record ∈ page.records, Complete record := by
    intro page among record inside
    have present : record ∈ pages.flatMap Page.records := List.mem_flatMap.mpr ⟨page, among, inside⟩
    rw [cut] at present
    obtain ⟨block, _, here⟩ := List.mem_flatMap.mp present
    exact block.complete record here
  have cleared : (Profile.blockLoad.clear buffer).profileData = {} := rfl
  rw [feedPages_flatten pages _ complete, cut, cleared, blocks_completed]
  rfl

/-- A block of two records, cut between them. -/
def halvedBlock : Block where
  records := [{ index := 0x01, type := 0x11, bytes := [0x05] }]
  last := { index := 0x06, type := 0x12, bytes := [0x00, 0x07] }
  partway := by decide
  ends := rfl
  complete := by simp [Complete, Record.WellFormed, shape, pushSupports]

def halfPage (record : Record) : Page where
  headers := List.replicate recordsStart 0
  records := [record]
  checksum := 0
  numberOfRecords := 1
  whole := List.length_replicate

theorem block_kept_by_two_pages :
    (feedPages [halfPage { index := 0x01, type := 0x11, bytes := [0x05] },
        halfPage { index := 0x06, type := 0x12, bytes := [0x00, 0x07] }]
      (Profile.blockLoad.clear { profileData := {} })).profileData =
      { profilesData := [halvedBlock.recordMap], partialProfile := fun _ => none } :=
  blocks_kept_by_pages [halvedBlock] _ rfl { profileData := {} }

end Hes.PushRecords
