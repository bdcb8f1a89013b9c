import Mathlib.Data.List.Find
import Hes.CommandFrames
import Hes.Lib.BoundedQueue
import Hes.Mqtt
import Hes.OdmProfiles

set_option autoImplicit false

namespace Hes.NodeQueues

open BoundedQueue CommandFrames Mqtt Text

/-- What a query brings back: nothing at all, no result set, or its rows. -/
inductive Answer (A : Type) where
  | failed
  | noResult
  | rows (content : A)
  deriving DecidableEq, Repr

/-- A text without a number counts as zero. -/
def atoi (text : Bytes) : Int :=
  match signedNumber 10 text with
  | none => 0
  | some (negative, value) => if negative then -(value : Int) else value

/-- Bytes copied from a block; `behind` is what the memory behind its end holds. -/
def memcpy (behind : Bytes -> Nat -> UInt8) (block : Bytes) (count : Nat) : Bytes :=
  (List.range count).map fun index => block.getD index (behind block index)

/-- A cell of a row is absent when the column is NULL. -/
structure RouteRow where
  path : Option Bytes
  hopCount : Option Bytes
  targetMacAddress : Option Bytes
  deriving DecidableEq, Repr

structure SilencedRow where
  meterMacAddress : Option Bytes
  fuotaStatus : Option Bytes
  deriving DecidableEq, Repr

/-- A copy of a path into a queue element: the block read and the number of bytes read. -/
structure PathCopy where
  block : Bytes
  count : Nat
  deriving DecidableEq, Repr

def PathCopy.Inside (copy : PathCopy) : Prop := copy.count ≤ copy.block.length

structure Queues where
  pathSrcRouteQueue : List NodeRecord := []
  silencedNDQueue : List NodeRecord := []
  copies : List PathCopy := []
  deriving DecidableEq, Repr

def maxQueued : Nat := 50

def silenceND (behind : Bytes -> Nat -> UInt8) (macAddress : Bytes) (length : Nat) (path : Bytes)
    (pathLen hop : UInt8) : NodeRecord :=
  { macAddress := memcpy behind macAddress length
    pathRecord := memcpy behind path pathLen.toNat
    hopCount := hop }

/-- The loop over the hops of a path; `fuel` bounds its rounds. -/
def copyHops (rawPath : Bytes) (totalLength : Nat) : Nat -> Nat -> Bytes
  | 0, _ => []
  | fuel + 1, copyStart =>
    if copyStart + 8 ≤ totalLength /\ copyStart < rawPath.length then
      ((List.range 8).filterMap fun i => rawPath[copyStart + i]?) ++
        copyHops rawPath totalLength fuel (copyStart + 16)
    else []

def destAddress (rawPath : Bytes) (hopCount : UInt8) : Bytes :=
  let totalLength := hopCount.toNat * 16
  let extracted := copyHops rawPath totalLength totalLength 8 ++ [0]
  -- The cut leaves the announced length as it is.
  if 65 < extracted.length then extracted.take 64 ++ [0] else extracted

def fetchRow (behind : Bytes -> Nat -> UInt8) (queues : Queues) (row : RouteRow) : Queues :=
  match row.path, row.hopCount, row.targetMacAddress with
  | some rawPath, some hopText, some macText =>
    let hopCount := toUInt8 (atoi hopText)
    let meterMac := memcpy behind macText 16 ++ [0]
    let address := destAddress rawPath hopCount
    { queues with
      pathSrcRouteQueue := enqueue maxQueued queues.pathSrcRouteQueue
        (silenceND behind meterMac 16 address (hopCount * 8) hopCount)
      copies := queues.copies ++ [{ block := address, count := (hopCount * 8).toNat }] }
  | _, _, _ => queues

def fetchPathRecordFromSrcRouteNetworkDb (behind : Bytes -> Nat -> UInt8)
    (answer : Answer (List RouteRow)) (queues : Queues) : Code × Queues :=
  match answer with
  | .failed => (.failure, queues)
  | .noResult => (.failure, queues)
  | .rows rows => (.success, rows.foldl (fetchRow behind) queues)

def checkRow (behind : Bytes -> Nat -> UInt8) (queues : Queues) (row : SilencedRow) : Queues :=
  match row.meterMacAddress, row.fuotaStatus with
  | some macText, some statusText =>
    if toUInt8 (atoi statusText) = 0 then queues
    else
      let target := memcpy behind macText 16 ++ [0]
      match queues.pathSrcRouteQueue.find? fun record =>
          record.macAddress.take 16 == target.take 16 with
      | none => queues
      | some record =>
        { queues with
          silencedNDQueue := enqueue maxQueued queues.silencedNDQueue
            (silenceND behind target 16 record.pathRecord (record.hopCount * 8) record.hopCount)
          copies := queues.copies ++
            [{ block := record.pathRecord, count := (record.hopCount * 8).toNat }] }
  | _, _ => queues

def checkForUnsilencedNodes (behind : Bytes -> Nat -> UInt8) (answer : Answer (List SilencedRow))
    (queues : Queues) : Code × Queues :=
  match answer with
  | .failed => (.failure, queues)
  | .noResult => (.success, queues)
  | .rows rows => (.success, rows.foldl (checkRow behind) queues)

/-- Both fetches over one database, starting from empty queues. -/
def unsilenceQueues (behind : Bytes -> Nat -> UInt8) (routes : List RouteRow)
    (silenced : List SilencedRow) : Queues :=
  (checkForUnsilencedNodes behind (.rows silenced)
    (fetchPathRecordFromSrcRouteNetworkDb behind (.rows routes) {}).2).2

/-- A connected node as its row describes it. -/
structure Connected where
  node : Bytes
  hops : UInt8
  rawPath : Bytes
  deriving DecidableEq, Repr

/-- The row holds every hop it announces, and no more of them than a queue element takes. -/
def Connected.Whole (connected : Connected) : Prop :=
  connected.hops.toNat ≤ 8 /\ 16 * connected.hops.toNat ≤ connected.rawPath.length

/-- The last four bytes of each hop, as text. -/
def Connected.completePath (connected : Connected) : Bytes :=
  (List.range connected.hops.toNat).flatMap fun hop => (connected.rawPath.drop (16 * hop + 8)).take 8

def RouteRow.connected (behind : Bytes -> Nat -> UInt8) (row : RouteRow) : Option Connected :=
  match row.path, row.hopCount, row.targetMacAddress with
  | some rawPath, some hopText, some macText =>
    some { node := memcpy behind macText 16, hops := toUInt8 (atoi hopText), rawPath := rawPath }
  | _, _, _ => none

def SilencedRow.wanted (behind : Bytes -> Nat -> UInt8) (row : SilencedRow) : Option Bytes :=
  match row.meterMacAddress, row.fuotaStatus with
  | some macText, some statusText =>
    if toUInt8 (atoi statusText) = 0 then none else some (memcpy behind macText 16)
  | _, _ => none

/-- The rows that still have their place in the queue of routes. -/
def connectedNodes (behind : Bytes -> Nat -> UInt8) (routes : List RouteRow) : List Connected :=
  newest maxQueued (routes.filterMap (RouteRow.connected behind))

/-- The first row of each wanted node, in the order in which the nodes are wanted. -/
def matched (behind : Bytes -> Nat -> UInt8) (routes : List RouteRow)
    (silenced : List SilencedRow) : List Connected :=
  (silenced.filterMap (SilencedRow.wanted behind)).filterMap fun node =>
    (connectedNodes behind routes).find? fun connected => connected.node == node

structure Carries (entry : NodeRecord) (connected : Connected) : Prop where
  node : entry.macAddress = connected.node
  hops : entry.hopCount = connected.hops
  path : connected.Whole -> entry.pathRecord = connected.completePath

section Copies

variable (behind : Bytes -> Nat -> UInt8)

@[simp] theorem memcpy_length (block : Bytes) (count : Nat) :
    (memcpy behind block count).length = count := by
  simp [memcpy]

theorem memcpy_inside (block : Bytes) (count : Nat) (inside : count ≤ block.length) :
    memcpy behind block count = block.take count := by
  -- a copy that ends inside its block does not depend on what stands behind
  apply List.ext_getElem
  next => simp [inside]
  next =>
    intro index within _
    have available : index < block.length := by simp at within; omega
    simp [memcpy, List.getD_eq_getElem?_getD, List.getElem?_eq_getElem available]

theorem memcpy_terminated (block : Bytes) (count : Nat) (exact : block.length = count) :
    memcpy behind (block ++ [0]) count = block := by
  rw [memcpy_inside _ _ _ (by simp; omega), ← exact, List.take_left']
  rfl

end Copies

theorem hop_bytes (rawPath : Bytes) (start : Nat) :
    ((List.range 8).filterMap fun i => rawPath[start + i]?) = (rawPath.drop start).take 8 := by
  rw [show ((rawPath.drop start).take 8) =
    (List.range 8).filterMap fun i => (rawPath.drop start)[i]? from ?_]
  next => simp only [List.getElem?_drop]
  next =>
    generalize rawPath.drop start = rest
    rcases rest with _ | ⟨a, _ | ⟨b, _ | ⟨c, _ | ⟨d, _ | ⟨e, _ | ⟨f, _ | ⟨g, _ | ⟨h, rest⟩⟩⟩⟩⟩⟩⟩⟩ <;>
      simp [List.range_succ]

theorem copyHops_complete (rawPath : Bytes) (hops first fuel : Nat)
    (enough : 16 * hops ≤ rawPath.length) (before : first ≤ hops) (fueled : hops ≤ fuel + first) :
    copyHops rawPath (hops * 16) fuel (16 * first + 8) =
      (List.range' first (hops - first)).flatMap fun hop => (rawPath.drop (16 * hop + 8)).take 8 := by
  -- every round takes one hop, as long as the path goes on
  induction fuel generalizing first with
  | zero =>
    have none : hops - first = 0 := by omega
    simp [copyHops, none]
  | succ fuel ih =>
    rw [copyHops]
    by_cases last : first = hops
    next =>
      rw [if_neg (by omega), last, Nat.sub_self]
      rfl
    next =>
      have one : hops - first = (hops - (first + 1)) + 1 := by omega
      rw [if_pos (by omega), hop_bytes, one, List.range'_succ, List.flatMap_cons,
        ← ih (first + 1) (by omega) (by omega)]
      rfl

theorem flatMap_hops_length (rawPath : Bytes) (hops : Nat) (enough : 16 * hops ≤ rawPath.length) :
    ((List.range hops).flatMap fun hop => (rawPath.drop (16 * hop + 8)).take 8).length = 8 * hops := by
  induction hops with
  | zero => rfl
  | succ hops ih =>
    have rest : 8 ≤ rawPath.length - (16 * hops + 8) := by omega
    rw [List.range_succ, List.flatMap_append, List.length_append, ih (by omega)]
    simp [rest]
    omega

theorem Connected.completePath_length (connected : Connected) (whole : connected.Whole) :
    connected.completePath.length = 8 * connected.hops.toNat :=
  flatMap_hops_length _ _ whole.2

theorem destAddress_whole (connected : Connected) (whole : connected.Whole) :
    destAddress connected.rawPath connected.hops = connected.completePath ++ [0] := by
  -- a whole path is extracted hop by hop and stays below the cut
  have extracted : copyHops connected.rawPath (connected.hops.toNat * 16)
      (connected.hops.toNat * 16) 8 = connected.completePath := by
    have hops := copyHops_complete connected.rawPath connected.hops.toNat 0
      (connected.hops.toNat * 16) whole.2 (by omega) (by omega)
    rwa [Nat.sub_zero, ← List.range_eq_range'] at hops
  have short := connected.completePath_length whole
  have few := whole.1
  rw [destAddress, extracted]
  simp only [List.length_append, List.length_cons, List.length_nil]
  rw [if_neg (by omega)]

theorem announced_length (connected : Connected) (whole : connected.Whole) :
    (connected.hops * 8).toNat = connected.completePath.length := by
  have few := whole.1
  have eight : (8 : UInt8).toNat = 8 := rfl
  rw [connected.completePath_length whole, UInt8.toNat_mul, eight]
  omega

section Runs

variable (behind : Bytes -> Nat -> UInt8)

def Connected.routeRecord (connected : Connected) : NodeRecord :=
  silenceND behind (connected.node ++ [0]) 16 (destAddress connected.rawPath connected.hops)
    (connected.hops * 8) connected.hops

def Connected.routeCopy (connected : Connected) : PathCopy :=
  { block := destAddress connected.rawPath connected.hops, count := (connected.hops * 8).toNat }

def unsilenceRecord (target : Bytes) (record : NodeRecord) : NodeRecord :=
  silenceND behind (target ++ [0]) 16 record.pathRecord (record.hopCount * 8) record.hopCount

def unsilenceCopy (record : NodeRecord) : PathCopy :=
  { block := record.pathRecord, count := (record.hopCount * 8).toNat }

theorem fetchRow_connected (queues : Queues) (row : RouteRow) :
    fetchRow behind queues row =
      match row.connected behind with
      | none => queues
      | some connected =>
        { queues with
          pathSrcRouteQueue := enqueue maxQueued queues.pathSrcRouteQueue (connected.routeRecord behind)
          copies := queues.copies ++ [connected.routeCopy] } := by
  unfold fetchRow RouteRow.connected
  cases row.path <;> cases row.hopCount <;> cases row.targetMacAddress <;> rfl

theorem checkRow_wanted (queues : Queues) (row : SilencedRow) :
    checkRow behind queues row =
      match row.wanted behind with
      | none => queues
      | some target =>
        match queues.pathSrcRouteQueue.find? fun record => record.macAddress.take 16 == target with
        | none => queues
        | some record =>
          { queues with
            silencedNDQueue := enqueue maxQueued queues.silencedNDQueue
              (unsilenceRecord behind target record)
            copies := queues.copies ++ [unsilenceCopy record] } := by
  unfold checkRow SilencedRow.wanted
  cases row.meterMacAddress with
  | none => rfl
  | some macText =>
    cases row.fuotaStatus with
    | none => rfl
    | some statusText =>
      by_cases zero : toUInt8 (atoi statusText) = 0
      next => simp [zero]
      next =>
        have copied : (memcpy behind macText 16 ++ [0]).take 16 = memcpy behind macText 16 := by
          rw [List.take_left']
          simp
        simp only [zero, if_false, copied]
        rfl

/-- The route queue takes one record for every connected row, in the order of the rows. -/
theorem fetchRows_queues (queues : Queues) (rows : List RouteRow) :
    rows.foldl (fetchRow behind) queues =
      { queues with
        pathSrcRouteQueue := enqueueAll maxQueued queues.pathSrcRouteQueue
          ((rows.filterMap (RouteRow.connected behind)).map (Connected.routeRecord behind))
        copies := queues.copies ++
          (rows.filterMap (RouteRow.connected behind)).map Connected.routeCopy } := by
  induction rows generalizing queues with
  | nil => simp
  | cons row rest ih =>
    rw [List.foldl_cons, ih, fetchRow_connected]
    cases known : row.connected behind with
    | none => simp [known]
    | some connected => simp [known]

def hits (routes : List NodeRecord) (rows : List SilencedRow) : List (Bytes × NodeRecord) :=
  (rows.filterMap (SilencedRow.wanted behind)).filterMap fun target =>
    (routes.find? fun record => record.macAddress.take 16 == target).map fun record => (target, record)

theorem checkRows_queues (queues : Queues) (rows : List SilencedRow) :
    rows.foldl (checkRow behind) queues =
      { queues with
        silencedNDQueue := enqueueAll maxQueued queues.silencedNDQueue
          ((hits behind queues.pathSrcRouteQueue rows).map fun hit =>
            unsilenceRecord behind hit.1 hit.2)
        copies := queues.copies ++
          (hits behind queues.pathSrcRouteQueue rows).map fun hit => unsilenceCopy hit.2 } := by
  induction rows generalizing queues with
  | nil => simp [hits]
  | cons row rest ih =>
    rw [List.foldl_cons, ih, checkRow_wanted]
    cases known : row.wanted behind with
    | none => simp [hits, known]
    | some target =>
      cases found : queues.pathSrcRouteQueue.find? fun record =>
          record.macAddress.take 16 == target with
      | none => simp [hits, known, found]
      | some record => simp [hits, known, found]

end Runs

section Queue

variable (behind : Bytes -> Nat -> UInt8)

theorem connected_node_length (row : RouteRow) (connected : Connected)
    (known : row.connected behind = some connected) : connected.node.length = 16 := by
  unfold RouteRow.connected at known
  split at known
  next =>
    rw [← Option.some.inj known]
    simp
  next => exact absurd known (by simp)

theorem connectedNodes_length (routes : List RouteRow) :
    ∀ connected ∈ connectedNodes behind routes, connected.node.length = 16 := by
  intro connected member
  obtain ⟨row, _, known⟩ := List.mem_filterMap.mp (List.mem_of_mem_drop member)
  exact connected_node_length behind row connected known

theorem routeRecord_mac (connected : Connected) (full : connected.node.length = 16) :
    (connected.routeRecord behind).macAddress = connected.node :=
  memcpy_terminated behind connected.node 16 full

theorem routeRecord_path (connected : Connected) (whole : connected.Whole) :
    (connected.routeRecord behind).pathRecord = connected.completePath := by
  show memcpy behind (destAddress connected.rawPath connected.hops) (connected.hops * 8).toNat = _
  rw [destAddress_whole connected whole]
  exact memcpy_terminated behind _ _ (announced_length connected whole).symm

theorem unsilenceRecord_carries (connected : Connected) (full : connected.node.length = 16) :
    Carries (unsilenceRecord behind connected.node (connected.routeRecord behind)) connected where
  node := memcpy_terminated behind connected.node 16 full
  hops := rfl
  path := by
    intro whole
    show memcpy behind (connected.routeRecord behind).pathRecord (connected.hops * 8).toNat = _
    rw [routeRecord_path behind connected whole, announced_length connected whole,
      memcpy_inside _ _ _ (le_refl _), List.take_length]

theorem find_routeRecord (nodes : List Connected) (target : Bytes)
    (full : ∀ connected ∈ nodes, connected.node.length = 16) :
    ((nodes.map (Connected.routeRecord behind)).find? fun record =>
        record.macAddress.take 16 == target) =
      (nodes.find? fun connected => connected.node == target).map
        (Connected.routeRecord behind) := by
  rw [List.find?_map]
  congr 1
  apply List.find?_congr
  intro connected member
  have length := full connected member
  rw [Function.comp_apply, routeRecord_mac behind connected length, List.take_of_length_le (by omega)]

theorem hits_matched (routes : List RouteRow) (silenced : List SilencedRow) :
    hits behind ((connectedNodes behind routes).map (Connected.routeRecord behind)) silenced =
      (matched behind routes silenced).map fun connected =>
        (connected.node, connected.routeRecord behind) := by
  unfold hits matched
  rw [List.map_filterMap]
  apply List.filterMap_congr
  intro target _
  rw [find_routeRecord behind _ _ (connectedNodes_length behind routes), Option.map_map]
  cases found : (connectedNodes behind routes).find? fun connected => connected.node == target with
  | none => rfl
  | some connected =>
    have same := List.find?_some found
    simp only [beq_iff_eq] at same
    simp [same]

theorem unsilenceQueues_eq (routes : List RouteRow) (silenced : List SilencedRow) :
    (unsilenceQueues behind routes silenced).silencedNDQueue =
        newest maxQueued ((matched behind routes silenced).map fun connected =>
          unsilenceRecord behind connected.node (connected.routeRecord behind)) /\
      (unsilenceQueues behind routes silenced).copies =
        (routes.filterMap (RouteRow.connected behind)).map Connected.routeCopy ++
          (matched behind routes silenced).map fun connected =>
            unsilenceCopy (connected.routeRecord behind) := by
  have routed : routes.foldl (fetchRow behind) {} =
      { pathSrcRouteQueue := (connectedNodes behind routes).map (Connected.routeRecord behind)
        copies := (routes.filterMap (RouteRow.connected behind)).map Connected.routeCopy } := by
    rw [fetchRows_queues, enqueueAll_newest _ _ (by decide), newest_map]
    rfl
  show (silenced.foldl (checkRow behind) (routes.foldl (fetchRow behind) {})).silencedNDQueue = _ /\
    (silenced.foldl (checkRow behind) (routes.foldl (fetchRow behind) {})).copies = _
  rw [routed, checkRows_queues]
  simp only [hits_matched, List.map_map]
  rw [enqueueAll_newest _ _ (by decide)]
  exact ⟨rfl, rfl⟩

theorem matched_members (routes : List RouteRow) (silenced : List SilencedRow) :
    ∀ connected ∈ matched behind routes silenced, connected ∈ connectedNodes behind routes := by
  intro connected member
  obtain ⟨target, _, found⟩ := List.mem_filterMap.mp member
  exact List.mem_of_find?_eq_some found

theorem matched_nodes (routes : List RouteRow) (silenced : List SilencedRow) :
    (matched behind routes silenced).map Connected.node =
      (silenced.filterMap (SilencedRow.wanted behind)).filter fun node =>
        node ∈ (connectedNodes behind routes).map Connected.node := by
  unfold matched
  induction silenced.filterMap (SilencedRow.wanted behind) with
  | nil => rfl
  | cons target rest ih =>
    cases found : (connectedNodes behind routes).find? fun connected => connected.node == target with
    | none =>
      have absent : target ∉ (connectedNodes behind routes).map Connected.node := by
        simpa [List.find?_eq_none] using found
      rw [List.filter_cons_of_neg (by simpa using absent), ← ih]
      simp only [List.filterMap_cons, found]
    | some connected =>
      have same := List.find?_some found
      simp only [beq_iff_eq] at same
      have present : target ∈ (connectedNodes behind routes).map Connected.node :=
        List.mem_map.mpr ⟨connected, List.mem_of_find?_eq_some found, same⟩
      rw [List.filter_cons_of_pos (by simpa using present), ← ih]
      simp only [List.filterMap_cons, found, List.map_cons, same]

end Queue

/-- A node that is wanted and has a connected row. -/
def Unsilenced (behind : Bytes -> Nat -> UInt8) (routes : List RouteRow)
    (silenced : List SilencedRow) (node : Bytes) : Prop :=
  (∃ row ∈ silenced, row.wanted behind = some node) /\
    ∃ row ∈ routes, ∃ connected, row.connected behind = some connected /\ connected.node = node

/-- The queue holds one entry for each of the newest rows that were matched, and what it holds is
exact while nothing has to leave one of the queues. -/
theorem unsilenceQueues_newest (behind : Bytes -> Nat -> UInt8) (routes : List RouteRow)
    (silenced : List SilencedRow) :
    List.Forall₂ Carries (unsilenceQueues behind routes silenced).silencedNDQueue
        (newest maxQueued (matched behind routes silenced)) /\
      ((∀ row ∈ routes, forall connected, row.connected behind = some connected ->
          connected.Whole) ->
        ∀ copy ∈ (unsilenceQueues behind routes silenced).copies, copy.Inside) /\
      ((routes.filterMap (RouteRow.connected behind)).length ≤ maxQueued ->
        (silenced.filterMap (SilencedRow.wanted behind)).length ≤ maxQueued ->
        (silenced.filterMap (SilencedRow.wanted behind)).Nodup ->
        ((unsilenceQueues behind routes silenced).silencedNDQueue.map NodeRecord.macAddress).Nodup /\
          forall node,
            node ∈ (unsilenceQueues behind routes silenced).silencedNDQueue.map NodeRecord.macAddress <->
              Unsilenced behind routes silenced node) := by
  obtain ⟨queue, copies⟩ := unsilenceQueues_eq behind routes silenced
  have full : ∀ connected ∈ matched behind routes silenced, connected.node.length = 16 :=
    fun connected member => connectedNodes_length behind routes connected
      (matched_members behind routes silenced connected member)
  refine ⟨?_, ?_, ?_⟩
  next =>
    rw [queue, newest_map, List.forall₂_map_left_iff, List.forall₂_same]
    intro connected member
    exact unsilenceRecord_carries behind connected (full connected (List.mem_of_mem_drop member))
  next =>
    intro whole copy member
    rw [copies, List.mem_append] at member
    have rowWhole : ∀ connected ∈ routes.filterMap (RouteRow.connected behind), connected.Whole := by
      intro connected inside
      obtain ⟨row, stored, known⟩ := List.mem_filterMap.mp inside
      exact whole row stored connected known
    rcases member with fetched | checked
    next =>
      obtain ⟨connected, inside, rfl⟩ := List.mem_map.mp fetched
      have holds := rowWhole connected inside
      show (connected.hops * 8).toNat ≤ (destAddress connected.rawPath connected.hops).length
      rw [destAddress_whole connected holds, announced_length connected holds]
      simp
    next =>
      obtain ⟨connected, inside, rfl⟩ := List.mem_map.mp checked
      show (connected.hops * 8).toNat ≤ (connected.routeRecord behind).pathRecord.length
      simp [Connected.routeRecord, silenceND]
  next =>
    intro fewRoutes fewWanted distinct
    have nodes : (unsilenceQueues behind routes silenced).silencedNDQueue.map NodeRecord.macAddress =
        (matched behind routes silenced).map Connected.node := by
      have short : (matched behind routes silenced).length ≤ maxQueued :=
        le_trans (List.length_filterMap_le _ _) fewWanted
      rw [queue, newest_short _ _ (by simpa using short), List.map_map]
      apply List.map_congr_left
      intro connected member
      exact (unsilenceRecord_carries behind connected (full connected member)).node
    rw [nodes, matched_nodes]
    refine ⟨distinct.filter _, fun node => ?_⟩
    rw [connectedNodes, newest_short _ _ fewRoutes, List.mem_filter, decide_eq_true_iff,
      List.mem_filterMap, List.mem_map]
    apply and_congr_right
    intro _
    constructor
    next =>
      rintro ⟨connected, inside, same⟩
      obtain ⟨row, stored, known⟩ := List.mem_filterMap.mp inside
      exact ⟨row, stored, connected, known, same⟩
    next =>
      rintro ⟨row, stored, connected, known, same⟩
      exact ⟨connected, List.mem_filterMap.mpr ⟨row, stored, known⟩, same⟩

-- one hop on the way to the node whose address ends in two digits
def nodeText (number : Nat) : Bytes :=
  ascii "3CC1F601000000" ++ [UInt8.ofNat (0x30 + number / 10), UInt8.ofNat (0x30 + number % 10)]

def nodeRoute (number : Nat) : RouteRow :=
  { path := some (nodeText number), hopCount := some (ascii "1")
    targetMacAddress := some (nodeText number) }

def nodeSilenced (number : Nat) : SilencedRow :=
  { meterMacAddress := some (nodeText number), fuotaStatus := some (ascii "1") }

theorem unsilenceQueues_newest_twoNodes :
    (unsilenceQueues (fun _ _ => 0) [nodeRoute 1, nodeRoute 2]
        [nodeSilenced 2]).silencedNDQueue.map NodeRecord.macAddress = [nodeText 2] /\
      ∀ copy ∈ (unsilenceQueues (fun _ _ => 0) [nodeRoute 1, nodeRoute 2] [nodeSilenced 2]).copies,
        copy.Inside := by
  constructor
  next => decide +kernel
  next =>
    apply (unsilenceQueues_newest _ _ _).2.1
    intro row stored connected known
    have rows : row = nodeRoute 1 \/ row = nodeRoute 2 := by simpa using stored
    rcases rows with rfl | rfl
    all_goals
      rw [← Option.some.inj known]
      exact ⟨by decide +kernel, by decide +kernel⟩

/-- The first of 51 connected nodes has left the queue of routes. -/
theorem unsilenced_dropped :
    ¬ forall (routes : List RouteRow) (silenced : List SilencedRow) (node : Bytes),
      node ∈ (unsilenceQueues (fun _ _ => 0) routes silenced).silencedNDQueue.map
          NodeRecord.macAddress <->
        Unsilenced (fun _ _ => 0) routes silenced node := by
  intro exact
  have wanted : Unsilenced (fun _ _ => 0) ((List.range 51).map nodeRoute) [nodeSilenced 0]
      (nodeText 0) :=
    ⟨⟨nodeSilenced 0, by simp, by decide +kernel⟩,
      nodeRoute 0, List.mem_map_of_mem (by decide),
      { node := nodeText 0, hops := 1, rawPath := nodeText 0 }, by decide +kernel, rfl⟩
  have member := (exact _ _ _).mpr wanted
  have missing : (unsilenceQueues (fun _ _ => 0) ((List.range 51).map nodeRoute)
      [nodeSilenced 0]).silencedNDQueue = [] := by
    decide +kernel
  rw [missing] at member
  exact absurd member (by simp)

end Hes.NodeQueues
