import Hes.CycleRuns
import Hes.NodeList

set_option autoImplicit false

namespace Hes.CycleActivity

open Text Mqtt NodeQueues

/-- The row brings the node of this address into the map. -/
def RouteRow.Adds (row : RouteRow) (mac : Bytes) : Prop :=
  exists macHex hopCount path sized, row = ⟨some macHex, some hopCount, some path⟩ /\
    macFromHex macHex = .ok mac /\ pathOfRow (atoi hopCount) path = .ok (some sized)

/-- A node as it is listed: the gateway by its own address, until a row names a path for it. -/
structure Listed (gatewayMac : Bytes) (entry : Entry) : Prop where
  address : entry.node.nodeMacAddress = entry.mac
  length : entry.mac.length = 8
  clear : entry.node.profileData = {}
  primary : Sized entry.node.primaryPath \/ (entry.mac = gatewayMac /\
    entry.node.primaryPath.hopCount = 0 /\ entry.node.primaryPath.path.length = 4)
  alternates : entry.node.alternatePaths.length ≤ 1
  sized : ∀ path ∈ entry.node.alternatePaths, Sized path
  gateway : entry.mac = gatewayMac -> entry.node.alternatePaths = []

structure NodeMap (gatewayMac : Bytes) (nodes : List Entry) : Prop where
  sorted : SortedList.Sorted Entry.mac nodes
  listed : ∀ entry ∈ nodes, Listed gatewayMac entry
  unrouted : ∀ entry ∈ nodes, entry.node.alternatePaths = []

theorem putNode_map {gatewayMac mac : Bytes} {nodes : List Entry} {path : PathInfo}
    (map : NodeMap gatewayMac nodes) (length : mac.length = 8) (sized : Sized path) :
    NodeMap gatewayMac (putNode mac (fun node =>
      { node with nodeMacAddress := mac, primaryPath := path }) nodes) := by
  constructor
  next =>
    apply SortedList.put_sorted
    next => exact fun _ _ _ => List.lt_trans
    next => exact fun _ _ notSmaller other => Std.lt_of_le_of_ne (List.not_lt.mp notSmaller) other.symm
    next => exact fun _ => rfl
    next => rfl
    next => exact map.sorted
  next =>
    intro entry inside
    rcases SortedList.put_mem inside with kept | rfl | ⟨before, known, same, rfl⟩
    next => exact map.listed entry kept
    next => exact ⟨rfl, length, rfl, Or.inl sized, by simp [begunEntry], by simp [begunEntry], fun _ => rfl⟩
    next =>
      have listed := map.listed before known
      exact ⟨same.symm, listed.length, listed.clear, Or.inl sized, listed.alternates, listed.sized,
        listed.gateway⟩
  next =>
    intro entry inside
    rcases SortedList.put_mem inside with kept | rfl | ⟨before, known, _, rfl⟩
    next => exact map.unrouted entry kept
    next => rfl
    next => exact map.unrouted before known

theorem putNode_macs {mac other : Bytes} {change : NodeInfo -> NodeInfo} {nodes : List Entry} :
    other ∈ (putNode mac change nodes).map Entry.mac <-> other = mac \/ other ∈ nodes.map Entry.mac := by
  apply SortedList.put_key
  next => exact fun _ => rfl
  next => rfl

theorem addRoute_incomplete (nodes : List Entry) {row : RouteRow}
    (incomplete : ¬ exists macHex hopCount path, row = ⟨some macHex, some hopCount, some path⟩) :
    addRoute nodes row = .ok nodes := by
  obtain ⟨targetMacAddress, hopCount, path⟩ := row
  -- every row but the one with its three cells is skipped
  cases targetMacAddress <;> cases hopCount <;> cases path <;>
    first | rfl | exact absurd ⟨_, _, _, rfl⟩ incomplete

theorem addRoute_map {gatewayMac : Bytes} {nodes added : List Entry} {row : RouteRow}
    (map : NodeMap gatewayMac nodes) (read : addRoute nodes row = .ok added) :
    NodeMap gatewayMac added /\
      forall mac, mac ∈ added.map Entry.mac <-> mac ∈ nodes.map Entry.mac \/ row.Adds mac := by
  by_cases full : exists macHex hopCount path, row = ⟨some macHex, some hopCount, some path⟩
  next =>
    obtain ⟨macHex, hopCount, path, rfl⟩ := full
    obtain ⟨mac, address, read⟩ := (ok_bind _ _ _).mp read
    obtain ⟨found, fits, read⟩ := (ok_bind _ _ _).mp read
    have adds (other : Bytes) : (RouteRow.mk (some macHex) (some hopCount) (some path)).Adds other <->
        other = mac /\ exists sized, found = some sized := by
      constructor
      next =>
        intro known
        obtain ⟨_, _, _, sized, same, own, fits'⟩ := known
        cases same
        rw [address] at own
        rw [fits] at fits'
        exact ⟨(Except.ok.inj own).symm, sized, Except.ok.inj fits'⟩
      next =>
        intro known
        obtain ⟨rfl, sized, rfl⟩ := known
        exact ⟨macHex, hopCount, path, sized, rfl, address, fits⟩
    cases found with
    | none =>
      cases read
      exact ⟨map, fun other => by simp [adds]⟩
    | some primaryPath =>
      cases read
      refine ⟨putNode_map map (macFromHex_length address) (pathOfRow_sized fits), fun other => ?_⟩
      rw [putNode_macs, adds]
      simp [or_comm]
  next =>
    have nothing (mac : Bytes) : ¬ row.Adds mac := by
      intro known
      obtain ⟨macHex, hopCount, path, _, same, _⟩ := known
      exact full ⟨macHex, hopCount, path, same⟩
    rw [addRoute_incomplete nodes full] at read
    cases read
    exact ⟨map, fun mac => by simp [nothing mac]⟩

theorem addRoutes_map {gatewayMac : Bytes} {nodes added : List Entry} {rows : List RouteRow}
    (map : NodeMap gatewayMac nodes) (read : addRoutes nodes rows = .ok added) :
    NodeMap gatewayMac added /\
      forall mac, mac ∈ added.map Entry.mac <->
        mac ∈ nodes.map Entry.mac \/ ∃ row ∈ rows, row.Adds mac := by
  induction rows generalizing nodes with
  | nil =>
    cases read
    exact ⟨map, by simp⟩
  | cons row rest ih =>
    obtain ⟨middle, first, behind⟩ := (ok_bind _ _ _).mp read
    obtain ⟨kept, macs⟩ := addRoute_map map first
    obtain ⟨all, others⟩ := ih kept behind
    refine ⟨all, fun mac => ?_⟩
    rw [others, macs]
    simp [or_assoc]

theorem alternatePathsOf_sized {rows : List AlternateRow} {paths : List PathInfo}
    (read : alternatePathsOf rows = .ok paths) :
    paths.length ≤ rows.length /\ ∀ path ∈ paths, Sized path := by
  induction rows generalizing paths with
  | nil =>
    cases read
    simp
  | cons row rest ih =>
    obtain ⟨path, first, read⟩ := (ok_bind _ _ _).mp read
    obtain ⟨others, behind, read⟩ := (ok_bind _ _ _).mp read
    obtain ⟨few, sized⟩ := ih behind
    cases read
    cases path with
    | none => exact ⟨by simp; omega, by simpa using sized⟩
    | some path =>
      refine ⟨by simp; omega, fun other inside => ?_⟩
      rcases List.mem_cons.mp inside with rfl | later
      next => exact pathOfRow_sized first
      next => exact sized other later

theorem routeEntry_listed {database : Database} {gatewayMac : Bytes} {entry routed : Entry}
    (listed : Listed gatewayMac entry) (read : routeEntry database gatewayMac entry = .ok routed) :
    routed.mac = entry.mac /\ Listed gatewayMac routed := by
  rw [routeEntry] at read
  split at read
  next =>
    cases read
    exact ⟨rfl, listed⟩
  next other =>
    obtain ⟨node, asked, built⟩ := ok_map read
    rw [getAlternatePathForNode] at asked
    subst built
    refine ⟨rfl, ?_⟩
    split at asked
    next rows _ =>
      obtain ⟨paths, sized, asked⟩ := (ok_bind _ _ _).mp asked
      obtain ⟨few, sized⟩ := alternatePathsOf_sized sized
      cases asked
      -- the query has a limit of one row
      have one : (rows.take 1).length ≤ 1 := List.length_take_le 1 rows
      exact ⟨listed.address, listed.length, listed.clear, listed.primary, few.trans one, sized,
        fun gateway => absurd gateway other⟩
    next =>
      cases asked
      exact listed

theorem getAlternatePathForAllNodes_listed {database : Database} {gatewayMac : Bytes}
    {nodes routed : List Entry} (listed : ∀ entry ∈ nodes, Listed gatewayMac entry)
    (read : getAlternatePathForAllNodes database gatewayMac nodes = .ok routed) :
    routed.map Entry.mac = nodes.map Entry.mac /\ ∀ entry ∈ routed, Listed gatewayMac entry := by
  induction nodes generalizing routed with
  | nil =>
    cases read
    simp
  | cons entry rest ih =>
    obtain ⟨first, own, read⟩ := (ok_bind _ _ _).mp read
    obtain ⟨others, behind, read⟩ := (ok_bind _ _ _).mp read
    obtain ⟨macs, kept⟩ := ih (fun later inside => listed later (by simp [inside])) behind
    obtain ⟨same, here⟩ := routeEntry_listed (listed entry (by simp)) own
    cases read
    refine ⟨by simp [macs, same], fun later inside => ?_⟩
    rcases List.mem_cons.mp inside with rfl | inside
    next => exact here
    next => exact kept later inside

/-- The cycles that are missing are asked for once each. -/
theorem missingCycles_once (zone : MissingCycles.Zone) (stored : Nat -> Bool) (now : Int) :
    (MissingCycles.getLastHourMissingIpCyclesForNode zone stored now).Nodup /\
      ∀ cycle ∈ MissingCycles.getLastHourMissingIpCyclesForNode zone stored now,
        0 ≤ cycle /\ cycle ≤ 3 := by
  rw [MissingCycles.missing_relative]
  constructor
  next =>
    have rows : (MissingCycles.absCycles zone stored now).Nodup := by
      apply List.Nodup.sublist (List.take_sublist 4 _)
      rw [MissingCycles.missingRows, (List.perm_insertionSort _ _).nodup_iff]
      apply List.Nodup.filter
      exact List.Nodup.map (Nat.succ_injective) List.nodup_range
    apply List.Nodup.map_on _ rows
    intro first inside second inside' same
    have low := MissingCycles.mem_absCycles zone stored now first inside
    have high := MissingCycles.mem_absCycles zone stored now second inside'
    simp only [MissingCycles.relativeCycle] at same low high
    omega
  next =>
    intro cycle inside
    obtain ⟨row, known, rfl⟩ := List.mem_map.mp inside
    have near := (MissingCycles.mem_absCycles zone stored now row known).2.2
    omega

def rowsOf {A : Type} : Answer (List A) -> List A
  | .rows rows => rows
  | _ => []

/-- The nodes of a cycle activity: the gateway and the targets of the routes, each of them once. -/
structure BuiltMap (database : Database) (gatewayMac : Bytes) (nodes : List Entry) : Prop where
  sorted : SortedList.Sorted Entry.mac nodes
  listed : ∀ entry ∈ nodes, Listed gatewayMac entry
  macs : forall mac, mac ∈ nodes.map Entry.mac <->
    mac = gatewayMac \/ ∃ row ∈ rowsOf database.sourceRoutes, row.Adds mac
  once : ∀ entry ∈ nodes, entry.node.missingIpCycles.Nodup
  cycles : ∀ entry ∈ nodes, ∀ cycle ∈ entry.node.missingIpCycles, 0 ≤ cycle /\ cycle ≤ 3

theorem addGatewayNodeToMapList_map {gatewayId : Bytes} {nodes : List Entry}
    (read : addGatewayNodeToMapList gatewayId = .ok nodes) :
    exists gatewayMac, macFromHex gatewayId = .ok gatewayMac /\ NodeMap gatewayMac nodes /\
      nodes.map Entry.mac = [gatewayMac] := by
  obtain ⟨gatewayMac, own, read⟩ := (ok_bind _ _ _).mp read
  obtain ⟨path, pairs, read⟩ := (ok_bind _ _ _).mp read
  -- the path of the gateway is the second half of its own address
  have four := OdmFrames.OdmCommand.hexPairs_length _ _ pairs
  rw [slice_length] at four
  cases read
  refine ⟨gatewayMac, own, ⟨?_, ?_, by simp [putNode, SortedList.put]⟩, rfl⟩
  next => simp [SortedList.Sorted, putNode, SortedList.put]
  next =>
    intro entry inside
    obtain rfl := List.mem_singleton.mp inside
    exact ⟨rfl, macFromHex_length own, rfl, Or.inr ⟨rfl, rfl, four⟩, Nat.zero_le 1, by simp, fun _ => rfl⟩

/-- The gateway and the targets of the routes, in front of what is asked about each. -/
theorem routers_map {database : Database} {gatewayId : Bytes} {gateway routers : List Entry}
    (first : addGatewayNodeToMapList gatewayId = .ok gateway)
    (second : getNodesInfoFromSrcRouteNetworkDb database gateway = .ok routers) :
    exists gatewayMac, macFromHex gatewayId = .ok gatewayMac /\ NodeMap gatewayMac routers /\
      forall mac, mac ∈ routers.map Entry.mac <->
        mac = gatewayMac \/ ∃ row ∈ rowsOf database.sourceRoutes, row.Adds mac := by
  obtain ⟨gatewayMac, read, map, alone⟩ := addGatewayNodeToMapList_map first
  refine ⟨gatewayMac, read, ?_⟩
  have begun (mac : Bytes) : mac ∈ gateway.map Entry.mac <-> mac = gatewayMac := by simp [alone]
  rw [getNodesInfoFromSrcRouteNetworkDb] at second
  split at second
  next rows answer =>
    obtain ⟨kept, macs⟩ := addRoutes_map map second
    refine ⟨kept, fun mac => ?_⟩
    rw [answer, macs, begun]
    rfl
  next other =>
    cases second
    -- without rows the gateway stays alone
    have nothing : rowsOf database.sourceRoutes = [] := by
      cases answer : database.sourceRoutes with
      | rows rows => exact absurd answer (other rows)
      | failed => rfl
      | noResult => rfl
    exact ⟨map, fun mac => by simp [nothing, begun]⟩

theorem buildNodeListFromDb_built {database : Database} {gatewayId : Bytes} {nodes : List Entry}
    (built : buildNodeListFromDb database gatewayId = .ok nodes) :
    exists gatewayMac, macFromHex gatewayId = .ok gatewayMac /\ BuiltMap database gatewayMac nodes := by
  obtain ⟨gateway, first, built⟩ := (ok_bind _ _ _).mp built
  obtain ⟨routers, second, built⟩ := (ok_bind _ _ _).mp built
  obtain ⟨gatewayMac, own, built⟩ := (ok_bind _ _ _).mp built
  obtain ⟨routed, third, result⟩ := (ok_bind _ _ _).mp built
  obtain ⟨same, read, map, known⟩ := routers_map first second
  rw [read] at own
  obtain rfl := Except.ok.inj own
  obtain ⟨macs, listed⟩ := getAlternatePathForAllNodes_listed map.listed third
  have kept : routed.map Entry.mac = (routed.map (getMissingInfo database)).map Entry.mac := by
    rw [List.map_map]
    rfl
  cases result
  refine ⟨same, read, ?_, ?_, ?_, ?_, ?_⟩
  next =>
    rw [SortedList.Sorted, getMissingInfoForAllNodes, <- kept, macs]
    exact map.sorted
  next =>
    intro entry inside
    obtain ⟨before, known, rfl⟩ := List.mem_map.mp inside
    have here := listed before known
    exact ⟨here.address, here.length, here.clear, here.primary, here.alternates, here.sized, here.gateway⟩
  next =>
    intro mac
    rw [getMissingInfoForAllNodes, <- kept, macs, known]
  next =>
    intro entry inside
    obtain ⟨before, known, rfl⟩ := List.mem_map.mp inside
    exact (missingCycles_once _ _ _).1
  next =>
    intro entry inside
    obtain ⟨before, known, rfl⟩ := List.mem_map.mp inside
    exact (missingCycles_once _ _ _).2

theorem built_nonempty {database : Database} {gatewayId : Bytes} {nodes : List Entry}
    (built : buildNodeListFromDb database gatewayId = .ok nodes) : nodes ≠ [] := by
  -- the gateway is a node of every activity that runs
  obtain ⟨gatewayMac, _, map⟩ := buildNodeListFromDb_built built
  have gateway : gatewayMac ∈ nodes.map Entry.mac := (map.macs gatewayMac).mpr (Or.inl rfl)
  rintro rfl
  simp at gateway

theorem BuiltMap.fresh {database : Database} {gatewayMac : Bytes} {nodes : List Entry}
    (built : BuiltMap database gatewayMac nodes) : ∀ node ∈ nodes, Fresh node := by
  intro node inside
  have listed := built.listed node inside
  exact ⟨listed.address, by rw [listed.clear]; rfl⟩

/-- A text that is read, whatever comes of it. -/
def Read {A : Type} (result : Result A) : Prop := exists value, result = .ok value

def RouteRow.Readable (row : RouteRow) : Prop :=
  forall macHex hopCount path, row = ⟨some macHex, some hopCount, some path⟩ ->
    Read (macFromHex macHex) /\ Read (pathOfRow (atoi hopCount) path)

def AlternateReadable (database : Database) (mac : Bytes) : Prop :=
  ∀ row ∈ (rowsOf (database.node mac).alternateRoutes).take 1, Read (pathOfRow (atoi row.hopCount) row.path)

/-- Every text of the map is hexadecimal where it is read as such. -/
structure Readable (database : Database) (gatewayId : Bytes) : Prop where
  gateway : Read (macFromHex gatewayId)
  rows : ∀ row ∈ rowsOf database.sourceRoutes, row.Readable
  alternates : ∀ row ∈ rowsOf database.sourceRoutes, forall mac, row.Adds mac ->
    macFromHex gatewayId ≠ .ok mac -> AlternateReadable database mac

theorem read_bind {A B : Type} {first : Result A} {next : A -> Result B} :
    Read (first >>= next) <-> exists value, first = .ok value /\ Read (next value) := by
  cases first <;> simp [Read, bind, Except.bind]

theorem read_map {A B : Type} {result : Result A} {change : A -> B} :
    Read (result.map change) <-> Read result := by
  cases result <;> simp [Read, Except.map]

theorem read_pure {A : Type} (value : A) : Read (pure value : Result A) := ⟨value, rfl⟩

theorem addRoute_read {nodes : List Entry} {row : RouteRow} : Read (addRoute nodes row) <-> row.Readable := by
  by_cases full : exists macHex hopCount path, row = ⟨some macHex, some hopCount, some path⟩
  next =>
    obtain ⟨macHex, hopCount, path, rfl⟩ := full
    have opened : Read (addRoute nodes ⟨some macHex, some hopCount, some path⟩) <->
        Read (macFromHex macHex) /\ Read (pathOfRow (atoi hopCount) path) := by
      rw [addRoute, read_bind]
      constructor
      next =>
        intro known
        obtain ⟨mac, own, known⟩ := known
        obtain ⟨found, fits, _⟩ := read_bind.mp known
        exact ⟨⟨mac, own⟩, found, fits⟩
      next =>
        intro known
        obtain ⟨⟨mac, own⟩, found, fits⟩ := known
        refine ⟨mac, own, read_bind.mpr ⟨found, fits, ?_⟩⟩
        cases found <;> exact read_pure _
    rw [opened]
    constructor
    next =>
      intro known _ _ _ same
      cases same
      exact known
    next => exact fun known => known macHex hopCount path rfl
  next =>
    rw [addRoute_incomplete nodes full]
    exact ⟨fun _ macHex hopCount path known => absurd ⟨macHex, hopCount, path, known⟩ full,
      fun _ => ⟨nodes, rfl⟩⟩

theorem addRoutes_read {nodes : List Entry} {rows : List RouteRow} :
    Read (addRoutes nodes rows) <-> ∀ row ∈ rows, row.Readable := by
  induction rows generalizing nodes with
  | nil => simp [addRoutes, read_pure]
  | cons row rest ih =>
    have own : Read (addRoute nodes row) <-> row.Readable := addRoute_read
    rw [addRoutes, read_bind, List.forall_mem_cons, <- own]
    constructor
    next =>
      intro known
      obtain ⟨middle, first, behind⟩ := known
      exact ⟨⟨middle, first⟩, ih.mp behind⟩
    next =>
      intro known
      obtain ⟨⟨middle, first⟩, behind⟩ := known
      exact ⟨middle, first, ih.mpr behind⟩

theorem getNodesInfoFromSrcRouteNetworkDb_read {database : Database} {nodes : List Entry} :
    Read (getNodesInfoFromSrcRouteNetworkDb database nodes) <->
      ∀ row ∈ rowsOf database.sourceRoutes, row.Readable := by
  rw [getNodesInfoFromSrcRouteNetworkDb]
  cases database.sourceRoutes with
  | rows rows => exact addRoutes_read
  | failed => simp [rowsOf, read_pure]
  | noResult => simp [rowsOf, read_pure]

theorem alternatePathsOf_read {rows : List AlternateRow} :
    Read (alternatePathsOf rows) <-> ∀ row ∈ rows, Read (pathOfRow (atoi row.hopCount) row.path) := by
  induction rows with
  | nil => simp [alternatePathsOf, read_pure]
  | cons row rest ih =>
    rw [alternatePathsOf, read_bind, List.forall_mem_cons, <- ih]
    constructor
    next =>
      intro known
      obtain ⟨path, first, known⟩ := known
      obtain ⟨others, behind, _⟩ := read_bind.mp known
      exact ⟨⟨path, first⟩, others, behind⟩
    next =>
      intro known
      obtain ⟨⟨path, first⟩, others, behind⟩ := known
      exact ⟨path, first, read_bind.mpr ⟨others, behind, read_pure _⟩⟩

theorem getAlternatePathForNode_read {database : Database} {node : NodeInfo} :
    Read (getAlternatePathForNode database node) <-> AlternateReadable database node.nodeMacAddress := by
  rw [getAlternatePathForNode, AlternateReadable]
  cases (database.node node.nodeMacAddress).alternateRoutes with
  | rows rows =>
    rw [rowsOf, <- alternatePathsOf_read, read_bind]
    constructor
    next =>
      intro known
      obtain ⟨paths, read, _⟩ := known
      exact ⟨paths, read⟩
    next =>
      intro known
      obtain ⟨paths, read⟩ := known
      exact ⟨paths, read, read_pure _⟩
  | failed => simp [rowsOf, read_pure]
  | noResult => simp [rowsOf, read_pure]

theorem getAlternatePathForAllNodes_read {database : Database} {gatewayMac : Bytes} {nodes : List Entry} :
    Read (getAlternatePathForAllNodes database gatewayMac nodes) <->
      ∀ entry ∈ nodes, entry.mac ≠ gatewayMac -> AlternateReadable database entry.node.nodeMacAddress := by
  induction nodes with
  | nil => simp [getAlternatePathForAllNodes, read_pure]
  | cons entry rest ih =>
    have own : Read (routeEntry database gatewayMac entry) <->
        (entry.mac ≠ gatewayMac -> AlternateReadable database entry.node.nodeMacAddress) := by
      by_cases gateway : entry.mac = gatewayMac
      next => simp [routeEntry, gateway, Read]
      next => simp [routeEntry, gateway, read_map, getAlternatePathForNode_read]
    rw [getAlternatePathForAllNodes, read_bind, List.forall_mem_cons, <- ih, <- own]
    constructor
    next =>
      intro known
      obtain ⟨routed, first, known⟩ := known
      obtain ⟨others, behind, _⟩ := read_bind.mp known
      exact ⟨⟨routed, first⟩, others, behind⟩
    next =>
      intro known
      obtain ⟨⟨routed, first⟩, others, behind⟩ := known
      exact ⟨routed, first, read_bind.mpr ⟨others, behind, read_pure _⟩⟩

theorem hexPairs_behind {front behind : Bytes} (even : front.length % 2 = 0)
    (read : Read (hexPairs (front ++ behind))) : Read (hexPairs behind) := by
  induction front using hexPairs.induct with
  | case1 high low rest ih =>
    rw [List.cons_append, List.cons_append, hexPairs] at read
    obtain ⟨value, _, read⟩ := read_bind.mp read
    obtain ⟨later, read, _⟩ := read_bind.mp read
    apply ih
    next => simpa [Nat.add_assoc] using even
    next => exact ⟨later, read⟩
  | case2 front short =>
    cases front with
    | nil => exact read
    | cons letter rest =>
      cases rest with
      | nil => simp at even
      | cons other rest => exact absurd rfl (short letter other rest)

theorem addGatewayNodeToMapList_read {gatewayId : Bytes} :
    Read (addGatewayNodeToMapList gatewayId) <-> Read (macFromHex gatewayId) := by
  rw [addGatewayNodeToMapList, read_bind]
  constructor
  next =>
    intro known
    obtain ⟨mac, own, _⟩ := known
    exact ⟨mac, own⟩
  next =>
    intro known
    obtain ⟨mac, own⟩ := known
    -- the path is read from the digits that the address was read from
    have pairs : Read (hexPairs (slice gatewayId 0 8 ++ slice gatewayId 8 8)) := by
      refine ⟨mac, ?_⟩
      rw [macFromHex] at own
      split at own
      next => cases own
      next => simpa [slice, List.range_succ] using own
    obtain ⟨path, read⟩ := hexPairs_behind (by simp) pairs
    exact ⟨mac, own, read_bind.mpr ⟨path, read, read_pure _⟩⟩

/-- One text that is not hexadecimal, and the list of the nodes is not built. -/
theorem buildNodeListFromDb_read {database : Database} {gatewayId : Bytes} :
    Read (buildNodeListFromDb database gatewayId) <-> Readable database gatewayId := by
  rw [buildNodeListFromDb, read_bind]
  constructor
  next =>
    intro known
    obtain ⟨gateway, first, known⟩ := known
    obtain ⟨routers, second, known⟩ := read_bind.mp known
    obtain ⟨gatewayMac, own, known⟩ := read_bind.mp known
    obtain ⟨routed, third, _⟩ := read_bind.mp known
    obtain ⟨same, read, map, macs⟩ := routers_map first second
    refine ⟨⟨gatewayMac, own⟩, getNodesInfoFromSrcRouteNetworkDb_read.mp ⟨routers, second⟩, ?_⟩
    intro row inside mac adds other
    obtain ⟨entry, listed, rfl⟩ := List.mem_map.mp ((macs mac).mpr (Or.inr ⟨row, inside, adds⟩))
    rw [<- (map.listed entry listed).address]
    apply getAlternatePathForAllNodes_read.mp ⟨routed, third⟩ entry listed
    rintro rfl
    exact other own
  next =>
    intro readable
    obtain ⟨gateway, first⟩ := addGatewayNodeToMapList_read.mpr readable.gateway
    have routes : Read (getNodesInfoFromSrcRouteNetworkDb database gateway) :=
      getNodesInfoFromSrcRouteNetworkDb_read.mpr readable.rows
    obtain ⟨routers, second⟩ := routes
    obtain ⟨gatewayMac, own, map, macs⟩ := routers_map first second
    refine ⟨gateway, first, read_bind.mpr ⟨routers, second, read_bind.mpr ⟨gatewayMac, own, ?_⟩⟩⟩
    -- the gateway itself is never asked for alternate paths
    have alternates : Read (getAlternatePathForAllNodes database gatewayMac routers) := by
      apply getAlternatePathForAllNodes_read.mpr
      intro entry listed other
      rw [(map.listed entry listed).address]
      rcases (macs entry.mac).mp (List.mem_map_of_mem listed) with gateway | ⟨row, inside, adds⟩
      next => exact absurd gateway other
      next =>
        apply readable.alternates row inside entry.mac adds
        rw [own]
        exact fun same => other (Except.ok.inj same).symm
    obtain ⟨routed, third⟩ := alternates
    exact read_bind.mpr ⟨routed, third, read_pure _⟩

end Hes.CycleActivity
