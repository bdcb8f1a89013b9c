import Mathlib.Data.List.GetD
import Hes.Lib.Buckets
import Hes.Lib.Prog
import Hes.CommandFrames
import Hes.OdmProfiles

set_option autoImplicit false

namespace Hes.Unsilence

open Prog CommandFrames

/-- What a transmission and the deletion behind it do to the rest of the client. -/
structure Transmitter (S : Type) where
  transmit : Bytes -> S -> Code × S
  deleteNode : Bytes -> S -> S
  connected : S -> Bool

/-- A command for the node at an index of the table. -/
structure Attempt where
  index : Nat
  frame : Bytes
  ret : Code
  deriving DecidableEq, Repr

structure UnsilenceState (S : Type) where
  nodeList : List NodeRecord
  attempts : List Attempt := []
  deleted : List Bytes := []
  rest : S

variable {S : Type}

def nodeAt (nodes : List NodeRecord) (index : Nat) : NodeRecord :=
  nodes.getD index { macAddress := [], pathRecord := [], hopCount := 0 }

def tableSize : Nat := 100

/-- The indices of `node_list` that the queue is copied to. -/
def tableWrites (queue : List NodeRecord) : List Nat := List.range queue.length

def maxHop (nodes : List NodeRecord) : UInt8 :=
  nodes.foldl (fun most node => if node.hopCount > most then node.hopCount else most) 0

def transmitTo (transmitter : Transmitter S) (index : Nat) (frame : Bytes) :
    Prog (UnsilenceState S) Code := fun state =>
  let (ret, rest) := transmitter.transmit (transmitted frame) state.rest
  (some ret, { state with rest := rest
                          attempts := state.attempts ++
                            [{ index := index, frame := transmitted frame, ret := ret }] })

/-- The node leaves the database, and its hop count in the table is one that no node has. -/
def markProcessed (transmitter : Transmitter S) (most : UInt8) (index : Nat) (node : NodeRecord)
    (state : UnsilenceState S) : UnsilenceState S :=
  { state with
    rest := transmitter.deleteNode node.macAddress state.rest
    deleted := state.deleted ++ [node.macAddress]
    nodeList := state.nodeList.set index { node with hopCount := most + 1 } }

/-- All nodes of one hop count; false when the gateway was lost. -/
def processLevel (transmitter : Transmitter S) (texts : GatewayTexts) (most current : UInt8) :
    List Nat -> Prog (UnsilenceState S) Bool
  | [] => pure true
  | index :: rest => do
    let node <- observe fun state => nodeAt state.nodeList index
    if node.hopCount = current then
      match frameUnsilenceCmd texts node.pathRecord node.hopCount with
      | none => processLevel transmitter texts most current rest
      | some txBuffer =>
        let ret <- transmitTo transmitter index txBuffer
        if ret = .success then
          update (markProcessed transmitter most index node)
          processLevel transmitter texts most current rest
        else if <- observe fun state => transmitter.connected state.rest then
          processLevel transmitter texts most current rest
        else return false
    else processLevel transmitter texts most current rest

-- `current_hop` has eight bits, so it never exceeds a maximum of 255
def hopTurn (transmitter : Transmitter S) (texts : GatewayTexts) (most : UInt8) (nodeCount : Nat)
    (current : UInt8) : Prog (UnsilenceState S) (Turn UInt8 Code) := do
  if current ≤ most then
    if <- processLevel transmitter texts most current (List.range nodeCount) then
      return .again (current + 1)
    else return .done .failure
  else return .done .success

def unsilenceNetwork (transmitter : Transmitter S) (texts : GatewayTexts) (fuel : Nat) :
    Prog (UnsilenceState S) Code := do
  let nodes <- observe fun state => state.nodeList
  if nodes.length = 0 then return .success
  else loop (hopTurn transmitter texts (maxHop nodes) nodes.length) fuel 0

def opened (queue : List NodeRecord) (rest : S) : UnsilenceState S :=
  { nodeList := queue, rest := rest }

def Attempt.succeeded (attempt : Attempt) : Bool := attempt.ret = .success

/-- The call ends with every node attempted once, those with fewer hops first, and with the nodes
deleted whose attempt succeeded. -/
structure Unsilenced (texts : GatewayTexts) (queue : List NodeRecord) (last : UnsilenceState S) :
    Prop where
  once : (last.attempts.map Attempt.index).Perm (List.range queue.length)
  ordered : last.attempts.Pairwise fun first second =>
    (nodeAt queue first.index).hopCount ≤ (nodeAt queue second.index).hopCount
  addressed : ∀ attempt ∈ last.attempts, exists frame,
    frameUnsilenceCmd texts (nodeAt queue attempt.index).pathRecord
      (nodeAt queue attempt.index).hopCount = some frame /\ attempt.frame = transmitted frame
  deleted : last.deleted = (last.attempts.filter Attempt.succeeded).map fun attempt =>
    (nodeAt queue attempt.index).macAddress

def VisitsInOrder (transmitter : Transmitter S) (texts : GatewayTexts) (queue : List NodeRecord)
    (rest : S) : Prop :=
  (∀ index ∈ tableWrites queue, index < tableSize) /\
    exists fuel last, unsilenceNetwork transmitter texts fuel (opened queue rest) =
      (some .success, last) /\ Unsilenced texts queue last

/-- No failed transmission leaves the gateway disconnected. -/
def Steady (transmitter : Transmitter S) : Prop :=
  forall frame rest, (transmitter.transmit frame rest).1 ≠ .success ->
    transmitter.connected (transmitter.transmit frame rest).2 = true

def FitsTable (queue : List NodeRecord) : Prop :=
  queue.length ≤ tableSize /\ ∀ node ∈ queue, node.hopCount.toNat ≤ 30

def hops (queue : List NodeRecord) (index : Nat) : Nat := (nodeAt queue index).hopCount.toNat

def attempted (state : UnsilenceState S) : List Nat := state.attempts.map Attempt.index

/-- The table holds the queue, but for the nodes that are processed. -/
structure Underway (texts : GatewayTexts) (queue : List NodeRecord) (most : UInt8)
    (state : UnsilenceState S) : Prop where
  table : forall index, nodeAt state.nodeList index = nodeAt queue index \/
    ((nodeAt state.nodeList index).hopCount = most + 1 /\ index ∈ attempted state)
  addressed : ∀ attempt ∈ state.attempts, exists frame,
    frameUnsilenceCmd texts (nodeAt queue attempt.index).pathRecord
      (nodeAt queue attempt.index).hopCount = some frame /\ attempt.frame = transmitted frame
  deleted : state.deleted = (state.attempts.filter Attempt.succeeded).map fun attempt =>
    (nodeAt queue attempt.index).macAddress

section Levels

variable (transmitter : Transmitter S) (texts : GatewayTexts)

theorem nodeAt_set (nodes : List NodeRecord) (index other : Nat) (node : NodeRecord) :
    nodeAt (nodes.set index node) other = nodeAt nodes other \/
      (other = index /\ nodeAt (nodes.set index node) other = node) := by
  unfold nodeAt
  rw [List.getD_eq_getElem?_getD, List.getD_eq_getElem?_getD, List.getElem?_set]
  by_cases same : index = other
  next =>
    by_cases inside : index < nodes.length
    next => right; simp [← same, inside]
    next => left; simp [← same, inside]
  next => left; simp [same]

/-- Behind the transmission of one frame. -/
def attemptedAt (index : Nat) (frame : Bytes) (state : UnsilenceState S) : UnsilenceState S :=
  let (ret, rest) := transmitter.transmit (transmitted frame) state.rest
  { state with rest := rest
               attempts := state.attempts ++
                 [{ index := index, frame := transmitted frame, ret := ret }] }

/-- Behind the attempt of a node that is in its place in the table. -/
def settled (most : UInt8) (index : Nat) (node : NodeRecord) (frame : Bytes)
    (state : UnsilenceState S) : UnsilenceState S :=
  let after := attemptedAt transmitter index frame state
  if (transmitter.transmit (transmitted frame) state.rest).1 = .success then
    markProcessed transmitter most index node after
  else after

theorem processLevel_other (most current : UInt8) (index : Nat) (rest : List Nat)
    (state : UnsilenceState S) (other : (nodeAt state.nodeList index).hopCount ≠ current) :
    processLevel transmitter texts most current (index :: rest) state =
      processLevel transmitter texts most current rest state := by
  have read : (observe fun state : UnsilenceState S => nodeAt state.nodeList index) state =
      (some (nodeAt state.nodeList index), state) := rfl
  rw [processLevel, ran_bind read, if_neg other]

theorem processLevel_level (steady : Steady transmitter) (most current : UInt8) (index : Nat)
    (rest : List Nat) (frame : Bytes) (state : UnsilenceState S)
    (level : (nodeAt state.nodeList index).hopCount = current)
    (built : frameUnsilenceCmd texts (nodeAt state.nodeList index).pathRecord
      (nodeAt state.nodeList index).hopCount = some frame) :
    processLevel transmitter texts most current (index :: rest) state =
      processLevel transmitter texts most current rest
        (settled transmitter most index (nodeAt state.nodeList index) frame state) := by
  have read : (observe fun state : UnsilenceState S => nodeAt state.nodeList index) state =
      (some (nodeAt state.nodeList index), state) := rfl
  have sent : transmitTo transmitter index frame state =
      (some (transmitter.transmit (transmitted frame) state.rest).1,
        attemptedAt transmitter index frame state) := rfl
  rw [processLevel, ran_bind read, if_pos level, built]
  dsimp only
  rw [ran_bind sent, settled]
  by_cases success : (transmitter.transmit (transmitted frame) state.rest).1 = .success
  next =>
    rw [if_pos success, if_pos success]
    rfl
  next =>
    have still : transmitter.connected (attemptedAt transmitter index frame state).rest = true :=
      steady (transmitted frame) state.rest success
    rw [if_neg success, if_neg success]
    generalize attemptedAt transmitter index frame state = after at still ⊢
    have asked : (observe fun state : UnsilenceState S => transmitter.connected state.rest) after =
        (some true, after) := by rw [observe, still]
    rw [ran_bind asked]
    rfl

theorem settled_underway (queue : List NodeRecord) (most : UInt8) (index : Nat) (frame : Bytes)
    (state : UnsilenceState S) (underway : Underway texts queue most state)
    (built : frameUnsilenceCmd texts (nodeAt queue index).pathRecord
      (nodeAt queue index).hopCount = some frame) :
    let after := settled transmitter most index (nodeAt queue index) frame state
    Underway texts queue most after /\ attempted after = attempted state ++ [index] := by
  have addressed : ∀ attempt ∈ (attemptedAt transmitter index frame state).attempts,
      exists frame, frameUnsilenceCmd texts (nodeAt queue attempt.index).pathRecord
        (nodeAt queue attempt.index).hopCount = some frame /\
        attempt.frame = transmitted frame := by
    intro attempt inside
    rcases List.mem_append.mp inside with before | last
    next => exact underway.addressed attempt before
    next =>
      rw [List.mem_singleton.mp last]
      exact ⟨frame, built, rfl⟩
  dsimp only
  rw [settled]
  by_cases success : (transmitter.transmit (transmitted frame) state.rest).1 = .success
  next =>
    rw [if_pos success]
    refine ⟨⟨?_, addressed, ?_⟩, ?_⟩
    next =>
      intro other
      simp only [markProcessed, attemptedAt, attempted, List.map_append, List.mem_append]
      rcases nodeAt_set state.nodeList index other { nodeAt queue index with hopCount := most + 1 }
        with kept | ⟨same, marked⟩
      next =>
        rw [kept]
        rcases underway.table other with original | ⟨processed, known⟩
        next => exact Or.inl original
        next => exact Or.inr ⟨processed, Or.inl known⟩
      next =>
        rw [marked]
        exact Or.inr ⟨rfl, Or.inr (by simp [same])⟩
    next =>
      simp [markProcessed, attemptedAt, underway.deleted, Attempt.succeeded, success]
    next => simp [markProcessed, attemptedAt, attempted]
  next =>
    rw [if_neg success]
    refine ⟨⟨?_, addressed, ?_⟩, by simp [attemptedAt, attempted]⟩
    next =>
      intro other
      simp only [attemptedAt, attempted, List.map_append, List.mem_append]
      rcases underway.table other with original | ⟨processed, known⟩
      next => exact Or.inl original
      next => exact Or.inr ⟨processed, Or.inl known⟩
    next => simp [attemptedAt, underway.deleted, Attempt.succeeded, success]

/-- A level attempts the nodes of its hop count, in their order, and no other one. -/
theorem processLevel_underway (steady : Steady transmitter) (queue : List NodeRecord)
    (small : forall index, hops queue index ≤ 30) (most current : UInt8) (below : current ≤ most)
    (bounded : most.toNat ≤ 30) (indices : List Nat) (nodup : indices.Nodup)
    (state : UnsilenceState S) (underway : Underway texts queue most state)
    (fresh : ∀ index ∈ indices, index ∈ attempted state -> hops queue index ≠ current.toNat) :
    exists after,
      processLevel transmitter texts most current indices state = (some true, after) /\
        Underway texts queue most after /\
        attempted after = attempted state ++
          indices.filter fun index => hops queue index = current.toNat := by
  induction indices generalizing state with
  | nil => exact ⟨state, rfl, underway, by simp⟩
  | cons index rest ih =>
    rw [List.nodup_cons] at nodup
    have restFresh : ∀ other ∈ rest, other ∈ attempted state -> hops queue other ≠ current.toNat :=
      fun other inside => fresh other (List.mem_cons_of_mem index inside)
    by_cases level : hops queue index = current.toNat
    next =>
      -- a processed node has been attempted, and at an earlier level
      have original : nodeAt state.nodeList index = nodeAt queue index := by
        rcases underway.table index with original | ⟨_, known⟩
        next => exact original
        next => exact absurd level (fresh index (by simp) known)
      have same : (nodeAt queue index).hopCount = current := UInt8.toNat_inj.mp level
      obtain ⟨frame, built⟩ := Option.isSome_iff_exists.mp
        ((frameUnsilence_iff texts (nodeAt queue index).pathRecord _).mpr (small index))
      obtain ⟨underwayNext, attempts⟩ :=
        settled_underway transmitter texts queue most index frame state underway built
      obtain ⟨after, ran, underwayAfter, all⟩ := ih nodup.2 _ underwayNext (by
        intro other inside known
        rw [attempts, List.mem_append, List.mem_singleton] at known
        rcases known with known | rfl
        next => exact restFresh other inside known
        next => exact absurd inside nodup.1)
      refine ⟨after, ?_, underwayAfter, ?_⟩
      next =>
        rw [processLevel_level transmitter texts steady most current index rest frame state
          (by rw [original, same]) (by rw [original, built]), original]
        exact ran
      next => simp [all, attempts, level]
    next =>
      have other : (nodeAt state.nodeList index).hopCount ≠ current := by
        rcases underway.table index with original | ⟨processed, _⟩
        next =>
          rw [original]
          exact fun same => level (UInt8.toNat_inj.mpr same)
        next =>
          rw [processed]
          intro same
          have beyond := UInt8.toNat_inj.mpr same
          have bound := UInt8.le_iff_toNat_le.mp below
          rw [UInt8.toNat_add] at beyond
          simp at beyond
          omega
      obtain ⟨after, ran, underwayAfter, all⟩ := ih nodup.2 state underway restFresh
      refine ⟨after, ?_, underwayAfter, by simp [all, level]⟩
      rw [processLevel_other transmitter texts most current index rest state other]
      exact ran

/-- From the level `current` on: `left` levels, and the check that ends the loop. -/
theorem levels_end (steady : Steady transmitter) (queue : List NodeRecord)
    (small : forall index, hops queue index ≤ 30) (most : UInt8) (bounded : most.toNat ≤ 30)
    (left : Nat) (current : UInt8) (enough : current.toNat + left = most.toNat + 1)
    (state : UnsilenceState S) (underway : Underway texts queue most state)
    (levels : attempted state =
      Buckets.pass (hops queue) (List.range queue.length) current.toNat) :
    exists last, loop (hopTurn transmitter texts most queue.length) (left + 1) current state =
        (some .success, last) /\ Underway texts queue most last /\
      attempted last = Buckets.pass (hops queue) (List.range queue.length) (most.toNat + 1) := by
  induction left generalizing current state with
  | zero =>
    have beyond : ¬ current ≤ most := by
      rw [UInt8.le_iff_toNat_le]
      omega
    have ended : hopTurn transmitter texts most queue.length current state =
        (some (.done .success), state) := by
      rw [hopTurn, if_neg beyond]
      rfl
    refine ⟨state, ?_, underway, ?_⟩
    next =>
      rw [loop, ran_bind ended]
      rfl
    next => rw [levels, ← enough, Nat.add_zero]
  | succ left ih =>
    have below : current ≤ most := by
      rw [UInt8.le_iff_toNat_le]
      omega
    have next : (current + 1).toNat = current.toNat + 1 := by
      rw [UInt8.toNat_add]
      simp
      omega
    obtain ⟨after, ran, underwayAfter, attempts⟩ := processLevel_underway transmitter texts steady
      queue small most current below bounded _ List.nodup_range state underway (by
        intro index _ known
        rw [levels, (Buckets.pass_below _ _ _).mem_iff, List.mem_filter, decide_eq_true_eq] at known
        omega)
    have turned : hopTurn transmitter texts most queue.length current state =
        (some (.again (current + 1)), after) := by
      rw [hopTurn, if_pos below, ran_bind ran]
      rfl
    obtain ⟨last, ended, underwayLast, all⟩ := ih (current + 1) (by omega) after underwayAfter
      (by rw [attempts, levels, next, Buckets.pass_succ])
    refine ⟨last, ?_, underwayLast, all⟩
    rw [loop, ran_bind turned]
    exact ended

theorem maxHop_step (most : UInt8) (nodes : List NodeRecord) (bound : Nat) :
    (nodes.foldl (fun most node => if node.hopCount > most then node.hopCount else most)
      most).toNat ≤ bound <-> most.toNat ≤ bound /\ ∀ node ∈ nodes, node.hopCount.toNat ≤ bound := by
  induction nodes generalizing most with
  | nil => simp
  | cons node nodes ih =>
    rw [List.foldl_cons, ih, List.forall_mem_cons]
    by_cases more : node.hopCount > most
    next =>
      have := UInt8.lt_iff_toNat_lt.mp more
      rw [if_pos more]
      constructor
      next => exact fun known => ⟨by omega, known.1, known.2⟩
      next => exact fun known => ⟨known.2.1, known.2.2⟩
    next =>
      have : node.hopCount.toNat ≤ most.toNat := UInt8.le_iff_toNat_le.mp (UInt8.not_lt.mp more)
      rw [if_neg more]
      constructor
      next => exact fun known => ⟨known.1, by omega, known.2⟩
      next => exact fun known => ⟨known.1, known.2.2⟩

theorem maxHop_bound (nodes : List NodeRecord) (bound : Nat) :
    (maxHop nodes).toNat ≤ bound <-> ∀ node ∈ nodes, node.hopCount.toNat ≤ bound := by
  rw [maxHop, maxHop_step]
  simp

theorem hops_bound (queue : List NodeRecord) (bound : Nat)
    (bounded : ∀ node ∈ queue, node.hopCount.toNat ≤ bound) (index : Nat) :
    hops queue index ≤ bound := by
  unfold hops nodeAt
  by_cases inside : index < queue.length
  next =>
    rw [List.getD_eq_getElem _ _ inside]
    exact bounded _ (List.getElem_mem inside)
  next =>
    rw [List.getD_eq_default _ _ (by omega)]
    simp

theorem fits_visits (steady : Steady transmitter) (queue : List NodeRecord) (rest : S)
    (fits : FitsTable queue) : VisitsInOrder transmitter texts queue rest := by
  obtain ⟨inside, small⟩ := fits
  refine ⟨?_, ?_⟩
  next =>
    intro index write
    have := List.mem_range.mp write
    omega
  next =>
    have read : (observe fun state : UnsilenceState S => state.nodeList) (opened queue rest) =
        (some queue, opened queue rest) := rfl
    by_cases empty : queue.length = 0
    next =>
      refine ⟨0, opened queue rest, ?_, ?_⟩
      next =>
        rw [unsilenceNetwork, ran_bind read, if_pos empty]
        rfl
      next => exact ⟨by simp [opened, empty], by simp [opened], by simp [opened], by simp [opened]⟩
    next =>
      obtain ⟨last, ended, underway, all⟩ := levels_end transmitter texts steady queue
        (hops_bound queue 30 small) (maxHop queue) ((maxHop_bound queue 30).mpr small)
        ((maxHop queue).toNat + 1) 0 (by simp) (opened queue rest)
        ⟨fun index => Or.inl rfl, by simp [opened], by simp [opened]⟩
        (by simp [attempted, opened, Buckets.pass])
      refine ⟨(maxHop queue).toNat + 2, last, ?_, ?_, ?_, underway.addressed, underway.deleted⟩
      next =>
        rw [unsilenceNetwork, ran_bind read, if_neg empty]
        exact ended
      next =>
        have bound := hops_bound queue _ ((maxHop_bound queue _).mp (Nat.le_refl _))
        have once := Buckets.pass_perm (hops queue) (List.range queue.length)
          ((maxHop queue).toNat + 1) (fun index _ => Nat.lt_succ_of_le (bound index))
        rwa [← all] at once
      next =>
        have sorted := Buckets.pass_sorted (hops queue) (List.range queue.length)
          ((maxHop queue).toNat + 1)
        rw [← all, attempted, List.pairwise_map] at sorted
        exact sorted.imp fun below => UInt8.le_iff_toNat_le.mpr below

theorem visits_fits (queue : List NodeRecord) (rest : S)
    (visits : VisitsInOrder transmitter texts queue rest) : FitsTable queue := by
  obtain ⟨writes, fuel, last, -, once, -, addressed, -⟩ := visits
  refine ⟨?_, ?_⟩
  next =>
    by_contra large
    have beyond := writes tableSize (List.mem_range.mpr (by omega))
    omega
  next =>
    intro node inside
    obtain ⟨index, below, known⟩ := List.mem_iff_getElem.mp inside
    have present := once.mem_iff.mpr (List.mem_range.mpr below)
    obtain ⟨attempt, attemptIn, same⟩ := List.mem_map.mp present
    obtain ⟨frame, built, -⟩ := addressed attempt attemptIn
    rw [same, nodeAt, List.getD_eq_getElem _ _ below, known] at built
    exact (frameUnsilence_iff texts node.pathRecord node.hopCount).mp (by simp [built])

/-- While the gateway stays connected, the nodes are visited as described exactly where the queue
fits the table and no node has more than 30 hops. -/
theorem visitsInOrder_iff (steady : Steady transmitter) (queue : List NodeRecord) (rest : S) :
    VisitsInOrder transmitter texts queue rest <-> FitsTable queue := by
  constructor
  next => exact visits_fits transmitter texts queue rest
  next => exact fits_visits transmitter texts steady queue rest

end Levels

def answering : Transmitter Unit where
  transmit _ _ := (.success, ())
  deleteNode _ _ := ()
  connected _ := true

/-- The node with fewer hops stands behind the other one. -/
def twoNodes : List NodeRecord :=
  [{ macAddress := [0x31], pathRecord := List.replicate 16 0x30, hopCount := 2 },
   { macAddress := [0x32], pathRecord := List.replicate 8 0x30, hopCount := 1 }]

theorem visitsInOrder_iff_twoNodes :
    Steady answering /\
      (VisitsInOrder answering { panId := [], sourceId := [] } twoNodes () <->
        FitsTable twoNodes) :=
  ⟨fun _ _ _ => rfl,
    visitsInOrder_iff answering { panId := [], sourceId := [] } (fun _ _ _ => rfl) twoNodes ()⟩

/-- A node behind 31 hops: its command has no room in the frame. -/
def farNode : List NodeRecord :=
  [{ macAddress := [0x31], pathRecord := List.replicate 248 0x30, hopCount := 31 }]

theorem farNode_skipped :
    ¬ forall texts queue, VisitsInOrder answering texts queue () := by
  intro every
  have fits := visits_fits answering { panId := [], sourceId := [] } farNode () (every _ _)
  have small := fits.2 _ (List.mem_singleton.mpr rfl)
  revert small
  decide +kernel

end Hes.Unsilence
