import Hes.Mqtt

set_option autoImplicit false

namespace Hes.Mqtt

open Text

/-- The consumer's pass over one entry reads every number and field it asks for. -/
def Produced.Consumable : Produced -> Prop
  | .cancelled ids => ∀ id ∈ ids, Reads (cancelledRequest id)
  | .failed cmd => Reads (failedRequest cmd)
  | .odm cmd => forall lookup, Reads (prepareOdm lookup cmd)
  | .fuota _ => True

def Robust (gatewayId : Bytes) (seen : SeenIds) (payload : Bytes) : Prop :=
  exists entries after, validateRequestIds gatewayId seen payload = .ok (entries, after) /\
    ∀ entry ∈ entries, entry.Consumable

/-- An absent or empty field counts as a default; any other text must hold a number. -/
def NumberOrEmpty (text : Bytes) : Prop := text = [] \/ Reads (stoi text)

structure ConsumerReads (parts : List Bytes) : Prop where
  id : NumberOrEmpty (part parts 0)
  enough : 5 ≤ parts.length
  type : NumberOrEmpty (part parts 4)

def accepted (gatewayId : Bytes) (seen : SeenIds) (parts : List Bytes) : Bool :=
  reachesCommand gatewayId seen parts &&
    (match validateCommand parts with
      | .ok matched => matched
      | .error _ => false) && pingFieldValid parts 6 && pingFieldValid parts 7

/-- False only for a hop count whose length check wraps around; then the path check fails first. -/
def PathMayPass (parts : List Bytes) : Prop :=
  forall hopCount, stoi (part parts 2) = .ok hopCount -> 0 < hopCount ->
    32 ≤ (part parts 3).length

/-- The exact condition on one command in front of the ids seen so far. -/
def CommandHarmless (gatewayId : Bytes) (seen : SeenIds) (cmd : Bytes) : Prop :=
  let parts := explode colon cmd
  if part parts 0 = ascii "CANCEL" then ∀ id ∈ parts.tail, Reads (stoi id)
  else
    (split colon cmd = [] \/ ConsumerReads (split colon cmd)) /\
      (reachesCommand gatewayId seen parts = true ->
        (part parts 5).length % 2 = 0 -> Reads (hexPairs (part parts 5))) /\
      (accepted gatewayId seen parts = true -> isPing (part parts 4) = true ->
        PathMayPass parts -> part parts 0 ≠ [])

def seenAfter (seen : SeenIds) (cmd : Bytes) : SeenIds :=
  let parts := explode colon cmd
  if part parts 0 = ascii "CANCEL" then seen
  else if idRemembered seen parts then seen.insert (part parts 4) (part parts 0) else seen

def Harmless (gatewayId : Bytes) : SeenIds -> List Bytes -> Prop
  | _, [] => True
  | seen, cmd :: rest =>
    CommandHarmless gatewayId seen cmd /\ Harmless gatewayId (seenAfter seen cmd) rest

section Reading

variable {A B : Type}

@[simp]
theorem reads_ok (value : A) : Reads (Except.ok value : Result A) := ⟨value, rfl⟩

@[simp]
theorem reads_error (fault : Fault) : ¬ Reads (Except.error fault : Result A) := by
  rintro ⟨value, same⟩
  cases same

theorem reads_bind (first : Result A) (next : A -> Result B) :
    Reads (first >>= next) <-> exists value, first = .ok value /\ Reads (next value) := by
  cases first with
  | error fault =>
    constructor
    next => rintro ⟨value, same⟩; cases same
    next => rintro ⟨value, same, -⟩; cases same
  | ok value => simp [bind, Except.bind]

@[simp]
theorem reads_pure (value : A) : Reads (pure value : Result A) := ⟨value, rfl⟩

end Reading

theorem field_reads (parts : List Bytes) (index : Nat) :
    Reads (field parts index) <-> index < parts.length := by
  unfold field
  by_cases inside : index < parts.length
  next => simp [inside]
  next => simp [inside]

theorem field_part (parts : List Bytes) (index : Nat) (inside : index < parts.length) :
    field parts index = .ok (part parts index) := by
  simp [field, part, inside]

theorem stoi_empty : ¬ Reads (stoi []) := by
  simp [stoi, stoiBase, signedNumber, leadingNumber]

theorem stoul_empty : ¬ Reads (stoul []) := by
  simp [stoul, signedNumber, leadingNumber]

theorem stoul_of_stoi (text : Bytes) (readable : Reads (stoi text)) : Reads (stoul text) := by
  unfold stoi stoiBase at readable
  unfold stoul
  cases number : signedNumber 10 text with
  | none => simp [number] at readable
  | some signed =>
    obtain ⟨negative, value⟩ := signed
    have small : value < 18446744073709551616 := by
      by_contra large
      have above : ¬ value ≤ 2147483648 := by omega
      have beyond : ¬ value < 2147483648 := by omega
      cases negative
      next => simp [number, beyond] at readable
      next => simp [number, above] at readable
    simp [small]

theorem requestIdOf_reads (parts : List Bytes) :
    Reads (requestIdOf parts) <-> NumberOrEmpty (part parts 0) := by
  unfold requestIdOf NumberOrEmpty
  by_cases empty : part parts 0 = []
  next => simp [empty]
  next =>
    have some' : parts ≠ [] := by
      rintro rfl
      exact empty rfl
    simp [empty, some']

theorem number_or_default_reads {A : Type} (text : Bytes) (next : Int -> Result A)
    (total : forall value, Reads (next value)) :
    Reads (if text ≠ [] then stoi text >>= next else Except.ok 0 >>= next) <->
      NumberOrEmpty text := by
  unfold NumberOrEmpty
  by_cases empty : text = []
  next => simp [empty, reads_bind, total]
  next =>
    simp only [ne_eq, empty, not_false_eq_true, if_true, false_or, reads_bind, total, and_true]
    exact Iff.rfl

theorem failedRequest_reads (cmd : Bytes) :
    Reads (failedRequest cmd) <-> split colon cmd = [] \/ ConsumerReads (split colon cmd) := by
  unfold failedRequest
  generalize split colon cmd = parts
  by_cases none' : parts = []
  next => simp [none', requestIdOf, reads_bind]
  next =>
    have positive : parts.length > 0 := List.length_pos_iff.mpr none'
    simp only [reads_bind, none', false_or, positive, if_true]
    constructor
    next =>
      rintro ⟨requestId, identified, text, present, typed⟩
      have id := (requestIdOf_reads parts).mp ⟨requestId, identified⟩
      have enough : 4 < parts.length := (field_reads parts 4).mp ⟨text, present⟩
      have same : part parts 4 = text := by
        simpa [field_part parts 4 enough] using present
      have type := (number_or_default_reads text _ fun _ => reads_pure _).mp typed
      exact ⟨id, enough, same ▸ type⟩
    next =>
      rintro ⟨id, enough, type⟩
      obtain ⟨requestId, identified⟩ := (requestIdOf_reads parts).mpr id
      refine ⟨requestId, identified, part parts 4, field_part parts 4 enough, ?_⟩
      exact (number_or_default_reads _ _ fun _ => reads_pure _).mpr type

theorem allowed_codes : ∀ code ∈ List.range 32,
    let text := [UInt8.ofNat (0x30 + code / 10), UInt8.ofNat (0x30 + code % 10)]
    stoi text = .ok (code : Int) /\ isPing text = decide (code = 13 \/ code = 14) /\
      (text = ascii "13" <-> code = 13) := by
  decide

/-- What the producer has checked when a command goes to the ODM queue. -/
structure AcceptedFields (parts : List Bytes) : Prop where
  count : 6 ≤ parts.length
  gateway : (part parts 1).length = 16
  hop : Reads (stoi (part parts 2))
  type : exists code : Nat, code < 32 /\ stoi (part parts 4) = .ok (code : Int) /\
    isPing (part parts 4) = decide (code = 13 \/ code = 14) /\ (code = 13 ->
      6 < parts.length /\ Reads (stoi (part parts 6)))

theorem buildPmeshFrame_reads (parts : List Bytes) (fields : AcceptedFields parts) :
    Reads (buildPmeshFrame parts) := by
  have enough := fields.count
  obtain ⟨hopCount, hop⟩ := fields.hop
  unfold buildPmeshFrame
  rw [field_part parts 4 (by omega), field_part parts 1 (by omega), field_part parts 2 (by omega),
    field_part parts 3 (by omega), field_part parts 5 (by omega)]
  have long : ¬ (part parts 1).length < 8 := by
    have := fields.gateway
    omega
  simp [reads_bind, long, hop]

theorem buildRequest_reads (parts : List Bytes) (requestId : Int) (code : Nat)
    (gateway dest : Bytes) (fields : AcceptedFields parts) (small : code < 32)
    (ping : code = 13 -> 6 < parts.length /\ Reads (stoi (part parts 6))) :
    Reads (buildRequest parts requestId (toUInt8 code) gateway dest) := by
  unfold buildRequest
  by_cases node : code = 13
  next =>
    obtain ⟨present, count, read⟩ := ping node
    have same : toUInt8 (code : Int) = 13 := by
      subst node
      decide
    simp [same, field_part parts 6 present, reads_bind, read]
  next =>
    have different : toUInt8 (code : Int) ≠ 13 := by
      intro same
      have value := congrArg UInt8.toNat same
      simp [toUInt8] at value
      omega
    obtain ⟨frame, built⟩ := buildPmeshFrame_reads parts fields
    simp [different, built]

theorem pingNodeDetails_reads (parts : List Bytes) (fields : AcceptedFields parts)
    (id : NumberOrEmpty (part parts 0)) :
    Reads (pingNodeDetails parts) <-> part parts 0 ≠ [] := by
  have enough := fields.count
  have some' : parts ≠ [] := by
    rintro rfl
    simp at enough
  have hopRead : Reads (pingHopCount parts) := by
    unfold pingHopCount
    split
    next => exact fields.hop
    next => exact reads_ok _
  obtain ⟨hop, known⟩ := hopRead
  simp only [pingNodeDetails, reads_bind, known, Except.ok.injEq, exists_eq_left', some', ne_eq,
    not_false_eq_true, if_true]
  constructor
  next =>
    rintro read empty
    exact stoul_empty (empty ▸ read)
  next =>
    intro present
    rcases id with empty | number
    next => exact absurd empty present
    next => exact stoul_of_stoi _ number

theorem ping_code (code : Nat) (small : code < 32) :
    (toUInt8 (code : Int) = 13 || toUInt8 (code : Int) = 14) = decide (code = 13 \/ code = 14) := by
  have every : ∀ code ∈ List.range 32,
      (toUInt8 ((code : Nat) : Int) = 13 || toUInt8 ((code : Nat) : Int) = 14) =
        decide (code = 13 \/ code = 14) := by decide
  exact every code (List.mem_range.mpr small)

theorem prepareRequest_reads (parts : List Bytes) (requestId : Int) (gateway dest : Bytes)
    (fields : AcceptedFields parts) (id : NumberOrEmpty (part parts 0)) :
    Reads (prepareRequest parts requestId gateway dest) <->
      (isPing (part parts 4) = true -> part parts 0 ≠ []) := by
  have enough := fields.count
  obtain ⟨code, small, type, ping, node⟩ := fields.type
  obtain ⟨request, built⟩ := buildRequest_reads parts requestId code gateway dest fields small node
  simp only [prepareRequest, reads_bind, field_part parts 4 (by omega), type, Except.ok.injEq,
    exists_eq_left', ping_code code small, ping]
  by_cases pinged : code = 13 \/ code = 14
  next =>
    have details := pingNodeDetails_reads parts fields id
    simp only [pinged, decide_true, if_true, reads_bind, built, Except.ok.injEq, reads_pure,
      and_true, forall_const, exists_eq']
    exact details
  next => simp [pinged, built]

theorem checkPath_passes (lookup : PathLookup) (dest : Bytes) (requestId : Int)
    (passed : checkPathInSourceRouteNetwork lookup dest requestId = none) : 32 ≤ dest.length := by
  unfold checkPathInSourceRouteNetwork at passed
  by_contra short
  have short : dest.length < 32 := by omega
  simp [short] at passed

theorem checkPath_found (dest : Bytes) (requestId : Int) (long : 32 ≤ dest.length) :
    checkPathInSourceRouteNetwork .found dest requestId = none := by
  have reached : ¬ dest.length < 32 := by omega
  simp [checkPathInSourceRouteNetwork, reached]

theorem prepareOdm_reads (cmd : Bytes) (fields : AcceptedFields (split colon cmd)) :
    (forall lookup, Reads (prepareOdm lookup cmd)) <->
      NumberOrEmpty (part (split colon cmd) 0) /\
        (isPing (part (split colon cmd) 4) = true -> PathMayPass (split colon cmd) ->
          part (split colon cmd) 0 ≠ []) := by
  unfold prepareOdm
  generalize split colon cmd = parts at fields ⊢
  have enough := fields.count
  obtain ⟨hopCount, hop⟩ := fields.hop
  simp only [reads_bind, field_part parts 1 (by omega), field_part parts 2 (by omega),
    field_part parts 3 (by omega), hop, Except.ok.injEq, exists_eq_left']
  constructor
  next =>
    intro reads
    obtain ⟨requestId, identified, prepared⟩ := reads .found
    have id := (requestIdOf_reads parts).mp ⟨requestId, identified⟩
    refine ⟨id, ?_⟩
    intro ping mayPass
    have passes : (if hopCount > 0 then
        checkPathInSourceRouteNetwork .found (part parts 3) requestId else none) = none := by
      by_cases hops : hopCount > 0
      next => simp [hops, checkPath_found _ requestId (mayPass hopCount hop hops)]
      next => simp [hops]
    rw [passes] at prepared
    exact (prepareRequest_reads parts requestId _ _ fields id).mp prepared ping
  next =>
    rintro ⟨id, named⟩ lookup
    obtain ⟨requestId, identified⟩ := (requestIdOf_reads parts).mpr id
    refine ⟨requestId, identified, ?_⟩
    split
    next => exact reads_pure _
    next passed =>
      refine (prepareRequest_reads parts requestId _ _ fields id).mpr fun ping => named ping ?_
      intro hops known positive
      have same : hopCount = hops := by simpa [hop] using known
      rw [if_pos (same ▸ positive)] at passed
      exact checkPath_passes lookup _ requestId passed

theorem split_part (delim : UInt8) (text : Bytes) (index : Nat)
    (kept : index + 1 < (explode delim text).length \/ part (explode delim text) index ≠ []) :
    part (split delim text) index = part (explode delim text) index /\
      index < (split delim text).length := by
  have inside : index < (explode delim text).length := by
    rcases kept with before | some'
    next => omega
    next =>
      by_contra beyond
      exact some' (by simp [part, Nat.le_of_not_lt beyond])
  have known : (explode delim text)[index]? = some (part (explode delim text) index) := by
    simp [part, inside]
  have same := split_getElem delim text index (kept.imp_right fun some' => ⟨_, known, some'⟩)
  rw [known] at same
  exact ⟨by simp [part, same], (List.getElem?_eq_some_iff.mp same).1⟩

theorem validateCommand_nonempty (parts : List Bytes) (valid : validateCommand parts = .ok true) :
    part parts 5 ≠ [] := by
  intro empty
  simp only [validateCommand, empty] at valid
  cases type : stoi (part parts 4) with
  | error fault => simp [type, bind, Except.bind] at valid
  | ok code =>
    simp [type, hexToBytes, hexPairs, bind, Except.bind, Except.map, pure, Except.pure] at valid

theorem destMatches_hop (gatewayId : Bytes) (parts : List Bytes)
    (matched : destMatches gatewayId parts = true) : Reads (stoi (part parts 2)) := by
  unfold destMatches at matched
  cases read : stoi (part parts 2) with
  | error fault => simp [read] at matched
  | ok hopCount => exact reads_ok hopCount

theorem pingFieldValid_reads (parts : List Bytes) (index : Nat) (inside : index < parts.length)
    (node : part parts 4 = ascii "13") (valid : pingFieldValid parts index = true) :
    Reads (stoi (part parts index)) := by
  unfold pingFieldValid at valid
  cases read : stoi (part parts index) with
  | error fault => simp [inside, node, read] at valid
  | ok value => exact reads_ok value

theorem allowed_type (text : Bytes) (allowed : text ∈ allowedCmds) :
    exists code : Nat, code < 32 /\ stoi text = .ok (code : Int) /\
      isPing text = decide (code = 13 \/ code = 14) /\ (text = ascii "13" <-> code = 13) := by
  obtain ⟨code, inside, rfl⟩ := List.mem_map.mp allowed
  exact ⟨code, List.mem_range.mp inside, allowed_codes code inside⟩

theorem accepted_fields (gatewayId : Bytes) (seen : SeenIds) (cmd : Bytes)
    (accept : accepted gatewayId seen (explode colon cmd) = true) :
    AcceptedFields (split colon cmd) /\
      ∀ index ≤ 5, part (split colon cmd) index = part (explode colon cmd) index := by
  simp only [accepted, reachesCommand, partsCountValid, gatewayMatches, Bool.and_eq_true,
    Bool.or_eq_true, decide_eq_true_eq] at accept
  obtain ⟨⟨⟨⟨⟨⟨⟨⟨count, -⟩, -⟩, gateway, -⟩, dest⟩, allowed⟩, valid⟩, pingCount⟩, -⟩ := accept
  have sized : 6 ≤ (explode colon cmd).length := by omega
  have valid : validateCommand (explode colon cmd) = .ok true := by
    cases checked : validateCommand (explode colon cmd) <;> simp_all
  have command := split_part colon cmd 5 (Or.inr (validateCommand_nonempty _ valid))
  have same : ∀ index ≤ 5, part (split colon cmd) index = part (explode colon cmd) index := by
    intro index bound
    by_cases last : index = 5
    next => exact last ▸ command.1
    next => exact (split_part colon cmd index (Or.inl (by omega))).1
  obtain ⟨code, small, read, ping, node⟩ := allowed_type _ allowed
  refine ⟨⟨command.2, ?_, ?_, code, small, ?_, ?_, ?_⟩, same⟩
  next => rw [same 1 (by omega)]; exact gateway
  next => rw [same 2 (by omega)]; exact destMatches_hop gatewayId _ dest
  next => rw [same 4 (by omega)]; exact read
  next => rw [same 4 (by omega)]; exact ping
  next =>
    intro thirteen
    have type := node.mpr thirteen
    have seven : 6 < (explode colon cmd).length := by
      simp [type] at count
      omega
    have number := pingFieldValid_reads _ 6 seven type pingCount
    have present : part (explode colon cmd) 6 ≠ [] := by
      intro empty
      exact stoi_empty (empty ▸ number)
    obtain ⟨equal, inside⟩ := split_part colon cmd 6 (Or.inr present)
    exact ⟨inside, equal ▸ number⟩

theorem validateCommand_reads (parts : List Bytes) (allowed : part parts 4 ∈ allowedCmds) :
    Reads (validateCommand parts) <->
      ((part parts 5).length % 2 = 0 -> Reads (hexPairs (part parts 5))) := by
  obtain ⟨code, -, read, -⟩ := allowed_type _ allowed
  simp only [validateCommand, read, reads_bind, Except.ok.injEq, exists_eq_left', hexToBytes]
  by_cases even : (part parts 5).length % 2 = 0
  next =>
    cases pairs : hexPairs (part parts 5) with
    | error fault => simp [even, Except.map]
    | ok bytes =>
      simp only [even, Except.map, reads_ok, ne_eq, not_true_eq_false, if_false, forall_const,
        Except.ok.injEq, exists_eq_left', iff_true]
      split <;> simp
  next => simp [even]

theorem enqueue_odm (parts : List Bytes) (cmd : Bytes) (valid : validateCommand parts = .ok true) :
    enqueue parts cmd = .odm cmd := by
  -- `Validate_command` knows no FUOTA type, so no command reaches that queue
  have never (text : Bytes) (type : part parts 4 = text) (code : Int) (read : stoi text = .ok code)
      (unknown : forall command sub packet, commandMatches (toUInt8 code) command sub packet = false) :
      False := by
    simp only [validateCommand, type, read, bind, Except.bind] at valid
    split at valid
    next => simp at valid
    next =>
      split at valid
      next => simp [pure, Except.pure] at valid
      next =>
        split at valid
        next => simp [pure, Except.pure] at valid
        next => simp [pure, Except.pure, unknown] at valid
  have notRf : part parts 4 ≠ ascii "27" := by
    intro type
    exact never _ type 27 (by decide) fun _ _ _ => rfl
  have notMeter : part parts 4 ≠ ascii "28" := by
    intro type
    exact never _ type 28 (by decide) fun _ _ _ => rfl
  simp [enqueue, notRf, notMeter]

theorem cancelledRequest_reads (id : Bytes) : Reads (cancelledRequest id) <-> Reads (stoi id) := by
  simp only [cancelledRequest, reads_bind, reads_pure, and_true]
  exact Iff.rfl

theorem odm_consumable (gatewayId : Bytes) (seen : SeenIds) (cmd : Bytes)
    (accept : accepted gatewayId seen (explode colon cmd) = true) :
    (Produced.odm cmd).Consumable <->
      (split colon cmd = [] \/ ConsumerReads (split colon cmd)) /\
        (isPing (part (explode colon cmd) 4) = true -> PathMayPass (explode colon cmd) ->
          part (explode colon cmd) 0 ≠ []) := by
  obtain ⟨fields, same⟩ := accepted_fields gatewayId seen cmd accept
  have enough := fields.count
  have some' : split colon cmd ≠ [] := by
    intro empty
    simp [empty] at enough
  have typed : NumberOrEmpty (part (split colon cmd) 4) := by
    obtain ⟨code, -, read, -⟩ := fields.type
    exact Or.inr ⟨_, read⟩
  have id : NumberOrEmpty (part (split colon cmd) 0) <->
      (split colon cmd = [] \/ ConsumerReads (split colon cmd)) := by
    constructor
    next => exact fun number => Or.inr ⟨number, by omega, typed⟩
    next =>
      rintro (empty | reads)
      next => exact absurd empty some'
      next => exact reads.id
  have paths : PathMayPass (split colon cmd) <-> PathMayPass (explode colon cmd) := by
    simp [PathMayPass, same 2 (by omega), same 3 (by omega)]
  rw [Produced.Consumable, prepareOdm_reads cmd fields, id, paths, same 0 (by omega),
    same 4 (by omega)]

theorem produce_consumable_iff (gatewayId : Bytes) (seen : SeenIds) (cmd : Bytes) :
    (exists entry, produce gatewayId seen cmd = .ok (entry, seenAfter seen cmd) /\
      entry.Consumable) <-> CommandHarmless gatewayId seen cmd := by
  simp only [produce, seenAfter, CommandHarmless]
  by_cases cancel : part (explode colon cmd) 0 = ascii "CANCEL"
  next => simp [cancel, Produced.Consumable, cancelledRequest_reads]
  next =>
    simp only [cancel, if_false]
    cases reached : reachesCommand gatewayId seen (explode colon cmd) with
    | false =>
      simp [accepted, reached, Produced.Consumable, failedRequest_reads]
    | true =>
      have allowed : part (explode colon cmd) 4 ∈ allowedCmds := by
        simp only [reachesCommand, Bool.and_eq_true, decide_eq_true_eq] at reached
        exact reached.2
      have reads := validateCommand_reads (explode colon cmd) allowed
      cases checked : validateCommand (explode colon cmd) with
      | error fault =>
        simp only [checked, reads_error, false_iff] at reads
        simp [bind, Except.bind, reads]
      | ok matched =>
        have pairs := reads.mp ⟨matched, checked⟩
        have result : accepted gatewayId seen (explode colon cmd) =
            (matched && pingFieldValid (explode colon cmd) 6 &&
              pingFieldValid (explode colon cmd) 7) := by
          simp [accepted, reached, checked]
        cases passes : (matched && pingFieldValid (explode colon cmd) 6 &&
            pingFieldValid (explode colon cmd) 7) with
        | true =>
          have valid : validateCommand (explode colon cmd) = .ok true := by
            rw [checked]
            simp_all
          have consumable := odm_consumable gatewayId seen cmd (result.trans passes)
          simp only [bind, Except.bind, passes, if_true, pure, Except.pure, Except.ok.injEq,
            Prod.mk.injEq, and_true, exists_eq_left', enqueue_odm _ cmd valid, consumable,
            result, forall_const]
          exact ⟨fun ⟨first, last⟩ => ⟨first, pairs, last⟩, fun ⟨first, _, last⟩ => ⟨first, last⟩⟩
        | false =>
          simp only [bind, Except.bind, passes, Bool.false_eq_true, if_true, if_false, pure,
            Except.pure, Except.ok.injEq, Prod.mk.injEq, and_true, exists_eq_left', Produced.Consumable,
            failedRequest_reads, result, false_implies, forall_const]
          exact ⟨fun readable => ⟨readable, pairs⟩, fun ⟨readable, _⟩ => readable⟩

theorem produce_after (gatewayId : Bytes) (seen after : SeenIds) (cmd : Bytes) (entry : Produced)
    (produced : produce gatewayId seen cmd = .ok (entry, after)) : after = seenAfter seen cmd := by
  simp only [produce, seenAfter] at produced ⊢
  split at produced
  next cancel =>
    simp only [cancel, if_true]
    simp_all
  next cancel =>
    simp only [cancel, if_false]
    split at produced
    next =>
      cases checked : validateCommand (explode colon cmd) with
      | error fault => simp [checked, bind, Except.bind] at produced
      | ok matched =>
        simp only [checked, bind, Except.bind, pure, Except.pure] at produced
        split at produced <;> simp_all
    next => simp_all

theorem produceAll_consumable_iff (gatewayId : Bytes) (seen : SeenIds) (cmds : List Bytes) :
    (exists entries after, produceAll gatewayId seen cmds = .ok (entries, after) /\
      ∀ entry ∈ entries, entry.Consumable) <-> Harmless gatewayId seen cmds := by
  induction cmds generalizing seen with
  | nil => simp [produceAll, Harmless]
  | cons cmd rest ih =>
    rw [Harmless, ← produce_consumable_iff, ← ih (seenAfter seen cmd)]
    constructor
    next =>
      rintro ⟨entries, last, produced, consumable⟩
      cases first : produce gatewayId seen cmd with
      | error fault => simp [produceAll, first, bind, Except.bind] at produced
      | ok result =>
        obtain ⟨entry, after⟩ := result
        obtain rfl := produce_after gatewayId seen after cmd entry first
        cases later : produceAll gatewayId (seenAfter seen cmd) rest with
        | error fault => simp [produceAll, first, later, bind, Except.bind] at produced
        | ok others =>
          obtain ⟨entries', last'⟩ := others
          have same : entry :: entries' = entries := by
            simp [produceAll, first, later, bind, Except.bind, pure, Except.pure] at produced
            exact produced.1
          subst same
          exact ⟨⟨entry, rfl, consumable entry List.mem_cons_self⟩, entries', last', rfl,
            fun other inside => consumable other (List.mem_cons_of_mem entry inside)⟩
    next =>
      rintro ⟨⟨entry, first, consumable⟩, entries, last, later, others⟩
      refine ⟨entry :: entries, last, ?_, ?_⟩
      next => simp [produceAll, first, later, bind, Except.bind, pure, Except.pure]
      next => exact List.forall_mem_cons.mpr ⟨consumable, others⟩

/-- No conversion throws and no field is missing exactly for the harmless payloads. -/
theorem payload_robust_iff (gatewayId : Bytes) (seen : SeenIds) (payload : Bytes) :
    Robust gatewayId seen payload <-> Harmless gatewayId seen (commandsOf payload) :=
  produceAll_consumable_iff gatewayId seen (commandsOf payload)

def gatewayText : Bytes := ascii "3C00000000000001"

/-- Three fields, and a request id that is no number. -/
theorem malformed_payloads_not_robust :
    ¬ Robust gatewayText {} (ascii "1:2:3") /\ ¬ Robust gatewayText {} (ascii "CANCEL:x") := by
  constructor
  next =>
    rintro ⟨entries, after, produced, consumable⟩
    have entry : entries = [.failed (ascii "1:2:3")] := by
      have evaluated : validateRequestIds gatewayText {} (ascii "1:2:3") =
          .ok ([.failed (ascii "1:2:3")], {}) := by decide
      rw [evaluated] at produced
      simp_all
    subst entry
    obtain ⟨update, read⟩ := consumable _ List.mem_cons_self
    have throws : failedRequest (ascii "1:2:3") = .error .missingField := by decide
    rw [throws] at read
    cases read
  next =>
    rintro ⟨entries, after, produced, consumable⟩
    have entry : entries = [.cancelled [ascii "x"]] := by
      have evaluated : validateRequestIds gatewayText {} (ascii "CANCEL:x") =
          .ok ([.cancelled [ascii "x"]], {}) := by decide
      rw [evaluated] at produced
      simp_all
    subst entry
    obtain ⟨update, read⟩ := consumable _ List.mem_cons_self (ascii "x") List.mem_cons_self
    have throws : cancelledRequest (ascii "x") = .error .invalidArgument := by decide
    rw [throws] at read
    cases read

end Hes.Mqtt
