import Hes.Lib.Charge
import Hes.Transmit

set_option autoImplicit false

namespace Hes.RawTurns

open Prog Charge Client

variable (hopCount maxRetries : Nat)

/-- One call of the raw `transmit_command_and_validate_response`. -/
structure RawCall where
  client : Client
  buf : Bytes
  length : Nat

def RawCall.hops (call : RawCall) : Nat := (byteAt call.buf 12).toNat

/-- What the turns of its loop begin with. -/
def rawTurns (call : RawCall) (fuel : Nat) : List (RawVars × Client) :=
  entered (rawTurn call.hops maxRetries) fuel { buf := call.buf, length := call.length }
    { call.client with control := { call.client.control with pageIndexCount := 0 } }

def rawCode (vars : RawVars) (buffer : Bytes) (length : Nat) : Prog Client Code :=
  if validateResponseBuffer vars.txBuffer buffer = .success then clientReceivedData buffer length
  else pure .failure

/-- The chunk that a turn receives, in front of the switch over its code. -/
def rawReply (vars : RawVars) : Prog Client (Option (Bytes × RawVars)) := do
  match <- rawWrite hopCount vars with
  | none => return none
  | some next =>
    let (rxLen, buffer) <- receiveData 512
    if rxLen > 0 then
      let code <- rawCode next buffer rxLen.toNat
      return some (buffer, { next with gotAnyResponse := true, ret := code })
    else return none

/-- The chunk of a turn and its code. -/
def rawAnswer (turn : RawVars × Client) : Option (Bytes × Code) :=
  if turn.1.retry > maxRetries then none
  else
    match rawReply hopCount turn.1 turn.2 with
    | (some (some (buffer, next)), _) => some (buffer, next.ret)
    | _ => none

theorem rawAnswer_reply {vars next : RawVars} {buffer : Bytes} {client reached : Client}
    (few : ¬ vars.retry > maxRetries)
    (replied : rawReply hopCount vars client = (some (some (buffer, next)), reached)) :
    rawAnswer hopCount maxRetries (vars, client) = some (buffer, next.ret) := by
  rw [rawAnswer, if_neg few, replied]

/-- The mesh has acknowledged stage 9D. -/
def stageAcknowledged (buffer : Bytes) : Bool :=
  byteAt buffer 2 = 0x04 && byteAt buffer 15 = 0x9D && byteAt buffer 16 = 0x01

/-- A page: more of them follow, or it was the last one. -/
def rawPage : Option (Bytes × Code) -> Bool
  | some (_, .succesNextPage) => true
  | some (buffer, .success) | some (buffer, .enabled) => !stageAcknowledged buffer
  | _ => false

/-- Answers that are followed by a frame, with the retry counter as it was or back at 0. -/
def rawFree : Option (Bytes × Code) -> Bool
  | some (_, .dlmsSuccess) => true
  | some (buffer, .dlmsConnectionFailed) => byteAt buffer 24 ≠ 0x01 && byteAt buffer 24 ≠ 0x03
  | some (buffer, .success) | some (buffer, .enabled) => stageAcknowledged buffer
  | _ => false

/-- A turn writes in front of its chunk. -/
def rawFrames (turn : RawVars × Client) : Nat := if turn.1.needToWrite then 1 else 0

/-- What the retry limits leave: each of the two paths that may be tried starts the count again. -/
def triesLeft (vars : RawVars) : Nat := (2 - vars.retry) + 3 * (2 - vars.triedAlternatePath)

theorem rawWrite_kept {vars next : RawVars} {client after : Client}
    (wrote : rawWrite hopCount vars client = (some (some next), after)) :
    next = { vars with txBuffer := next.txBuffer, needToWrite := false } := by
  unfold rawWrite at wrote
  split at wrote
  next quiet =>
    simp only [returned_pure, Option.some.injEq] at wrote
    simp only [Bool.not_eq_true'] at quiet
    rw [← wrote.1, ← quiet]
  next =>
    split at wrote
    next =>
      obtain ⟨code, middle, -, wrote⟩ := (returned_bind _ _ _ _ _).mp wrote
      split at wrote
      next => simp at wrote
      next =>
        simp only [returned_pure, Option.some.injEq] at wrote
        rw [← wrote.1]
    next =>
      obtain ⟨_, told, -, wrote⟩ := (returned_bind _ _ _ _ _).mp wrote
      obtain ⟨code, middle, -, wrote⟩ := (returned_bind _ _ _ _ _).mp wrote
      split at wrote
      next => simp at wrote
      next =>
        simp only [returned_pure, Option.some.injEq] at wrote
        rw [← wrote.1]

/-- Behind the switch: the counters go up where the last code was a timeout or a failure. -/
theorem rawCount_again {vars next : RawVars} (again : rawCount vars = .again next) :
    next.retry ≤ 2 /\ next.triedAlternatePath = vars.triedAlternatePath /\
      if vars.ret = .timeoutReceived \/ vars.ret = .failedResponse then
        next.retry = vars.retry + 1 /\ next.needToWrite = true
      else next.retry = vars.retry /\ next.needToWrite = vars.needToWrite := by
  unfold rawCount at again
  by_cases failed : vars.ret = .timeoutReceived \/ vars.ret = .failedResponse
  all_goals
    simp only [Bool.or_eq_true, decide_eq_true_eq, failed, if_true, if_false] at again ⊢
    split at again
    next => simp at again
    next few =>
      simp only [gt_iff_lt, not_or, not_lt] at few
      obtain rfl := Turn.again.inj again
      exact ⟨few.1, rfl, rfl, rfl⟩

theorem rawReceive_code (vars : RawVars) : rawReceive hopCount vars = do
    let (rxLen, buffer) <- receiveData 512
    if rxLen > 0 then
      let code <- rawCode vars buffer rxLen.toNat
      match <- rawSwitch hopCount buffer { vars with gotAnyResponse := true, ret := code } with
      | .done leave => return .done leave
      | .again next => return rawCount next
    else if <- gatewayGone then return .done (.broken vars.gotAnyResponse)
    else return rawCount { vars with needToWrite := true, retry := vars.retry + 1 } := by
  unfold rawReceive rawCode
  congr 1
  funext received
  obtain ⟨rxLen, buffer⟩ := received
  dsimp only
  by_cases some : rxLen > 0
  next =>
    rw [if_pos some, if_pos some]
    by_cases valid : validateResponseBuffer vars.txBuffer buffer = .success
    next => exact (if_pos valid).trans (congrArg (· >>= _) (if_pos valid).symm)
    next => exact (if_neg valid).trans (congrArg (· >>= _) (if_neg valid).symm)
  next =>
    rw [if_neg some, if_neg some]

/-- A turn without a chunk is repeated, the others go through the switch. -/
theorem rawTurn_follows {turn next : RawVars × Client}
    (follows : Follows (rawTurn hopCount maxRetries) turn next) :
    (rawAnswer hopCount maxRetries turn = none /\
      exists vars, vars.retry = turn.1.retry + 1 /\ vars.needToWrite = true /\
        vars.triedAlternatePath = turn.1.triedAlternatePath /\ rawCount vars = .again next.1) \/
    exists buffer vars reached switched, rawAnswer hopCount maxRetries turn = some (buffer, vars.ret) /\
      vars.retry = turn.1.retry /\ vars.needToWrite = false /\
      vars.triedAlternatePath = turn.1.triedAlternatePath /\
      rawSwitch hopCount buffer vars reached = (some (.again switched), next.2) /\
      rawCount switched = .again next.1 := by
  unfold Follows rawTurn at follows
  split at follows
  next => simp at follows
  next few =>
    obtain ⟨written, told, wrote, follows⟩ := (returned_bind _ _ _ _ _).mp follows
    cases written with
    | none => simp at follows
    | some vars =>
      have kept := rawWrite_kept hopCount wrote
      dsimp only at follows
      rw [rawReceive_code] at follows
      obtain ⟨⟨rxLen, buffer⟩, heard, received, follows⟩ := (returned_bind _ _ _ _ _).mp follows
      dsimp only at follows
      split at follows
      next some =>
        obtain ⟨code, reached, validated, follows⟩ := (returned_bind _ _ _ _ _).mp follows
        obtain ⟨outcome, after, ran, follows⟩ := (returned_bind _ _ _ _ _).mp follows
        cases outcome with
        | done leave => simp at follows
        | again switched =>
          simp only [returned_pure] at follows
          have answered : rawAnswer hopCount maxRetries turn = .some (buffer, code) := by
            have replied : rawReply hopCount turn.1 turn.2 = (.some (.some (buffer,
                { vars with gotAnyResponse := true, ret := code })), reached) := by
              rw [rawReply, ran_bind wrote]
              dsimp only
              rw [ran_bind received]
              dsimp only
              rw [if_pos some, ran_bind validated]
              rfl
            exact rawAnswer_reply hopCount maxRetries few replied
          refine .inr ⟨buffer, { vars with gotAnyResponse := true, ret := code }, reached, switched,
            answered, ?_, ?_, ?_, ?_, follows.1⟩
          next => rw [kept]
          next => rw [kept]
          next => rw [kept]
          next => rw [ran, follows.2]
      next quiet =>
        obtain ⟨gone, asked, _, follows⟩ := (returned_bind _ _ _ _ _).mp follows
        split at follows
        next => simp at follows
        next =>
          simp only [returned_pure] at follows
          have unanswered : rawAnswer hopCount maxRetries turn = none := by
            have replied : rawReply hopCount turn.1 turn.2 = (some none, heard) := by
              rw [rawReply, ran_bind wrote]
              dsimp only
              rw [ran_bind received]
              dsimp only
              rw [if_neg quiet]
              rfl
            rw [rawAnswer, if_neg few, replied]
          refine .inl ⟨unanswered, _, ?_, ?_, ?_, follows.1⟩
          next => rw [kept]
          next => rfl
          next => rw [kept]

/-- The switch over the code of a chunk, and the count behind it. -/
theorem rawTurn_reply {vars next : RawVars} {buffer : Bytes} {client reached : Client}
    (few : ¬ vars.retry > maxRetries)
    (replied : rawReply hopCount vars client = (some (some (buffer, next)), reached)) :
    rawTurn hopCount maxRetries vars client = (rawSwitch hopCount buffer next >>= fun outcome =>
      match outcome with
      | .done leave => pure (.done leave)
      | .again switched => pure (rawCount switched)) reached := by
  obtain ⟨written, told, wrote, replied⟩ := (returned_bind _ _ _ _ _).mp replied
  cases written with
  | none => simp at replied
  | some vars' =>
    obtain ⟨⟨rxLen, chunk⟩, heard, received, replied⟩ := (returned_bind _ _ _ _ _).mp replied
    dsimp only at replied
    split at replied
    next some =>
      obtain ⟨code, taken, validated, replied⟩ := (returned_bind _ _ _ _ _).mp replied
      simp only [returned_pure, Option.some.injEq, Prod.mk.injEq] at replied
      obtain ⟨⟨rfl, rfl⟩, rfl⟩ := replied
      rw [rawTurn, if_neg few, ran_bind wrote]
      dsimp only
      rw [rawReceive_code, ran_bind received]
      dsimp only
      rw [if_pos some, ran_bind validated]
    next => simp at replied

theorem sendAll_whole (writer : Writer) (turns left : Nat) (client : Client)
    (sends : client.inputs.send = fun _ => 4096) (short : left ≤ 4096) :
    exists told, sendAll writer turns left client = (some .success, told) /\
      told.inputs = client.inputs /\ told.counters.received = client.counters.received /\
      told.control = client.control := by
  -- a `send` that takes all there is: the frame goes out at once
  cases turns with
  | zero => exact ⟨client, rfl, rfl, rfl, rfl⟩
  | succ turns =>
    rw [sendAll]
    split
    next => exact ⟨client, rfl, rfl, rfl, rfl⟩
    next =>
      let told : Client := { client with
        counters := { client.counters with sent := client.counters.sent + 1 }
        gateway := client.gateway.send writer 4096 }
      have sent : sendOnce writer client = (some 4096, told) := by simp [sendOnce, sends, told]
      have all : left - (4096 : Int).toNat = 0 := Nat.sub_eq_zero_of_le short
      refine ⟨told, ?_, rfl, rfl, rfl⟩
      rw [ran_bind sent, if_neg (by omega), if_neg (by omega), all]
      cases turns <;> rfl

theorem rawWrite_sent (vars : RawVars) {client : Client} (due : vars.needToWrite = true)
    (command : vars.needToWriteDlmsPkt = false) (sends : client.inputs.send = fun _ => 4096)
    (short : (slice vars.buf 0 vars.length).length ≤ 4096) :
    exists told, rawWrite hopCount vars client =
        (some (some { vars with txBuffer := copyOver vars.txBuffer (slice vars.buf 0 vars.length)
                                needToWrite := false }), told) /\
      told.inputs = client.inputs /\ told.counters.received = client.counters.received /\
      told.control = getDestinationAddress (slice vars.buf 0 vars.length)
        { client.control with txPageIndex := byteAt vars.buf (13 + pathBytes hopCount + 2) } := by
  let paged : Control :=
    { client.control with txPageIndex := byteAt vars.buf (13 + pathBytes hopCount + 2) }
  let asked : Client :=
    { client with control := getDestinationAddress (slice vars.buf 0 vars.length) paged }
  obtain ⟨told, sent, same⟩ := sendAll_whole .writeToClient (slice vars.buf 0 vars.length).length
    (slice vars.buf 0 vars.length).length asked sends short
  refine ⟨told, ?_, same⟩
  have wrote : writeToClient (slice vars.buf 0 vars.length) { client with control := paged } =
      (some .success, told) := sent
  rw [rawWrite, due, command]
  exact ran_bind wrote

/-- A chunk that is neither empty nor the keep-alive text of the gateway. -/
structure Chunk (bytes : Bytes) : Prop where
  short : bytes.length ≤ 512
  text : bytes.take 4 ≠ Text.ascii "PING"
  nonempty : bytes ≠ []

def heard (client : Client) : Client :=
  { client with counters := { client.counters with received := client.counters.received + 1 } }

theorem receiveData_chunk {bytes : Bytes} {cycle : Option Int} {client : Client} (chunk : Chunk bytes)
    (sent : client.inputs.recv client.counters.received = .data bytes cycle) :
    receiveData 512 client = (some ((bytes.length : Int), bytes), heard client) := by
  have received : nextRecv client = (some (.data bytes cycle), heard client) := by
    simp [nextRecv, heard, sent]
  rw [receiveData, ran_bind received]
  simp only [List.take_of_length_le chunk.short, chunk.text, chunk.nonempty, if_false]
  rfl

theorem rawReply_chunk {vars next : RawVars} {client told reached : Client} {bytes : Bytes}
    {cycle : Option Int} {code : Code} (chunk : Chunk bytes)
    (wrote : rawWrite hopCount vars client = (some (some next), told))
    (sent : told.inputs.recv told.counters.received = .data bytes cycle)
    (coded : rawCode next bytes bytes.length (heard told) = (some code, reached)) :
    rawReply hopCount vars client =
      (some (some (bytes, { next with gotAnyResponse := true, ret := code })), reached) := by
  have long : (bytes.length : Int) > 0 := by
    have some := List.length_pos_iff.mpr chunk.nonempty
    omega
  rw [rawReply, ran_bind wrote]
  dsimp only
  rw [ran_bind (receiveData_chunk chunk sent)]
  dsimp only
  rw [if_pos long, Int.toNat_natCast, ran_bind coded]
  rfl

/-- A mesh timeout goes on with the same path, or starts the count again on another one. -/
theorem meshTimeout_again {path : Option (Bytes × UInt8)} {vars next : RawVars}
    (again : meshTimeout hopCount path vars = .again next) :
    next.retry < 2 /\ next.ret = vars.ret /\
      (next = vars \/ next.retry = 0 /\ vars.triedAlternatePath < 2 /\
        next.triedAlternatePath = vars.triedAlternatePath + 1) := by
  unfold meshTimeout at again
  dsimp only at again
  split at again
  next => simp at again
  next reached switched =>
    split at again
    next => simp at again
    next few =>
      simp only [Bool.or_eq_true, decide_eq_true_eq, not_or, not_le, not_lt, ge_iff_le] at few
      obtain rfl := Turn.again.inj again
      split at switched
      next due =>
        simp only [Bool.and_eq_true, decide_eq_true_eq] at due
        split at switched
        next => simp at switched
        next =>
          split at switched
          next =>
            unfold takeAlternatePath at switched
            split at switched
            next => simp at switched
            next =>
              obtain rfl := Option.some.inj switched
              exact ⟨few.2, rfl, .inr ⟨rfl, due.1.2, rfl⟩⟩
          next => simp at switched
      next =>
        obtain rfl := Option.some.inj switched
        exact ⟨few.2, rfl, .inl rfl⟩

/-- What an answer that is no page leaves of the retry limits. -/
structure Settled (free : Bool) (vars next : RawVars) : Prop where
  paid : triesLeft next + (if next.needToWrite then 1 else 0) ≤ triesLeft vars + if free then 3 else 0
  written : free = true -> next.needToWrite = true

theorem rawSwitch_settled {buffer : Bytes} {vars switched next : RawVars} {client after : Client}
    (read : vars.needToWrite = false)
    (ran : rawSwitch hopCount buffer vars client = (some (.again switched), after))
    (counted : rawCount switched = .again next) (more : rawPage (some (buffer, vars.ret)) = false) :
    Settled (rawFree (some (buffer, vars.ret))) vars next := by
  obtain ⟨few, path, count⟩ := rawCount_again counted
  have same {turn : Turn RawVars Leave} (ended : (pure turn : Prog Client _) client =
      (some (.again switched), after)) : turn = .again switched := by
    simp only [returned_pure] at ended
    exact ended.1
  unfold rawSwitch at ran
  cases code : vars.ret
  all_goals simp only [code, rawPage, rawFree] at ran more ⊢
  case dlmsError => simp at ran
  case succesNextPage => simp at more
  case success | enabled =>
    split at ran
    next acknowledged =>
      obtain rfl := Turn.again.inj (same ran)
      have ack : stageAcknowledged buffer = true := acknowledged
      simp only [nextStage, code, reduceCtorEq, or_self, if_false] at count path
      constructor
      next =>
        simp only [triesLeft, count.1, count.2, path, ack, if_true]
        omega
      next => exact fun _ => count.2
    next unacknowledged =>
      obtain ⟨_, told, -, ran⟩ := (returned_bind _ _ _ _ _).mp ran
      simp at ran
  case dlmsConnectionFailed =>
    obtain rfl := Turn.again.inj (same ran)
    by_cases other : byteAt buffer 24 ≠ 0x01 && byteAt buffer 24 ≠ 0x03
    all_goals
      simp only [connectionFailed, other, code, reduceCtorEq, or_self, if_true, if_false] at count path
      constructor
      next =>
        simp only [triesLeft, count.1, count.2, path, other, if_true] at few ⊢
        omega
      next => exact fun _ => count.2
  case dlmsSuccess =>
    obtain rfl := Turn.again.inj (same ran)
    simp only [reduceCtorEq, or_self, if_false] at count path
    constructor
    next =>
      simp only [triesLeft, count.1, count.2, path, if_true]
      omega
    next => exact fun _ => count.2
  case timeoutReceived =>
    obtain ⟨path', asked, -, ran⟩ := (returned_bind _ _ _ _ _).mp ran
    simp only [returned_pure] at ran
    obtain ⟨low, kept, moved⟩ := meshTimeout_again hopCount ran.1
    simp only [kept, code, true_or, if_true] at count
    constructor
    next =>
      simp only [triesLeft, count.1, count.2, path, if_true]
      rcases moved with rfl | ⟨fresh, left, tried⟩
      next => omega
      next => omega
    next => simp
  case invalidResponse | commandInProgress =>
    obtain ⟨_, told, -, ran⟩ := (returned_bind _ _ _ _ _).mp ran
    simp only [returned_pure] at ran
    obtain rfl := Turn.again.inj ran.1
    simp only [code, reduceCtorEq, or_self, if_false] at count path
    constructor
    next => simp [triesLeft, count.1, count.2, path, read]
    next => simp
  case failedResponse =>
    obtain rfl := Turn.again.inj (same ran)
    simp only [code, or_true, if_true] at count path
    constructor
    next =>
      simp only [triesLeft, count.1, count.2, path, if_true] at few ⊢
      omega
    next => simp
  all_goals
    obtain rfl := Turn.again.inj (same ran)
    simp only [code, reduceCtorEq, or_self, if_false] at count path
    constructor
    next => simp [triesLeft, count.1, count.2, path, read]
    next => simp

theorem rawTurn_settled {turn next : RawVars × Client}
    (follows : Follows (rawTurn hopCount maxRetries) turn next)
    (more : rawPage (rawAnswer hopCount maxRetries turn) = false) :
    Settled (rawFree (rawAnswer hopCount maxRetries turn)) turn.1 next.1 := by
  rcases rawTurn_follows hopCount maxRetries follows with
    ⟨silent, vars, retry, write, tried, counted⟩ |
    ⟨buffer, vars, reached, switched, answered, retry, read, tried, ran, counted⟩
  next =>
    obtain ⟨few, path, count⟩ := rawCount_again counted
    have up : turn.1.retry + 1 ≤ next.1.retry /\ next.1.needToWrite = true := by
      split at count
      next => exact ⟨by omega, count.2⟩
      next => exact ⟨by omega, count.2.trans write⟩
    rw [silent]
    constructor
    next =>
      simp only [triesLeft, up.2, path, tried, if_true]
      omega
    next => simp [rawFree]
  next =>
    rw [answered] at more ⊢
    obtain ⟨paid, written⟩ := rawSwitch_settled hopCount read ran counted more
    constructor
    next => simpa only [triesLeft, retry, tried] using paid
    next => exact written

/-- Whether the chunk of a turn is a page, in a call of the raw function. -/
def rawPaged (call : RawCall) (turn : RawVars × Client) : Bool :=
  rawPage (rawAnswer call.hops maxRetries turn)

/-- The frames from a page to the next one: a turn writes in front of its chunk. -/
def rawBetween (_ : RawCall) (_ : RawVars × Client) (inside : List (RawVars × Client))
    (last : RawVars × Client) : Nat := ((inside ++ [last]).map rawFrames).sum

def rawUncounted (call : RawCall) (_ : RawVars × Client) (inside : List (RawVars × Client))
    (_ : RawVars × Client) : Nat :=
  inside.countP fun turn => rawFree (rawAnswer call.hops maxRetries turn)

section Segments

variable {call : RawCall} {fuel : Nat} {first last : RawVars × Client}
  {inside : List (RawVars × Client)}

theorem raw_chain (between : Between (rawPaged maxRetries call) (rawTurns maxRetries call fuel)
    first inside last) : List.IsChain (Follows (rawTurn call.hops maxRetries)) (inside ++ [last]) :=
  between_chain (entered_follows _ _ _ _) between

theorem rawBetween_le (between : Between (rawPaged maxRetries call) (rawTurns maxRetries call fuel)
    first inside last) :
    rawBetween call first inside last ≤ 9 + 3 * rawUncounted maxRetries call first inside last := by
  have paid := cost_le (R := Follows (rawTurn call.hops maxRetries))
    (fun turn => triesLeft turn.1 + rawFrames turn) rawFrames
    (fun turn => if rawFree (rawAnswer call.hops maxRetries turn) then 3 else 0) 9
    (fun turn => by simp only [triesLeft, rawFrames]; split <;> omega) inside last
    (raw_chain maxRetries between) fun turn among next follows => by
      have settled := (rawTurn_settled call.hops maxRetries follows (between.quiet turn among)).paid
      simp only [rawFrames] at settled ⊢
      omega
  rw [sum_charged] at paid
  rw [rawBetween, rawUncounted, List.map_append, List.sum_append]
  simp only [List.map_cons, List.map_nil, List.sum_cons, List.sum_nil]
  omega

theorem rawUncounted_le (between : Between (rawPaged maxRetries call) (rawTurns maxRetries call fuel)
    first inside last) :
    rawUncounted maxRetries call first inside last ≤ 1 + 1 * rawBetween call first inside last := by
  -- each of the answers is paid for by the frame of the turn behind it
  have paid := cost_le (R := Follows (rawTurn call.hops maxRetries))
    (fun turn => 1 - rawFrames turn)
    (fun turn => if rawFree (rawAnswer call.hops maxRetries turn) then 1 else 0) rawFrames 1
    (fun turn => by omega) inside last
    (raw_chain maxRetries between) fun turn among next follows => by
      have written := (rawTurn_settled call.hops maxRetries follows (between.quiet turn among)).written
      simp only [rawFrames]
      by_cases free : rawFree (rawAnswer call.hops maxRetries turn) = true
      next =>
        rw [if_pos free, if_pos (written free)]
        omega
      next =>
        rw [if_neg free]
        omega
  rw [sum_charged] at paid
  rw [rawBetween, rawUncounted, List.map_append, List.sum_append]
  simp only [List.map_cons, List.map_nil, List.sum_cons, List.sum_nil]
  omega

end Segments

end Hes.RawTurns
