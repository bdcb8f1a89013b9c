import Hes.Fuota.Delivery
import Hes.Fuota.History

set_option autoImplicit false

namespace Hes.Fuota

open Prog Text Mqtt

/-- The events from which on another image is worked on. -/
def Restarts : Event -> Prop
  | .opened _ | .dequeued _ | .accepted .sectorRead => True
  | _ => False

instance (event : Event) : Decidable (Restarts event) := by
  unfold Restarts
  split <;> infer_instance

/-- The frame of the last subpage of the last page, by the numbers in it. -/
def LastSubpage (size sector : Nat) (frame : ImageFrame) : Prop :=
  0 < maxPageCount size sector /\ frame.page = (maxPageCount size sector - 1) % 65536 /\
    frame.subpage + 1 = maxSubPageCount sector frame.headerLen

section Exchanges

/-- The image of an upload stays the same, and nothing begins anew. -/
structure Held (before after : Fuota) : Prop where
  size : after.firmware.totalFirmwaresize = before.firmware.totalFirmwaresize
  sector : after.firmware.sectorValue = before.firmware.sectorValue
  headerLen : after.upload.fuotaCmdHeaderLen = before.upload.fuotaCmdHeaderLen
  logs : Logs (fun event => ¬ Restarts event) before after

/-- The page that the upload is at stays the same too. -/
structure Kept (before after : Fuota) : Prop extends Held before after where
  page : after.upload.pageCount = before.upload.pageCount

theorem held_trans (first second third : Fuota) (before : Held first second)
    (behind : Held second third) : Held first third :=
  ⟨behind.size.trans before.size, behind.sector.trans before.sector,
    behind.headerLen.trans before.headerLen, logs_trans first second third before.logs behind.logs⟩

theorem kept_refl (fuota : Fuota) : Kept fuota fuota := ⟨⟨rfl, rfl, rfl, logs_refl fuota⟩, rfl⟩

theorem kept_trans (first second third : Fuota) (before : Kept first second)
    (behind : Kept second third) : Kept first third :=
  ⟨held_trans first second third before.toHeld behind.toHeld, behind.page.trans before.page⟩

theorem kept_silent {before after : Fuota} (firmware : after.firmware = before.firmware)
    (upload : after.upload = before.upload) (log : after.log = before.log) : Kept before after := by
  refine ⟨⟨?_, ?_, ?_, logs_same log⟩, ?_⟩ <;> simp only [firmware, upload]

theorem kept_event {before after : Fuota} (event : Event) (quiet : ¬ Restarts event)
    (firmware : after.firmware = before.firmware) (upload : after.upload = before.upload)
    (log : after.log = before.log ++ [event]) : Kept before after := by
  refine ⟨⟨?_, ?_, ?_, logs_event event quiet log⟩, ?_⟩ <;> simp only [firmware, upload]

theorem kept_bind {A B : Type} {first : Prog Fuota A} {next : A -> Prog Fuota B}
    (before : Respects Kept first) (behind : forall value, Respects Kept (next value)) :
    Respects Kept (first >>= next) := respects_bind kept_trans before behind

theorem kept_pure {A : Type} (value : A) : Respects Kept (pure value : Prog Fuota A) :=
  respects_pure kept_refl value

theorem kept_observe {A : Type} (view : Fuota -> A) : Respects Kept (observe view) :=
  respects_observe kept_refl view

theorem kept_setRadio (change : Radio -> Radio) : Respects Kept (setRadio change) :=
  fun _ => kept_silent rfl rfl rfl

theorem kept_setCntx (change : RetryContext -> RetryContext) : Respects Kept (setCntx change) :=
  fun _ => kept_silent rfl rfl rfl

theorem kept_setUpload (change : Upload -> Upload)
    (same : forall upload, (change upload).fuotaCmdHeaderLen = upload.fuotaCmdHeaderLen /\
      (change upload).pageCount = upload.pageCount) : Respects Kept (setUpload change) :=
  fun fuota => ⟨⟨rfl, rfl, (same fuota.upload).1, logs_same rfl⟩, (same fuota.upload).2⟩

theorem kept_updateStatus (requestStatus errorCode : Nat) :
    Respects Kept (updateStatus requestStatus errorCode) := by
  intro fuota
  simp only [updateStatus, ondemandFuotaUpdateStatus, observe, update, bind]
  split
  next => exact kept_refl fuota
  next => exact kept_event _ id rfl rfl rfl

theorem kept_writeFrame : Respects Kept writeFrame := by
  apply kept_bind fun _ => kept_silent rfl rfl rfl
  intro written
  apply kept_bind
  next => exact fun fuota => kept_event _ id rfl rfl rfl
  next => exact fun _ => kept_pure written

theorem kept_nextArrival : Respects Kept nextArrival := fun _ => kept_silent rfl rfl rfl

theorem kept_frameForTarget (packetType : UInt8) (command : Bytes) :
    Respects Kept (framePmeshFuotaCmdHeaderForTargetNode packetType command) := by
  apply kept_bind (kept_observe _)
  intro _
  apply kept_bind (kept_observe _)
  exact fun _ => kept_setRadio _

theorem kept_lastSectorAttempts (attempts : Nat) : Respects Kept (lastSectorAttempts attempts) := by
  induction attempts with
  | zero => exact kept_pure none
  | succ attempts ih =>
    apply kept_bind kept_writeFrame
    intro written
    split
    next =>
      apply kept_bind kept_nextArrival
      intro arrival
      cases arrival with
      | timedOut => exact ih
      | failed => exact ih
      | data bytes =>
        dsimp only
        split
        next => exact ih
        next =>
          refine kept_bind (kept_bind (kept_observe _) fun _ => ?_) fun _ => kept_pure _
          exact kept_bind (kept_setUpload _ fun _ => ⟨rfl, rfl⟩) fun _ => kept_pure _
    next => exact ih

theorem kept_rffuotaReadLastsectorPageAndSubpageStatus :
    Respects Kept rffuotaReadLastsectorPageAndSubpageStatus := by
  apply kept_bind (kept_updateStatus 12 1)
  intro _
  apply kept_bind (kept_frameForTarget _ _)
  exact fun _ => kept_lastSectorAttempts 3

theorem kept_prepareAlternateSamerouteRetry (payload : Option Bytes) (payloadLen : Nat) :
    Respects Kept (prepareAlternateSamerouteRetry payload payloadLen) := by
  have found : Respects Kept getAlternateSourceRoute := by
    intro fuota
    unfold getAlternateSourceRoute
    dsimp only
    split <;> exact kept_silent rfl rfl rfl
  have builds (routerCount : UInt8) : Respects Kept (buildAlternaterouteImageTransfer routerCount) := by
    apply kept_bind (kept_updateStatus 22 1)
    intro _
    apply kept_bind found
    intro some_
    split
    next =>
      apply kept_bind (kept_observe _)
      intro radio
      split
      next => exact kept_bind (kept_setRadio _) fun _ => kept_pure true
      next => exact kept_pure false
    next => exact kept_pure false
  unfold prepareAlternateSamerouteRetry
  split
  next => exact kept_pure ()
  next =>
    apply kept_bind (kept_setCntx _)
    intro _
    apply kept_bind (kept_updateStatus 22 1)
    intro _
    apply kept_bind (kept_observe _)
    intro buffer
    dsimp only
    split
    next => exact kept_pure ()
    next =>
      apply kept_bind (builds _)
      intro built
      split
      next => exact kept_bind (kept_observe _) fun _ => kept_setRadio _
      next => exact kept_setCntx _

theorem kept_restoreExpected : Respects Kept restoreExpected := kept_setUpload _ fun _ => ⟨rfl, rfl⟩

theorem kept_retryHandling : Respects Kept retryHandling := by
  apply kept_bind (kept_observe _)
  intro upload
  split
  next =>
    refine kept_bind (kept_setUpload _ fun _ => ⟨rfl, rfl⟩) fun _ => ?_
    split
    next => exact kept_bind kept_restoreExpected fun _ => kept_pure _
    next =>
      refine kept_bind (kept_setUpload _ fun _ => ⟨rfl, rfl⟩) fun _ => ?_
      exact kept_bind (kept_prepareAlternateSamerouteRetry _ _) fun _ => kept_pure _
  next =>
    refine kept_bind (kept_setUpload _ fun _ => ⟨rfl, rfl⟩) fun _ => ?_
    split
    next => exact kept_bind kept_restoreExpected fun _ => kept_pure _
    next => exact kept_pure _

section Jumps

variable (before : Fuota)

theorem held_setUpload (change : Upload -> Upload)
    (same : forall upload, (change upload).fuotaCmdHeaderLen = upload.fuotaCmdHeaderLen) :
    Respects Held (setUpload change) := fun fuota => ⟨rfl, rfl, same fuota.upload, logs_same rfl⟩

theorem held_fixPageSubpageAndSeek : Respects Held fixPageSubpageAndSeek := by
  have held_bind {A B : Type} {first : Prog Fuota A} {next : A -> Prog Fuota B}
      (moved : Respects Held first) (behind : forall value, Respects Held (next value)) :
      Respects Held (first >>= next) := respects_bind held_trans moved behind
  have observes {A : Type} (view : Fuota -> A) : Respects Held (observe view) :=
    fun fuota => (kept_refl fuota).toHeld
  apply held_bind (observes _)
  intro sectorValue
  apply held_bind (held_setUpload _ fun upload => by split <;> rfl)
  intro _
  apply held_bind (observes _)
  intro upload
  apply held_bind fun fuota => ⟨rfl, rfl, rfl, logs_same rfl⟩
  intro _
  refine held_bind (held_setUpload _ fun _ => ?_) fun _ => held_setUpload _ fun _ => ?_
  next => rfl
  next => rfl

theorem held_returns {A : Type} {prog : Prog Fuota A} (moves : Respects Held prog) :
    Returns (Held before) prog fun _ => Held before :=
  moves.returns fun _ _ known moved => held_trans _ _ _ known moved

theorem kept_returns {A : Type} {prog : Prog Fuota A} (moves : Respects Kept prog) :
    Returns (Kept before) prog fun _ => Kept before :=
  moves.returns fun _ _ known moved => kept_trans _ _ _ known moved

/-- The page is the same, unless the upload jumped to another. -/
def Paged (jumped : Prop) (after : Fuota) : Prop :=
  Held before after /\ (¬ jumped -> Kept before after)

theorem paged_of_kept {jumped : Prop} {after : Fuota} (kept : Kept before after) :
    Paged before jumped after := ⟨kept.toHeld, fun _ => kept⟩

theorem jumpToLastSector_pages (forward : Nat) :
    Returns (Kept before) (jumpToLastSector forward) fun result => Paged before (result = .jump) := by
  apply triple_bind _ (kept_returns before kept_rffuotaReadLastsectorPageAndSubpageStatus)
  intro status
  split
  next => exact triple_pure _ fun _ known => paged_of_kept before known
  next page subpage =>
    have moves (change : Upload -> Upload)
        (same : forall upload, (change upload).fuotaCmdHeaderLen = upload.fuotaCmdHeaderLen) :=
      held_returns before (held_setUpload change same)
    refine triple_bind (fun _ => Held before)
      ((moves _ fun _ => ?_).weaken (fun _ known => known.toHeld) fun _ _ known => known) fun _ => ?_
    next => rfl
    apply triple_bind _ (held_returns before held_fixPageSubpageAndSeek)
    intro _
    refine triple_bind _ (moves _ fun _ => ?_) fun _ => ?_
    next => rfl
    exact triple_pure _ fun _ known => ⟨known, fun other => absurd rfl other⟩

theorem handleFuotaPostRead_pages (bytesRead : Option Nat) :
    Returns (Kept before) (handleFuotaPostRead bytesRead)
      fun result => Paged before (result = .jump) := by
  have stays {prog : Prog Fuota PostRead} (moves : Respects Kept prog) :
      Returns (Kept before) prog fun result => Paged before (result = .jump) :=
    (kept_returns before moves).weaken (fun _ known => known) fun _ _ known => paged_of_kept before known
  apply triple_bind _ (kept_returns before (kept_observe _))
  intro upload
  split
  next =>
    apply stays
    apply kept_bind (kept_setCntx _)
    intro _
    exact kept_bind (kept_setUpload _ fun _ => ⟨rfl, rfl⟩) fun _ => kept_pure _
  next =>
    split
    next =>
      apply stays
      refine kept_bind (kept_setUpload _ fun _ => ⟨rfl, rfl⟩) fun _ => ?_
      exact kept_bind (kept_updateStatus 4 0) fun _ => kept_pure _
    next length =>
      dsimp only
      split
      next => exact jumpToLastSector_pages before 1
      next =>
        split
        next => exact jumpToLastSector_pages before 0
        next => exact stays kept_retryHandling

/-- What is known behind a turn of an exchange: the page is another one only behind a jump. -/
def Exchanged (outcome : Turn Unit Exchange) : Fuota -> Prop := Paged before (outcome = .done .jumped)

theorem judge_pages (bytesRead : Option Nat) :
    Returns (Kept before) (judge bytesRead) (Exchanged before) := by
  refine triple_bind _ (kept_returns before (kept_setUpload _ fun _ => ⟨rfl, rfl⟩)) fun _ => ?_
  apply triple_bind _ (handleFuotaPostRead_pages before bytesRead)
  intro result
  cases result <;> apply triple_pure <;> intro last known
  case jump => exact ⟨known.1, fun other => absurd rfl other⟩
  case success => exact paged_of_kept before (known.2 (by simp))
  case retry => exact paged_of_kept before (known.2 (by simp))
  case abort => exact paged_of_kept before (known.2 (by simp))

theorem exchangeTurn_pages (frame : ImageFrame) :
    Returns (Kept before) (exchangeTurn frame) (Exchanged before) := by
  have stays {prog : Prog Fuota (Turn Unit Exchange)} (moves : Respects Kept prog) :
      Returns (Kept before) prog (Exchanged before) :=
    (kept_returns before moves).weaken (fun _ known => known) fun _ _ known => paged_of_kept before known
  apply triple_bind _ (kept_returns before (kept_observe _))
  intro fuota
  split
  next =>
    apply triple_bind _ (kept_returns before fun _ => kept_silent rfl rfl rfl)
    intro written
    apply triple_bind _ (kept_returns before fun _ => kept_event _ id rfl rfl rfl)
    intro _
    split
    next =>
      apply triple_bind _ (kept_returns before kept_nextArrival)
      intro arrival
      have counts : Respects Kept (countRetry >>= fun _ => pure (Turn.again () : Turn Unit Exchange)) :=
        kept_bind (kept_setUpload _ fun _ => ⟨rfl, rfl⟩) fun _ => kept_pure _
      cases arrival with
      | timedOut => exact stays counts
      | failed => exact judge_pages before none
      | data bytes =>
        refine triple_bind _ (kept_returns before (kept_setUpload _ fun _ => ⟨rfl, rfl⟩)) fun _ => ?_
        split
        next => exact stays counts
        next => exact judge_pages before _
    next => exact stays (kept_pure _)
  next => exact stays (kept_pure _)

/-- The exchange of a subpage stays at its page, unless it ends with a jump. -/
theorem exchange_pages (frame : ImageFrame) (fuel : Nat) :
    Returns (Kept before) (loop (fun _ => exchangeTurn frame) fuel ())
      fun exchange => Paged before (exchange = .jumped) := by
  apply triple_loop _ (fun _ => Kept before) fun _ _ _ => trivial
  intro _
  apply (exchangeTurn_pages before frame).weaken (fun _ known => known)
  intro outcome last known
  cases outcome with
  | again _ => exact known.2 (by simp)
  | done exchange => exact ⟨known.1, fun other => known.2 (by simpa using other)⟩

end Jumps

end Exchanges

section Turns

/-- A subpage up to the end of its exchange: the first part of `sendSubpage`. -/
def subpageExchange (payload : Bytes) (position : Nat) (lastSubpage : Bool) :
    Prog Fuota (ImageFrame × Exchange) := do
  buildSubpage payload lastSubpage
  let fuota <- observe id
  let headerLen := fuota.upload.fuotaCmdHeaderLen
  let frame : ImageFrame := {
    headerLen := headerLen
    bytes := slice fuota.upload.imageTfCommand 0 ((headerLen + 8 + payload.length) % 256)
    position := position
    lastSubpage := lastSubpage }
  updateStatus 11 1
  let exchange <- loop (fun _ => exchangeTurn frame) fuota.inputs.fuel ()
  return (frame, exchange)

/-- A turn of the upload up to the end of its exchange, where it comes to one. -/
def turnExchange : Prog Fuota (Option (ImageFrame × Exchange)) := do
  let fuota <- observe id
  let sectorValue := fuota.firmware.sectorValue
  let headerLen := fuota.upload.fuotaCmdHeaderLen
  if fuota.upload.pageCount < maxPageCount fuota.firmware.totalFirmwaresize sectorValue then
    let lastSubpage : Bool := fuota.upload.subpageCount.toNat = maxSubPageCount sectorValue headerLen - 1
    let position <- filePosition
    let payload <- fread (if lastSubpage then minPayloadSize sectorValue headerLen
      else maxPayloadSize headerLen)
    if payload = [] then return none else some <$> subpageExchange payload position lastSubpage
  else return none

theorem sendSubpage_exchange (payload : Bytes) (position : Nat) (lastSubpage : Bool) :
    sendSubpage payload position lastSubpage =
      subpageExchange payload position lastSubpage >>= fun ended => afterExchange ended.1 ended.2 := by
  simp only [sendSubpage, subpageExchange, bind_assoc, pure_bind]

theorem uploadTurn_exchange : uploadTurn () = turnExchange >>= fun
    | some ended => afterExchange ended.1 ended.2
    | none => return .done true := by
  unfold uploadTurn turnExchange
  simp only [bind_assoc]
  congr 1
  funext fuota
  split
  next =>
    simp only [bind_assoc]
    congr 1
    funext position
    congr 1
    funext payload
    split
    next => rw [pure_bind]
    next => rw [sendSubpage_exchange, bind_map_left]
  next => rw [pure_bind]

def pageLimit (fuota : Fuota) : Nat :=
  maxPageCount fuota.firmware.totalFirmwaresize fuota.firmware.sectorValue

/-- The file gives no more bytes, although there are pages left. -/
def runsDry (fuota : Fuota) : Bool :=
  fuota.upload.pageCount < pageLimit fuota && (turnExchange fuota).1 = some none

/-- A jump, or an exchange that is passed over, takes the upload behind the last page. -/
def overshoots (fuota : Fuota) : Bool :=
  match turnExchange fuota with
  | (some (some (frame, exchange)), after) =>
    (exchange = .jumped || exchange = .exhausted && 3 ≤ after.machine.cntx.alternateRetry) &&
      pageLimit after ≤ after.upload.pageCount + if frame.lastSubpage then 1 else 0
  | _ => false

/-- The frame of a subpage, from where the upload is. -/
structure Frames (before : Fuota) (payload : Bytes) (lastSubpage : Bool) (frame : ImageFrame) : Prop where
  headerLen : frame.headerLen = before.upload.fuotaCmdHeaderLen
  lastSubpage : frame.lastSubpage = lastSubpage
  bytes : exists command, frame.bytes = frameBytes command before.upload.fuotaCmdHeaderLen
    before.upload.pageCount before.upload.subpageCount payload

theorem subpageExchange_pages (payload : Bytes) (position : Nat) (lastSubpage : Bool) (before : Fuota) :
    Returns (· = before) (subpageExchange payload position lastSubpage) fun ended after =>
      Frames before payload lastSubpage ended.1 /\ Paged before (ended.2 = .jumped) after := by
  let built : Fuota := (buildSubpage payload lastSubpage before).2
  have moved : Kept before built := ⟨⟨rfl, rfl, rfl, logs_same rfl⟩, rfl⟩
  apply triple_ran (show buildSubpage payload lastSubpage before = (some (), built) from rfl)
  apply triple_ran (show observe id built = (some built, built) from rfl)
  apply triple_bind fun _ => Kept before
  next =>
    apply (kept_returns before (kept_updateStatus 11 1)).weaken
    next => exact fun _ same => same ▸ moved
    next => exact fun _ _ known => known
  intro _
  apply triple_bind _ (exchange_pages before _ _)
  intro exchange
  apply triple_pure
  exact fun last known => ⟨⟨rfl, rfl, _, rfl⟩, known⟩

theorem fread_kept (count : Nat) (before : Fuota) : exists payload after,
    fread count before = (some payload, after) /\ payload.length ≤ count /\ Kept before after /\
      after.upload = before.upload := by
  unfold fread
  cases before.firmware.foutaReadFd with
  | none => exact ⟨[], before, rfl, Nat.zero_le count, kept_refl before, rfl⟩
  | some file =>
    refine ⟨_, _, rfl, ?_, ⟨⟨rfl, rfl, rfl, logs_same rfl⟩, rfl⟩, rfl⟩
    simp only [List.length_take]
    omega

/-- A turn that comes to an exchange, with the frame of the subpage that the upload is at. -/
theorem turnExchange_some (before after : Fuota) (frame : ImageFrame) (exchange : Exchange)
    (ran : turnExchange before = (some (some (frame, exchange)), after)) :
    exists payload, Frames before payload frame.lastSubpage frame /\
      Paged before (exchange = .jumped) after /\ before.upload.pageCount < pageLimit before /\
      (frame.lastSubpage = true -> before.upload.subpageCount.toNat =
          maxSubPageCount before.firmware.sectorValue before.upload.fuotaCmdHeaderLen - 1 /\
        payload.length ≤
          minPayloadSize before.firmware.sectorValue before.upload.fuotaCmdHeaderLen) := by
  rw [turnExchange, ran_bind (show observe id before = (some before, before) from rfl)] at ran
  split at ran
  next inside =>
    rw [ran_bind (show filePosition before = (some _, before) from rfl)] at ran
    obtain ⟨payload, read, reads, short, kept, same⟩ := fread_kept
      (if decide (before.upload.subpageCount.toNat = maxSubPageCount before.firmware.sectorValue
        before.upload.fuotaCmdHeaderLen - 1) = true
        then minPayloadSize before.firmware.sectorValue before.upload.fuotaCmdHeaderLen
        else maxPayloadSize before.upload.fuotaCmdHeaderLen) before
    rw [ran_bind reads] at ran
    split at ran
    next => simp at ran
    next =>
      rw [map_eq_pure_bind, returned_bind] at ran
      obtain ⟨ended, middle, exchanged, returned⟩ := ran
      obtain ⟨⟨rfl⟩, rfl⟩ := (returned_pure _ _ _ _).mp returned
      obtain ⟨frames, paged⟩ := (subpageExchange_pages _ _ _ read).returned rfl exchanged
      refine ⟨payload, ?_, ?_, inside, ?_⟩
      next =>
        obtain ⟨headerLen, last, bytes⟩ := frames
        rw [same] at headerLen bytes
        exact ⟨headerLen, rfl, bytes⟩
      next =>
        refine ⟨held_trans _ _ _ kept.toHeld paged.1, fun other => kept_trans _ _ _ kept (paged.2 other)⟩
      next =>
        intro last
        rw [frames.lastSubpage] at last
        rw [if_pos last] at short
        exact ⟨of_decide_eq_true last, short⟩
  next => simp at ran

theorem turnExchange_none (before after : Fuota) (wet : runsDry before = false)
    (ran : turnExchange before = (some none, after)) :
    after = before /\ pageLimit before ≤ before.upload.pageCount := by
  have none_ : (turnExchange before).1 = some none := by rw [ran]
  rw [turnExchange, ran_bind (show observe id before = (some before, before) from rfl)] at ran
  split at ran
  next inside => simp [runsDry, pageLimit, inside, none_] at wet
  next outside => exact ⟨((returned_pure _ _ _ _).mp ran).2.symm, Nat.le_of_not_lt outside⟩

variable (start : Fuota)

/-- Since the start of the upload, the last subpage of the image was acknowledged. -/
def LastAcknowledged (now : Fuota) : Prop :=
  exists frame, .imageAcknowledged frame ∈ now.log.drop start.log.length /\
    LastSubpage start.firmware.totalFirmwaresize start.firmware.sectorValue frame

/-- What the turns of an upload keep: pages are left, or the last one is through. -/
structure Uploaded (now : Fuota) : Prop where
  held : Held start now
  reached : now.upload.pageCount < pageLimit start \/ LastAcknowledged start now

/-- The frame of a last subpage is not too long for its length byte. -/
def Short : Prop :=
  start.upload.fuotaCmdHeaderLen + 8 +
    minPayloadSize start.firmware.sectorValue start.upload.fuotaCmdHeaderLen ≤ 255

theorem Held.limit {before after : Fuota} (held : Held before after) : pageLimit after = pageLimit before := by
  rw [pageLimit, held.size, held.sector, pageLimit]

theorem Uploaded.further {start now after : Fuota} (uploaded : Uploaded start now)
    (held : Held now after) (within : after.upload.pageCount < pageLimit start) : Uploaded start after :=
  ⟨held_trans _ _ _ uploaded.held held, Or.inl within⟩

/-- The last subpage of the image is acknowledged where no page is left behind it. -/
theorem acknowledged_uploaded {now middle : Fuota} (frame : ImageFrame) (payload : Bytes)
    (short : Short start) (uploaded : Uploaded start now) (frames : Frames now payload frame.lastSubpage frame)
    (kept : Kept now middle) (inside : now.upload.pageCount < pageLimit now)
    (last : frame.lastSubpage = true -> now.upload.subpageCount.toNat =
        maxSubPageCount now.firmware.sectorValue now.upload.fuotaCmdHeaderLen - 1 /\
      payload.length ≤ minPayloadSize now.firmware.sectorValue now.upload.fuotaCmdHeaderLen) :
    Uploaded start (advance frame.lastSubpage (note (.imageAcknowledged frame) middle).2).2 := by
  have held : Held start middle := held_trans _ _ _ uploaded.held kept.toHeld
  have moved (upload : Upload) (same : upload.fuotaCmdHeaderLen = middle.upload.fuotaCmdHeaderLen) :
      Held middle { middle with upload := upload, log := middle.log ++ [.imageAcknowledged frame] } :=
    ⟨rfl, rfl, same, logs_event _ id rfl⟩
  rw [uploaded.held.limit] at inside
  cases flag : frame.lastSubpage with
  | false =>
    refine ⟨held_trans _ _ _ held (moved { middle.upload with
      subpageCount := middle.upload.subpageCount + 1 } rfl), Or.inl ?_⟩
    exact kept.page.trans_lt inside
  | true =>
    refine ⟨held_trans _ _ _ held (moved { middle.upload with
      subpageCount := 0, pageCount := middle.upload.pageCount + 1 } rfl), ?_⟩
    by_cases more : now.upload.pageCount + 1 < pageLimit start
    next => exact Or.inl ((congrArg (· + 1) kept.page).trans_lt more)
    next =>
      obtain ⟨subpage, few⟩ := last flag
      obtain ⟨headerLen, _, command, bytes⟩ := frames
      have room : now.upload.fuotaCmdHeaderLen + 8 + payload.length ≤ 255 := by
        rw [uploaded.held.sector, uploaded.held.headerLen] at few
        rw [uploaded.held.headerLen]
        unfold Short at short
        omega
      refine Or.inr ⟨frame, ?_, ?_, ?_, ?_⟩
      next =>
        obtain ⟨events, logged, _⟩ := held.logs
        change _ ∈ (middle.log ++ [Event.imageAcknowledged frame]).drop start.log.length
        rw [logged, List.append_assoc, List.drop_left]
        simp
      next =>
        change 0 < pageLimit start
        omega
      next =>
        rw [ImageFrame.page, headerLen, bytes, page_frameBytes _ _ _ _ _ room]
        change _ = (pageLimit start - 1) % 65536
        rw [show now.upload.pageCount = pageLimit start - 1 by omega]
      next =>
        rw [ImageFrame.subpage, headerLen, bytes, subpage_frameBytes _ _ _ _ _ room, subpage,
          uploaded.held.sector]
        exact Nat.sub_add_cancel (Nat.succ_pos _)

/-- Behind a subpage that is passed over, pages are left. -/
theorem advance_uploaded {now middle : Fuota} (lastSubpage : Bool) (uploaded : Uploaded start now)
    (held : Held now middle)
    (within : middle.upload.pageCount + (if lastSubpage then 1 else 0) < pageLimit middle) :
    Uploaded start (advance lastSubpage middle).2 := by
  rw [held.limit, uploaded.held.limit] at within
  have earlier := held_trans _ _ _ uploaded.held held
  cases lastSubpage with
  | false => exact ⟨held_trans _ _ _ earlier ⟨rfl, rfl, rfl, logs_same rfl⟩, Or.inl within⟩
  | true => exact ⟨held_trans _ _ _ earlier ⟨rfl, rfl, rfl, logs_same rfl⟩, Or.inl within⟩

theorem uploadTurn_uploaded {now after : Fuota} (outcome : Turn Unit Bool) (short : Short start)
    (uploaded : Uploaded start now) (wet : runsDry now = false) (stays : overshoots now = false)
    (ran : uploadTurn () now = (some outcome, after)) :
    afterTurn (fun _ => Uploaded start)
      (fun result after => result = true -> Held start after /\ LastAcknowledged start after)
      outcome after := by
  -- a turn that does not run dry and does not pass over the last page keeps what is known
  rw [uploadTurn_exchange, returned_bind] at ran
  obtain ⟨ended, middle, exchanged, behind⟩ := ran
  cases ended with
  | none =>
    obtain ⟨rfl, spent⟩ := turnExchange_none now middle wet exchanged
    obtain ⟨rfl, rfl⟩ := (returned_pure _ _ _ _).mp behind
    rw [uploaded.held.limit] at spent
    exact fun _ => ⟨uploaded.held, uploaded.reached.resolve_left (Nat.not_lt.mpr spent)⟩
  | some ended =>
    obtain ⟨frame, exchange⟩ := ended
    obtain ⟨payload, frames, paged, inside, last⟩ := turnExchange_some now middle frame exchange exchanged
    have givenUp {prog : Prog Fuota Unit} {from_ : Fuota}
        (left : (prog >>= fun _ => pure (Turn.done false)) from_ = (some outcome, after)) :
        outcome = .done false := by
      obtain ⟨_, _, _, returned⟩ := (returned_bind _ _ _ _ _).mp left
      exact ((returned_pure _ _ _ _).mp returned).1.symm
    cases exchange with
    | acknowledged =>
      have kept := paged.2 (by simp)
      have advanced := acknowledged_uploaded start frame payload short uploaded frames kept inside last
      cases behind
      exact advanced
    | jumped =>
      have within : middle.upload.pageCount + (if frame.lastSubpage then 1 else 0) < pageLimit middle := by
        simpa [overshoots, exchanged] using stays
      have advanced := advance_uploaded start frame.lastSubpage uploaded paged.1 within
      cases behind
      exact advanced
    | exhausted =>
      let alternates := middle.machine.cntx.alternateRetry
      let counted : Fuota := { middle with upload := { middle.upload with
        usingAlternatePath := true, fuotaimagetfAlternateCount := alternates } }
      have heldOn : Held middle counted := ⟨rfl, rfl, rfl, logs_same rfl⟩
      change (observe (fun fuota => fuota.machine.cntx.alternateRetry) >>= _) middle = _ at behind
      rw [ran_bind (show observe _ middle = (some alternates, middle) from rfl),
        ran_bind (show setUpload _ middle = (some (), counted) from rfl)] at behind
      split at behind
      next =>
        rw [givenUp behind]
        exact fun ended => by cases ended
      next spent =>
        have within : middle.upload.pageCount + (if frame.lastSubpage then 1 else 0) < pageLimit middle := by
          simpa [overshoots, exchanged, Nat.le_of_not_lt spent, alternates] using stays
        have advanced := advance_uploaded start frame.lastSubpage uploaded
          (held_trans _ _ _ paged.1 heldOn) within
        cases behind
        exact advanced
    | aborted =>
      change (updateStatus 11 0 >>= _) middle = _ at behind
      rw [← bind_assoc] at behind
      rw [givenUp behind]
      exact fun ended => by cases ended
    | writeFailed =>
      change (updateStatus 1 0 >>= _) middle = _ at behind
      rw [givenUp behind]
      exact fun ended => by cases ended

end Turns

/-- There are pages, no frame of a last subpage is too long, and no turn of the upload runs dry or passes
over the last page. -/
def Thorough (start : Fuota) : Prop :=
  0 < pageLimit start /\ Short start /\
    ∀ turn ∈ entered uploadTurn start.inputs.fuel () start,
      runsDry turn.2 = false /\ overshoots turn.2 = false

/-- A thorough upload that comes to its end has acknowledged the last subpage of the image. -/
theorem thorough_acknowledged (start ended : Fuota) (thorough : Thorough start)
    (first : start.upload.pageCount = 0) (ran : loop uploadTurn start.inputs.fuel () start = (some true, ended)) :
    Held start ended /\ LastAcknowledged start ended := by
  obtain ⟨pages, short, turns⟩ := thorough
  have begun : Uploaded start start := ⟨(kept_refl start).toHeld, Or.inl (first ▸ pages)⟩
  have reached := loop_entered uploadTurn (fun _ => Uploaded start) start.inputs.fuel () start ended true
    begun (fun turn inside known outcome after turned =>
      uploadTurn_uploaded start outcome short known (turns turn inside).1 (turns turn inside).2 turned) ran
  exact reached rfl

end Hes.Fuota
