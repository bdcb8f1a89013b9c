import Hes.Fuota.Delivery
import Hes.Fuota.History

set_option autoImplicit false

namespace Hes.Fuota

open Prog Text Mqtt

section Attempts

/-- The bytes an attempt reads, none where nothing arrives. -/
def received (fuota : Fuota) : Bytes :=
  match fuota.inputs.arrival fuota.counters.arrivals with
  | .data bytes => bytes.take 130
  | .timedOut | .failed => []

/-- The receive buffer behind the read: bytes of earlier replies stay behind a shorter one. -/
def heard (fuota : Fuota) : Bytes := overwrite fuota.upload.fuotaRbuf 0 (received fuota)

/-- A reply that reports another page or subpage. -/
def reports (fuota : Fuota) : Bool :=
  let kind := byteAt (heard fuota) ((received fuota).length - 2)
  byteAt (heard fuota) 2 = 0x0A && (kind = 0x03 || kind = 0x02)

/-- What answers the request for the last sector in a few tries. -/
def statusReply (inputs : Inputs) : Nat -> Nat -> Nat -> Option Bytes
  | 0, _, _ => none
  | tries + 1, writes, arrivals =>
    if inputs.write writes then
      match inputs.arrival arrivals with
      | .data bytes =>
        if bytes.take 512 = [] || retryReply (bytes.take 512) then
          statusReply inputs tries (writes + 1) (arrivals + 1)
        else some (bytes.take 512)
      | .timedOut | .failed => statusReply inputs tries (writes + 1) (arrivals + 1)
    else statusReply inputs tries (writes + 1) arrivals

/-- A reply that is handled as a failed try. -/
def Clears (fuota : Fuota) : Prop := received fuota ≠ [] /\ reports fuota = false

/-- A reported mismatch whose status comes back too short to be read. -/
def Overwrites (fuota : Fuota) : Prop :=
  received fuota ≠ [] /\ reports fuota = true /\
    ∃ resp, statusReply fuota.inputs 3 (fuota.counters.writes + 1) (fuota.counters.arrivals + 1) =
      some resp /\ resp.length < 6

/-- As many bytes as the buffer of the awaited reply says. -/
def awaitedLength (upload : Upload) : Nat := (byteAt upload.rfFuotaExpectedRespHeader 1 + 1).toNat

def Succeeds (frame : ImageFrame) (fuota : Fuota) : Prop :=
  (exchangeTurn frame fuota).1 = some (.done .acknowledged)

end Attempts

section Turns

/-- The upload and the inputs stay as they are. -/
def Untouched (before after : Fuota) : Prop := after.upload = before.upload /\ after.inputs = before.inputs

theorem untouched_refl (fuota : Fuota) : Untouched fuota fuota := ⟨rfl, rfl⟩

theorem untouched_trans (first second third : Fuota) (before : Untouched first second)
    (behind : Untouched second third) : Untouched first third :=
  ⟨behind.1.trans before.1, behind.2.trans before.2⟩

theorem untouched_bind {A B : Type} {first : Prog Fuota A} {next : A -> Prog Fuota B}
    (before : Respects Untouched first) (behind : forall value, Respects Untouched (next value)) :
    Respects Untouched (first >>= next) := respects_bind untouched_trans before behind

theorem untouched_pure {A : Type} (value : A) : Respects Untouched (pure value : Prog Fuota A) :=
  respects_pure untouched_refl value

theorem untouched_observe {A : Type} (view : Fuota -> A) : Respects Untouched (observe view) :=
  respects_observe untouched_refl view

theorem untouched_updateStatus (status errorCode : Nat) : Respects Untouched (updateStatus status errorCode) := by
  intro fuota
  simp only [updateStatus, ondemandFuotaUpdateStatus, observe, update, bind]
  split <;> exact ⟨rfl, rfl⟩

theorem untouched_framePmeshFuotaCmdHeaderForTargetNode (packetType : UInt8) (cmdData : Bytes) :
    Respects Untouched (framePmeshFuotaCmdHeaderForTargetNode packetType cmdData) :=
  untouched_bind (untouched_observe _) fun _ => untouched_bind (untouched_observe _) fun _ _ => ⟨rfl, rfl⟩

theorem untouched_prepareAlternateSamerouteRetry (payload : Option Bytes) (payloadLen : Nat) :
    Respects Untouched (prepareAlternateSamerouteRetry payload payloadLen) := by
  have searched : Respects Untouched getAlternateSourceRoute := by
    intro fuota
    unfold getAlternateSourceRoute
    dsimp only
    split <;> exact ⟨rfl, rfl⟩
  have built (routerCount : UInt8) : Respects Untouched (buildAlternaterouteImageTransfer routerCount) := by
    apply untouched_bind (untouched_updateStatus 22 1)
    intro _
    apply untouched_bind searched
    intro found
    split
    next =>
      apply untouched_bind (untouched_observe _)
      intro radio
      split
      next => exact untouched_bind (fun _ => ⟨rfl, rfl⟩) fun _ => untouched_pure true
      next => exact untouched_pure false
    next => exact untouched_pure false
  unfold prepareAlternateSamerouteRetry
  split
  next => exact untouched_pure ()
  next =>
    apply untouched_bind (fun _ => ⟨rfl, rfl⟩)
    intro _
    apply untouched_bind (untouched_updateStatus 22 1)
    intro _
    apply untouched_bind (untouched_observe _)
    intro buffer
    dsimp only
    split
    next => exact untouched_pure ()
    next =>
      apply untouched_bind (built _)
      intro found
      split
      next => exact untouched_bind (untouched_observe _) fun _ _ => ⟨rfl, rfl⟩
      next => exact fun _ => ⟨rfl, rfl⟩

theorem writeFrame_untouched (fuota : Fuota) : ∃ sent,
    writeFrame fuota = (some (fuota.inputs.write fuota.counters.writes), sent) /\ Untouched fuota sent /\
      sent.counters.writes = fuota.counters.writes + 1 /\
      sent.counters.arrivals = fuota.counters.arrivals :=
  ⟨_, rfl, ⟨rfl, rfl⟩, rfl, rfl⟩

theorem lastSectorStatus_none (resp : Bytes) (expectedHdrLen : Nat)
    (none : lastSectorStatus resp expectedHdrLen = none) : resp.length < 6 := by
  unfold lastSectorStatus at none
  split at none
  next => simp at none
  next =>
    split at none
    next => simp at none
    next => omega

/-- What the status request leaves where it gives no status. -/
def Unread (answered : Option Bytes) (before after : Fuota) : Prop :=
  after.upload.fuotaImagetfRetryCount = before.upload.fuotaImagetfRetryCount /\
    ((∀ resp ∈ answered, 6 ≤ resp.length) -> after.upload = before.upload)

theorem lastSectorAttempts_none (tries : Nat) (fuota after : Fuota)
    (ran : lastSectorAttempts tries fuota = (some none, after)) :
    Unread (statusReply fuota.inputs tries fuota.counters.writes fuota.counters.arrivals) fuota after := by
  induction tries generalizing fuota with
  | zero =>
    obtain rfl : fuota = after := (Prod.mk.inj ran).2
    exact ⟨rfl, fun _ => rfl⟩
  | succ tries ih =>
    obtain ⟨sent, wrote, untouched, writes, arrivals⟩ := writeFrame_untouched fuota
    rw [lastSectorAttempts, ran_bind wrote] at ran
    rw [statusReply]
    have further (state : Fuota) (same : Untouched sent state)
        (ran : lastSectorAttempts tries state = (some none, after))
        (count : state.counters.writes = fuota.counters.writes + 1) :
        Unread (statusReply fuota.inputs tries (fuota.counters.writes + 1) state.counters.arrivals)
          fuota after := by
      have behind := ih state ran
      rwa [Unread, same.1, untouched.1, same.2, untouched.2, count] at behind
    by_cases written : fuota.inputs.write fuota.counters.writes = true
    next =>
      rw [if_pos written] at ran ⊢
      have heard : nextArrival sent = (some (fuota.inputs.arrival fuota.counters.arrivals),
          (nextArrival sent).2) := by
        rw [← untouched.2, ← arrivals]
        rfl
      have counted : (nextArrival sent).2.counters.arrivals = fuota.counters.arrivals + 1 := by
        rw [← arrivals]
        rfl
      rw [ran_bind heard] at ran
      cases arrival : fuota.inputs.arrival fuota.counters.arrivals with
      | timedOut | failed =>
        rw [arrival] at ran
        exact counted ▸ further (nextArrival sent).2 ⟨rfl, rfl⟩ ran writes
      | data bytes =>
        rw [arrival] at ran
        dsimp only at ran ⊢
        split at ran
        next again =>
          rw [if_pos again]
          exact counted ▸ further (nextArrival sent).2 ⟨rfl, rfl⟩ ran writes
        next answered =>
          rw [if_neg answered]
          obtain ⟨expectedHdrLen, last, response, parsed⟩ := (returned_bind _ _ _ _ _).mp ran
          obtain ⟨empty, rfl⟩ := (returned_pure _ _ _ _).mp parsed
          have short := lastSectorStatus_none _ _ empty
          obtain rfl := (Prod.mk.inj response).2
          have count := congrArg Upload.fuotaImagetfRetryCount untouched.1
          refine ⟨count, fun long => ?_⟩
          have enough := long _ rfl
          omega
    next =>
      rw [if_neg written] at ran ⊢
      exact arrivals ▸ further sent (untouched_refl sent) ran writes

theorem updateStatus_counters (status errorCode : Nat) (fuota : Fuota) :
    (updateStatus status errorCode fuota).2.counters = fuota.counters := by
  simp only [updateStatus, ondemandFuotaUpdateStatus, observe, update, bind]
  split <;> rfl

theorem jumpToLastSector_retry (forward : Nat) (fuota after : Fuota)
    (ran : jumpToLastSector forward fuota = (some .retry, after)) :
    Unread (statusReply fuota.inputs 3 fuota.counters.writes fuota.counters.arrivals) fuota after := by
  obtain ⟨status, asked, read, later⟩ := (returned_bind _ _ _ _ _).mp ran
  cases status with
  | none =>
    obtain rfl : asked = after := ((returned_pure _ _ _ _).mp later).2
    obtain ⟨_, updated, told, later⟩ := (returned_bind _ _ _ _ _).mp read
    obtain ⟨_, framed, built, attempted⟩ := (returned_bind _ _ _ _ _).mp later
    have untouched := untouched_trans _ _ _ ((untouched_updateStatus 12 1).returned told)
      ((untouched_framePmeshFuotaCmdHeaderForTargetNode _ _).returned built)
    have counters : framed.counters = fuota.counters :=
      (congrArg (fun ran => ran.2.counters) built).symm.trans
        ((congrArg (fun ran => ran.2.counters) told).symm.trans (updateStatus_counters 12 1 fuota))
    have behind := lastSectorAttempts_none 3 framed asked attempted
    rwa [Unread, untouched.1, untouched.2, counters] at behind
  | some place =>
    obtain ⟨_, _, _, later⟩ := (returned_bind _ _ _ _ _).mp later
    obtain ⟨_, _, _, later⟩ := (returned_bind _ _ _ _ _).mp later
    obtain ⟨_, _, _, later⟩ := (returned_bind _ _ _ _ _).mp later
    exact absurd ((returned_pure _ _ _ _).mp later).1 nofun

/-- Another try, with zeros for the awaited reply while the tries are not used up. -/
theorem retryHandling_retry (fuota after : Fuota) (ran : retryHandling fuota = (some .retry, after)) :
    fuota.upload.fuotaImagetfRetryCount ≤ after.upload.fuotaImagetfRetryCount /\
      after.upload.fuotaImagetfRetryCount ≤ fuota.upload.fuotaImagetfRetryCount + 1 /\
      (after.upload.fuotaImagetfRetryCount < 3 -> after.upload.rfFuotaExpectedRespHeader =
        overwrite fuota.upload.rfFuotaExpectedRespHeader 0 (tempExpectBuf fuota.upload.responseLength)) := by
  rw [retryHandling, ran_bind (show observe (fun fuota : Fuota => fuota.upload) fuota =
    (some fuota.upload, fuota) from rfl)] at ran
  split at ran
  next =>
    -- the primary path: the third try ends with the alternate path
    obtain ⟨_, counted, count, later⟩ := (returned_bind _ _ _ _ _).mp ran
    obtain rfl := (Prod.mk.inj count).2
    split at later
    next =>
      obtain ⟨_, restored, restore, later⟩ := (returned_bind _ _ _ _ _).mp later
      obtain rfl := (Prod.mk.inj restore).2
      obtain rfl := ((returned_pure _ _ _ _).mp later).2
      exact ⟨Nat.le_succ _, Nat.le_refl _, fun _ => rfl⟩
    next more =>
      obtain ⟨_, switched, switch, later⟩ := (returned_bind _ _ _ _ _).mp later
      obtain rfl := (Prod.mk.inj switch).2
      obtain ⟨_, prepared, prepare, later⟩ := (returned_bind _ _ _ _ _).mp later
      obtain rfl := ((returned_pure _ _ _ _).mp later).2
      have untouched := ((untouched_prepareAlternateSamerouteRetry _ _).returned prepare).1
      have count := congrArg Upload.fuotaImagetfRetryCount untouched
      dsimp only at count
      exact ⟨by omega, by omega, fun few => absurd (count ▸ few) more⟩
  next =>
    obtain ⟨_, counted, count, later⟩ := (returned_bind _ _ _ _ _).mp ran
    obtain rfl := (Prod.mk.inj count).2
    split at later
    next =>
      obtain ⟨_, restored, restore, later⟩ := (returned_bind _ _ _ _ _).mp later
      obtain rfl := (Prod.mk.inj restore).2
      obtain rfl := ((returned_pure _ _ _ _).mp later).2
      exact ⟨Nat.le_refl _, Nat.le_succ _, fun _ => rfl⟩
    next => exact absurd ((returned_pure _ _ _ _).mp later).1 nofun

/-- The object with the length of the awaited reply. -/
def measured (fuota : Fuota) : Fuota :=
  { fuota with upload := { fuota.upload with responseLength := awaitedLength fuota.upload } }

def afterPostRead : PostRead -> Turn Unit Exchange
  | .success => .done .acknowledged
  | .retry => .again ()
  | .jump => .done .jumped
  | .abort => .done .aborted

theorem judge_postRead (bytesRead : Option Nat) (fuota : Fuota) :
    judge bytesRead fuota = (handleFuotaPostRead bytesRead >>= fun read => pure (afterPostRead read))
      (measured fuota) := by
  have measure : setUpload (fun upload => { upload with
      responseLength := (byteAt upload.rfFuotaExpectedRespHeader 1 + 1).toNat }) fuota =
      (some (), measured fuota) := rfl
  rw [judge, ran_bind measure]
  refine congrFun (congrArg (handleFuotaPostRead bytesRead >>= ·) (funext fun read => ?_)) _
  cases read <;> rfl

theorem handleFuotaPostRead_missed (length : Nat) (fuota : Fuota)
    (missed : matchesExpected fuota.upload = false) :
    handleFuotaPostRead (some length) fuota =
      (if byteAt fuota.upload.fuotaRbuf 2 = 0x0A && byteAt fuota.upload.fuotaRbuf (length - 2) = 0x03 then
        jumpToLastSector 1
      else if byteAt fuota.upload.fuotaRbuf 2 = 0x0A && byteAt fuota.upload.fuotaRbuf (length - 2) = 0x02 then
        jumpToLastSector 0
      else retryHandling) fuota := by
  rw [handleFuotaPostRead, ran_bind (show observe (fun fuota : Fuota => fuota.upload) fuota =
    (some fuota.upload, fuota) from rfl), missed]
  rfl

theorem handleFuotaPostRead_matched (bytesRead : Option Nat) (fuota : Fuota)
    (matched : matchesExpected fuota.upload = true) :
    (handleFuotaPostRead bytesRead fuota).1 = some .success := by
  rw [handleFuotaPostRead, ran_bind (show observe (fun fuota : Fuota => fuota.upload) fuota =
    (some fuota.upload, fuota) from rfl), matched]
  rfl

theorem jumpToLastSector_refuses (forward : Nat) :
    Returns (fun _ => True) (jumpToLastSector forward) fun read _ => read ≠ .success := by
  apply triple_bind _ (returns_trivial _ _)
  intro status
  split
  next => exact triple_pure _ fun _ _ => nofun
  next =>
    apply triple_bind _ (returns_trivial _ _)
    intro _
    apply triple_bind _ (returns_trivial _ _)
    intro _
    apply triple_bind _ (returns_trivial _ _)
    exact fun _ => triple_pure _ fun _ _ => nofun

theorem retryHandling_refuses :
    Returns (fun _ => True) retryHandling fun read _ => read ≠ .success := by
  apply triple_bind _ (returns_trivial _ _)
  intro upload
  dsimp only
  split
  next =>
    apply triple_bind _ (returns_trivial _ _)
    intro _
    split
    next => exact triple_bind _ (returns_trivial _ _) fun _ => triple_pure _ fun _ _ => nofun
    next =>
      apply triple_bind _ (returns_trivial _ _)
      intro _
      exact triple_bind _ (returns_trivial _ _) fun _ => triple_pure _ fun _ _ => nofun
  next =>
    apply triple_bind _ (returns_trivial _ _)
    intro _
    split
    next => exact triple_bind _ (returns_trivial _ _) fun _ => triple_pure _ fun _ _ => nofun
    next => exact triple_pure _ fun _ _ => nofun

theorem handleFuotaPostRead_success (length : Nat) (fuota : Fuota) :
    (handleFuotaPostRead (some length) fuota).1 = some .success <-> matchesExpected fuota.upload = true := by
  constructor
  next =>
    intro success
    by_contra missed
    have ran := returned_of_fst _ _ _ success
    rw [handleFuotaPostRead_missed length fuota (by simpa using missed)] at ran
    split at ran
    next => exact (jumpToLastSector_refuses 1).returned trivial ran rfl
    next =>
      split at ran
      next => exact (jumpToLastSector_refuses 0).returned trivial ran rfl
      next => exact retryHandling_refuses.returned trivial ran rfl
  next => exact handleFuotaPostRead_matched _ fuota

/-- The object behind a read of an attempt. -/
def heardBy (frame : ImageFrame) (fuota : Fuota) : Fuota :=
  { fuota with
    counters := { fuota.counters with
      writes := fuota.counters.writes + 1, arrivals := fuota.counters.arrivals + 1 }
    upload := { fuota.upload with fuotaRbuf := heard fuota }
    log := fuota.log ++ [.imageSent fuota.client.requestId frame] }

theorem exchangeTurn_received (frame : ImageFrame) (fuota : Fuota)
    (few : fuota.upload.fuotaImagetfRetryCount < 3)
    (written : fuota.inputs.write fuota.counters.writes = true) (some : received fuota ≠ []) :
    exchangeTurn frame fuota = judge (.some (received fuota).length) (heardBy frame fuota) := by
  unfold received at some
  cases arrival : fuota.inputs.arrival fuota.counters.arrivals with
  | timedOut | failed => simp [arrival] at some
  | data bytes =>
    rw [arrival] at some
    simp only at some
    simp [exchangeTurn, maxFuotaRetries, bind, observe, nextWrite, nextArrival, note, update, setUpload,
      few, written, arrival, received, heardBy, heard, some]

/-- What a received reply is compared with decides over it. -/
theorem succeeds_iff (frame : ImageFrame) (fuota : Fuota)
    (few : fuota.upload.fuotaImagetfRetryCount < 3)
    (written : fuota.inputs.write fuota.counters.writes = true) (some : received fuota ≠ []) :
    Succeeds frame fuota <-> slice (heard fuota) 0 (awaitedLength fuota.upload) =
      slice fuota.upload.rfFuotaExpectedRespHeader 0 (awaitedLength fuota.upload) := by
  rw [Succeeds, exchangeTurn_received frame fuota few written some, judge_postRead]
  have compared : matchesExpected (measured (heardBy frame fuota)).upload = true <->
      slice (heard fuota) 0 (awaitedLength fuota.upload) =
        slice fuota.upload.rfFuotaExpectedRespHeader 0 (awaitedLength fuota.upload) :=
    decide_eq_true_iff
  rw [← compared, ← handleFuotaPostRead_success (received fuota).length]
  constructor
  next =>
    intro ended
    obtain ⟨read, after, handled, later⟩ := (returned_bind _ _ _ _ _).mp (returned_of_fst _ _ _ ended)
    cases read with
    | success => rw [handled]
    | _ => exact absurd ((returned_pure _ _ _ _).mp later).1 nofun
  next =>
    intro success
    rw [ran_bind (returned_of_fst _ _ _ success)]
    rfl

/-- A read that fails counts, and leaves the awaited reply. -/
theorem judge_failed (fuota after : Fuota) (ran : judge none fuota = (some (.again ()), after)) :
    after.upload.fuotaImagetfRetryCount = fuota.upload.fuotaImagetfRetryCount + 1 /\
      after.upload.rfFuotaExpectedRespHeader = fuota.upload.rfFuotaExpectedRespHeader := by
  rw [judge_postRead] at ran
  obtain ⟨read, last, handled, later⟩ := (returned_bind _ _ _ _ _).mp ran
  obtain ⟨outcome, rfl⟩ := (returned_pure _ _ _ _).mp later
  cases matched : matchesExpected (measured fuota).upload with
  | true =>
    have success := handleFuotaPostRead_matched none (measured fuota) matched
    rw [handled] at success
    obtain rfl := Option.some.inj success
    exact absurd outcome nofun
  | false =>
    rw [handleFuotaPostRead, ran_bind (show observe (fun fuota : Fuota => fuota.upload) (measured fuota) =
      (some (measured fuota).upload, measured fuota) from rfl), matched] at handled
    obtain ⟨_, counted, count, handled⟩ := (returned_bind _ _ _ _ _).mp handled
    obtain rfl := (Prod.mk.inj count).2
    obtain ⟨_, told, update, handled⟩ := (returned_bind _ _ _ _ _).mp handled
    obtain rfl := ((returned_pure _ _ _ _).mp handled).2
    rw [((untouched_updateStatus 4 0).returned update).1]
    exact ⟨rfl, rfl⟩

/-- An attempt that reads nothing counts, and leaves the awaited reply. -/
theorem exchangeTurn_nothing (frame : ImageFrame) (fuota after : Fuota)
    (few : fuota.upload.fuotaImagetfRetryCount < 3)
    (written : fuota.inputs.write fuota.counters.writes = true) (nothing : received fuota = [])
    (ran : exchangeTurn frame fuota = (some (.again ()), after)) :
    after.upload.fuotaImagetfRetryCount = fuota.upload.fuotaImagetfRetryCount + 1 /\
      after.upload.rfFuotaExpectedRespHeader = fuota.upload.rfFuotaExpectedRespHeader := by
  have quiet (silent : (fuota.inputs.arrival fuota.counters.arrivals).silent) :
      after.upload.fuotaImagetfRetryCount = fuota.upload.fuotaImagetfRetryCount + 1 /\
        after.upload.rfFuotaExpectedRespHeader = fuota.upload.rfFuotaExpectedRespHeader := by
    obtain ⟨last, turned, same, count, _⟩ := exchangeTurn_silent frame fuota few written silent
    obtain rfl := (Prod.mk.inj (turned.symm.trans ran)).2
    exact ⟨count, congrArg (fun settled => settled.2.2.2.2.2.2.2.2.2.2) same⟩
  unfold received at nothing
  cases arrival : fuota.inputs.arrival fuota.counters.arrivals with
  | timedOut => exact quiet (Or.inl arrival)
  | data bytes =>
    rw [arrival] at nothing
    obtain rfl : bytes = [] := by simpa using nothing
    exact quiet (Or.inr arrival)
  | failed =>
    have turned : exchangeTurn frame fuota = judge none { fuota with
        counters := { fuota.counters with
          writes := fuota.counters.writes + 1, arrivals := fuota.counters.arrivals + 1 }
        log := fuota.log ++ [.imageSent fuota.client.requestId frame] } := by
      simp [exchangeTurn, maxFuotaRetries, bind, observe, nextWrite, nextArrival, note, update, few,
        written, arrival]
    rw [turned] at ran
    have failed := judge_failed _ after ran
    exact failed

/-- A reply that was read and leads to another attempt. -/
theorem judge_again (length : Nat) (fuota after : Fuota)
    (ran : judge (some length) fuota = (some (.again ()), after)) :
    matchesExpected (measured fuota).upload = false /\
      (if byteAt fuota.upload.fuotaRbuf 2 = 0x0A && byteAt fuota.upload.fuotaRbuf (length - 2) = 0x03 then
        jumpToLastSector 1
      else if byteAt fuota.upload.fuotaRbuf 2 = 0x0A && byteAt fuota.upload.fuotaRbuf (length - 2) = 0x02 then
        jumpToLastSector 0
      else retryHandling) (measured fuota) = (some .retry, after) := by
  rw [judge_postRead] at ran
  obtain ⟨read, last, handled, later⟩ := (returned_bind _ _ _ _ _).mp ran
  obtain ⟨outcome, rfl⟩ := (returned_pure _ _ _ _).mp later
  cases matched : matchesExpected (measured fuota).upload with
  | true =>
    have success := handleFuotaPostRead_matched (some length) (measured fuota) matched
    rw [handled] at success
    obtain rfl := Option.some.inj success
    exact absurd outcome nofun
  | false =>
    obtain rfl : read = .retry := by cases read <;> simp [afterPostRead] at outcome ⊢
    rw [handleFuotaPostRead_missed length _ matched] at handled
    exact ⟨rfl, handled⟩

theorem exchangeTurn_tried (frame : ImageFrame) (fuota after : Fuota)
    (ran : exchangeTurn frame fuota = (some (.again ()), after)) :
    fuota.upload.fuotaImagetfRetryCount < 3 /\ fuota.inputs.write fuota.counters.writes = true := by
  -- an attempt that leads to another one was written, with tries left
  rw [exchangeTurn, ran_bind (show observe id fuota = (some fuota, fuota) from rfl)] at ran
  split at ran
  next few =>
    refine ⟨few, ?_⟩
    rw [ran_bind (show nextWrite fuota = (some (fuota.inputs.write fuota.counters.writes),
      (nextWrite fuota).2) from rfl)] at ran
    obtain ⟨_, noted, _, later⟩ := (returned_bind _ _ _ _ _).mp ran
    by_contra failed
    rw [if_neg failed] at later
    exact absurd ((returned_pure _ _ _ _).mp later).1 (by simp)
  next => exact absurd ((returned_pure _ _ _ _).mp ran).1 (by simp)

/-- What an attempt leaves that leads to another one. -/
structure Tried (before after : Fuota) : Prop where
  counted : before.upload.fuotaImagetfRetryCount ≤ after.upload.fuotaImagetfRetryCount /\
    after.upload.fuotaImagetfRetryCount ≤ before.upload.fuotaImagetfRetryCount + 1
  kept : ¬ Clears before -> ¬ Overwrites before ->
    after.upload.rfFuotaExpectedRespHeader = before.upload.rfFuotaExpectedRespHeader
  cleared : Clears before -> after.upload.fuotaImagetfRetryCount < 3 ->
    byteAt after.upload.rfFuotaExpectedRespHeader 0 = 0 /\
      byteAt after.upload.rfFuotaExpectedRespHeader 1 = 0

theorem byteAt_cleared (header : Bytes) (some : (byteAt header 1 + 1).toNat ≠ 0) :
    byteAt (overwrite header 0 (tempExpectBuf (byteAt header 1 + 1).toNat)) 0 = 0 /\
      byteAt (overwrite header 0 (tempExpectBuf (byteAt header 1 + 1).toNat)) 1 = 0 := by
  -- zeros over as many bytes as the buffer says leave it with zeros in front
  have zeros (length index : Nat) : byteAt (tempExpectBuf length) index = 0 := by
    simp [byteAt, tempExpectBuf, List.getD_eq_getElem?_getD, List.getElem?_replicate]
    split <;> rfl
  have length : (tempExpectBuf (byteAt header 1 + 1).toNat).length = (byteAt header 1 + 1).toNat :=
    List.length_replicate
  constructor
  next => rw [byteAt_overwrite, length, if_pos (by omega), zeros]
  next =>
    rw [byteAt_overwrite, length]
    split
    next => exact zeros _ _
    next short =>
      have one : (byteAt header 1 + 1).toNat = (0 + 1 : UInt8).toNat :=
        (show (byteAt header 1 + 1).toNat = 1 by omega).trans rfl
      exact add_right_cancel (UInt8.toNat_inj.mp one)

theorem reports_of {fuota : Fuota}
    (mismatch : (byteAt (heard fuota) 2 = 0x0A && byteAt (heard fuota) ((received fuota).length - 2) = 0x03) \/
      (byteAt (heard fuota) 2 = 0x0A && byteAt (heard fuota) ((received fuota).length - 2) = 0x02)) :
    reports fuota = true := by
  rw [reports, Bool.and_or_distrib_left, Bool.or_eq_true]
  exact mismatch

theorem reports_none {fuota : Fuota}
    (page : ¬ (byteAt (heard fuota) 2 = 0x0A &&
      byteAt (heard fuota) ((received fuota).length - 2) = 0x03))
    (subpage : ¬ (byteAt (heard fuota) 2 = 0x0A &&
      byteAt (heard fuota) ((received fuota).length - 2) = 0x02)) : reports fuota = false := by
  rw [reports, Bool.and_or_distrib_left, Bool.or_eq_false_iff]
  exact ⟨eq_false_of_ne_true page, eq_false_of_ne_true subpage⟩

theorem tried_exchangeTurn (frame : ImageFrame) (fuota after : Fuota)
    (ran : exchangeTurn frame fuota = (some (.again ()), after)) : Tried fuota after := by
  obtain ⟨few, written⟩ := exchangeTurn_tried frame fuota after ran
  by_cases nothing : received fuota = []
  next =>
    obtain ⟨count, same⟩ := exchangeTurn_nothing frame fuota after few written nothing ran
    exact ⟨⟨by omega, by omega⟩, fun _ _ => same, fun clears => absurd nothing clears.1⟩
  next =>
    rw [exchangeTurn_received frame fuota few written nothing] at ran
    obtain ⟨missed, handled⟩ := judge_again _ _ after ran
    have jumped (forward : Nat) (reported : reports fuota = true)
        (ran : jumpToLastSector forward (measured (heardBy frame fuota)) = (some .retry, after)) :
        Tried fuota after := by
      obtain ⟨count, unread⟩ := jumpToLastSector_retry forward _ after ran
      refine ⟨⟨count.ge, count.le.trans (Nat.le_succ _)⟩, fun _ whole => ?_, fun clears => ?_⟩
      next =>
        rw [unread fun resp answered => ?_]
        next => rfl
        by_contra short
        exact whole ⟨nothing, reported, resp, answered, by omega⟩
      next => exact absurd clears.2 (by simp [reported])
    split at handled
    next page => exact jumped 1 (reports_of (Or.inl page)) handled
    next noPage =>
      split at handled
      next subpage => exact jumped 0 (reports_of (Or.inr subpage)) handled
      next noSubpage =>
        obtain ⟨least, most, restored⟩ := retryHandling_retry _ after handled
        have positive : awaitedLength fuota.upload ≠ 0 := by
          intro none
          have same : slice (heard fuota) 0 (awaitedLength fuota.upload) =
              slice fuota.upload.rfFuotaExpectedRespHeader 0 (awaitedLength fuota.upload) := by
            rw [none]
            rfl
          exact absurd (decide_eq_true same) (ne_true_of_eq_false missed)
        refine ⟨⟨least, most⟩, fun clears => ?_, fun _ more => ?_⟩
        next => exact absurd ⟨nothing, reports_none noPage noSubpage⟩ clears
        next =>
          rw [restored more]
          exact byteAt_cleared _ positive

end Turns

section Replies

variable {frame : ImageFrame}

variable {built last : Fuota} {rest : List (Unit × Fuota)}

theorem tried_first {fuel : Nat} {turn : Unit × Fuota} {earlier : List (Unit × Fuota)}
    (run : entered (fun _ => exchangeTurn frame) fuel () built = turn :: (earlier ++ ((), last) :: rest)) :
    turn.2 = built /\ exists fewer after, Tried built after /\
      entered (fun _ => exchangeTurn frame) fewer () after = earlier ++ ((), last) :: rest := by
  obtain ⟨rfl, further⟩ := entered_cons _ _ _ _ _ _ run
  obtain ⟨fewer, _, after, ran, entered⟩ := further (by simp)
  exact ⟨rfl, fewer, after, tried_exchangeTurn frame built after ran, entered⟩

theorem tried_last {fuel : Nat} (run : entered (fun _ => exchangeTurn frame) fuel () built = ((), last) :: rest) :
    last = built := (Prod.mk.inj (entered_cons _ _ _ _ _ _ run).1).2

theorem tries_counted {fuel : Nat} {earlier : List (Unit × Fuota)}
    (run : entered (fun _ => exchangeTurn frame) fuel () built = earlier ++ ((), last) :: rest) :
    built.upload.fuotaImagetfRetryCount ≤ last.upload.fuotaImagetfRetryCount /\
      last.upload.fuotaImagetfRetryCount ≤ built.upload.fuotaImagetfRetryCount + earlier.length := by
  induction earlier generalizing fuel built with
  | nil =>
    rw [tried_last run]
    simp
  | cons turn earlier ih =>
    obtain ⟨_, fewer, after, tried, later⟩ := tried_first run
    have behind := ih later
    have counted := tried.counted
    simp only [List.length_cons]
    omega

theorem tries_kept {fuel : Nat} {earlier : List (Unit × Fuota)}
    (run : entered (fun _ => exchangeTurn frame) fuel () built = earlier ++ ((), last) :: rest)
    (keeps : ∀ turn ∈ earlier, ¬ Clears turn.2 /\ ¬ Overwrites turn.2) :
    last.upload.rfFuotaExpectedRespHeader = built.upload.rfFuotaExpectedRespHeader := by
  -- attempts that read nothing, or report without a status, leave the awaited reply
  induction earlier generalizing fuel built with
  | nil => rw [tried_last run]
  | cons turn earlier ih =>
    obtain ⟨rfl, fewer, after, tried, later⟩ := tried_first run
    obtain ⟨clears, overwrites⟩ := keeps turn (by simp)
    exact (ih later fun turn inside => keeps turn (by simp [inside])).trans (tried.kept clears overwrites)

theorem tries_cleared {fuel : Nat} {earlier : List (Unit × Fuota)}
    (run : entered (fun _ => exchangeTurn frame) fuel () built = earlier ++ ((), last) :: rest)
    (few : last.upload.fuotaImagetfRetryCount < 3) (whole : ∀ turn ∈ earlier, ¬ Overwrites turn.2)
    (clears : ∃ turn ∈ earlier, Clears turn.2) :
    byteAt last.upload.rfFuotaExpectedRespHeader 0 = 0 /\
      byteAt last.upload.rfFuotaExpectedRespHeader 1 = 0 := by
  -- behind a failed try zeros are awaited
  induction earlier generalizing fuel built with
  | nil => simp at clears
  | cons turn earlier ih =>
    obtain ⟨rfl, fewer, after, tried, later⟩ := tried_first run
    by_cases again : ∃ turn ∈ earlier, Clears turn.2
    next => exact ih later (fun turn inside => whole turn (by simp [inside])) again
    next =>
      have first : Clears turn.2 := by
        obtain ⟨other, inside, clears⟩ := clears
        cases List.mem_cons.mp inside with
        | inl same => exact same ▸ clears
        | inr inside => exact absurd ⟨other, inside, clears⟩ again
      have kept := tries_kept later fun other inside =>
        ⟨fun clears => again ⟨other, inside, clears⟩, whole other (by simp [inside])⟩
      have counted := (tries_counted later).1
      rw [kept]
      exact tried.cleared first (by omega)

/-- What is awaited for the subpage an object is at: the bytes that are built for it. -/
def awaitedReply (fuota : Fuota) (lastSubpage : Bool) : Bytes :=
  slice (buildImageTfExpectedRx fuota.upload.rfFuotaExpectedRespHeader fuota.upload.fuotaRespHeaderLen
    fuota.upload.pageCount fuota.upload.subpageCount lastSubpage) 0 (fuota.upload.fuotaRespHeaderLen + 9)

/-- What the code compares: the receive buffer with that of the awaited reply. -/
def ComparesEqual (fuota : Fuota) : Prop :=
  slice (heard fuota) 0 (awaitedLength fuota.upload) =
    slice fuota.upload.rfFuotaExpectedRespHeader 0 (awaitedLength fuota.upload)

theorem startUpload_fuotaRespHeaderLen (fuota : Fuota) :
    (startUpload fuota).2.upload.fuotaRespHeaderLen = 15 := rfl

theorem buildImageTfExpectedRx_start (header : Bytes) (page : Nat) (subpage : UInt8) (lastSubpage : Bool) :
    byteAt (buildImageTfExpectedRx header 15 page subpage lastSubpage) 0 = 0x2E /\
      byteAt (buildImageTfExpectedRx header 15 page subpage lastSubpage) 1 = 0x17 := by
  constructor <;>
  · rw [buildImageTfExpectedRx, byteAt_overwrite, if_neg (by omega), byteAt_overwrite, if_neg (by omega),
      byteAt_overwrite, if_pos (by simp)]
    rfl

theorem awaitedReply_start (start : Fuota) (lastSubpage : Bool)
    (header : start.upload.fuotaRespHeaderLen = 15) : byteAt (awaitedReply start lastSubpage) 0 = 0x2E := by
  rw [awaitedReply, header, byteAt_slice _ _ _ _ (by omega)]
  exact (buildImageTfExpectedRx_start _ _ _ _).1

theorem comparesEqual_awaited (start last : Fuota) (lastSubpage : Bool)
    (header : start.upload.fuotaRespHeaderLen = 15)
    (awaits : last.upload.rfFuotaExpectedRespHeader =
      buildImageTfExpectedRx start.upload.rfFuotaExpectedRespHeader 15 start.upload.pageCount
        start.upload.subpageCount lastSubpage) :
    ComparesEqual last <-> slice (heard last) 0 24 = awaitedReply start lastSubpage := by
  -- where the reply is still awaited, the receive buffer must begin with it
  have length : awaitedLength last.upload = 24 := by
    rw [awaitedLength, awaits, (buildImageTfExpectedRx_start _ _ _ _).2]
    rfl
  rw [ComparesEqual, length, awaits, awaitedReply, header]

theorem comparesEqual_cleared (last : Fuota) (some : received last ≠ [])
    (cleared : byteAt last.upload.rfFuotaExpectedRespHeader 0 = 0 /\
      byteAt last.upload.rfFuotaExpectedRespHeader 1 = 0) :
    ComparesEqual last <-> byteAt (received last) 0 = 0 := by
  -- where zeros are awaited, the first byte decides
  have length : awaitedLength last.upload = 1 := by
    rw [awaitedLength, cleared.2]
    rfl
  have first : byteAt (heard last) 0 = byteAt (received last) 0 := by
    rw [heard, byteAt_overwrite, if_pos ⟨Nat.le_refl _, by have := List.length_pos_iff.mpr some; omega⟩]
  rw [ComparesEqual, length]
  simp [slice, first, cleared.1]

theorem heard_awaited (start last : Fuota) (lastSubpage : Bool)
    (header : start.upload.fuotaRespHeaderLen = 15)
    (valid : received last = awaitedReply start lastSubpage) :
    slice (heard last) 0 24 = awaitedReply start lastSubpage := by
  have length : (awaitedReply start lastSubpage).length = 24 := by rw [awaitedReply, slice_length, header]
  rw [heard, valid]
  conv => lhs; rw [← length]
  exact slice_overwrite _ 0 _

/-- An upload at its first subpage, over one hop. -/
def atFirstSubpage : Fuota where
  upload := { fuotaRespHeaderLen := 15, fuotaCmdHeaderLen := 17 }

def inProgress : Bytes := [0x2E, 0x17, 0x09] ++ List.replicate 20 0x00 ++ [0x07]

/-- The first subpage is built, and these replies come to its frame. -/
def answeredBy (arrival : Nat -> Bytes) : Fuota :=
  { (buildSubpage [0x55] false atFirstSubpage).2 with
    inputs := { arrival := fun index => Arrival.data (arrival index) } }

def subpageFrame : ImageFrame := { headerLen := 17, bytes := [], position := 0, lastSubpage := false }

def answeredAtOnce : Fuota := answeredBy fun _ => awaitedReply atFirstSubpage false

end Replies

end Hes.Fuota
