import Hes.Fuota.ActionRefinement
import Hes.Fuota.FinalRuns
import Hes.Fuota.LastSubpage
import Hes.Lib.Stages

set_option autoImplicit false

namespace Hes.Fuota

open Prog Text Mqtt Transition Relation Stages

def OpensFile (event : Event) : Prop := exists path, event = .opened path

def AcknowledgesLast (size sector : Nat) (event : Event) : Prop :=
  exists frame, event = .imageAcknowledged frame /\ LastSubpage size sector frame

/-- What has to happen for an image before it is activated, in this order. -/
def milestones (size sector : Nat) : List (Event -> Prop) := [
  (· = .accepted .eraseFlash),
  AcknowledgesLast size sector,
  (· = .accepted .fwImageEndofPageTransfer),
  (· = .accepted .newFwimageCrcCalculate)]

/-- A frame with an activate command was built behind the milestones of an image: of the machine's own
image, if none was begun since. -/
def Verified (log : List Event) (size sector : Nat) (built : Built) : Prop :=
  built.command = activateRead -> built.place ≤ log.length /\ exists size' sector',
    Staged OpensFile Restarts (milestones size' sector') (log.take built.place) /\
      (Fresh Restarts log built.place -> size' = size /\ sector' = sector)

/-- Every activate command that was transmitted stands behind the milestones of its image. -/
def ActivatesVerified (fuota : Fuota) : Prop :=
  forall sent, .sent sent ∈ fuota.log ->
    Verified fuota.log fuota.firmware.totalFirmwaresize fuota.firmware.sectorValue sent.built

section Histories

variable {log : List Event} {size sector : Nat} {built : Built}

theorem Verified.same (verified : Verified log size sector built) {other : Built}
    (command : other.command = activateRead -> built.command = activateRead /\ other.place = built.place) :
    Verified log size sector other := by
  intro activates
  obtain ⟨known, place⟩ := command activates
  rw [place]
  exact verified known

theorem Verified.quiet (verified : Verified log size sector built) (more : List Event) :
    Verified (log ++ more) size sector built := by
  intro activates
  obtain ⟨within, size', sector', passed, fresh⟩ := verified activates
  refine ⟨by simp; omega, size', sector', ?_, fun later => fresh later.before⟩
  rwa [List.take_append_of_le_length within]

theorem Verified.restarted (verified : Verified log size sector built) (more : List Event)
    (restarts : ∃ event ∈ more, Restarts event) (size' sector' : Nat) :
    Verified (log ++ more) size' sector' built := by
  -- behind a restart, a frame is not of the machine's image any more
  intro activates
  obtain ⟨within, ownSize, ownSector, passed, _⟩ := verified activates
  obtain ⟨event, inside, restart⟩ := restarts
  refine ⟨by simp; omega, ownSize, ownSector, ?_, ?_⟩
  next => rwa [List.take_append_of_le_length within]
  next => exact fun fresh => absurd fresh (not_fresh within inside restart)

end Histories

/-- How many of the milestones are behind the machine. -/
def FuotaState.milestone : FuotaState -> Option Nat
  | .fwimageOfSectorCount | .eraseFlash => some 0
  | .fwImageTransfer => some 1
  | .fwImageEndofPageTransfer => some 2
  | .newFwimageCrcCalculate => some 3
  | .activateNewFwimage | .sendActivateCmd => some 4
  | _ => none

namespace Core

def Passes (core : Core) (count : Nat) : Prop :=
  Staged OpensFile Restarts ((milestones core.size core.sector).take count) core.log

def Verifies (core : Core) (built : Built) : Prop := Verified core.log core.size core.sector built

/-- The state says which milestones are passed, and no activate command was built too early. -/
structure Ordered (core : Core) : Prop where
  stage : forall count, core.state.milestone = some count -> core.Passes count
  built : core.Verifies core.built
  sent : forall sent, .sent sent ∈ core.log -> core.Verifies sent.built

end Core

section Moves

variable {before after : Core}

/-- Where the history is continued, for the same image. -/
theorem Core.Ordered.continued (ordered : before.Ordered) (more : List Event)
    (log : after.log = before.log ++ more) (size : after.size = before.size)
    (sector : after.sector = before.sector)
    (stage : forall count, after.state.milestone = some count -> after.Passes count)
    (built : after.built.command = activateRead ->
      before.built.command = activateRead /\ after.built.place = before.built.place)
    (sent : forall sent, .sent sent ∈ more -> sent.built = before.built) : after.Ordered := by
  have later (frame : Built) (verified : before.Verifies frame) : after.Verifies frame := by
    have continued := verified.quiet more
    rwa [← log, ← size, ← sector] at continued
  refine ⟨stage, later _ (ordered.built.same built), ?_⟩
  intro frame inside
  rw [log, List.mem_append] at inside
  cases inside with
  | inl inside => exact later _ (ordered.sent frame inside)
  | inr inside => exact sent frame inside ▸ later _ ordered.built

theorem Core.Passes.quiet {count : Nat} (passes : before.Passes count) (more : List Event)
    (log : after.log = before.log ++ more) (size : after.size = before.size)
    (sector : after.sector = before.sector) (quiet : ∀ event ∈ more, ¬ Restarts event) :
    after.Passes count := by
  have continued := Staged.quiet passes more quiet
  rwa [← log, ← size, ← sector] at continued

/-- Where nothing but quiet events is logged, and the state stays or is behind no milestone. -/
theorem Core.Ordered.quiet (ordered : before.Ordered) (more : List Event)
    (log : after.log = before.log ++ more) (size : after.size = before.size)
    (sector : after.sector = before.sector)
    (state : after.state.milestone = none \/ after.state.milestone = before.state.milestone)
    (quiet : ∀ event ∈ more, ¬ Restarts event)
    (built : after.built.command = activateRead ->
      before.built.command = activateRead /\ after.built.place = before.built.place)
    (sent : forall sent, .sent sent ∈ more -> sent.built = before.built) : after.Ordered := by
  apply ordered.continued more log size sector _ built sent
  intro count reached
  obtain none_ | same := state
  next => simp [none_] at reached
  next => exact (ordered.stage count (same ▸ reached)).quiet more log size sector quiet

theorem Core.Ordered.restarted (ordered : before.Ordered) (more : List Event)
    (log : after.log = before.log ++ more) (restarts : ∃ event ∈ more, Restarts event)
    (state : after.state.milestone = none) (built : after.built = before.built)
    (sent : forall sent, .sent sent ∉ more) : after.Ordered := by
  -- where another image is begun: the machine is behind no milestone then
  have later (frame : Built) (verified : before.Verifies frame) : after.Verifies frame := by
    have restarted := verified.restarted more restarts after.size after.sector
    rwa [← log] at restarted
  refine ⟨by simp [state], built ▸ later _ ordered.built, ?_⟩
  intro frame inside
  rw [log, List.mem_append] at inside
  exact later _ (ordered.sent frame (inside.resolve_right (sent frame)))

theorem Core.Ordered.assigned (ordered : before.Ordered) (next : FuotaState)
    (state : next.milestone = none \/ next.milestone = before.state.milestone) :
    (before.assign next).Ordered := by
  -- a state is assigned that is behind no milestone, or behind as many as before
  apply ordered.quiet [.assigned next] (show (before.assign next).log = _ from rfl) rfl rfl state
  next => simp [Restarts]
  next => exact fun activates => ⟨activates, rfl⟩
  next => simp

theorem leads_milestone (hops : Bool) (state next : FuotaState) (leads : Leads hops state next) :
    next.milestone = none \/ next.milestone = state.milestone := by
  unfold Leads at leads
  split at leads
  next => exact Or.inl rfl
  next => exact Or.inl rfl
  next => exact Or.inl rfl
  next => exact Or.inl rfl
  next => exact Or.inl rfl
  next => exact Or.inr rfl
  next => exact Or.inl rfl
  next => exact Or.inl rfl
  next => exact Or.inl rfl
  next => exact Or.inl rfl
  next => exact Or.inr (leads ▸ rfl)

theorem Core.Ordered.noted (ordered : before.Ordered) (event : Event) (quiet : ¬ Restarts event)
    (sent : forall sent, event = .sent sent -> sent.built = before.built) : (before.note event).Ordered := by
  -- what is noted without a restart keeps the milestones
  apply ordered.quiet [event] (show (before.note event).log = _ from rfl) rfl rfl (Or.inr rfl)
  next => simpa using quiet
  next => exact fun activates => ⟨activates, rfl⟩
  next =>
    intro frame inside
    exact sent frame (List.mem_singleton.mp inside).symm

theorem Core.Ordered.silent (ordered : before.Ordered) (log : after.log = before.log)
    (size : after.size = before.size) (sector : after.sector = before.sector)
    (state : after.state = before.state)
    (built : after.built.command = activateRead ->
      before.built.command = activateRead /\ after.built.place = before.built.place) : after.Ordered := by
  apply ordered.quiet [] (by simpa using log) size sector (Or.inr (by rw [state])) (by simp) built
  simp

theorem Core.Ordered.unbuilt (ordered : before.Ordered) (command : Bytes) (sequence : SequenceCommand command)
    (other : Built) (same : other.command = command) : Core.Ordered { before with built := other } :=
  ordered.silent rfl rfl rfl rfl fun activates => absurd (same ▸ activates) (sequence_plain sequence).1

/-- The activate command is built in a state that all milestones are behind. -/
theorem Core.Ordered.targeted (ordered : before.Ordered) (command : Bytes)
    (activates : command = activateRead -> before.state = .activateNewFwimage) :
    Core.Ordered { before with built := before.routeBuilt .target command } := by
  refine ⟨ordered.stage, ?_, ordered.sent⟩
  intro built
  have passes := ordered.stage 4 (by rw [activates built]; rfl)
  exact ⟨Nat.le_refl _, before.size, before.sector, by simpa [Core.routeBuilt, Core.Passes, milestones] using passes,
    fun _ => ⟨rfl, rfl⟩⟩

theorem Core.Passes.met {core : Core} {count : Nat} (passes : core.Passes count) {condition : Event -> Prop}
    (known : (milestones core.size core.sector)[count]? = some condition) (event : Event)
    (holds : condition event) (quiet : ¬ Restarts event) : (core.note event).Passes (count + 1) := by
  have met := Staged.met passes holds quiet
  rw [Core.Passes, List.take_add_one]
  change Staged _ _ (_ ++ (milestones core.size core.sector)[count]?.toList) _
  rw [known]
  exact met

theorem follows_passes (ordered : before.Ordered) (next : FuotaState) (follows : Follows before.state next)
    (count : Nat) (reached : next.milestone = some count) :
    ((before.note (.accepted before.state)).assign next).Passes count := by
  have assigned (now : Core) (passes : now.Passes count) : (now.assign next).Passes count :=
    passes.quiet [.assigned next] rfl rfl rfl (by simp [Restarts])
  apply assigned
  have stage := ordered.stage
  generalize before.state = state at follows stage ⊢
  unfold Follows at follows
  split at follows
  next =>
    obtain rfl : 0 = count := by simpa [FuotaState.milestone] using reached
    exact (stage 0 rfl).quiet [.accepted _] rfl rfl rfl (by simp [Restarts])
  next =>
    obtain rfl : 1 = count := by simpa [FuotaState.milestone] using reached
    exact (stage 0 rfl).met rfl _ rfl id
  next =>
    obtain rfl : 3 = count := by simpa [FuotaState.milestone] using reached
    exact (stage 2 rfl).met rfl _ rfl id
  next =>
    obtain rfl : 4 = count := by simpa [FuotaState.milestone] using reached
    exact (stage 3 rfl).met rfl _ rfl id
  next =>
    obtain rfl : 4 = count := by simpa [FuotaState.milestone] using reached
    exact (stage 4 rfl).quiet [.accepted _] rfl rfl rfl (by simp [Restarts])
  next => simp [FuotaState.milestone] at reached
  next => exact follows.elim

theorem restarts_accepted (state : FuotaState) : Restarts (.accepted state) <-> state = .sectorRead := by
  cases state <;> simp [Restarts]

theorem jumps_milestone (cause : Cause) (state next : FuotaState) (queue : List Bytes)
    (jumps : Jumps cause state next queue) (other : cause ≠ .cut) : next.milestone = none := by
  cases cause <;> simp [Jumps] at jumps other
  case completed => rw [jumps.2]; rfl
  case exhausted => rw [jumps.2.2]; rfl
  case terminated => rw [jumps.2]; rfl
  case failed => rw [jumps.2]; rfl
  case emptied => rw [jumps.2]; rfl
  case finished => rw [jumps.2.2]; rfl

variable {permitted : Cause -> Core -> Prop}

/-- No move activates too early, where no reply cuts an upload short and an upload that ends is through. -/
theorem Move.ordered (move : Move permitted before after) (ordered : before.Ordered)
    (cut : forall now, ¬ permitted .cut now) (ends : permitted .uploaded before -> before.Passes 2) :
    after.Ordered := by
  have same : before.built.command = activateRead ->
      before.built.command = activateRead /\ before.built.place = before.built.place :=
    fun activates => ⟨activates, rfl⟩
  cases move with
  | gateway command sequence => exact ordered.unbuilt command sequence _ rfl
  | network command sequence => exact ordered.unbuilt command sequence _ rfl
  | target command ok hops activates verifies => exact ordered.targeted command activates
  | alternate => exact ordered.silent rfl rfl rfl rfl same
  | routed | detoured | addressed | retargeted | closed | summed | crcReset | crcVerified | compared
  | shrunk | queued => exact ordered.silent rfl rfl rfl rfl same
  | sent frame written =>
    exact ordered.noted _ id fun sent known => by cases known; rfl
  | updated | uploadStarted | imaged | imageAcknowledged | acknowledged | leafAcknowledged =>
    exact ordered.noted _ id fun sent known => by cases known
  | accepted =>
    by_cases reading : before.state = .sectorRead
    next =>
      refine ordered.restarted [.accepted before.state] rfl ?_ ?_ rfl (by simp)
      next => exact ⟨_, List.mem_singleton_self _, (restarts_accepted _).mpr reading⟩
      next => exact (congrArg FuotaState.milestone reading).trans rfl
    next =>
      exact ordered.noted _ (mt (restarts_accepted _).mp reading) fun sent known => by cases known
  | recorded | leafRecorded =>
    exact ordered.quiet [.recorded _ _] rfl rfl rfl (Or.inr rfl) (by simp [Restarts]) same (by simp)
  | uploaded ok state =>
    refine ordered.continued [.uploadEnded, .assigned .fwImageEndofPageTransfer]
      (by simp [Core.note, Core.assign]) rfl rfl ?_ same (by simp)
    intro count reached
    obtain rfl : 2 = count := by simpa [Core.assign, FuotaState.milestone] using reached
    exact (ends ok).quiet [.uploadEnded, .assigned .fwImageEndofPageTransfer]
      (by simp [Core.note, Core.assign]) rfl rfl (by simp [Restarts])
  | proceeded next follows =>
    exact ordered.continued [.accepted before.state, .assigned next] (by simp [Core.note, Core.assign]) rfl
      rfl (follows_passes ordered next follows) same (by simp)
  | assigned next leads => exact ordered.assigned next (leads_milestone _ _ _ leads)
  | skipped => exact ordered.assigned _ (Or.inl rfl)
  | unopened => exact ordered.assigned _ (Or.inl rfl)
  | jumped cause next ok jumps =>
    exact ordered.assigned next (Or.inl (jumps_milestone cause _ next _ jumps fun same => cut _ (same ▸ ok)))
  | took cause command rest =>
    exact ordered.restarted [.dequeued command, .assigned .openFile] (by simp [Core.note, Core.assign])
      ⟨.dequeued command, by simp, trivial⟩ rfl rfl (by simp)
  | completed command rest =>
    exact ordered.restarted [.dequeued command, .assigned .openFile] (by simp [Core.note, Core.assign])
      ⟨.dequeued command, by simp, trivial⟩ rfl rfl (by simp)
  | started command rest =>
    exact ordered.restarted [.dequeued command, .assigned .openFile] (by simp [Core.note, Core.assign])
      ⟨.dequeued command, by simp, trivial⟩ rfl rfl (by simp)
  | opened name content =>
    exact ordered.restarted [.opened (before.firmwareAt name), .assigned .gatewayPathSilence]
      (by simp [Core.note, Core.assign, Core.withFile])
      ⟨.opened (before.firmwareAt name), by simp, trivial⟩ rfl rfl (by simp)
  | reopened content state file =>
    exact ordered.restarted [.opened before.clientPath] rfl ⟨_, List.mem_singleton_self _, trivial⟩
      ((congrArg FuotaState.milestone state).trans rfl) rfl (by simp)
  | sectored sector state =>
    exact ordered.restarted [.accepted before.state] rfl
      ⟨_, List.mem_singleton_self _, (restarts_accepted _).mpr state⟩
      ((congrArg FuotaState.milestone state).trans rfl) rfl (by simp)
  | located log path state opened =>
    refine ordered.continued [.assigned .fwimageOfSectorCount] rfl rfl rfl ?_ same (by simp)
    intro count reached
    obtain rfl : 0 = count := by simpa [Core.assign, FuotaState.milestone] using reached
    have passes : before.Passes 0 := by
      rw [Core.Passes, opened]
      exact staged_opened _ ⟨path, rfl⟩ log
    exact passes.quiet [.assigned .fwimageOfSectorCount] rfl rfl rfl (by simp [Restarts])
  | resumed path content =>
    exact ordered.restarted [.opened path, .assigned .openFile]
      (by simp [Core.note, Core.assign, Core.withFile]) ⟨.opened path, by simp, trivial⟩ rfl rfl (by simp)

theorem moves_ordered (moves : ReflTransGen (Move permitted) before after) (ordered : before.Ordered)
    (cut : forall now, ¬ permitted .cut now) (ends : forall now, permitted .uploaded now -> now.Passes 2) :
    after.Ordered := by
  induction moves with
  | refl => exact ordered
  | tail _ move ih => exact move.ordered ih cut (ends _)

end Moves

section Steps

variable {fuota : Fuota} {data : Bytes}

/-- The upload behind an accepted erase reply begins with the first page of the same image. -/
theorem uploadStart_passes (uploads : Uploads fuota data) (passes : (core fuota).Passes 0) :
    (core (uploadStart fuota data)).Passes 1 /\ (uploadStart fuota data).upload.pageCount = 0 /\
      (uploadStart fuota data).inputs = fuota.inputs := by
  obtain ⟨inside, accepted⟩ := uploads
  let told : Fuota := (updateStatus 10 1 fuota).2
  have unmoved : Unmoved fuota told := updateStatus_unmoved 10 1 fuota
  have kept : Kept fuota told := kept_updateStatus 10 1 fuota
  let cleared : Fuota := { told with machine := { told.machine with
    cntx := { told.machine.cntx with retryCount := 0, alternateRetry := 0 }
    useAlternateFuotaRoute := false } }
  have ran : (replyEraseFlash data fuota).2 = (proceed .fwImageTransfer cleared).2 := by
    rw [replyEraseFlash, if_pos accepted]
    rfl
  have state : told.machine.ondemandFuotaState = .eraseFlash := unmoved.state.trans inside
  have passed : (core told).Passes 0 := by
    obtain ⟨events, logged, quiet⟩ := kept.logs
    exact passes.quiet events logged kept.size kept.sector quiet
  have met : (core told |>.note (.accepted .eraseFlash)).Passes 1 := passed.met rfl _ rfl id
  rw [uploadStart, ran]
  refine ⟨?_, rfl, unmoved.inputs⟩
  refine met.quiet [.assigned .fwImageTransfer, .uploadStarted told.radio.built] ?_ rfl rfl
    (by simp [Restarts])
  change told.log ++ [.accepted told.machine.ondemandFuotaState, .assigned .fwImageTransfer] ++
    [.uploadStarted told.radio.built] = told.log ++ [.accepted .eraseFlash] ++ _
  rw [state]
  simp

theorem uploaded_passes (ordered : (core fuota).Ordered) (uploads : Uploads fuota data)
    (thorough : Thorough (uploadStart fuota data)) (ended : Fuota)
    (ran : loop uploadTurn fuota.inputs.fuel () (uploadStart fuota data) = (some true, ended)) :
    (core ended).Passes 2 := by
  -- a thorough upload that ends has passed its milestone
  have passes := ordered.stage 0 (by
    have inside : (core fuota).state = .eraseFlash := uploads.1
    rw [inside]
    rfl)
  obtain ⟨passed, first, inputs⟩ := uploadStart_passes uploads passes
  rw [← inputs] at ran
  obtain ⟨held, frame, acknowledged, last⟩ := thorough_acknowledged _ ended thorough first ran
  obtain ⟨events, logged, quiet⟩ := held.logs
  rw [logged, List.drop_left] at acknowledged
  obtain ⟨earlier, later, rfl⟩ := List.append_of_mem acknowledged
  have before := Staged.quiet passed earlier fun event member => quiet event (by simp [member])
  have met := before.met (show AcknowledgesLast _ _ (.imageAcknowledged frame) from ⟨frame, rfl, last⟩)
    (show ¬ Restarts (.imageAcknowledged frame) from id)
  have behind := met.quiet later fun event member => quiet event (by simp [member])
  rw [Core.Passes, show (core ended).log = _ from logged, show (core ended).size = _ from held.size,
    show (core ended).sector = _ from held.sector]
  simpa [milestones, core] using behind

/-- No reply is handled in the middle of an upload, and every upload is thorough. -/
def Careful (fuota : Fuota) : Action -> Prop
  | .reply data =>
    fuota.machine.ondemandFuotaState ≠ .fwImageTransfer /\
      fuota.machine.ondemandFuotaState ≠ .lastUpdateFwimageOfSectorcount /\
      (Uploads fuota data -> Thorough (uploadStart fuota data))
  | _ => True

theorem step_ordered (fuota : Fuota) (action : Action) (next : Fuota) (ordered : (core fuota).Ordered)
    (careful : Careful fuota action) (stepped : step fuota action = some next) : (core next).Ordered := by
  obtain rfl : (perform action fuota).2 = next := Option.some.inj stepped
  have cut (now : Core) : ¬ Causes fuota action .cut now := by
    intro cause
    cases action with
    | reply data => exact cause.elim careful.1 careful.2.1
    | _ => simp [Causes] at cause
  have ends (now : Core) (cause : Causes fuota action .uploaded now) : now.Passes 2 := by
    cases action with
    | reply data =>
      obtain ⟨uploads, ended, rfl, ran⟩ := cause
      exact uploaded_passes ordered uploads (careful.2.2 uploads) ended ran
    | _ => simp [Causes] at cause
  exact moves_ordered (perform_moves fuota action) ordered cut ends

end Steps

section Runs

/-- The machine before its first request. -/
def begun (fuota : Fuota) : Fuota := { fuota with
  machine := { fuota.machine with ondemandFuotaState := .unset }
  radio := { fuota.radio with built := {} }
  log := [] }

/-- In every run whose uploads are all thorough, only verified images are activated. -/
theorem activates_verified (fuota last : Fuota) (actions : List Action)
    (careful : AllAllowed step Careful (begun fuota) actions)
    (finished : run step (begun fuota) actions = some last) : ActivatesVerified last := by
  have initial : (core (begun fuota)).Ordered := by
    constructor
    next => simp [begun, core, FuotaState.milestone]
    next => exact fun activates => by cases activates
    next => simp [begun, core]
  exact (run_guarded_invariant step Careful (fun fuota => (core fuota).Ordered) step_ordered
    (begun fuota) last actions initial careful finished).sent

instance (start : Fuota) : Decidable (Thorough start) :=
  inferInstanceAs (Decidable (_ /\ _ ≤ _ /\ _))

instance (fuota : Fuota) (data : Bytes) : Decidable (Uploads fuota data) :=
  inferInstanceAs (Decidable (_ /\ _))

instance (fuota : Fuota) (action : Action) : Decidable (Careful fuota action) := by
  cases action <;> unfold Careful <;> infer_instance

def activates : Event -> Bool
  | .sent sent => sent.built.command = activateRead
  | _ => false

/-- A request for a file of one sector, with the replies to its three subpages. -/
def sectorRequest : Fuota where
  inputs := {
    files := fun _ => some (List.replicate 256 0x5A)
    arrival := fun subpage => .data (imageReply
      [0x2E, 0x15, 0x09, 0, 0, 0, 1, 0, 0, 0, 1, 0, 0, 0, 0, 0, 1] 0 (UInt8.ofNat subpage) (subpage = 2))
    fuel := 8 }
  client := {
    gatewayId := ascii "3CC1F60100000001"
    rfMeterFuota := [ascii "7:3CC1F60100000001:0:3CC1F60100000002:27:fw:image.bin"] }

/-- The replies up to the acknowledgement of the checksum, for sectors of 256 times the byte given. -/
def verifiedUp (sectors : UInt8) : List Action :=
  let sequenceReply : Bytes := [0x2E, 0x10, 0x04, 0x9B, 0x00]
  [.queue, .reply sequenceReply, .reply sequenceReply, .reply sequenceReply, .reply sequenceReply,
    .reply [0x2E, 0, 0x0A, 0, 0, sectors, 0, 0], .reply [0x2E, 0, 0x0A, 0, 0, 0, 0, 0],
    .reply [0x2E, 0, 0x0A, 0, 0, 0, 0, 0], .reply [0x2E, 0, 0x0A, 0, 0, 1, 0, 0],
    .reply [0x2E, 0, 0x0A, 0, 0x0B, 0, 0, 0, 0, 0]]

theorem activates_verified_sector : exists last, run step (begun sectorRequest) (verifiedUp 1) = some last /\
    last.log.any activates /\ ActivatesVerified last := by
  have activated : (run step (begun sectorRequest) (verifiedUp 1)).map
      (fun last => last.log.any activates) = some true := by decide +kernel
  obtain ⟨last, finished, known⟩ := Option.map_eq_some_iff.mp activated
  exact ⟨last, finished, known, activates_verified sectorRequest last (verifiedUp 1)
    (by decide +kernel) finished⟩

/-- A file of one byte has no page at all, and is activated without any upload. -/
theorem unsent_image_activated : exists last, run step (begun oneRequest) (verifiedUp 16) = some last /\
    ¬ ActivatesVerified last := by
  have activated : (run step (begun oneRequest) (verifiedUp 16)).map (fun last =>
      last.log.any activates && acknowledgedFrames last.log = []) = some true := by decide +kernel
  obtain ⟨last, finished, known⟩ := Option.map_eq_some_iff.mp activated
  obtain ⟨sends, nothing⟩ : last.log.any activates = true /\ acknowledgedFrames last.log = [] := by
    simpa using known
  obtain ⟨event, inside, activating⟩ := List.any_eq_true.mp sends
  refine ⟨last, finished, fun verified => ?_⟩
  cases event <;> simp only [activates, decide_eq_true_eq, Bool.false_eq_true] at activating
  next sent =>
    obtain ⟨_, size, sector, passed, _⟩ := verified sent inside activating
    obtain ⟨event, within, frame, rfl, _⟩ := passed.occurs (AcknowledgesLast size sector) (by simp [milestones])
    have acknowledged : frame ∈ acknowledgedFrames last.log :=
      List.mem_filterMap.mpr ⟨_, List.mem_of_mem_take within, rfl⟩
    simp [nothing] at acknowledged

end Runs

end Hes.Fuota
