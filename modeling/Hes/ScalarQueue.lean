import Hes.CycleRuns
import Hes.Lib.Transition
import Hes.NodeQueues

set_option autoImplicit false

namespace Hes.ScalarQueue

open CommandFrames CycleActivity Mqtt NodeQueues Prog Text Transition

/-- A row of `meter_details`; a cell is absent when the column is NULL. -/
structure MeterRow where
  manufactureName : Option Bytes
  macAddress : Option Bytes
  phase : Option Bytes
  firmwareVersion : Option Bytes
  deriving DecidableEq, Repr

/-- What the queries about a meter bring back, each with the first cell of its rows. -/
structure MeterAnswers where
  disconnected : Answer (List (Option Bytes))
  gatewayStatus : Answer (List (Option Bytes)) := .noResult
  attributes : Answer (List (Option Bytes))
  deriving DecidableEq, Repr

structure Meter where
  manufactureName : Bytes
  fwVersion : Bytes
  macAddress : Bytes
  phase : UInt8
  deriving DecidableEq, Repr

/-- An entry of `meterDetailsQueue`, with the texts in buffers of fixed sizes. -/
structure MeterEntry extends Meter where
  pathRecord : Bytes
  hopCount : UInt8
  profileId : UInt8
  deriving DecidableEq, Repr

/-- A text that is copied into a zeroed buffer. -/
def buffered (size : Nat) (text : Bytes) : Bytes :=
  text.take size ++ List.replicate (size - text.length) 0

/-- The text in a buffer ends in front of its first zero. -/
def cText (buffer : Bytes) : Bytes := buffer.takeWhile (· ≠ 0)

/-- Manufacturer and firmware version: what `strncmp` compares of two meters. -/
def Meter.kind (meter : Meter) : Bytes × Bytes := (cText meter.manufactureName, cText meter.fwVersion)

def MeterRow.meter (row : MeterRow) : Option Meter :=
  match row.manufactureName, row.macAddress, row.phase, row.firmwareVersion with
  | some name, some mac, some phase, some version => some {
      manufactureName := buffered 64 name, fwVersion := buffered 64 version
      macAddress := buffered 16 mac, phase := toUInt8 (atoi phase) }
  | _, _, _, _ => none

/-- The digits behind an optional `0x`, as `sscanf` reads them into 32 bits. -/
def scanHex (text : Bytes) : Nat :=
  let (negative, digits) := match text.dropWhile isSpace with
    | 0x2D :: rest => (true, rest)
    | 0x2B :: rest => (false, rest)
    | rest => (false, rest)
  let value := (leadingNumber 16 (match digits with
    | 0x30 :: 0x78 :: rest => rest
    | 0x30 :: 0x58 :: rest => rest
    | rest => rest)).getD 0
  if value ≥ 2 ^ 64 then 2 ^ 32 - 1
  else (if negative then 2 ^ 64 - value else value) % 2 ^ 32

def tells (number : Int) : Option Bytes -> Bool
  | some text => atoi text = number
  | none => false

inductive Reach where
  | failed
  | skipped
  | reached
  deriving DecidableEq, Repr

/-- The gateway is asked about only where the meter has no route. A missing result has no row. -/
def MeterAnswers.reach (answers : MeterAnswers) : Reach :=
  match answers.disconnected with
  | .failed | .noResult => .failed
  | .rows (cell :: _) => if tells 1 cell then .skipped else .reached
  | .rows [] =>
    match answers.gatewayStatus with
    | .failed => .skipped
    | .rows (cell :: _) => if tells 0 cell then .skipped else .reached
    | .rows [] | .noResult => .reached

def scalarProfiles : List UInt8 := [1, 2, 3, 4]

/-- The attribute of a scalar profile has its number in front of two zeros. -/
def missingProfiles (cells : List (Option Bytes)) : List UInt8 :=
  scalarProfiles.filter fun profile =>
    profile.toNat * 256 ∉ cells.filterMap fun cell => cell.map scanHex

structure Checked where
  queue : List MeterEntry
  returned : Int := 0
  deriving DecidableEq, Repr

section Check

variable (behind : Bytes -> Nat -> UInt8) (paths : List NodeRecord) (gatewayId : Bytes)

/-- The second half of the gateway's address; the copy goes on behind it. -/
def gatewayPath : Bytes :=
  memcpy behind (((List.range 8).map fun i =>
    gatewayId.getD (8 + i) (behind gatewayId (8 + i))) ++ [0]) 64

inductive Way where
  | known (pathRecord : Bytes) (hopCount : UInt8)
  /-- The path is longer than the buffer that it is copied into. -/
  | overrun
  | unknown
  deriving DecidableEq, Repr

def srcRoute (mac : Bytes) : Way :=
  match paths.find? fun record => record.macAddress.take 16 = mac with
  | some record =>
    if record.pathRecord.length ≤ 64 then .known (buffered 64 record.pathRecord) record.hopCount
    else .overrun
  | none => if memcpy behind gatewayId 16 = mac then .known (gatewayPath behind gatewayId) 0 else .unknown

/-- A meter that is queued already has its path taken from there. -/
def wayTo (queue : List MeterEntry) (mac : Bytes) : Way :=
  match queue.find? fun entry => entry.macAddress = mac with
  | some entry => .known entry.pathRecord entry.hopCount
  | none => srcRoute behind paths gatewayId mac

def dropOldest (queue : List MeterEntry) : List MeterEntry :=
  if queue.length ≥ maxQueued then queue.tail else queue

/-- The oldest entry is dropped also where nothing is added; none is a write behind the buffer. -/
def enqueueInfo (meter : Meter) (queue : List MeterEntry) (profile : UInt8) :
    Option (Bool × List MeterEntry) :=
  let queue := dropOldest queue
  match wayTo behind paths gatewayId queue meter.macAddress with
  | .known path hops => some (true, queue ++
      [{ toMeter := meter, pathRecord := path, hopCount := hops, profileId := profile }])
  | .unknown => some (false, queue)
  | .overrun => none

def enqueueMissing (meter : Meter) : List UInt8 -> Checked -> Option Checked
  | [], checked => some checked
  | profile :: rest, checked =>
    (enqueueInfo behind paths gatewayId meter checked.queue profile).bind fun added =>
      enqueueMissing meter rest { queue := added.2, returned := 1 }

def checkMeters : List (MeterRow × MeterAnswers) -> Checked -> Option Checked
  | [], checked => some checked
  | (row, answers) :: rest, checked =>
    match row.meter with
    | none => checkMeters rest checked
    | some meter =>
      match answers.reach with
      | .failed => some { checked with returned := -1 }
      | .skipped => checkMeters rest checked
      | .reached =>
        if checked.queue.any fun entry => entry.kind = meter.kind then checkMeters rest checked
        else
          match answers.attributes with
          | .rows cells =>
            (enqueueMissing behind paths gatewayId meter (missingProfiles cells) checked).bind
              (checkMeters rest)
          | .failed | .noResult => checkMeters rest checked

def checkForScalarProfile (meters : Answer (List (MeterRow × MeterAnswers))) (queue : List MeterEntry) :
    Option Checked :=
  match meters with
  | .rows rows => checkMeters behind paths gatewayId rows { queue := queue }
  | .failed | .noResult => some { queue := queue, returned := -1 }

/-- What holds of the queue in every run: it is bounded, each profile of a type of meter is in it
once, and for one meter of the type, over the path of that meter. -/
structure Sound (queue : List MeterEntry) : Prop where
  bounded : queue.length ≤ maxQueued
  once : queue.Pairwise fun first second => first.kind = second.kind -> first.profileId ≠ second.profileId
  oneMeter : ∀ first ∈ queue, ∀ second ∈ queue, first.kind = second.kind ->
    first.toMeter = second.toMeter
  routed : ∀ entry ∈ queue,
    srcRoute behind paths gatewayId entry.macAddress = .known entry.pathRecord entry.hopCount
  profile : ∀ entry ∈ queue, entry.profileId ∈ scalarProfiles

variable {behind paths gatewayId} {queue : List MeterEntry}

theorem sound_nil : Sound behind paths gatewayId [] :=
  ⟨Nat.zero_le _, List.Pairwise.nil, by simp, by simp, by simp⟩

theorem Sound.sublist (sound : Sound behind paths gatewayId queue) {fewer : List MeterEntry}
    (inside : fewer.Sublist queue) : Sound behind paths gatewayId fewer where
  bounded := inside.length_le.trans sound.bounded
  once := sound.once.sublist inside
  oneMeter first known second known' := sound.oneMeter first (inside.subset known) second (inside.subset known')
  routed entry known := sound.routed entry (inside.subset known)
  profile entry known := sound.profile entry (inside.subset known)

theorem dropOldest_sublist (queue : List MeterEntry) : (dropOldest queue).Sublist queue := by
  unfold dropOldest
  split
  next => exact List.tail_sublist queue
  next => exact List.Sublist.refl queue

theorem dropOldest_room (bounded : queue.length ≤ maxQueued) : (dropOldest queue).length < maxQueued := by
  unfold dropOldest
  split
  next full => simp only [List.length_tail, maxQueued] at *; omega
  next => omega

/-- A path that was taken from an entry is the path of its meter. -/
theorem Sound.wayTo (sound : Sound behind paths gatewayId queue) (mac : Bytes) :
    wayTo behind paths gatewayId queue mac = srcRoute behind paths gatewayId mac := by
  unfold ScalarQueue.wayTo
  split
  next entry found =>
    have same : entry.macAddress = mac := by simpa using List.find?_some found
    rw [← same, sound.routed entry (List.mem_of_find?_eq_some found)]
  next => rfl

/-- What may still be queued of a meter: nothing of its type is, but other profiles of its own. -/
def Fresh (meter : Meter) (profiles : List UInt8) (queue : List MeterEntry) : Prop :=
  ∀ entry ∈ queue, entry.kind = meter.kind -> entry.toMeter = meter /\ entry.profileId ∉ profiles

theorem Sound.enqueue (sound : Sound behind paths gatewayId queue) (meter : Meter) (path : Bytes)
    (hops profile : UInt8) (known : profile ∈ scalarProfiles) (fresh : Fresh meter [profile] queue)
    (way : srcRoute behind paths gatewayId meter.macAddress = .known path hops)
    (room : queue.length < maxQueued) :
    Sound behind paths gatewayId (queue ++
      [{ toMeter := meter, pathRecord := path, hopCount := hops, profileId := profile }]) where
  bounded := by rw [List.length_append, List.length_singleton]; omega
  once := by
    apply List.pairwise_append.mpr ⟨sound.once, List.pairwise_singleton _ _, ?_⟩
    intro first inside second added same
    rw [List.mem_singleton.mp added] at same ⊢
    -- what is queued of the type has other profiles
    simpa using (fresh first inside same).2
  oneMeter first inside second inside' same := by
    simp only [List.mem_append, List.mem_singleton] at inside inside'
    rcases inside with inside | rfl
    next =>
      rcases inside' with inside' | rfl
      next => exact sound.oneMeter first inside second inside' same
      next => exact (fresh first inside same).1
    next =>
      rcases inside' with inside' | rfl
      next => exact (fresh second inside' same.symm).1.symm
      next => rfl
  routed entry inside := by
    rcases List.mem_append.mp inside with inside | added
    next => exact sound.routed entry inside
    next => rw [List.mem_singleton.mp added]; exact way
  profile entry inside := by
    rcases List.mem_append.mp inside with inside | added
    next => exact sound.profile entry inside
    next => rw [List.mem_singleton.mp added]; exact known

theorem enqueueInfo_known (sound : Sound behind paths gatewayId queue) (meter : Meter) (profile : UInt8)
    (path : Bytes) (hops : UInt8)
    (way : srcRoute behind paths gatewayId meter.macAddress = .known path hops) :
    enqueueInfo behind paths gatewayId meter queue profile = some (true, dropOldest queue ++
      [{ toMeter := meter, pathRecord := path, hopCount := hops, profileId := profile }]) := by
  simp only [enqueueInfo, (sound.sublist (dropOldest_sublist queue)).wayTo, way]

theorem enqueueInfo_unknown (sound : Sound behind paths gatewayId queue) (meter : Meter)
    (profile : UInt8) (way : srcRoute behind paths gatewayId meter.macAddress = .unknown) :
    enqueueInfo behind paths gatewayId meter queue profile = some (false, dropOldest queue) := by
  simp only [enqueueInfo, (sound.sublist (dropOldest_sublist queue)).wayTo, way]

theorem srcRoute_overrun {mac : Bytes} (way : srcRoute behind paths gatewayId mac = .overrun) :
    ∃ record ∈ paths, 64 < record.pathRecord.length := by
  unfold srcRoute at way
  split at way
  next record found =>
    split at way
    next => cases way
    next long => exact ⟨record, List.mem_of_find?_eq_some found, by omega⟩
  next => split at way <;> cases way

/-- Outcomes of a check: a sound queue, or a path that does not fit. -/
def Ends (behind : Bytes -> Nat -> UInt8) (paths : List NodeRecord) (gatewayId : Bytes)
    (outcome : Option Checked) : Prop :=
  (exists checked, outcome = some checked /\ Sound behind paths gatewayId checked.queue) \/
    (outcome = none /\ ∃ record ∈ paths, 64 < record.pathRecord.length)

theorem Fresh.dropped {meter : Meter} {profile : UInt8} {rest : List UInt8}
    (fresh : Fresh meter (profile :: rest) queue) : Fresh meter rest (dropOldest queue) := by
  intro entry inside same
  obtain ⟨one, other⟩ := fresh entry ((dropOldest_sublist queue).subset inside) same
  exact ⟨one, fun equal => other (List.mem_cons_of_mem profile equal)⟩

theorem Fresh.added {meter : Meter} {profile : UInt8} {rest : List UInt8} (path : Bytes) (hops : UInt8)
    (fresh : Fresh meter (profile :: rest) queue) (new : profile ∉ rest) :
    Fresh meter rest (dropOldest queue ++
      [{ toMeter := meter, pathRecord := path, hopCount := hops, profileId := profile }]) := by
  intro entry inside same
  rcases List.mem_append.mp inside with inside | added
  next => exact fresh.dropped entry inside same
  next =>
    rw [List.mem_singleton.mp added]
    exact ⟨rfl, new⟩

theorem Sound.added (sound : Sound behind paths gatewayId queue) {meter : Meter} {profile : UInt8}
    {rest : List UInt8} {path : Bytes} {hops : UInt8} (fresh : Fresh meter (profile :: rest) queue)
    (known : profile ∈ scalarProfiles)
    (way : srcRoute behind paths gatewayId meter.macAddress = .known path hops) :
    Sound behind paths gatewayId (dropOldest queue ++
      [{ toMeter := meter, pathRecord := path, hopCount := hops, profileId := profile }]) := by
  apply (sound.sublist (dropOldest_sublist queue)).enqueue meter path hops profile known _ way
    (dropOldest_room sound.bounded)
  intro entry inside same
  obtain ⟨one, other⟩ := fresh entry ((dropOldest_sublist queue).subset inside) same
  refine ⟨one, fun equal => other ?_⟩
  rw [List.mem_singleton.mp equal]
  exact List.mem_cons_self ..

theorem enqueueMissing_ends (meter : Meter) (profiles : List UInt8) (checked : Checked)
    (sound : Sound behind paths gatewayId checked.queue) (fresh : Fresh meter profiles checked.queue)
    (distinct : profiles.Nodup) (known : ∀ profile ∈ profiles, profile ∈ scalarProfiles) :
    Ends behind paths gatewayId (enqueueMissing behind paths gatewayId meter profiles checked) := by
  -- the queue behind each profile leaves room for the rest of them
  induction profiles generalizing checked with
  | nil => exact Or.inl ⟨checked, rfl, sound⟩
  | cons profile rest ih =>
    obtain ⟨new, distinct⟩ := List.nodup_cons.mp distinct
    have later := fun other inside => known other (List.mem_cons_of_mem profile inside)
    rw [enqueueMissing]
    -- the path of the meter is the same for each of its profiles
    cases way : srcRoute behind paths gatewayId meter.macAddress with
    | known path hops =>
      rw [enqueueInfo_known sound meter profile path hops way, Option.bind_some]
      exact ih _ (sound.added fresh (known profile (List.mem_cons_self ..)) way)
        (fresh.added path hops new) distinct later
    | unknown =>
      rw [enqueueInfo_unknown sound meter profile way, Option.bind_some]
      exact ih _ (sound.sublist (dropOldest_sublist checked.queue)) fresh.dropped distinct later
    | overrun =>
      have overran : enqueueInfo behind paths gatewayId meter checked.queue profile = none := by
        simp only [enqueueInfo, (sound.sublist (dropOldest_sublist checked.queue)).wayTo, way]
      rw [overran]
      exact Or.inr ⟨rfl, srcRoute_overrun way⟩

theorem missingProfiles_known (cells : List (Option Bytes)) :
    (missingProfiles cells).Nodup /\ ∀ profile ∈ missingProfiles cells, profile ∈ scalarProfiles :=
  ⟨List.Nodup.filter _ (by decide), fun _ missing => (List.mem_filter.mp missing).1⟩

theorem fresh_unqueued {meter : Meter} (profiles : List UInt8)
    (unqueued : ¬ (queue.any fun entry => entry.kind = meter.kind) = true) : Fresh meter profiles queue := by
  intro entry inside same
  exact absurd (List.any_eq_true.mpr ⟨entry, inside, by simpa using same⟩) unqueued

theorem checkMeters_ends (rows : List (MeterRow × MeterAnswers)) (checked : Checked)
    (sound : Sound behind paths gatewayId checked.queue) :
    Ends behind paths gatewayId (checkMeters behind paths gatewayId rows checked) := by
  induction rows generalizing checked with
  | nil => exact Or.inl ⟨checked, rfl, sound⟩
  | cons row rest ih =>
    obtain ⟨row, answers⟩ := row
    rw [checkMeters]
    split
    next => exact ih checked sound
    next meter _ =>
      split
      next => exact Or.inl ⟨_, rfl, sound⟩
      next => exact ih checked sound
      next =>
        split
        next => exact ih checked sound
        next unqueued =>
          split
          next cells _ =>
            obtain ⟨distinct, known⟩ := missingProfiles_known cells
            rcases enqueueMissing_ends meter (missingProfiles cells) checked sound
              (fresh_unqueued _ unqueued) distinct known with ⟨added, ran, kept⟩ | ⟨overran, long⟩
            next =>
              rw [ran, Option.bind_some]
              exact ih added kept
            next =>
              rw [overran]
              exact Or.inr ⟨rfl, long⟩
          next => exact ih checked sound
          next => exact ih checked sound

theorem checkForScalarProfile_ends (meters : Answer (List (MeterRow × MeterAnswers)))
    (sound : Sound behind paths gatewayId queue) :
    Ends behind paths gatewayId (checkForScalarProfile behind paths gatewayId meters queue) := by
  cases meters with
  | rows rows => exact checkMeters_ends rows _ sound
  | failed => exact Or.inl ⟨_, rfl, sound⟩
  | noResult => exact Or.inl ⟨_, rfl, sound⟩

end Check

/-- What the pull reads of an entry. -/
def MeterEntry.details (entry : MeterEntry) : MeterDetails where
  pathRecord := entry.pathRecord
  hopCount := entry.hopCount
  profileId := entry.profileId

/-- The queue behind a pull of the scalar profiles, which some replies break off. -/
def pulled (fuel : Nat) (activity : Activity) (queue : List MeterEntry) : List MeterEntry :=
  let left := (pullScalarProfile fuel
    { activity with meterDetailsQueue := queue.map MeterEntry.details }).2.meterDetailsQueue
  queue.drop (queue.length - left.length)

theorem pullScalarProfile_pops (fuel : Nat) : Respects
    (fun before after : Activity => after.meterDetailsQueue <:+ before.meterDetailsQueue)
    (pullScalarProfile fuel) := by
  have frame : ScalarFrame fun before after : Activity =>
      after.meterDetailsQueue <:+ before.meterDetailsQueue :=
    { refl := fun activity => List.suffix_refl _
      trans := fun _ _ _ earlier later => later.trans earlier
      client := fun _ _ _ => List.suffix_refl _
      scalar := fun _ _ => List.suffix_refl _
      pop := fun activity => List.tail_suffix activity.meterDetailsQueue }
  exact frame.pulls fuel

theorem pulled_details (fuel : Nat) (activity : Activity) (queue : List MeterEntry) :
    (pulled fuel activity queue).map MeterEntry.details = (pullScalarProfile fuel
      { activity with meterDetailsQueue := queue.map MeterEntry.details }).2.meterDetailsQueue := by
  have left := pullScalarProfile_pops fuel
    { activity with meterDetailsQueue := queue.map MeterEntry.details }
  rw [pulled, List.map_drop]
  simpa using (List.suffix_iff_eq_drop.mp left).symm

/-- The queue is filled by checks, and emptied by pulls of any clients. -/
inductive ScalarStep where
  | check (meters : Answer (List (MeterRow × MeterAnswers)))
  | pull (fuel : Nat) (activity : Activity)

section Runs

variable (behind : Bytes -> Nat -> UInt8) (paths : List NodeRecord) (gatewayId : Bytes)

def scalarStep : Step (List MeterEntry) ScalarStep
  | queue, .check meters => (checkForScalarProfile behind paths gatewayId meters queue).map Checked.queue
  | queue, .pull fuel activity => some (pulled fuel activity queue)

theorem run_sound (steps : List ScalarStep) (queue : List MeterEntry)
    (sound : Sound behind paths gatewayId queue) :
    (exists last, run (scalarStep behind paths gatewayId) queue steps = some last /\
        Sound behind paths gatewayId last) \/
      (run (scalarStep behind paths gatewayId) queue steps = none /\
        ∃ record ∈ paths, 64 < record.pathRecord.length) := by
  induction steps generalizing queue with
  | nil => exact Or.inl ⟨queue, rfl, sound⟩
  | cons step rest ih =>
    cases step with
    | check meters =>
      rcases checkForScalarProfile_ends meters sound with ⟨checked, ran, kept⟩ | ⟨overran, long⟩
      next => simpa [run, scalarStep, ran] using ih checked.queue kept
      next => exact Or.inr ⟨by simp [run, scalarStep, overran], long⟩
    | pull fuel activity =>
      simpa [run, scalarStep] using ih (pulled fuel activity queue) (sound.sublist (List.drop_sublist _ _))

/-- In every run of checks and pulls the queue is sound, unless the path of some route is written
behind its buffer. -/
theorem scalar_queue_sound (steps : List ScalarStep) :
    (exists queue, run (scalarStep behind paths gatewayId) [] steps = some queue /\
        Sound behind paths gatewayId queue) \/
      (run (scalarStep behind paths gatewayId) [] steps = none /\
        ∃ record ∈ paths, 64 < record.pathRecord.length) :=
  run_sound behind paths gatewayId steps [] sound_nil

end Runs

end Hes.ScalarQueue
