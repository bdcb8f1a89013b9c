import Mathlib.Data.Finset.Basic
import Mathlib.Data.Finset.Card
import Hes.ScalarQueue

set_option autoImplicit false

namespace Hes.ScalarQueue

open CommandFrames NodeQueues

/-- The meters that a check gets to, each with the profiles that it lacks. -/
def candidates : List (MeterRow × MeterAnswers) -> List (Meter × List UInt8)
  | [] => []
  | (row, answers) :: rest =>
    match row.meter with
    | none => candidates rest
    | some meter =>
      match answers.reach with
      | .failed => []
      | .skipped => candidates rest
      | .reached =>
        match answers.attributes with
        | .rows cells => (meter, missingProfiles cells) :: candidates rest
        | .failed | .noResult => candidates rest

/-- The check is given up at a meter that cannot be looked up. -/
def givenUp (rows : List (MeterRow × MeterAnswers)) : Bool :=
  rows.any fun row => row.1.meter.isSome && row.2.reach = .failed

def kinds (queue : List MeterEntry) : Finset (Bytes × Bytes) :=
  (queue.map fun entry => entry.kind).toFinset

/-- The types of meters that the check can add to the queue. -/
def newKinds (rows : List (MeterRow × MeterAnswers)) (queue : List MeterEntry) :
    Finset (Bytes × Bytes) :=
  ((candidates rows).map fun candidate => candidate.1.kind).toFinset \ kinds queue

section Exact

variable (behind : Bytes -> Nat -> UInt8) (paths : List NodeRecord) (gatewayId : Bytes)

/-- The entries of a meter with a known path. -/
def entriesOf (candidate : Meter × List UInt8) : List MeterEntry :=
  match srcRoute behind paths gatewayId candidate.1.macAddress with
  | .known path hops => candidate.2.map fun profile =>
      { toMeter := candidate.1, pathRecord := path, hopCount := hops, profileId := profile }
  | .overrun | .unknown => []

/-- The entries of a type: those of its first meter that lacks a profile and has a known path. -/
def wanted (rows : List (MeterRow × MeterAnswers)) (kind : Bytes × Bytes) : List MeterEntry :=
  (((candidates rows).filter fun candidate => candidate.1.kind = kind).map
    (entriesOf behind paths gatewayId)).find? (fun entries => entries ≠ []) |>.getD []

/-- A meter lacks a profile, and none of its type is queued. -/
def lacking (rows : List (MeterRow × MeterAnswers)) (queue : List MeterEntry) : Bool :=
  (candidates rows).any fun candidate => candidate.2 ≠ [] && candidate.1.kind ∉ kinds queue

/-- A check that adds what is wanted of each type which is not queued yet. -/
structure Exactly (rows : List (MeterRow × MeterAnswers)) (before after : Checked) : Prop where
  added : exists entries, after.queue = before.queue ++ entries /\
    forall kind, entries.filter (fun entry => entry.kind = kind) =
      if kind ∈ kinds before.queue then [] else wanted behind paths gatewayId rows kind
  returned : after.returned = if givenUp rows then -1
    else if lacking rows before.queue then 1 else before.returned

variable {behind paths gatewayId}

theorem entriesOf_kind (candidate : Meter × List UInt8) (entry : MeterEntry)
    (inside : entry ∈ entriesOf behind paths gatewayId candidate) : entry.kind = candidate.1.kind := by
  unfold entriesOf at inside
  split at inside
  next =>
    obtain ⟨profile, _, rfl⟩ := List.mem_map.mp inside
    rfl
  next => simp at inside
  next => simp at inside

theorem entriesOf_length (candidate : Meter × List UInt8) :
    (entriesOf behind paths gatewayId candidate).length ≤ candidate.2.length := by
  unfold entriesOf
  split <;> simp

theorem entriesOf_filter (candidate : Meter × List UInt8) (kind : Bytes × Bytes) :
    (entriesOf behind paths gatewayId candidate).filter (fun entry => entry.kind = kind) =
      if candidate.1.kind = kind then entriesOf behind paths gatewayId candidate else [] := by
  split
  next same =>
    rw [List.filter_eq_self]
    intro entry inside
    simp [entriesOf_kind candidate entry inside, same]
  next other =>
    rw [List.filter_eq_nil_iff]
    intro entry inside
    simp [entriesOf_kind candidate entry inside, other]

theorem mem_kinds_append (queue : List MeterEntry) (candidate : Meter × List UInt8)
    (kind : Bytes × Bytes) :
    kind ∈ kinds (queue ++ entriesOf behind paths gatewayId candidate) <->
      kind ∈ kinds queue \/ candidate.1.kind = kind /\ entriesOf behind paths gatewayId candidate ≠ [] := by
  have own : kind ∈ (entriesOf behind paths gatewayId candidate).map (fun entry => entry.kind) <->
      candidate.1.kind = kind /\ entriesOf behind paths gatewayId candidate ≠ [] := by
    constructor
    next =>
      intro inside
      obtain ⟨entry, known, rfl⟩ := List.mem_map.mp inside
      exact ⟨(entriesOf_kind candidate entry known).symm, List.ne_nil_of_mem known⟩
    next =>
      rintro ⟨rfl, some_⟩
      obtain ⟨entry, known⟩ := List.exists_mem_of_ne_nil _ some_
      exact List.mem_map.mpr ⟨entry, known, entriesOf_kind candidate entry known⟩
  simp only [kinds, List.map_append, List.mem_toFinset, List.mem_append, own]

theorem wanted_cons {rows rest : List (MeterRow × MeterAnswers)} {candidate : Meter × List UInt8}
    (gets : candidates rows = candidate :: candidates rest) (kind : Bytes × Bytes) :
    wanted behind paths gatewayId rows kind =
      if candidate.1.kind = kind /\ entriesOf behind paths gatewayId candidate ≠ [] then
        entriesOf behind paths gatewayId candidate
      else wanted behind paths gatewayId rest kind := by
  rw [wanted, gets]
  by_cases same : candidate.1.kind = kind
  next =>
    by_cases nothing : entriesOf behind paths gatewayId candidate = []
    next => simp [wanted, same, nothing]
    next => simp [same, nothing]
  next => simp [wanted, same]

theorem lacking_cons {rows rest : List (MeterRow × MeterAnswers)} {candidate : Meter × List UInt8}
    (gets : candidates rows = candidate :: candidates rest) (queue : List MeterEntry) :
    lacking rows queue =
      ((candidate.2 ≠ [] && candidate.1.kind ∉ kinds queue) || lacking rest queue) := by
  rw [lacking, gets, List.any_cons]
  rfl

/-- A row that brings no candidate changes nothing. -/
theorem Exactly.passed {rows rest : List (MeterRow × MeterAnswers)} {before after : Checked}
    (exactly : Exactly behind paths gatewayId rest before after)
    (gets : candidates rows = candidates rest) (gives : givenUp rows = givenUp rest) :
    Exactly behind paths gatewayId rows before after where
  added := by simpa only [wanted, gets] using exactly.added
  returned := by
    have same : lacking rows before.queue = lacking rest before.queue := by rw [lacking, gets]; rfl
    rw [same, gives]
    exact exactly.returned

/-- The type of the first candidate is queued already. -/
theorem Exactly.queued {rows rest : List (MeterRow × MeterAnswers)} {before after : Checked}
    {candidate : Meter × List UInt8} (exactly : Exactly behind paths gatewayId rest before after)
    (gets : candidates rows = candidate :: candidates rest) (gives : givenUp rows = givenUp rest)
    (known : candidate.1.kind ∈ kinds before.queue) : Exactly behind paths gatewayId rows before after where
  added := by
    obtain ⟨entries, appended, filtered⟩ := exactly.added
    refine ⟨entries, appended, fun kind => ?_⟩
    rw [filtered kind]
    split
    next => rfl
    next unknown =>
      have other : candidate.1.kind ≠ kind := fun same => unknown (same ▸ known)
      rw [wanted_cons gets, if_neg fun own => other own.1]
  returned := by
    have same : lacking rows before.queue = lacking rest before.queue := by
      simp [lacking_cons gets, known]
    rw [same, gives]
    exact exactly.returned

/-- The first candidate is served in front of the rest. -/
theorem Exactly.served {rows rest : List (MeterRow × MeterAnswers)} {before middle after : Checked}
    {candidate : Meter × List UInt8} (exactly : Exactly behind paths gatewayId rest middle after)
    (gets : candidates rows = candidate :: candidates rest) (gives : givenUp rows = givenUp rest)
    (unknown : candidate.1.kind ∉ kinds before.queue)
    (queue : middle.queue = before.queue ++ entriesOf behind paths gatewayId candidate)
    (returned : middle.returned = if candidate.2 = [] then before.returned else 1) :
    Exactly behind paths gatewayId rows before after where
  added := by
    obtain ⟨entries, appended, filtered⟩ := exactly.added
    refine ⟨entriesOf behind paths gatewayId candidate ++ entries, by rw [appended, queue, List.append_assoc],
      fun kind => ?_⟩
    rw [List.filter_append, entriesOf_filter, filtered kind, queue, wanted_cons gets]
    simp only [mem_kinds_append]
    by_cases same : candidate.1.kind = kind
    next =>
      subst same
      by_cases nothing : entriesOf behind paths gatewayId candidate = []
      next => simp [unknown, nothing]
      next => simp [unknown, nothing]
    next => simp [same]
  returned := by
    rw [exactly.returned, gives, returned]
    split
    next => rfl
    -- a meter that lacks nothing leaves the returned value to the rest
    next =>
      by_cases complete : candidate.2 = []
      next =>
        have nothing : entriesOf behind paths gatewayId candidate = [] :=
          List.eq_nil_of_length_eq_zero (Nat.le_zero.mp (by simpa [complete] using entriesOf_length candidate))
        have same : middle.queue = before.queue := by rw [queue, nothing, List.append_nil]
        simp [lacking_cons gets, complete, same]
      next => simp [lacking_cons gets, complete, unknown]

theorem dropOldest_same {queue : List MeterEntry} (room : queue.length < maxQueued) :
    dropOldest queue = queue := by
  rw [dropOldest, if_neg (by omega)]

theorem kinds_any (queue : List MeterEntry) (kind : Bytes × Bytes) :
    (queue.any fun entry => entry.kind = kind) = true <-> kind ∈ kinds queue := by
  simp [kinds, List.any_eq_true]

theorem mem_newKinds (rows : List (MeterRow × MeterAnswers)) (queue : List MeterEntry)
    (kind : Bytes × Bytes) : kind ∈ newKinds rows queue <->
      (∃ candidate ∈ candidates rows, candidate.1.kind = kind) /\ kind ∉ kinds queue := by
  rw [newKinds, Finset.mem_sdiff, List.mem_toFinset, List.mem_map]

theorem newKinds_served {rows rest : List (MeterRow × MeterAnswers)} {queue : List MeterEntry}
    {candidate : Meter × List UInt8} (gets : candidates rows = candidate :: candidates rest)
    (few : candidate.2.length ≤ 4) (unknown : candidate.1.kind ∉ kinds queue) :
    (queue ++ entriesOf behind paths gatewayId candidate).length +
        4 * (newKinds rest (queue ++ entriesOf behind paths gatewayId candidate)).card ≤
      queue.length + 4 * (newKinds rows queue).card := by
  -- serving a candidate of a new type takes no more room than was kept for the type
  have opened : candidate.1.kind ∈ newKinds rows queue :=
    (mem_newKinds rows queue _).mpr ⟨⟨candidate, by simp [gets], rfl⟩, unknown⟩
  have left (kind : Bytes × Bytes)
      (new : kind ∈ newKinds rest (queue ++ entriesOf behind paths gatewayId candidate)) :
      kind ∈ newKinds rows queue /\
        (entriesOf behind paths gatewayId candidate ≠ [] -> kind ≠ candidate.1.kind) := by
    obtain ⟨⟨other, inside, same⟩, absent⟩ := (mem_newKinds rest _ kind).mp new
    rw [mem_kinds_append] at absent
    refine ⟨(mem_newKinds rows queue kind).mpr ⟨⟨other, by simp [gets, inside], same⟩, fun known =>
      absent (Or.inl known)⟩, fun some_ equal => absent (Or.inr ⟨equal.symm, some_⟩)⟩
  have short : (entriesOf behind paths gatewayId candidate).length ≤ candidate.2.length :=
    entriesOf_length candidate
  rw [List.length_append]
  -- without entries the type keeps its places, and with them it gives its four away
  by_cases nothing : entriesOf behind paths gatewayId candidate = []
  next =>
    have fewer := Finset.card_le_card fun kind new => (left kind new).1
    rw [nothing] at fewer ⊢
    simp only [List.length_nil]
    omega
  next =>
    have fewer := Finset.card_le_card fun kind new =>
      Finset.mem_erase.mpr ⟨(left kind new).2 nothing, (left kind new).1⟩
    have one : 0 < (newKinds rows queue).card := Finset.card_pos.mpr ⟨_, opened⟩
    rw [Finset.card_erase_of_mem opened] at fewer
    omega

section Short

variable (short : ∀ record ∈ paths, record.pathRecord.length ≤ 64)

include short

theorem srcRoute_fits (mac : Bytes) : srcRoute behind paths gatewayId mac ≠ .overrun := by
  intro way
  obtain ⟨record, inside, long⟩ := srcRoute_overrun way
  have fits := short record inside
  omega

theorem enqueueMissing_exact (meter : Meter) (profiles : List UInt8) (checked : Checked)
    (sound : Sound behind paths gatewayId checked.queue) (fresh : Fresh meter profiles checked.queue)
    (distinct : profiles.Nodup) (known : ∀ profile ∈ profiles, profile ∈ scalarProfiles)
    (room : checked.queue.length + profiles.length ≤ maxQueued) :
    enqueueMissing behind paths gatewayId meter profiles checked = some {
      queue := checked.queue ++ entriesOf behind paths gatewayId (meter, profiles)
      returned := if profiles = [] then checked.returned else 1 } := by
  induction profiles generalizing checked with
  | nil =>
    have nothing : entriesOf behind paths gatewayId (meter, []) = [] :=
      List.eq_nil_of_length_eq_zero (Nat.le_zero.mp (entriesOf_length (meter, [])))
    simp [enqueueMissing, nothing]
  | cons profile rest ih =>
    rw [List.length_cons] at room
    obtain ⟨new, distinct⟩ := List.nodup_cons.mp distinct
    have later := fun other inside => known other (List.mem_cons_of_mem profile inside)
    have same : dropOldest checked.queue = checked.queue := dropOldest_same (by omega)
    rw [enqueueMissing]
    cases way : srcRoute behind paths gatewayId meter.macAddress with
    | known path hops =>
      have kept := sound.added fresh (known profile (List.mem_cons_self ..)) way
      have other := fresh.added path hops new
      rw [enqueueInfo_known sound meter profile path hops way, Option.bind_some]
      rw [same] at kept other ⊢
      rw [ih _ kept other distinct later (by simp only [List.length_append, List.length_singleton]; omega)]
      simp [entriesOf, way]
    | unknown =>
      have dropped := fresh.dropped
      rw [enqueueInfo_unknown sound meter profile way, Option.bind_some]
      rw [same] at dropped ⊢
      rw [ih { queue := checked.queue, returned := 1 } sound dropped distinct later (by simp only; omega)]
      simp [entriesOf, way]
    | overrun => exact absurd way (srcRoute_fits short meter.macAddress)

theorem checkMeters_exact (rows : List (MeterRow × MeterAnswers)) (before : Checked)
    (sound : Sound behind paths gatewayId before.queue)
    (room : before.queue.length + 4 * (newKinds rows before.queue).card ≤ maxQueued) :
    exists after, checkMeters behind paths gatewayId rows before = some after /\
      Exactly behind paths gatewayId rows before after := by
  induction rows generalizing before with
  | nil => exact ⟨before, rfl, ⟨[], by simp, by simp [wanted, candidates]⟩, by simp [givenUp, lacking, candidates]⟩
  | cons row rest ih =>
    obtain ⟨row, answers⟩ := row
    -- a row without a candidate, behind which the check goes on
    have passes (gets : candidates ((row, answers) :: rest) = candidates rest)
        (gives : givenUp ((row, answers) :: rest) = givenUp rest) :
        exists after, checkMeters behind paths gatewayId rest before = some after /\
          Exactly behind paths gatewayId ((row, answers) :: rest) before after := by
      have same : newKinds ((row, answers) :: rest) before.queue = newKinds rest before.queue := by
        rw [newKinds, gets, newKinds]
      obtain ⟨after, ran, exactly⟩ := ih before sound (same ▸ room)
      exact ⟨after, ran, exactly.passed gets gives⟩
    rw [checkMeters]
    cases known : row.meter with
    | none => exact passes (by simp [candidates, known]) (by simp [givenUp, known])
    | some meter =>
      cases reach : answers.reach with
      | failed =>
        exact ⟨_, rfl, ⟨[], by simp, by simp [wanted, candidates, known, reach]⟩,
          by simp [givenUp, known, reach]⟩
      | skipped => exact passes (by simp [candidates, known, reach]) (by simp [givenUp, reach])
      | reached =>
        have gives : givenUp ((row, answers) :: rest) = givenUp rest := by simp [givenUp, reach]
        cases told : answers.attributes with
        | rows cells =>
          have gets : candidates ((row, answers) :: rest) =
              (meter, missingProfiles cells) :: candidates rest := by
            simp [candidates, known, reach, told]
          dsimp only
          split
          next queued =>
            have inside := (kinds_any before.queue meter.kind).mp queued
            have fewer : (newKinds rest before.queue).card ≤
                (newKinds ((row, answers) :: rest) before.queue).card := by
              apply Finset.card_le_card
              intro kind new
              obtain ⟨⟨other, inside, same⟩, absent⟩ := (mem_newKinds rest _ kind).mp new
              exact (mem_newKinds _ _ kind).mpr ⟨⟨other, by simp [gets, inside], same⟩, absent⟩
            obtain ⟨after, ran, exactly⟩ := ih before sound (by omega)
            exact ⟨after, ran, exactly.queued gets gives inside⟩
          next unqueued =>
            have unknown : meter.kind ∉ kinds before.queue :=
              fun inside => unqueued ((kinds_any before.queue meter.kind).mpr inside)
            obtain ⟨distinct, profiles⟩ := missingProfiles_known cells
            have few : (missingProfiles cells).length ≤ 4 := List.length_filter_le _ scalarProfiles
            have fresh : Fresh meter (missingProfiles cells) before.queue := fresh_unqueued _ unqueued
            have kept := @newKinds_served behind paths gatewayId _ _ before.queue _ gets few unknown
            have one : 0 < (newKinds ((row, answers) :: rest) before.queue).card :=
              Finset.card_pos.mpr ⟨meter.kind, (mem_newKinds _ _ _).mpr
                ⟨⟨(meter, missingProfiles cells), by simp [gets], rfl⟩, unknown⟩⟩
            have served := enqueueMissing_exact short meter (missingProfiles cells) before sound fresh
              distinct profiles (by omega)
            rcases enqueueMissing_ends meter (missingProfiles cells) before sound fresh distinct profiles with
              ⟨middle, ran, soundly⟩ | ⟨overran, _⟩
            next =>
              have same := Option.some.inj (ran.symm.trans served)
              obtain ⟨after, ran', exactly⟩ := ih middle soundly (by rw [same]; exact kept.trans room)
              refine ⟨after, by rw [ran, Option.bind_some, ran'], ?_⟩
              exact exactly.served gets gives unknown (by rw [same]) (by rw [same])
            next => exact absurd (overran.symm.trans served) (by simp)
        | failed =>
          obtain ⟨after, ran, exactly⟩ := passes (by simp [candidates, known, reach, told]) gives
          exact ⟨after, by simpa using ran, exactly⟩
        | noResult =>
          obtain ⟨after, ran, exactly⟩ := passes (by simp [candidates, known, reach, told]) gives
          exact ⟨after, by simpa using ran, exactly⟩

/-- While the types of meters fit into the queue, a check adds what is wanted of each of them: the
profiles that the first meter of the type with a known path lacks. -/
theorem checkForScalarProfile_exact (rows : List (MeterRow × MeterAnswers)) (queue : List MeterEntry)
    (sound : Sound behind paths gatewayId queue)
    (room : queue.length + 4 * (newKinds rows queue).card ≤ maxQueued) :
    exists after, checkForScalarProfile behind paths gatewayId (.rows rows) queue = some after /\
      Exactly behind paths gatewayId rows { queue := queue } after :=
  checkMeters_exact short rows { queue := queue } sound room

end Short

end Exact

section Example

open Text

def acmeRow (mac : String) : MeterRow where
  manufactureName := some (ascii "ACME")
  macAddress := some (ascii mac)
  phase := some (ascii "1")
  firmwareVersion := some (ascii "1.0")

def connectedWith (attributes : List String) : MeterAnswers where
  disconnected := .rows [some (ascii "0")]
  attributes := .rows (attributes.map fun text => some (ascii text))

/-- Three meters of one type; the first has no route. -/
def acmeRows : List (MeterRow × MeterAnswers) :=
  [(acmeRow "3CC1F60100000002", connectedWith ["0100"]),
    (acmeRow "3CC1F60100000003", connectedWith ["0100", "0300"]),
    (acmeRow "3CC1F60100000004", connectedWith [])]

def acmePaths : List NodeRecord :=
  [{ macAddress := ascii "3CC1F60100000003", pathRecord := ascii "01000003", hopCount := 1 },
    { macAddress := ascii "3CC1F60100000004", pathRecord := ascii "01000004", hopCount := 1 }]

theorem checkForScalarProfile_exact_acme : exists after,
    checkForScalarProfile (fun _ _ => 0) acmePaths (ascii "3CC1F60100000001") (.rows acmeRows) [] =
      some after /\
    Exactly (fun _ _ => 0) acmePaths (ascii "3CC1F60100000001") acmeRows { queue := [] } after /\
    after.queue.map (fun entry => (entry.macAddress, entry.profileId)) =
      [(ascii "3CC1F60100000003", 2), (ascii "3CC1F60100000003", 4)] := by
  have second : (checkForScalarProfile (fun _ _ => 0) acmePaths (ascii "3CC1F60100000001")
      (.rows acmeRows) []).map (fun after =>
        after.queue.map fun entry => (entry.macAddress, entry.profileId)) =
      some [(ascii "3CC1F60100000003", 2), (ascii "3CC1F60100000003", 4)] := by decide +kernel
  obtain ⟨after, ran, exactly⟩ := @checkForScalarProfile_exact (fun _ _ => 0) acmePaths
    (ascii "3CC1F60100000001") (by decide +kernel) acmeRows [] sound_nil (by decide +kernel)
  refine ⟨after, ran, exactly, ?_⟩
  rw [ran] at second
  exact Option.some.inj second

end Example

end Hes.ScalarQueue
