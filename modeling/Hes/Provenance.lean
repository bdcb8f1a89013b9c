import Mathlib.Data.List.Basic
import Hes.Lib.Transition
import Hes.Transmit

set_option autoImplicit false

namespace Hes

open Prog Transition Mqtt OdmProfiles

/-- The payload tail while the request is served: its own, when it writes one. -/
def Serving.tail (serving : Serving) : Origin :=
  if serving.length ≥ 5 /\ serving.downloadDataType > 0x0F then .request serving.serial
  else serving.tailBefore

/-- Every value is of the request: made of a frame accepted in it (or a default), and taken from
no other request's payload. -/
def Row.Own (row : Row) : Prop :=
  ∀ stored ∈ row.values,
    (stored.origin = .filler \/ stored.origin = .request row.serving.serial) /\
      ∀ origin ∈ stored.payload, origin = .filler \/ origin = .request row.serving.serial

/-- A column read with `back()` was filled by the request itself. -/
def Row.Refilled (row : Row) (index : UInt8) : Prop :=
  row.query.reading = .last /\
    ∃ stored ∈ columnOf row.held row.query.store index,
      stored.origin = .request row.serving.serial

/-- Where the columns were read, nothing but defaults was there before the request, or the
request has filled them; and the payload tail was its own or clear, or no value was taken of it. -/
structure Row.Clean (row : Row) : Prop where
  columns : ∀ index ∈ row.query.columns, row.Refilled index \/
    ∀ stored ∈ row.query.reading.read
        (columnOf row.serving.before row.query.store index) row.turn,
      stored.origin = .filler
  tail : row.serving.tail = .request row.serving.serial \/ row.serving.tailBefore = .filler \/
    ∀ stored ∈ row.values, stored.payload = none

/-- A value the request added: of a frame accepted in it, or a default in an empty column. -/
def Added (serving : Serving) (stored : Stored) : Prop :=
  (stored.origin = .request serving.serial /\ ∀ origin ∈ stored.payload, origin = serving.tail) \/
    (stored.origin = .filler /\ stored.payload = none /\
      columnOf serving.before stored.store stored.index = [])

/-- What is there in the request: the values before it, then those it added. -/
def Held (serving : Serving) (values : List Stored) : Prop :=
  exists added, values = serving.before ++ added /\ ∀ stored ∈ added, Added serving stored

/-- Nothing of the request was there before it began. -/
structure Serving.Fresh (serving : Serving) : Prop where
  before : ∀ stored ∈ serving.before, stored.origin ≠ .request serving.serial
  fillers : ∀ stored ∈ serving.before, stored.origin = .filler -> stored.payload = none
  tail : serving.tailBefore ≠ .request serving.serial

theorem columnOf_append (first second : List Stored) (store : Store) (index : UInt8) :
    columnOf (first ++ second) store index =
      columnOf first store index ++ columnOf second store index :=
  List.filter_append ..

theorem mem_columnOf (values : List Stored) (store : Store) (index : UInt8) (stored : Stored) :
    stored ∈ columnOf values store index <->
      stored ∈ values /\ stored.store = store /\ stored.index = index := by
  simp [columnOf]

theorem read_append (reading : Reading) (first second : List Stored) (turn : Nat)
    (stored : Stored) (known : reading.read (first ++ second) turn = some stored) :
    (reading.read first turn = some stored /\ (reading = .last -> second = [])) \/
      stored ∈ second := by
  -- what is read comes from the first values, unless `back()` finds later ones, or from the later
  cases reading with
  | first =>
    cases first with
    | nil => exact .inr (List.mem_of_mem_head? (by simpa [Reading.read] using known))
    | cons head rest => exact .inl ⟨by simpa [Reading.read] using known, by simp⟩
  | last =>
    by_cases none' : second = []
    next => exact .inl ⟨by simpa [Reading.read, none'] using known, fun _ => none'⟩
    next =>
      simp only [Reading.read, List.getLast?_append_of_ne_nil _ none'] at known
      exact .inr (List.mem_of_getLast? known)
  | each =>
    simp only [Reading.read] at known ⊢
    by_cases inside : turn < first.length
    next => exact .inl ⟨by simpa [List.getElem?_append_left inside] using known, by simp⟩
    next =>
      rw [List.getElem?_append_right (by omega)] at known
      exact .inr (List.mem_of_getElem? known)

theorem read_kept (reading : Reading) (first second : List Stored) (turn : Nat) (stored : Stored)
    (known : reading.read first turn = some stored) :
    (reading = .last /\ second ≠ []) \/ reading.read (first ++ second) turn = some stored := by
  -- what would be read of the first values alone is read, unless `back()` finds later ones
  cases reading with
  | first =>
    cases first with
    | nil => simp [Reading.read] at known
    | cons head rest => exact .inr (by simpa [Reading.read] using known)
  | last =>
    by_cases none' : second = []
    next => exact .inr (by simpa [Reading.read, none'] using known)
    next => exact .inl ⟨rfl, none'⟩
  | each =>
    simp only [Reading.read] at known ⊢
    have inside := (List.getElem?_eq_some_iff.mp known).1
    exact .inr (by rw [List.getElem?_append_left inside, known])

theorem read_mem (reading : Reading) (column : List Stored) (turn : Nat) (stored : Stored)
    (known : reading.read column turn = some stored) : stored ∈ column := by
  cases reading with
  | first => exact List.mem_of_mem_head? known
  | last => exact List.mem_of_getLast? known
  | each => exact List.mem_of_getElem? known

theorem Query.mem_read (query : Query) (held : List Stored) (turn : Nat) (stored : Stored) :
    stored ∈ query.read held turn <-> ∃ index ∈ query.columns,
      query.reading.read (columnOf held query.store index) turn = some stored := by
  simp [Query.read]

theorem Serving.tail_own_or_before (serving : Serving) :
    serving.tail = .request serving.serial \/ serving.tail = serving.tailBefore := by
  unfold Serving.tail
  split
  next => exact .inl rfl
  next => exact .inr rfl

section Rows

variable {row : Row} {added : List Stored}

theorem value_cases (values : row.values = row.query.read row.held row.turn)
    (held : row.held = row.serving.before ++ added) (stored : Stored)
    (inside : stored ∈ row.values) :
    stored ∈ added \/ ∃ index ∈ row.query.columns,
      row.query.reading.read (columnOf row.serving.before row.query.store index) row.turn =
          some stored /\
        (row.query.reading = .last -> columnOf added row.query.store index = []) := by
  -- a value that was read is an old one where nothing else could be, or one the request added
  rw [values, Query.mem_read] at inside
  obtain ⟨index, column, known⟩ := inside
  rw [held, columnOf_append] at known
  rcases read_append _ _ _ _ stored known with old | new
  next => exact .inr ⟨index, column, old⟩
  next => exact .inl ((mem_columnOf _ _ _ _).mp new).1

theorem clean_own (fresh : row.serving.Fresh)
    (values : row.values = row.query.read row.held row.turn)
    (held : row.held = row.serving.before ++ added)
    (facts : ∀ stored ∈ added, Added row.serving stored) (clean : row.Clean) : row.Own := by
  intro stored inside
  rcases value_cases values held stored inside with new | ⟨index, column, old, unfilled⟩
  next =>
    rcases facts stored new with ⟨own, payload⟩ | ⟨filler, none', _⟩
    next =>
      refine ⟨.inr own, fun origin taken => ?_⟩
      rw [payload origin taken]
      rcases clean.tail with ownTail | clear | untaken
      next => exact .inr ownTail
      next =>
        rcases row.serving.tail_own_or_before with ownTail | before
        next => exact .inr ownTail
        next => exact .inl (before.trans clear)
      next => simp [untaken stored inside] at taken
    next => exact ⟨.inl filler, by simp [none']⟩
  next =>
    have before := ((mem_columnOf _ _ _ _).mp (read_mem _ _ _ _ old)).1
    have filler : stored.origin = .filler := by
      rcases clean.columns index column with ⟨last, other, filled, own⟩ | fillers
      next =>
        rw [held, columnOf_append, unfilled last, List.append_nil] at filled
        exact absurd own (fresh.before other ((mem_columnOf _ _ _ _).mp filled).1)
      next => exact fillers stored old
    exact ⟨.inl filler, by simp [fresh.fillers stored before filler]⟩

theorem own_clean (fresh : row.serving.Fresh)
    (values : row.values = row.query.read row.held row.turn)
    (held : row.held = row.serving.before ++ added)
    (facts : ∀ stored ∈ added, Added row.serving stored) (own : row.Own) : row.Clean := by
  constructor
  next =>
    intro index column
    by_contra unclean
    simp only [not_or, not_forall] at unclean
    obtain ⟨unfilled, stored, old, notFiller⟩ := unclean
    have before := ((mem_columnOf _ _ _ _).mp (read_mem _ _ _ _ old)).1
    rcases read_kept _ _ (columnOf added row.query.store index) _ stored old with
      ⟨last, some'⟩ | read
    next =>
      obtain ⟨other, new⟩ := List.exists_mem_of_ne_nil _ some'
      have found := (mem_columnOf _ _ _ _).mp new
      rcases facts other found.1 with ⟨ownOther, _⟩ | ⟨_, _, empty⟩
      next =>
        refine unfilled ⟨last, other, ?_, ownOther⟩
        rw [held, columnOf_append]
        exact List.mem_append_right _ new
      next =>
        have inColumn := read_mem _ _ _ _ old
        rw [found.2.1, found.2.2] at empty
        simp [empty] at inColumn
    next =>
      have inside : stored ∈ row.values := by
        rw [values, Query.mem_read]
        exact ⟨index, column, by rw [held, columnOf_append, read]⟩
      rcases (own stored inside).1 with filler | ownStored
      next => exact notFiller filler
      next => exact fresh.before stored before ownStored
  next =>
    rcases row.serving.tail_own_or_before with ownTail | before
    next => exact .inl ownTail
    next =>
      by_cases clear : row.serving.tailBefore = .filler
      next => exact .inr (.inl clear)
      next =>
        refine .inr (.inr fun stored inside => ?_)
        cases taken : stored.payload with
        | none => rfl
        | some origin =>
          rcases value_cases values held stored inside with new | ⟨index, column, old, _⟩
          next =>
            rcases facts stored new with ⟨_, payload⟩ | ⟨_, none', _⟩
            next =>
              have same : origin = row.serving.tailBefore := (payload origin taken).trans before
              rcases (own stored inside).2 origin taken with filler | ownPayload
              next => exact absurd (same.symm.trans filler) clear
              next => exact absurd (same.symm.trans ownPayload) fresh.tail
            next => simp [none'] at taken
          next =>
            have there := ((mem_columnOf _ _ _ _).mp (read_mem _ _ _ _ old)).1
            rcases (own stored inside).1 with filler | ownStored
            next => simp [fresh.fillers stored there filler] at taken
            next => exact absurd ownStored (fresh.before stored there)

theorem own_iff_clean (fresh : row.serving.Fresh)
    (values : row.values = row.query.read row.held row.turn) (held : Held row.serving row.held) :
    row.Own <-> row.Clean := by
  obtain ⟨added, same, facts⟩ := held
  exact ⟨own_clean fresh values same facts, clean_own fresh values same facts⟩

end Rows

/-- No request that is still to come. -/
def Origin.Within (serial : Nat) (origin : Origin) : Prop :=
  forall request, origin = .request request -> request ≤ serial

/-- Nothing in the profiles comes from a request behind the one with this serial number. -/
structure OdmProfiles.Known (serial : Nat) (profiles : OdmProfiles) : Prop where
  values : ∀ stored ∈ profiles.values, stored.origin.Within serial
  fillers : ∀ stored ∈ profiles.values, stored.origin = .filler -> stored.payload = none
  tail : profiles.tailOrigin.Within serial
  within : profiles.serving.Within serial
  serving : profiles.serving ≠ .filler

namespace OdmProfiles

theorem Known.grows {serial : Nat} {before after : OdmProfiles} (known : before.Known serial)
    (grown : Grows before after) : after.Known serial := by
  obtain ⟨added, values, facts⟩ := grown.added
  refine ⟨?_, ?_, grown.tailOrigin ▸ known.tail, grown.serving ▸ known.within,
    grown.serving ▸ known.serving⟩
  next =>
    intro stored inside
    rw [values] at inside
    rcases List.mem_append.mp inside with old | new
    next => exact known.values stored old
    next => exact (facts stored new).1 ▸ known.within
  next =>
    intro stored inside filler
    rw [values] at inside
    rcases List.mem_append.mp inside with old | new
    next => exact known.fillers stored old filler
    next => exact absurd ((facts stored new).1.symm.trans filler) known.serving

theorem Known.fewer {serial : Nat} {profiles : OdmProfiles} (known : profiles.Known serial)
    (kept : Stored -> Bool) : Known serial { profiles with values := profiles.values.filter kept } :=
  ⟨fun stored inside => known.values stored (List.mem_of_mem_filter inside),
    fun stored inside => known.fillers stored (List.mem_of_mem_filter inside), known.tail,
    known.within, known.serving⟩

theorem filler_within (serial : Nat) : Origin.filler.Within serial := by
  intro request same
  simp at same

theorem clearProfileForType_known {serial : Nat} {profiles : OdmProfiles}
    (known : profiles.Known serial) (downloadDataType : UInt8) :
    (clearProfileForType downloadDataType profiles).Known serial := by
  have kept := known.fewer fun stored => stored.store ∉ clearedStores downloadDataType
  unfold clearProfileForType
  dsimp only
  split
  next => exact ⟨kept.values, kept.fillers, filler_within serial, kept.within, kept.serving⟩
  next => exact kept

theorem ensureDlmsValue_known {serial : Nat} {profiles : OdmProfiles}
    (known : profiles.Known serial) (store : Store) (column : UInt8 × UInt8) :
    (ensureDlmsValue store profiles column).Known serial := by
  unfold ensureDlmsValue
  split
  next =>
    refine ⟨?_, ?_, known.tail, known.within, known.serving⟩
    next =>
      intro stored inside
      rcases List.mem_append.mp inside with old | new
      next => exact known.values stored old
      next =>
        obtain rfl := List.mem_singleton.mp new
        exact filler_within serial
    next =>
      intro stored inside filler
      rcases List.mem_append.mp inside with old | new
      next => exact known.fillers stored old filler
      next =>
        obtain rfl := List.mem_singleton.mp new
        rfl
  next => exact known

theorem validateForDb_known {serial : Nat} (store : Store) (defaults : List (UInt8 × UInt8))
    {profiles : OdmProfiles} (known : profiles.Known serial) :
    (validateForDb store defaults profiles).Known serial := by
  unfold validateForDb
  induction defaults generalizing profiles with
  | nil => exact known
  | cons column rest ih => exact ih (ensureDlmsValue_known known store column)

theorem ensureDlmsValue_held {serving : Serving} {profiles : OdmProfiles}
    (held : Held serving profiles.values) (store : Store) (column : UInt8 × UInt8) :
    Held serving (ensureDlmsValue store profiles column).values := by
  -- a default goes into a column that was empty, so it was empty before the request, too
  unfold ensureDlmsValue
  split
  next empty =>
    obtain ⟨added, values, facts⟩ := held
    refine ⟨added ++ [_], by rw [values, List.append_assoc], ?_⟩
    intro stored inside
    rcases List.mem_append.mp inside with old | new
    next => exact facts stored old
    next =>
      obtain rfl := List.mem_singleton.mp new
      rw [OdmProfiles.column, values, columnOf_append] at empty
      exact .inr ⟨rfl, rfl, (List.append_eq_nil_iff.mp empty).1⟩
  next => exact held

theorem validateForDb_held {serving : Serving} (store : Store) (defaults : List (UInt8 × UInt8))
    {profiles : OdmProfiles} (held : Held serving profiles.values) :
    Held serving (validateForDb store defaults profiles).values := by
  unfold validateForDb
  induction defaults generalizing profiles with
  | nil => exact held
  | cons column rest ih => exact ih (ensureDlmsValue_held held store column)

end OdmProfiles

/-- Between requests: what the profiles hold is older than the next one, and every row is judged. -/
structure RowsRecorded (profiles : OdmProfiles) (odm : Odm) : Prop where
  known : profiles.Known odm.serving.serial
  rows : ∀ row ∈ odm.rows, row.Own <-> row.Clean

/-- In a request that has been left, or that writes its rows. -/
structure Recorded (serving : Serving) (profiles : OdmProfiles) (odm : Odm) : Prop extends
    RowsRecorded profiles odm where
  current : odm.serving = serving
  fresh : serving.Fresh

/-- In a request that collects values. -/
structure Collecting (serving : Serving) (profiles : OdmProfiles) (odm : Odm) : Prop extends
    Recorded serving profiles odm where
  opened : profiles.serving = .request serving.serial
  held : Held serving profiles.values
  tail : profiles.tailOrigin = serving.tail

/-- In a request that has just begun. -/
structure Opening (serving : Serving) (profiles : OdmProfiles) (odm : Odm) : Prop extends
    Recorded serving profiles odm where
  opened : profiles.serving = .request serving.serial
  same : profiles.values = serving.before
  tail : profiles.tailOrigin = serving.tailBefore

theorem Recorded.moved {serving : Serving} {before after : OdmProfiles} {odm : Odm}
    (recorded : Recorded serving before odm) (known : after.Known odm.serving.serial) :
    Recorded serving after odm :=
  ⟨⟨known, recorded.rows⟩, recorded.current, recorded.fresh⟩

theorem Collecting.grows {serving : Serving} {before after : OdmProfiles} {odm : Odm}
    (collecting : Collecting serving before odm) (grown : Grows before after) :
    Collecting serving after odm := by
  -- everything a request receives is its own
  refine ⟨collecting.toRecorded.moved (collecting.known.grows grown),
    grown.serving.trans collecting.opened, ?_, grown.tailOrigin.trans collecting.tail⟩
  obtain ⟨earlier, old, known⟩ := collecting.held
  obtain ⟨added, values, facts⟩ := grown.added
  refine ⟨earlier ++ added, by rw [values, old, List.append_assoc], ?_⟩
  intro stored inside
  rcases List.mem_append.mp inside with before | new
  next => exact known stored before
  next =>
    have fact := facts stored new
    exact .inl ⟨fact.1.trans collecting.opened,
      fun origin taken => (fact.2 origin taken).trans collecting.tail⟩

theorem Recorded.row {serving : Serving} {profiles : OdmProfiles} {odm : Odm}
    (recorded : Recorded serving profiles odm) (query : Query) (held : List Stored) (turn : Nat)
    (facts : Held serving held) (inserted : Bool) :
    Recorded serving profiles { odm with rows := odm.rows ++
      [{ serving := odm.serving, parameters := odm.dbParameter, query := query, turn := turn,
         values := query.read held turn, held := held, inserted := inserted }] } := by
  refine ⟨⟨recorded.known, ?_⟩, recorded.current, recorded.fresh⟩
  intro row inside
  rcases List.mem_append.mp inside with old | new
  next => exact recorded.rows row old
  next =>
    obtain rfl := List.mem_singleton.mp new
    exact own_iff_clean (recorded.current ▸ recorded.fresh) rfl (recorded.current ▸ facts)

namespace Client

/-- A predicate of the profiles and the on-demand state that holds of a client. -/
abbrev Holds (known : OdmProfiles -> Odm -> Prop) (client : Client) : Prop :=
  known client.profiles client.odm

/-- Only what is received moves a predicate of the profiles and the on-demand state. -/
theorem holds_frame (known : OdmProfiles -> Odm -> Prop)
    (grows : forall before after odm, known before odm -> Grows before after -> known after odm) :
    ReceiveFrame fun before after => Holds known before -> Holds known after where
  refl _ holds := holds
  trans _ _ _ before behind holds := behind (before holds)
  control _ _ holds := holds
  counters _ _ holds := holds
  assign _ holds := holds
  send _ _ _ holds := holds
  profiles _ _ grown holds := grows _ _ _ holds grown
  pull _ _ _ holds := holds

theorem holds_opening (known : OdmProfiles -> Odm -> Prop) :
    Frame fun before after => Holds known before -> Holds known after where
  refl _ holds := holds
  trans _ _ _ before behind holds := behind (before holds)
  control _ _ holds := holds
  counters _ _ holds := holds
  assign _ holds := holds
  send _ _ _ holds := holds

section Recording

variable {serving : Serving}

theorem updateStatus_recorded (requestId : Int) (status : RequestStatus) (errorCode : Nat) :
    Returns (Holds (Recorded serving)) (updateDlmsOnDemandRequestStatus requestId status errorCode)
      fun _ => Holds (Recorded serving) :=
  triple_update _ fun _ recorded =>
    ⟨⟨recorded.known, recorded.rows⟩, recorded.current, recorded.fresh⟩

theorem updateOwnStatus_recorded (status : RequestStatus) (errorCode : Nat) :
    Returns (Holds (Recorded serving)) (updateOwnStatus status errorCode)
      fun _ => Holds (Recorded serving) :=
  triple_bind _ (triple_observe _ fun _ recorded => recorded)
    fun requestId => updateStatus_recorded requestId status errorCode

theorem clearProfile_recorded (downloadDataType : UInt8) :
    Returns (Holds (Recorded serving)) (clearProfile downloadDataType)
      fun _ => Holds (Recorded serving) :=
  fun _ recorded => recorded.moved (clearProfileForType_known recorded.known downloadDataType)

theorem queryResult_recorded : Returns (Holds (Recorded serving)) queryResult
    fun _ => Holds (Recorded serving) :=
  fun _ recorded => recorded

theorem executeQuery_recorded (query : Query) (held : List Stored) (turn : Nat)
    (facts : Held serving held) :
    Returns (Holds (Recorded serving)) (executeQuery query held turn)
      fun _ => Holds (Recorded serving) := by
  refine triple_bind _ queryResult_recorded fun inserted => ?_
  refine triple_bind (fun _ => Holds (Recorded serving))
    (triple_update _ fun client recorded => ?_) fun _ => triple_pure _ fun _ recorded => recorded
  exact recorded.row query held turn facts inserted

theorem executeRows_recorded (query : Query) (held : List Stored) (facts : Held serving held)
    (turns : List Nat) :
    Returns (Holds (Recorded serving)) (executeRows query held turns)
      fun _ => Holds (Recorded serving) := by
  induction turns with
  | nil => exact triple_pure () fun _ recorded => recorded
  | cons turn turns ih =>
    exact triple_bind _ (executeQuery_recorded query held turn facts) fun _ => ih

theorem validateProfiles_held (store : Store) (defaults : List (UInt8 × UInt8)) :
    Returns (Holds (Collecting serving)) (validateProfiles store defaults)
      fun held client => Held serving held /\ Holds (Recorded serving) client :=
  fun _ collecting => ⟨validateForDb_held store defaults collecting.held,
    collecting.toRecorded.moved (validateForDb_known store defaults collecting.known)⟩

theorem heldValues_held : Returns (Holds (Collecting serving)) heldValues
    fun held client => Held serving held /\ Holds (Recorded serving) client :=
  triple_observe _ fun _ collecting => ⟨collecting.held, collecting.toRecorded⟩

theorem insertAndClear_recorded (downloadDataType : UInt8) (query : Query) (held : List Stored)
    (facts : Held serving held) :
    Returns (Holds (Recorded serving)) (insertAndClear downloadDataType query held)
      fun _ => Holds (Recorded serving) := by
  refine triple_bind _ (executeQuery_recorded query held 0 facts) fun inserted => ?_
  split
  next => exact clearProfile_recorded downloadDataType
  next => exact triple_pure () fun _ recorded => recorded

theorem processNpCase_recorded : Returns (Holds (Collecting serving)) processNpCase
    fun _ => Holds (Recorded serving) := by
  refine triple_bind _ (validateProfiles_held _ _) fun held => triple_known fun facts => ?_
  refine triple_bind _ (updateOwnStatus_recorded _ _) fun _ => ?_
  refine triple_bind _ (clearProfile_recorded 0) fun _ => ?_
  exact triple_bind _ (executeQuery_recorded _ held 0 facts)
    fun _ => triple_pure () fun _ recorded => recorded

theorem processIpCase_recorded : Returns (Holds (Collecting serving)) processIpCase
    fun _ => Holds (Recorded serving) := by
  refine triple_bind _ (validateProfiles_held _ _) fun held => triple_known fun facts => ?_
  refine triple_bind _ (updateOwnStatus_recorded _ _) fun _ => ?_
  refine triple_bind _ (executeQuery_recorded _ held 0 facts) fun _ => ?_
  refine triple_bind _ (clearProfile_recorded 1) fun _ => ?_
  exact triple_bind _ (executeQuery_recorded _ held 0 facts)
    fun _ => triple_pure () fun _ recorded => recorded

theorem processLoadCase_recorded (downloadDataType : UInt8) (query : Query)
    (defaults : List (UInt8 × UInt8)) :
    Returns (Holds (Collecting serving)) (processLoadCase downloadDataType query defaults)
      fun _ => Holds (Recorded serving) := by
  refine triple_bind _ (validateProfiles_held _ _) fun held => triple_known fun facts => ?_
  refine triple_bind _ (updateOwnStatus_recorded _ _) fun _ => ?_
  exact triple_bind _ (executeRows_recorded query held facts _)
    fun _ => clearProfile_recorded downloadDataType

theorem processAllEventsCase_recorded : Returns (Holds (Collecting serving)) processAllEventsCase
    fun _ => Holds (Recorded serving) := by
  -- the status is reported in front of what the values are copied from
  refine triple_bind (fun _ => Holds (Collecting serving)) ?_ fun _ => ?_
  next =>
    refine triple_bind (fun _ => Holds (Collecting serving))
      (triple_observe _ fun _ collecting => collecting) fun requestId => ?_
    exact triple_update _ fun _ collecting =>
      ⟨⟨⟨collecting.known, collecting.rows⟩, collecting.current, collecting.fresh⟩,
        collecting.opened, collecting.held, collecting.tail⟩
  next =>
    refine triple_bind _ heldValues_held fun held => triple_known fun facts => ?_
    refine triple_bind _ (clearProfile_recorded 5) fun _ => ?_
    exact triple_bind _ (executeQuery_recorded _ held 0 facts)
      fun _ => triple_pure () fun _ recorded => recorded

theorem processEventCase_recorded (downloadDataType : UInt8) (query : Query)
    (defaults : List (UInt8 × UInt8)) :
    Returns (Holds (Collecting serving)) (processEventCase downloadDataType query defaults)
      fun _ => Holds (Recorded serving) := by
  refine triple_bind _ (validateProfiles_held _ _) fun held => triple_known fun facts => ?_
  exact triple_bind _ (updateOwnStatus_recorded _ _)
    fun _ => insertAndClear_recorded downloadDataType query held facts

theorem processParameterCase_recorded (downloadDataType : UInt8) (query : Query) :
    Returns (Holds (Collecting serving)) (processParameterCase downloadDataType query)
      fun _ => Holds (Recorded serving) :=
  triple_bind _ heldValues_held fun held => triple_known fun facts =>
    insertAndClear_recorded downloadDataType query held facts

theorem updateInsertPingRequest_recorded (downloadDataType : UInt8) (status : RequestStatus) :
    Returns (Holds (Recorded serving)) (updateInsertPingRequest downloadDataType status)
      fun _ => Holds (Recorded serving) := by
  refine triple_bind (fun _ => Holds (Recorded serving))
    (triple_observe _ fun _ recorded => recorded) fun requestId => ?_
  refine triple_bind (fun _ => Holds (Recorded serving)) (triple_update _ fun _ recorded =>
    ⟨⟨recorded.known, recorded.rows⟩, recorded.current, recorded.fresh⟩) fun _ => ?_
  refine triple_bind _ queryResult_recorded fun inserted => ?_
  split
  next => exact clearProfile_recorded downloadDataType
  next => exact triple_pure () fun _ recorded => recorded

/-- Every row of a request is read from what the request held. -/
theorem updateOdmDb_recorded (downloadDataType : UInt8) :
    Returns (Holds (Collecting serving)) (updateOdmDb downloadDataType)
      fun _ => Holds (Recorded serving) := by
  have pinged (type : UInt8) : Returns (Holds (Collecting serving))
      (updateInsertPingRequest type .success) fun _ => Holds (Recorded serving) :=
    (updateInsertPingRequest_recorded type .success).weaken
      (fun _ collecting => collecting.toRecorded) fun _ _ recorded => recorded
  unfold updateOdmDb
  split
  next => exact processNpCase_recorded
  next => exact processIpCase_recorded
  next => exact processLoadCase_recorded 2 _ _
  next => exact processLoadCase_recorded 3 _ _
  next => exact processLoadCase_recorded 4 _ _
  next => exact processAllEventsCase_recorded
  iterate 7 next => exact processEventCase_recorded _ _ _
  iterate 2 next => exact pinged _
  all_goals first
    | exact processParameterCase_recorded _ _
    | exact triple_pure () fun _ collecting => collecting.toRecorded

theorem collecting_contract (requestId : Int) (downloadDataType : UInt8) :
    OdmContract requestId downloadDataType (fun _ => True) (Holds (Collecting serving))
      (fun _ => Holds (Recorded serving)) where
  moves := holds_frame _ fun _ _ _ collecting grown => collecting.grows grown
  waits _ _ := trivial
  retried _ collecting :=
    ⟨⟨⟨collecting.known, collecting.rows⟩, collecting.current, collecting.fresh⟩,
      collecting.opened, collecting.held, collecting.tail⟩
  sendFailed _ collecting _ := collecting.toRecorded
  reported _ _ _ _ collecting :=
    ⟨⟨collecting.known, collecting.rows⟩, collecting.current, collecting.fresh⟩
  cleared _ _ _ recorded := recorded
  written := updateOdmDb_recorded downloadDataType
  answered _ _ recorded := ⟨⟨recorded.known, recorded.rows⟩, recorded.current, recorded.fresh⟩
  pinged _ status := (updateInsertPingRequest_recorded 13 status).weaken
    (fun _ collecting => collecting.toRecorded) fun _ _ recorded => recorded

end Recording

theorem beginServing_opening (length : Nat) (downloadDataType : UInt8) :
    Returns (Holds RowsRecorded) (beginServing length downloadDataType) fun _ client =>
      exists serving, (serving.length = length /\ serving.downloadDataType = downloadDataType) /\
        Holds (Opening serving) client := by
  refine triple_update _ fun client accounted => ?_
  have later (origin : Origin) (older : origin.Within client.odm.serving.serial) :
      origin.Within (client.odm.serving.serial + 1) :=
    fun request same => Nat.le_succ_of_le (older request same)
  have other (origin : Origin) (older : origin.Within client.odm.serving.serial) :
      origin ≠ .request (client.odm.serving.serial + 1) :=
    fun same => absurd (older _ same) (by omega)
  have known := accounted.known
  refine ⟨_, ⟨rfl, rfl⟩, ⟨⟨⟨?_, accounted.rows⟩, rfl, ?_⟩, rfl, rfl, rfl⟩⟩
  next =>
    refine ⟨fun stored inside => later _ (known.values stored inside), known.fillers,
      later _ known.tail, ?_, by simp⟩
    intro request same
    exact (Origin.request.inj same).ge
  next =>
    exact ⟨fun stored inside => other _ (known.values stored inside), known.fillers,
      other _ known.tail⟩

theorem opening_collecting {serving : Serving} {profiles : OdmProfiles} {odm : Odm}
    (opening : Opening serving profiles odm)
    (noTail : ¬ (serving.length ≥ 5 /\ serving.downloadDataType > 0x0F)) :
    Collecting serving profiles odm :=
  ⟨opening.toRecorded, opening.opened, ⟨[], by simp [opening.same], by simp⟩,
    by rw [opening.tail, Serving.tail, if_neg noTail]⟩

theorem keepPayloadTail_collecting {serving : Serving} {profiles : OdmProfiles} {odm : Odm}
    (opening : Opening serving profiles odm) (buf : Bytes)
    (tail : serving.length ≥ 5 /\ serving.downloadDataType > 0x0F) :
    Collecting serving (keepPayloadTail buf profiles) odm := by
  have known := opening.known
  refine ⟨opening.toRecorded.moved ⟨known.values, known.fillers, known.within, known.within,
    known.serving⟩, opening.opened, ⟨[], by simp [keepPayloadTail, opening.same], by simp⟩, ?_⟩
  rw [Serving.tail, if_pos tail]
  exact opening.opened

theorem endServing_accounted {serving : Serving} :
    Returns (Holds (Recorded serving)) endServing fun _ => Holds RowsRecorded := by
  refine triple_update _ fun client recorded => ⟨?_, recorded.rows⟩
  have known := recorded.known
  exact ⟨known.values, known.fillers, known.tail, fun request same => by simp at same, by simp⟩

theorem processOdmRequest_accounted (fuel : Nat) (buf : Bytes) (requestId : Int)
    (downloadDataType : UInt8) :
    Returns (Holds RowsRecorded) (processOdmRequest fuel buf requestId downloadDataType)
      fun _ => Holds RowsRecorded := by
  refine triple_bind _ (beginServing_opening buf.length downloadDataType) fun _ => ?_
  refine triple_exists fun serving => triple_known fun same => ?_
  obtain ⟨length, type⟩ := same
  refine triple_bind (fun _ => Holds (Recorded serving)) ?_ fun exit => ?_
  next =>
    refine exchange_left (collecting_contract requestId downloadDataType) (Holds (Opening serving))
      (holds_opening _) (fun _ _ => trivial) (fun _ opening _ => opening.toRecorded) buf ?_ ?_ fuel
    next =>
      intro client opening long parameter
      exact keepPayloadTail_collecting opening buf (by rw [length, type]; exact ⟨long, parameter⟩)
    next =>
      intro client opening noTail
      exact opening_collecting opening (by rw [length, type]; exact noTail)
  next =>
    exact triple_bind _ endServing_accounted fun _ => triple_pure exit fun _ accounted => accounted

theorem pingNode_accounted (fuel : Nat) (request : OdmRequest) (count : Nat) :
    Returns (Holds RowsRecorded) (pingNode fuel request count) fun _ => Holds RowsRecorded := by
  induction count with
  | zero => exact triple_update _ fun _ accounted => ⟨accounted.known, accounted.rows⟩
  | succ count ih =>
    refine triple_bind _ (processOdmRequest_accounted fuel _ _ _) fun exit => ?_
    exact triple_bind (fun _ => Holds RowsRecorded)
      (triple_update _ fun _ accounted => ⟨accounted.known, accounted.rows⟩) fun _ => ih

theorem serveRequest_accounted (fuel : Nat) (request : OdmRequest) :
    Returns (Holds RowsRecorded) (serveRequest fuel request) fun _ => Holds RowsRecorded := by
  refine triple_bind (fun _ => Holds RowsRecorded)
    (triple_update _ fun _ accounted => ⟨accounted.known, accounted.rows⟩) fun _ => ?_
  split
  next =>
    exact triple_bind _ (pingNode_accounted fuel request _)
      fun _ => triple_pure _ fun _ accounted => accounted
  next =>
    exact triple_bind (fun _ => Holds RowsRecorded) (fun _ accounted => accounted)
      fun _ => processOdmRequest_accounted fuel _ _ _

end Client

/-- What the thread does with the profiles: it serves requests, and in between it receives,
transmits, and forgets the name plate that was pulled when the gateway connected. -/
inductive LoopStep where
  | serve (request : OdmRequest)
  | receive
  | transmitRaw (buf : Bytes) (length maxRetries : Nat)
  | transmitVector (buff : Bytes) (maxRetries : Nat)
  | forgetNamePlate
  | between (client : Client)

def forgetNamePlate (profiles : OdmProfiles) : OdmProfiles :=
  { profiles with values := profiles.values.filter fun stored => stored.store ≠ .namePlate }

/-- The client behind a program that has returned. -/
def behind {A : Type} (prog : Prog Client A) (client : Client) : Option Client :=
  match prog client with
  | (some _, last) => some last
  | (none, _) => none

def loopStep (fuel : Nat) : Transition.Step Client LoopStep := fun client action =>
  match action with
  | .serve request => behind (Client.serveRequest fuel request) client
  | .receive => behind Client.receiveDataAndValidateResponse client
  | .transmitRaw buf length maxRetries =>
    behind (Client.transmitRaw fuel buf length maxRetries) client
  | .transmitVector buff maxRetries => behind (Client.transmitVector fuel buff maxRetries) client
  | .forgetNamePlate => some { client with profiles := forgetNamePlate client.profiles }
  | .between other => some { other with profiles := client.profiles, odm := client.odm }

theorem behind_holds {A : Type} {known : OdmProfiles -> Odm -> Prop} {prog : Prog Client A}
    (returns : Returns (Client.Holds known) prog fun _ => Client.Holds known)
    {client next : Client} (holds : Client.Holds known client)
    (ended : behind prog client = some next) : Client.Holds known next := by
  unfold behind at ended
  split at ended
  next result last ran =>
    obtain rfl := Option.some.inj ended
    exact returns.returned holds ran
  next => simp at ended

theorem loopStep_accounted (fuel : Nat) (client next : Client) (action : LoopStep)
    (accounted : Client.Holds RowsRecorded client) (stepped : loopStep fuel client action = some next) :
    Client.Holds RowsRecorded next := by
  have frame := Client.holds_frame RowsRecorded fun _ _ _ accounted grown =>
    ⟨accounted.known.grows grown, accounted.rows⟩
  have waits (client : Client) (_ : Client.Holds RowsRecorded client) : True := trivial
  cases action with
  | serve request => exact behind_holds (Client.serveRequest_accounted fuel request) accounted stepped
  | receive =>
    exact behind_holds ((Client.receiveDataAndValidateResponse_respects
      frame).invariant waits) accounted stepped
  | transmitRaw buf length maxRetries =>
    exact behind_holds ((Client.transmitRaw_respects frame fuel buf length
      maxRetries).invariant waits) accounted stepped
  | transmitVector buff maxRetries =>
    exact behind_holds ((Client.transmitVector_respects frame fuel buff
      maxRetries).invariant waits) accounted stepped
  | forgetNamePlate =>
    obtain rfl := Option.some.inj stepped
    exact ⟨accounted.known.fewer _, accounted.rows⟩
  | between other =>
    obtain rfl := Option.some.inj stepped
    exact accounted

/-- An instantaneous profile of the meter behind one hop. -/
def ipRequest (requestId : Int) (node : UInt8) : OdmRequest :=
  { requestId := requestId, downloadType := 1
    gatewayId := [0x3C, 0xC1, 0xF6, 0x01, 0x00, 0x00, 0x00, 0x01]
    meterMacAddress := [0x3C, 0xC1, 0xF6, 0x01, 0x00, 0x00, 0x00, node]
    meterSerialNo := [0x00, 0x00, 0x00, node]
    packet := [0x2E, 0x18, 0x07, 0x00, 0x00, 0x00, 0x01, 0x00, 0x00, 0x00, 0x01, 0x00, 0x01, 0x00,
      0x00, 0x00, node, 0x2B, 0x07, 0x01, 0x0E, 0x01, 0x00, 0x00, 0x42] }

/-- A page of the meter with one record, and whether more pages follow. -/
def ipPage (node more value : UInt8) : Bytes :=
  let dlms : Bytes :=
    [0x2D, 0x00, 0x0D, 0x00, 0x0E, 0x01, 0x00, more, 0x01, 0x01, 0x00, 0x11, value]
  [0x2E, 0x1E, 0x08, 0x00, 0x00, 0x00, 0x01, 0x00, 0x00, 0x00, 0x01, 0x00, 0x00, 0x00, node, 0x00,
    0x00] ++ dlms ++ [calculateChecksum dlms 0 13]

def meshError : Bytes :=
  [0x2E, 0x11, 0x07, 0x00, 0x00, 0x00, 0x01, 0x00, 0x00, 0x00, 0x01, 0x00, 0x00, 0x00, 0x00, 0x00,
    0x05, 0x05]

/-- The meter 5 fails behind its first page; the meter 6 answers in one page. -/
def twoMeters : Client := { inputs := { recv := fun index =>
  match index with
  | 0 => .data (ipPage 5 1 0xAA) none
  | 1 => .data meshError none
  | _ => .data (ipPage 6 0 0xBB) none } }

end Hes
