import Hes.CycleVisits

set_option autoImplicit false

namespace Hes.CycleActivity

open Prog Patrol Client

/-- The loops in their order. -/
def phases : List Phase :=
  [.unsilence, .firmwareVersion, .nameplate, .instantaneous, .dailyLoad, .blockLoad, .billingHistory]

def Phase.turns (phase : Phase) (nodes : List Entry) : List (Phase × Entry) :=
  nodes.map fun node => (phase, node)

/-- Every loop takes care of every node, in the order of the map. -/
def plan (nodes : List Entry) : List (Phase × Entry) := phases.flatMap fun phase => phase.turns nodes

/-- A visit is the one that was planned, and nothing but what was missing is in its updates. -/
structure Served (turn : Phase × Entry) (visit : Visit) : Prop where
  phase : visit.phase = turn.1
  mac : visit.entry.mac = turn.2.mac
  due : visit.updates.map Update.item <+: turn.2.due turn.1
  sound : ∀ update ∈ visit.updates, update.Sound turn.2.mac

structure AllServed (turns : List (Phase × Entry)) (visits : List Visit) : Prop where
  served : List.Forall₂ Served turns visits
  goesOn : ∀ visit ∈ visits, visit.goesOn = true

/-- The last of the visits is the one that did not go on. -/
structure BrokenOff (turns : List (Phase × Entry)) (visits : List Visit) : Prop where
  served : List.Forall₂ Served turns visits
  goesOn : ∀ visit ∈ visits.dropLast, visit.goesOn = true
  last : exists last, visits.getLast? = some last /\ last.goesOn = false

theorem allServed_append {turns : List (Phase × Entry)} {visits : List Visit} {turn : Phase × Entry}
    {visit : Visit} (all : AllServed turns visits) (served : Served turn visit)
    (more : visit.goesOn = true) : AllServed (turns ++ [turn]) (visits ++ [visit]) where
  served := List.rel_append all.served (List.Forall₂.cons served List.Forall₂.nil)
  goesOn other inside := by
    rcases List.mem_append.mp inside with earlier | same
    next => exact all.goesOn other earlier
    next => exact List.mem_singleton.mp same ▸ more

theorem brokenOff_append {turns : List (Phase × Entry)} {visits : List Visit} {turn : Phase × Entry}
    {visit : Visit} (all : AllServed turns visits) (served : Served turn visit)
    (ends : visit.goesOn = false) : BrokenOff (turns ++ [turn]) (visits ++ [visit]) where
  served := List.rel_append all.served (List.Forall₂.cons served List.Forall₂.nil)
  goesOn := by simpa using all.goesOn
  last := ⟨visit, by simp, ends⟩

/-- The same node, later in the activity. Up to the loop of the instantaneous profiles, `early`,
nothing has touched these. -/
structure Carried (early : Prop) (node entry : Entry) : Prop where
  mac : entry.mac = node.mac
  missingInfo : entry.missingInfo = node.missingInfo
  address : entry.node.nodeMacAddress = node.node.nodeMacAddress
  ip : early -> entry.node.missingIpCycles = node.node.missingIpCycles /\
    entry.node.profileData.instantaneousProfile = node.node.profileData.instantaneousProfile

theorem carried_refl (early : Prop) (node : Entry) : Carried early node node :=
  ⟨rfl, rfl, rfl, fun _ => ⟨rfl, rfl⟩⟩

theorem Carried.trans {early later : Prop} {node entry last : Entry} (carried : Carried early node entry)
    (behind : Carried later entry last) : Carried (early /\ later) node last where
  mac := behind.mac.trans carried.mac
  missingInfo := behind.missingInfo.trans carried.missingInfo
  address := behind.address.trans carried.address
  ip both := ⟨(behind.ip both.2).1.trans (carried.ip both.1).1,
    (behind.ip both.2).2.trans (carried.ip both.1).2⟩

/-- What a loop takes care of is what was missing in the beginning. -/
theorem Carried.due {early : Prop} {node entry : Entry} (carried : Carried early node entry)
    (phase : Phase) (known : phase = .instantaneous -> early) : entry.due phase = node.due phase := by
  cases phase with
  | instantaneous => simp [Entry.due, (carried.ip (known rfl)).1]
  | unsilence => simp [Entry.due, carried.missingInfo]
  | firmwareVersion => simp [Entry.due, carried.missingInfo]
  | nameplate => simp [Entry.due, carried.missingInfo]
  | dailyLoad => simp [Entry.due, carried.missingInfo]
  | blockLoad => simp [Entry.due, carried.missingInfo]
  | billingHistory => simp [Entry.due, carried.missingInfo]

/-- A turn of a loop and the one that was planned in the beginning. -/
def Since (turn current : Phase × Entry) : Prop :=
  current.1 = turn.1 /\ exists early, Carried early turn.2 current.2 /\ (turn.1 = .instantaneous -> early)

theorem since_refl (turn : Phase × Entry) : Since turn turn :=
  ⟨rfl, True, carried_refl True turn.2, fun _ => trivial⟩

theorem Served.since {turn current : Phase × Entry} {visit : Visit} (served : Served current visit)
    (since : Since turn current) : Served turn visit := by
  obtain ⟨same, early, carried, known⟩ := since
  constructor
  next => exact served.phase.trans same
  next => exact served.mac.trans carried.mac
  next =>
    have due := served.due
    rwa [same, carried.due turn.1 known] at due
  next => exact carried.mac ▸ served.sound

/-- What the programs of the scalar profiles do to the activity. -/
structure ScalarFrame (rel : Activity -> Activity -> Prop) : Prop where
  refl : forall activity, rel activity activity
  trans : forall first second third, rel first second -> rel second third -> rel first third
  client : forall (A : Type) (prog : Prog Client A), Respects rel (onClient prog)
  scalar : forall code, Respects rel (noteScalar code)
  pop : Respects rel popMeter

structure ActivityFrame (rel : Activity -> Activity -> Prop) : Prop extends ScalarFrame rel where
  goesOn : Respects rel goesOn
  note : forall visit, Respects rel (noteVisit visit)

section Frames

variable {rel : Activity -> Activity -> Prop}

theorem ScalarFrame.pull (frame : ScalarFrame rel) (fuel : Nat) (meter : MeterDetails) :
    Respects rel (pullScalar fuel meter) := by
  apply respects_bind frame.trans (respects_observe frame.refl _)
  intro texts
  split
  next =>
    apply respects_bind frame.trans (frame.client _ _)
    intro ret
    apply respects_bind frame.trans (frame.scalar _)
    intro _
    split
    next => exact respects_pure frame.refl _
    next => exact respects_observe frame.refl _
  next => exact respects_pure frame.refl _

theorem ScalarFrame.turns (frame : ScalarFrame rel) (fuel : Nat) (meters : List MeterDetails) :
    Respects rel (pullScalarTurns fuel meters) := by
  induction meters with
  | nil => exact respects_pure frame.refl _
  | cons meter rest ih =>
    apply respects_bind frame.trans (frame.pull fuel meter)
    intro more
    split
    next => exact respects_bind frame.trans frame.pop fun _ => ih
    next => exact respects_pure frame.refl _

theorem ScalarFrame.pulls (frame : ScalarFrame rel) (fuel : Nat) : Respects rel (pullScalarProfile fuel) :=
  respects_bind frame.trans (respects_observe frame.refl _) (frame.turns fuel)

theorem ScalarFrame.scalars (frame : ScalarFrame rel) (fuel : Nat) (nodes : List Entry) :
    Respects rel (pullMissingScalars fuel nodes) := by
  apply respects_bind frame.trans (respects_observe frame.refl _)
  intro missing
  split
  next =>
    apply respects_bind frame.trans (frame.pulls fuel)
    intro ret
    split <;> exact respects_pure frame.refl _
  next => exact respects_pure frame.refl _

theorem ActivityFrame.visits (frame : ActivityFrame rel) (phase : Phase)
    (visit : Entry -> Prog Client (List Update)) (nodes : List Entry) :
    Respects rel (forAllNodes phase visit nodes) := by
  apply patrol_respects frame.refl frame.trans
  intro entry _
  apply respects_bind frame.trans
  next =>
    apply respects_bind frame.trans (frame.client _ _)
    intro _
    apply respects_bind frame.trans (frame.client _ _)
    intro _
    exact respects_bind frame.trans (respects_observe frame.refl _) fun _ => respects_pure frame.refl _
  intro outcome
  apply respects_bind frame.trans frame.goesOn
  intro more
  exact respects_bind frame.trans (frame.note _) fun _ => respects_pure frame.refl _

theorem ActivityFrame.onward (frame : ActivityFrame rel) {first : Prog Activity (Option (List Entry))}
    {next : List Entry -> Prog Activity (Option (List Entry))} (before : Respects rel first)
    (behind : forall nodes, Respects rel (next nodes)) :
    Respects rel (CycleActivity.onward first next) := by
  apply respects_bind frame.trans before
  intro outcome
  cases outcome with
  | some nodes => exact behind nodes
  | none => exact respects_pure frame.refl _

theorem ActivityFrame.pullsAll (frame : ActivityFrame rel) (fuel : Nat) (nodes : List Entry) :
    Respects rel (pullMissingInfoForAllNodes fuel nodes) := by
  apply respects_bind frame.trans
  next =>
    apply frame.onward (frame.visits _ _ _)
    intro _
    apply frame.onward (frame.visits _ _ _)
    intro _
    apply frame.onward (frame.visits _ _ _)
    intro _
    apply frame.onward (frame.scalars fuel _)
    intro _
    apply frame.onward (frame.visits _ _ _)
    intro _
    apply frame.onward (frame.visits _ _ _)
    intro _
    apply frame.onward (frame.visits _ _ _)
    exact fun _ => frame.visits _ _ _
  intro outcome
  exact respects_bind frame.trans (frame.client _ _) fun _ => respects_pure frame.refl _

end Frames

theorem sameVisits_frame : ScalarFrame fun before after => after.visits = before.visits where
  refl _ := rfl
  trans _ _ _ before behind := behind.trans before
  client _ _ _ := rfl
  scalar _ _ := rfl
  pop _ := rfl

/-- A program of the client passes nothing to the database by itself. -/
theorem onClient_returns {A : Type} {prog : Prog Client A} {pre : Client -> Prop}
    {post : A -> Client -> Prop} (returns : Returns pre prog post) {rest : Activity -> Prop}
    (same : forall activity client, rest activity -> rest { activity with client := client }) :
    Triple rest (fun activity => rest activity /\ pre activity.client) (onClient prog)
      fun result activity => rest activity /\ post result activity.client := by
  intro activity known
  have outcome := returns activity.client known.2
  unfold onClient
  cases ran : prog activity.client with
  | mk result last =>
    rw [ran] at outcome
    cases result with
    | none => exact same activity last known.1
    | some result => exact ⟨same activity last known.1, outcome⟩

theorem goesOn_keeps {wait : Activity -> Prop} (known : List Visit -> Client -> Prop) :
    Triple wait (fun activity => known activity.visits activity.client) goesOn
      fun _ activity => known activity.visits activity.client := by
  intro activity holds
  by_cases connected : activity.client.gateway.status = .connected <;>
    simpa [goesOn, connected] using holds

section Loops

variable {phase : Phase} {visit : Entry -> Prog Client (List Update)}

/-- What a visit needs to leave what it should, from the node of its entry on. -/
abbrev Serves (phase : Phase) (visit : Entry -> Prog Client (List Update)) (entry : Entry) : Prop :=
  Returns (fun client => client.pull.node = entry.node) (visit entry) (VisitDone phase entry)

theorem onNode_done {entry : Entry} (serves : Serves phase visit entry) (visits : List Visit) :
    Triple (fun activity => activity.visits = visits) (fun activity => activity.visits = visits)
      (onNode entry (visit entry)) fun outcome activity => activity.visits = visits /\
        VisitDone phase entry outcome.1 activity.client /\
        outcome.2 = { entry with node := activity.client.pull.node } := by
  apply triple_bind fun _ activity => activity.visits = visits /\
    activity.client.pull.node = entry.node
  next => exact fun activity same => ⟨same, rfl⟩
  intro _
  apply triple_bind _ (onClient_returns serves fun _ _ same => same)
  intro result
  exact fun activity known => ⟨known.1, known.2, rfl⟩

theorem visitNode_served {entry : Entry} (serves : Serves phase visit entry)
    (turns : List (Phase × Entry)) :
    Triple (fun activity => AllServed turns activity.visits)
      (fun activity => AllServed turns activity.visits) (visitNode phase visit entry)
      (afterVisit (fun activity => AllServed (turns ++ [(phase, entry)]) activity.visits)
        (fun activity => BrokenOff (turns ++ [(phase, entry)]) activity.visits)
        (Carried (phase ≠ .instantaneous) entry)) := by
  intro activity all
  -- with the visits in front fixed, a visit that waits leaves them as they are
  have visited : Triple (fun after => after.visits = activity.visits)
      (fun after => after.visits = activity.visits) (visitNode phase visit entry)
      (afterVisit (fun after => AllServed (turns ++ [(phase, entry)]) after.visits)
        (fun after => BrokenOff (turns ++ [(phase, entry)]) after.visits)
        (Carried (phase ≠ .instantaneous) entry)) := by
    apply triple_bind _ (onNode_done serves activity.visits)
    intro outcome
    split
    next updates entry' =>
    apply triple_bind _ (goesOn_keeps fun visits client => visits = activity.visits /\
      VisitDone phase entry updates client /\ entry' = { entry with node := client.pull.node })
    intro more
    apply triple_bind fun _ after => after.visits = activity.visits ++ [{
        phase := phase, entry := entry, updates := updates, goesOn := more }] /\
      exists client, VisitDone phase entry updates client /\
        entry' = { entry with node := client.pull.node }
    next => exact fun after known => ⟨congrArg (· ++ _) known.1, after.client, known.2⟩
    intro _
    apply triple_pure
    intro after known
    obtain ⟨noted, client, done, rfl⟩ := known
    have served : Served (phase, entry) {
        phase := phase, entry := entry, updates := updates, goesOn := more } :=
      ⟨rfl, rfl, done.due, done.sound⟩
    -- the loop goes on exactly when the gateway is still connected
    cases more with
    | true =>
      have more : AllServed (turns ++ [(phase, entry)]) after.visits := by
        rw [noted]
        exact allServed_append all served rfl
      exact ⟨⟨rfl, rfl, done.mac, done.ip⟩, more⟩
    | false =>
      have ended : BrokenOff (turns ++ [(phase, entry)]) after.visits := by
        rw [noted]
        exact brokenOff_append all served rfl
      exact ended
  exact (visited.waits fun after same => same ▸ all) activity rfl

/-- The visits so far are the first ones of the plan. -/
def Cut (whole : List (Phase × Entry)) (activity : Activity) : Prop :=
  exists turns, turns <+: whole /\ AllServed turns activity.visits

theorem Cut.longer {whole longer : List (Phase × Entry)} {activity : Activity} (cut : Cut whole activity)
    (inside : whole <+: longer) : Cut longer activity := by
  obtain ⟨turns, first, served⟩ := cut
  exact ⟨turns, first.trans inside, served⟩

/-- What a loop leaves behind the turns in front of it. -/
def afterLoop (phase : Phase) (early : Prop) (nodes : List Entry) (turns : List (Phase × Entry)) :
    Option (List Entry) -> Activity -> Prop
  | some visited, activity =>
    List.Forall₂ (Carried (early /\ phase ≠ .instantaneous)) nodes visited /\
      AllServed (turns ++ phase.turns nodes) activity.visits
  | none, activity => exists done, done <+: turns ++ phase.turns nodes /\ BrokenOff done activity.visits

variable {early : Prop} {nodes current : List Entry}

/-- The turns of a loop are those of the nodes in the beginning. -/
theorem turns_since (carried : List.Forall₂ (Carried early) nodes current)
    (known : phase = .instantaneous -> early) (turns : List (Phase × Entry)) :
    List.Forall₂ Since (turns ++ phase.turns nodes) (turns ++ phase.turns current) := by
  have here : List.Forall₂ Since (phase.turns nodes) (phase.turns current) :=
    List.rel_map (fun _ _ carried => ⟨rfl, early, carried, known⟩) carried
  exact List.rel_append (List.forall₂_same.mpr fun turn _ => since_refl turn) here

theorem carried_prefix (carried : List.Forall₂ (Carried early) nodes current) {done : List Entry}
    (inside : done <+: current) :
    exists first, first <+: nodes /\ List.Forall₂ (Carried early) first done := by
  refine ⟨nodes.take done.length, List.take_prefix _ _, ?_⟩
  rw [List.prefix_iff_eq_take.mp inside, List.length_take_of_le inside.length_le]
  exact List.forall₂_take done.length carried

theorem turns_prefix {done nodes : List Entry} (inside : done <+: nodes) (phase : Phase)
    (turns : List (Phase × Entry)) : turns ++ phase.turns done <+: turns ++ phase.turns nodes :=
  (List.prefix_append_right_inj turns).mpr (inside.map _)

theorem forAllNodes_served (carried : List.Forall₂ (Carried early) nodes current)
    (known : phase = .instantaneous -> early)
    (serves : ∀ entry ∈ current, Serves phase visit entry) (turns : List (Phase × Entry)) :
    Triple (Cut (turns ++ phase.turns nodes)) (fun activity => AllServed turns activity.visits)
      (forAllNodes phase visit current) (afterLoop phase early nodes turns) := by
  -- a loop that waits has served the turns of the nodes that it got to
  have waits : forall done activity, done <+: current ->
      AllServed (turns ++ phase.turns done) activity.visits ->
      Cut (turns ++ phase.turns nodes) activity := by
    intro done activity inside all
    obtain ⟨first, begins, since⟩ := carried_prefix carried inside
    refine ⟨_, turns_prefix begins phase turns, ?_, all.goesOn⟩
    exact forall₂_trans (fun _ _ _ since served => served.since since)
      (turns_since since known turns) all.served
  apply Triple.weaken (triple_patrol (visitNode phase visit)
    (fun done activity => AllServed (turns ++ phase.turns done) activity.visits)
    (fun done activity => BrokenOff (turns ++ phase.turns done) activity.visits)
    (Carried (phase ≠ .instantaneous)) current ?turn)
  case turn =>
    intro front entry inside
    -- the invariant of the loop is over the nodes in front
    have grown : turns ++ phase.turns (front ++ [entry]) = turns ++ phase.turns front ++ [(phase, entry)] := by
      simp [Phase.turns]
    rw [grown]
    apply Triple.waits (visitNode_served (serves entry (inside.subset (by simp))) _)
    intro activity all
    exact waits front activity ((List.prefix_append front [entry]).trans inside) all
  next =>
    intro activity all
    simpa [Phase.turns] using all
  next =>
    intro outcome activity ended
    cases outcome with
    | some visited =>
      obtain ⟨same, all⟩ := ended
      refine ⟨forall₂_trans (fun _ _ _ carried behind => carried.trans behind) carried same, ?_, all.goesOn⟩
      exact forall₂_trans (fun _ _ _ since served => served.since since)
        (turns_since carried known turns) all.served
    | none =>
      obtain ⟨front, entry, inside, broken⟩ := ended
      obtain ⟨first, begins, since⟩ := carried_prefix carried inside
      refine ⟨_, turns_prefix begins phase turns, ?_, broken.goesOn, broken.last⟩
      exact forall₂_trans (fun _ _ _ since served => served.since since)
        (turns_since since known turns) broken.served

end Loops

/-- A node as it enters the map. -/
structure Fresh (node : Entry) : Prop where
  address : node.node.nodeMacAddress = node.mac
  empty : Profile.contents .instantaneous node.node.profileData = Profile.empty .instantaneous

section Phases

variable {early : Prop} {node entry : Entry}

theorem Carried.address_own (carried : Carried early node entry) (fresh : Fresh node) :
    entry.node.nodeMacAddress = entry.mac := by
  rw [carried.address, fresh.address, carried.mac]

theorem Carried.still_empty (carried : Carried early node entry) (fresh : Fresh node) (known : early) :
    Profile.contents .instantaneous entry.node.profileData = Profile.empty .instantaneous := by
  have same := (carried.ip known).2
  rw [<- fresh.empty]
  simp [Profile.contents, same]

theorem visited_node {client : Client} (same : client.pull.node = entry.node) : Visited entry client :=
  ⟨congrArg NodeInfo.fixed same, by simp [PullState.ipBuffer, same]⟩

theorem serves_of_visited {phase : Phase} {visit : Entry -> Prog Client (List Update)}
    (done : Returns (Visited entry) (visit entry) (VisitDone phase entry)) : Serves phase visit entry :=
  done.weaken (fun _ same => visited_node same) fun _ _ done => done

/-- What a visit in the loop of a phase needs. -/
abbrev PhaseServes (phase : Phase) (visit : Entry -> Prog Client (List Update)) : Prop :=
  forall (early : Prop) (node entry : Entry), Fresh node -> Carried early node entry ->
    (phase = .instantaneous -> early) -> Serves phase visit entry

theorem unsilence_serves (fuel : Nat) : PhaseServes .unsilence (unsilenceNode fuel) :=
  fun _ _ entry _ _ _ => serves_of_visited (unsilenceNode_done fuel entry)

theorem firmwareVersion_serves (fuel : Nat) :
    PhaseServes .firmwareVersion (pullMissingInternalFirmwareVersion fuel) :=
  fun _ _ entry _ _ _ => serves_of_visited (pullMissingInternalFirmwareVersion_done fuel entry)

theorem paged_serves (fuel : Nat) {profile : Profile} {available : MissingInfo -> Bool} {phase : Phase}
    (paged : PagedPhase profile available phase) :
    PhaseServes phase (pullMissingProfile fuel profile available) :=
  fun _ _ entry fresh carried _ =>
    serves_of_visited (pullMissingProfile_done fuel paged entry (carried.address_own fresh))

theorem instantaneous_serves (fuel : Nat) :
    PhaseServes .instantaneous (pullMissingIpProfile fuel) :=
  fun _ _ entry fresh carried known => pullMissingIpProfile_done fuel entry
    (carried.address_own fresh) (carried.still_empty fresh (known rfl))

end Phases

def planOf (front : List Phase) (nodes : List Entry) : List (Phase × Entry) :=
  front.flatMap fun phase => phase.turns nodes

theorem planOf_append (front : List Phase) (phase : Phase) (nodes : List Entry) :
    planOf (front ++ [phase]) nodes = planOf front nodes ++ phase.turns nodes := by
  simp [planOf]

theorem planOf_begins {front : List Phase} (inside : front <+: phases) (nodes : List Entry) :
    planOf front nodes <+: plan nodes := by
  obtain ⟨behind, whole⟩ := inside
  exact ⟨planOf behind nodes, by simp [plan, planOf, <- whole]⟩

/-- The loops in front of the scalar profiles. -/
def beforeScalars : List Phase := [.unsilence, .firmwareVersion, .nameplate]

/-- How the activity fails: a visit did not go on, or the gateway was lost between the loops. -/
def Failed (nodes : List Entry) (activity : Activity) : Prop :=
  (exists turns, turns <+: plan nodes /\ BrokenOff turns activity.visits) \/
    (AllServed (planOf beforeScalars nodes) activity.visits /\
      activity.client.gateway.status ≠ .connected)

/-- Behind the loops of `front`. -/
def afterPhases (nodes : List Entry) (front : List Phase) : Option (List Entry) -> Activity -> Prop
  | some current, activity => List.Forall₂ (Carried (.instantaneous ∉ front)) nodes current /\
      AllServed (planOf front nodes) activity.visits
  | none, activity => Failed nodes activity

section Composition

variable {nodes current : List Entry} {front : List Phase} {phase : Phase}

theorem phase_served {visit : Entry -> Prog Client (List Update)} (serves : PhaseServes phase visit)
    (fresh : ∀ node ∈ nodes, Fresh node) (inside : front ++ [phase] <+: phases) (once : phase ∉ front) :
    Triple (Cut (plan nodes)) (afterPhases nodes front (some current)) (forAllNodes phase visit current)
      (afterPhases nodes (front ++ [phase])) := by
  apply triple_known
  intro carried
  have known : phase = .instantaneous -> .instantaneous ∉ front := fun same => same ▸ once
  have each : ∀ entry ∈ current, Serves phase visit entry := by
    intro entry inside
    obtain ⟨node, other, same⟩ := forall₂_front carried entry inside
    exact serves _ node entry (fresh node other) same known
  have planned := planOf_begins inside nodes
  rw [planOf_append] at planned
  apply Triple.waits _ fun activity cut => Cut.longer cut planned
  apply (forAllNodes_served carried known each (planOf front nodes)).weaken fun _ all => all
  intro outcome activity ended
  cases outcome with
  | some visited =>
    constructor
    next =>
      apply ended.1.imp
      intro node entry same
      -- from the loop of the instantaneous profiles on, nothing is known of their buffers
      exact ⟨same.mac, same.missingInfo, same.address, fun left => same.ip (by simpa [eq_comm] using left)⟩
    next =>
      rw [planOf_append]
      exact ended.2
  | none =>
    obtain ⟨done, first, broken⟩ := ended
    exact Or.inl ⟨done, first.trans planned, broken⟩

theorem triple_onward {wait pre : Activity -> Prop} {first : Prog Activity (Option (List Entry))}
    {next : List Entry -> Prog Activity (Option (List Entry))}
    {middle post : Option (List Entry) -> Activity -> Prop}
    (before : Triple wait pre first middle)
    (broken : forall activity, middle none activity -> post none activity)
    (behind : forall nodes, Triple wait (middle (some nodes)) (next nodes) post) :
    Triple wait pre (onward first next) post := by
  apply triple_bind _ before
  intro outcome
  cases outcome with
  | some nodes => exact behind nodes
  | none => exact triple_pure none broken

/-- The scalar profiles fail when the gateway is gone, and in no other way. -/
theorem pullScalarTurns_failure (fuel : Nat) (meters : List MeterDetails) :
    Returns (fun _ => True) (pullScalarTurns fuel meters) fun ret activity =>
      ret = .failure -> activity.client.gateway.status ≠ .connected := by
  have turn (meter : MeterDetails) : Returns (fun _ => True) (pullScalar fuel meter)
      fun more activity => more = false -> activity.client.gateway.status ≠ .connected := by
    apply triple_bind _ (returns_trivial _ _)
    intro texts
    split
    next =>
      apply triple_bind _ (returns_trivial _ _)
      intro ret
      apply triple_bind _ (returns_trivial _ _)
      intro _
      split
      next => exact triple_pure _ (by simp)
      next => exact triple_observe _ (by simp)
    next => exact triple_pure _ (by simp)
  induction meters with
  | nil => exact triple_pure _ (by simp)
  | cons meter rest ih =>
    apply triple_bind _ (turn meter)
    intro more
    cases more with
    | true => exact triple_bind _ (returns_trivial _ _) fun _ => ih
    | false => exact triple_pure _ fun _ known _ => known rfl

theorem pullMissingScalars_served (fuel : Nat) :
    Triple (Cut (plan nodes)) (afterPhases nodes beforeScalars (some current))
      (pullMissingScalars fuel current) (afterPhases nodes beforeScalars) := by
  -- the scalar profiles make no visit, so that the plan is where it was
  have cut {activity : Activity} (known : afterPhases nodes beforeScalars (some current) activity) :
      Cut (plan nodes) activity := ⟨_, planOf_begins (by decide) nodes, known.2⟩
  have carries {before after : Activity} (same : after.visits = before.visits)
      (known : afterPhases nodes beforeScalars (some current) before) :
      afterPhases nodes beforeScalars (some current) after := ⟨known.1, same ▸ known.2⟩
  apply triple_bind fun _ => afterPhases nodes beforeScalars (some current)
  next => exact fun _ known => known
  intro missing
  split
  next =>
    have failing : Returns (fun _ => True) (pullScalarProfile fuel) fun ret activity =>
        ret = .failure -> activity.client.gateway.status ≠ .connected :=
      triple_bind _ (returns_trivial _ _) (pullScalarTurns_failure fuel)
    have pulled : Triple (Cut (plan nodes)) (afterPhases nodes beforeScalars (some current))
        (pullScalarProfile fuel) fun ret activity =>
          afterPhases nodes beforeScalars (some current) activity /\
            (ret = .failure -> activity.client.gateway.status ≠ .connected) := by
      apply Triple.and
      next =>
        apply Respects.invariant _ fun _ known => cut known
        exact fun activity known => carries (sameVisits_frame.pulls fuel activity) known
      next => exact failing.weaken (fun _ _ => trivial) fun _ _ known => known
    apply triple_bind _ pulled
    intro ret
    split
    next failed =>
      exact triple_pure none fun _ known => Or.inr ⟨known.1.2, known.2 failed⟩
    next => exact triple_pure (some current) fun _ known => known.1
  next => exact triple_pure (some current) fun _ known => known

theorem allPhases_served (fuel : Nat) (fresh : ∀ node ∈ nodes, Fresh node) :
    Triple (Cut (plan nodes)) (fun activity => activity.visits = []) (allPhases fuel nodes)
      (afterPhases nodes phases) := by
  have daily : PagedPhase .dailyLoad MissingInfo.isDlpAvailable .dailyLoad := ⟨by decide, fun _ => rfl⟩
  have block : PagedPhase .blockLoad MissingInfo.isBlpAvailable .blockLoad := ⟨by decide, fun _ => rfl⟩
  have billing : PagedPhase .billingHistory MissingInfo.isBhpAvailable .billingHistory :=
    ⟨by decide, fun _ => rfl⟩
  have nameplate : PagedPhase .nameplate MissingInfo.isNamePlateAvailable .nameplate :=
    ⟨by decide, fun _ => rfl⟩
  -- each loop is put behind the ones in front of it, and a broken one ends them all
  have first : Triple (Cut (plan nodes)) (afterPhases nodes [] (some nodes))
      (unsilenceAllNodes fuel nodes) (afterPhases nodes [.unsilence]) :=
    phase_served (unsilence_serves fuel) fresh (by decide) (by decide)
  have begun {activity : Activity} (none : activity.visits = []) :
      afterPhases nodes [] (some nodes) activity :=
    ⟨List.forall₂_same.mpr fun node _ => carried_refl _ node, by simp [none, planOf], by simp [none]⟩
  have broken {front : List Phase} (activity : Activity) (failed : afterPhases nodes front none activity) :
      afterPhases nodes phases none activity := failed
  apply triple_onward (first.weaken (fun _ none => begun none) fun _ _ ended => ended) broken
  intro current
  apply triple_onward (phase_served (firmwareVersion_serves fuel) fresh (by decide) (by decide)) broken
  intro current
  apply triple_onward (phase_served (paged_serves fuel nameplate) fresh (by decide) (by decide)) broken
  intro current
  apply triple_onward (pullMissingScalars_served fuel) broken
  intro current
  apply triple_onward (phase_served (instantaneous_serves fuel) fresh (by decide) (by decide)) broken
  intro current
  apply triple_onward (phase_served (paged_serves fuel daily) fresh (by decide) (by decide)) broken
  intro current
  apply triple_onward (phase_served (paged_serves fuel block) fresh (by decide) (by decide)) broken
  intro current
  exact phase_served (paged_serves fuel billing) fresh (by decide) (by decide)

/-- What the activity leaves when it returns. -/
def Outcome (nodes : List Entry) (ret : Code) (activity : Activity) : Prop :=
  (ret = .success /\ AllServed (plan nodes) activity.visits) \/ (ret = .failure /\ Failed nodes activity)

theorem pullMissingInfoForAllNodes_served (fuel : Nat) (fresh : ∀ node ∈ nodes, Fresh node) :
    Triple (Cut (plan nodes)) (fun activity => activity.visits = [])
      (pullMissingInfoForAllNodes fuel nodes) (Outcome nodes) := by
  apply triple_bind _ (allPhases_served fuel fresh)
  intro outcome
  apply triple_bind fun _ => afterPhases nodes phases outcome
  next =>
    cases outcome with
    | some visited => exact fun _ known => known
    | none => exact fun _ known => known
  intro _
  apply triple_pure
  intro activity known
  cases outcome with
  | some visited => exact Or.inl ⟨rfl, known.2⟩
  | none => exact Or.inr ⟨rfl, known⟩

end Composition

end Hes.CycleActivity
