import Hes.Lib.Recent
import Hes.MqttRouting

set_option autoImplicit false

namespace Hes.Mqtt

open Text Recent

/-- A message as the client of one gateway receives it. -/
structure Published where
  gatewayId : Bytes
  payload : Bytes
  deriving DecidableEq, Repr

def commandsSent (sent : List Published) : List (Bytes × Bytes) :=
  sent.flatMap fun message => (commandsOf message.payload).map fun cmd => (message.gatewayId, cmd)

/-- A command that was validated, with the ids in front of it and behind it. -/
structure Handled where
  gatewayId : Bytes
  cmd : Bytes
  seen : SeenIds
  entry : Produced
  after : SeenIds
  deriving DecidableEq, Repr

def Handled.parts (record : Handled) : List Bytes := explode colon record.cmd

def Handled.id (record : Handled) : Bytes := part record.parts 0

def Handled.Failed (record : Handled) : Prop := record.entry = .failed record.cmd

def Handled.isAccepted (record : Handled) : Bool :=
  record.entry = .odm record.cmd || record.entry = .fuota record.cmd

/-- The three lists of ids, by the download types that use them. -/
inductive IdClass where
  | ping
  | firmware
  | other
  deriving DecidableEq, Repr

def idClass (downloadType : Bytes) : IdClass :=
  if isPing downloadType then .ping
  else if downloadType = ascii "27" then .firmware
  else .other

def SeenIds.ofClass (seen : SeenIds) : IdClass -> List Bytes
  | .ping => seen.specialReqIds
  | .firmware => seen.fuotaReqIds
  | .other => seen.globalSeenReqIds

def Handled.idClass (record : Handled) : IdClass := Mqtt.idClass (part record.parts 4)

/-- The commands in their order; one that throws ends the run. -/
def handled : SeenIds -> List (Bytes × Bytes) -> List Handled
  | _, [] => []
  | seen, (gatewayId, cmd) :: rest =>
    match produce gatewayId seen cmd with
    | .error _ => []
    | .ok (entry, after) =>
      { gatewayId := gatewayId, cmd := cmd, seen := seen, entry := entry, after := after } ::
        handled after rest

/-- How many commands of a class are accepted. -/
def acceptedOf (kind : IdClass) (records : List Handled) : Nat :=
  (records.filter fun record => record.isAccepted && record.idClass = kind).length

structure NoTrace (records : List Handled) : Prop where
  failed : ∀ record ∈ records, record.Failed -> record.after = record.seen
  rejected : forall front first between later back,
    records = front ++ first :: (between ++ later :: back) -> first.isAccepted = true ->
    later.id = first.id -> later.idClass = first.idClass -> acceptedOf first.idClass between < 2 ->
    later.Failed

/-- What is checked behind the id. -/
def laterFieldsValid (gatewayId : Bytes) (parts : List Bytes) : Bool :=
  gatewayMatches gatewayId parts && destMatches gatewayId parts &&
    decide (part parts 4 ∈ allowedCmds) && decide (validateCommand parts = .ok true) &&
    pingFieldValid parts 6 && pingFieldValid parts 7

/-- No command with a new id of digits is wrong in a field behind its id. -/
def RememberedValid (records : List Handled) : Prop :=
  ∀ record ∈ records, ¬ Cancels record.cmd -> idRemembered record.seen record.parts = true ->
    laterFieldsValid record.gatewayId record.parts = true

instance (cmd : Bytes) : Decidable (Cancels cmd) := by
  unfold Cancels
  infer_instance

theorem target_ofClass (seen : SeenIds) (downloadType : Bytes) :
    seen.target downloadType = seen.ofClass (idClass downloadType) := by
  unfold SeenIds.target idClass
  split
  next => rfl
  next =>
    split
    next => rfl
    next => rfl

theorem insert_ofClass (seen : SeenIds) (downloadType id : Bytes) (kind : IdClass) :
    (seen.insert downloadType id).ofClass kind =
      if kind = idClass downloadType then push 2 (seen.ofClass kind) id else seen.ofClass kind := by
  unfold SeenIds.insert idClass
  split
  next => cases kind <;> rfl
  next =>
    split
    next => cases kind <;> rfl
    next => cases kind <;> rfl

theorem accepted_fields_valid (gatewayId : Bytes) (seen : SeenIds) (parts : List Bytes) :
    accepted gatewayId seen parts = true <->
      idRemembered seen parts = true /\ laterFieldsValid gatewayId parts = true := by
  unfold accepted reachesCommand idRemembered laterFieldsValid
  cases checked : validateCommand parts with
  | error fault => simp
  | ok matched =>
    simp only [Bool.and_eq_true, decide_eq_true_eq, Except.ok.injEq]
    tauto

/-- What a command that is no cancellation leaves. -/
theorem produce_cases (gatewayId : Bytes) (seen after : SeenIds) (cmd : Bytes) (entry : Produced)
    (other : ¬ Cancels cmd) (produced : produce gatewayId seen cmd = .ok (entry, after)) :
    accepted gatewayId seen (explode colon cmd) = true /\ entry = .odm cmd \/
      accepted gatewayId seen (explode colon cmd) = false /\ entry = .failed cmd := by
  unfold Cancels at other
  unfold produce at produced
  simp only [other, if_false] at produced
  split at produced
  next reached =>
    cases checked : validateCommand (explode colon cmd) with
    | error fault => simp [checked, bind, Except.bind] at produced
    | ok matched =>
      simp only [checked, bind, Except.bind, pure, Except.pure] at produced
      have result : accepted gatewayId seen (explode colon cmd) =
          (matched && pingFieldValid (explode colon cmd) 6 &&
            pingFieldValid (explode colon cmd) 7) := by
        simp [accepted, reached, checked]
      split at produced
      next passes =>
        have valid : validateCommand (explode colon cmd) = .ok true := by
          rw [checked]
          simp_all
        rw [enqueue_odm _ cmd valid] at produced
        simp only [Except.ok.injEq, Prod.mk.injEq] at produced
        exact Or.inl ⟨result.trans passes, produced.1.symm⟩
      next fails =>
        simp only [Except.ok.injEq, Prod.mk.injEq] at produced
        refine Or.inr ⟨?_, produced.1.symm⟩
        rw [result]
        simpa using fails
  next unreached =>
    simp only [Except.ok.injEq, Prod.mk.injEq] at produced
    refine Or.inr ⟨?_, produced.1.symm⟩
    simp [accepted, unreached]

def Handled.Proper (record : Handled) : Prop :=
  produce record.gatewayId record.seen record.cmd = .ok (record.entry, record.after)

theorem Handled.Proper.failed_iff {record : Handled} (proper : record.Proper)
    (other : ¬ Cancels record.cmd) :
    record.Failed <-> accepted record.gatewayId record.seen record.parts = false := by
  rcases produce_cases _ _ _ _ _ other proper with ⟨accept, entry⟩ | ⟨reject, entry⟩
  next => simp [Handled.Failed, Handled.parts, accept, entry]
  next => simp [Handled.Failed, Handled.parts, reject, entry]

theorem Handled.Proper.isAccepted_iff {record : Handled} (proper : record.Proper)
    (other : ¬ Cancels record.cmd) :
    record.isAccepted = accepted record.gatewayId record.seen record.parts := by
  rcases produce_cases _ _ _ _ _ other proper with ⟨accept, entry⟩ | ⟨reject, entry⟩
  next => simp [Handled.isAccepted, Handled.parts, accept, entry]
  next => simp [Handled.isAccepted, Handled.parts, reject, entry]

theorem Handled.Proper.cancelled {record : Handled} (proper : record.Proper)
    (cancel : Cancels record.cmd) :
    record.isAccepted = false /\ ¬ record.Failed /\ record.after = record.seen := by
  unfold Handled.Proper produce at proper
  unfold Cancels at cancel
  simp only [cancel, if_true, Except.ok.injEq, Prod.mk.injEq] at proper
  simp [Handled.isAccepted, Handled.Failed, <- proper.1, proper.2]

/-- One command adds its id to the list of its class, if it gets as far as being remembered. -/
theorem Handled.Proper.ofClass {record : Handled} (proper : record.Proper) (kind : IdClass) :
    record.after.ofClass kind =
      if ¬ Cancels record.cmd /\ idRemembered record.seen record.parts = true /\
          kind = record.idClass then push 2 (record.seen.ofClass kind) record.id
      else record.seen.ofClass kind := by
  rw [produce_after _ _ _ _ _ proper]
  unfold seenAfter
  by_cases cancel : Cancels record.cmd
  next =>
    have first : part (explode colon record.cmd) 0 = ascii "CANCEL" := cancel
    simp [first, cancel]
  next =>
    have first : ¬ part (explode colon record.cmd) 0 = ascii "CANCEL" := cancel
    cases remembered : idRemembered record.seen (explode colon record.cmd) with
    | true =>
      simp only [first, if_false, remembered, if_true, insert_ofClass, cancel, not_false_eq_true,
        true_and, Handled.parts]
      rfl
    | false => simp [first, remembered, cancel, Handled.parts]

theorem handled_split (seen : SeenIds) (cmds : List (Bytes × Bytes)) (front rest : List Handled)
    (record : Handled) (run : handled seen cmds = front ++ record :: rest) :
    record.Proper /\ exists later, rest = handled record.after later := by
  induction cmds generalizing seen front with
  | nil => simp [handled] at run
  | cons command others ih =>
    obtain ⟨gatewayId, cmd⟩ := command
    unfold handled at run
    cases produced : produce gatewayId seen cmd with
    | error fault => simp [produced] at run
    | ok result =>
      simp only [produced] at run
      cases front with
      | nil =>
        obtain ⟨rfl, rfl⟩ := List.cons.inj run
        exact ⟨produced, others, rfl⟩
      | cons first front => exact ih _ _ (List.cons.inj run).2

theorem handled_proper (seen : SeenIds) (cmds : List (Bytes × Bytes)) (record : Handled)
    (inside : record ∈ handled seen cmds) : record.Proper := by
  obtain ⟨front, rest, run⟩ := List.append_of_mem inside
  exact (handled_split seen cmds front rest record run).1

theorem handled_seen (seen : SeenIds) (cmds : List (Bytes × Bytes)) (record : Handled)
    (rest : List Handled) (run : handled seen cmds = record :: rest) : record.seen = seen := by
  cases cmds with
  | nil => simp [handled] at run
  | cons command others =>
    obtain ⟨gatewayId, cmd⟩ := command
    unfold handled at run
    cases produced : produce gatewayId seen cmd with
    | error fault => simp [produced] at run
    | ok result =>
      simp only [produced] at run
      obtain ⟨rfl, -⟩ := List.cons.inj run
      rfl

theorem validated_handled (message : Published) (seen after : SeenIds) (entries : List Produced)
    (later : List Published)
    (validated : validateRequestIds message.gatewayId seen message.payload = .ok (entries, after)) :
    exists records, handled seen (commandsSent (message :: later)) =
        records ++ handled after (commandsSent later) /\ records.map Handled.entry = entries := by
  -- a message that is validated adds its entries, and the next one starts with the ids it left
  rw [commandsSent, List.flatMap_cons]
  unfold validateRequestIds at validated
  generalize commandsOf message.payload = cmds at validated
  induction cmds generalizing seen entries with
  | nil =>
    simp only [produceAll, Except.ok.injEq, Prod.mk.injEq] at validated
    obtain ⟨rfl, rfl⟩ := validated
    exact ⟨[], rfl, rfl⟩
  | cons cmd rest ih =>
    rw [produceAll] at validated
    obtain ⟨first, produced, validated⟩ := (ok_bind _ _ _).mp validated
    obtain ⟨others, remaining, validated⟩ := (ok_bind _ _ _).mp validated
    simp only [pure, Except.pure, Except.ok.injEq, Prod.mk.injEq] at validated
    obtain ⟨rfl, rfl⟩ := validated
    obtain ⟨records, run, same⟩ := ih first.2 others.1 remaining
    refine ⟨⟨message.gatewayId, cmd, seen, first.1, first.2⟩ :: records, ?_, ?_⟩
    next =>
      rw [List.map_cons, List.cons_append, handled, produced, List.cons_append]
      exact congrArg _ run
    next => rw [List.map_cons, same]

/-- Where every remembered command is accepted, only accepted ones push an id out. -/
theorem handled_recent (kind : IdClass) (id : Bytes) (between back : List Handled)
    (later : Handled) (seen : SeenIds) (cmds : List (Bytes × Bytes)) (age : Nat)
    (run : handled seen cmds = between ++ later :: back)
    (valid : RememberedValid (handled seen cmds)) (recent : Within (seen.ofClass kind) id age)
    (few : age + acceptedOf kind between ≤ 2) : id ∈ later.seen.ofClass kind := by
  induction between generalizing seen cmds age with
  | nil =>
    rw [handled_seen seen cmds later back run]
    exact recent.mem
  | cons record between ih =>
    obtain ⟨proper, others, rest⟩ := handled_split seen cmds [] _ record run
    have own : record.seen = seen := handled_seen seen cmds record _ run
    have inside : record ∈ handled seen cmds := by
      rw [run]
      exact List.mem_cons_self
    have onward : RememberedValid (handled record.after others) := by
      intro other among
      apply valid
      rw [run]
      exact List.mem_cons_of_mem _ (rest ▸ among)
    have step := proper.ofClass kind
    by_cases pushed : ¬ Cancels record.cmd /\ idRemembered record.seen record.parts = true /\
        kind = record.idClass
    next =>
      -- The command is remembered, so the condition makes it an accepted one of the class.
      obtain ⟨other, remembered, same⟩ := pushed
      have accept : record.isAccepted = true := by
        rw [proper.isAccepted_iff other]
        exact (accepted_fields_valid _ _ _).mpr ⟨remembered, valid record inside other remembered⟩
      have count : acceptedOf kind (record :: between) = acceptedOf kind between + 1 := by
        simp [acceptedOf, accept, same]
      rw [if_pos ⟨other, remembered, same⟩, own] at step
      apply ih record.after others (age + 1) rest.symm onward
      next =>
        rw [step]
        exact recent.push 2 _ (by omega)
      next => omega
    next =>
      have count : acceptedOf kind between ≤ acceptedOf kind (record :: between) :=
        ((List.sublist_cons_self record between).filter _).length_le
      rw [if_neg pushed, own] at step
      apply ih record.after others age rest.symm onward
      next => rw [step]; exact recent
      next => omega

theorem duplicate_failed (record : Handled) (proper : record.Proper) (other : ¬ Cancels record.cmd)
    (duplicate : record.id ∈ record.seen.ofClass record.idClass) : record.Failed := by
  rw [proper.failed_iff other]
  have known : isDuplicate record.seen record.parts = true := by
    rw [isDuplicate, target_ofClass, decide_eq_true_iff]
    exact duplicate
  simp [accepted, reachesCommand, known]

theorem rememberedValid_noTrace (seen : SeenIds) (cmds : List (Bytes × Bytes))
    (valid : RememberedValid (handled seen cmds)) : NoTrace (handled seen cmds) := by
  constructor
  next =>
    intro record inside failed
    have proper := handled_proper seen cmds record inside
    have after := produce_after _ _ _ _ _ proper
    by_cases cancel : Cancels record.cmd
    next => exact (proper.cancelled cancel).2.2
    next =>
      have first : ¬ part (explode colon record.cmd) 0 = ascii "CANCEL" := cancel
      have reject := (proper.failed_iff cancel).mp failed
      have forgotten : ¬ idRemembered record.seen (explode colon record.cmd) = true := by
        intro remembered
        have accept := (accepted_fields_valid _ _ _).mpr
          ⟨remembered, valid record inside cancel remembered⟩
        rw [Handled.parts] at reject
        simp [reject] at accept
      rw [after, seenAfter]
      simp [first, forgotten]
  next =>
    intro front first between later back run accept id kind few
    obtain ⟨proper, others, rest⟩ := handled_split seen cmds front _ first run
    have among : later ∈ handled seen cmds := by
      rw [run]
      simp
    have other : ¬ Cancels first.cmd := by
      intro cancel
      simp [(proper.cancelled cancel).1] at accept
    have remembered := ((accepted_fields_valid _ _ _).mp
      ((proper.isAccepted_iff other).symm.trans accept)).1
    have step := proper.ofClass first.idClass
    rw [if_pos ⟨other, remembered, rfl⟩] at step
    have onward : RememberedValid (handled first.after others) := by
      intro record inside
      apply valid
      rw [run, rest]
      exact List.mem_append_right _ (List.mem_cons_of_mem _ inside)
    have recent : Within (first.after.ofClass first.idClass) first.id 1 := by
      rw [step]
      exact push_within 2 _ _ (by omega)
    have known := handled_recent first.idClass first.id between back later first.after others 1
      rest.symm onward recent (by omega)
    apply duplicate_failed later (handled_proper seen cmds later among)
    next =>
      intro cancel
      exact other (by rw [Cancels] at cancel ⊢; exact id.symm.trans cancel)
    next => rw [id, kind]; exact known

theorem noTrace_rememberedValid (seen : SeenIds) (cmds : List (Bytes × Bytes))
    (clean : NoTrace (handled seen cmds)) : RememberedValid (handled seen cmds) := by
  -- an id that was remembered is found afterwards and was not before, so the lists differ
  intro record inside other remembered
  have proper := handled_proper seen cmds record inside
  by_contra wrong
  have reject : ¬ accepted record.gatewayId record.seen record.parts = true := by
    intro accept
    exact wrong ((accepted_fields_valid _ _ _).mp accept).2
  have failed := (proper.failed_iff other).mpr (by simpa using reject)
  have same := clean.failed record inside failed
  have step := proper.ofClass record.idClass
  rw [if_pos ⟨other, remembered, rfl⟩, same] at step
  have new : record.id ∉ record.seen.ofClass record.idClass := by
    simp only [idRemembered, isDuplicate, target_ofClass, Bool.and_eq_true,
      Bool.not_eq_true', decide_eq_false_iff_not] at remembered
    exact remembered.2
  exact push_new 2 _ _ (by omega) new step.symm

/-- Failed commands leave no trace exactly in the runs whose remembered commands are all valid. -/
theorem noTrace_iff (seen : SeenIds) (sent : List Published) :
    NoTrace (handled seen (commandsSent sent)) <->
      RememberedValid (handled seen (commandsSent sent)) :=
  ⟨noTrace_rememberedValid seen _, rememberedValid_noTrace seen _⟩

/-- A command with a gateway id of another length. -/
def strayCommand : Published :=
  { gatewayId := ascii "3C00000000000001"
    payload := ascii "5:3C00:0:3C00:15:2E14000000020000" }

theorem strayCommand_leavesId :
    ¬ forall seen sent, NoTrace (handled seen (commandsSent sent)) := by
  intro every
  have clean := (every {} [strayCommand]).failed
  revert clean
  unfold Handled.Failed
  decide +kernel

end Hes.Mqtt
