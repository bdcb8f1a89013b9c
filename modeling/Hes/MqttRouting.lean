import Mathlib.Data.List.Forall2
import Mathlib.Data.List.TakeWhile
import Hes.MqttRobust

set_option autoImplicit false

namespace Hes.Mqtt

open Text

/-- A message as it is sent: its commands, behind a group id or not. -/
structure Message where
  group : Option Bytes := none
  commands : List Bytes
  deriving DecidableEq, Repr

def Message.payload (message : Message) : Bytes :=
  (match message.group with
    | some id => id ++ [colon]
    | none => []) ++ [hyphen].intercalate message.commands

def Cancels (cmd : Bytes) : Prop := part (explode colon cmd) 0 = ascii "CANCEL"

def Appended (cmd : Bytes) (entry : Produced) : Prop :=
  entry = .odm cmd \/ entry = .fuota cmd \/ entry = .failed cmd

/-- An RF firmware upgrade for this gateway; the directory and the file name are free. -/
structure WellFormedUpgrade (gatewayId : Bytes) (seen : SeenIds) (cmd : Bytes) : Prop where
  count : (explode colon cmd).length = 7
  named : part (explode colon cmd) 0 ≠ []
  numeric : idIsNumeric (explode colon cmd) = true
  unused : part (explode colon cmd) 0 ∉ seen.fuotaReqIds
  gateway : gatewayMatches gatewayId (explode colon cmd) = true
  dest : destMatches gatewayId (explode colon cmd) = true
  type : part (explode colon cmd) 4 = ascii "27"

structure RoutedCommand (gatewayId : Bytes) (seen : SeenIds) (cmd : Bytes) (entry : Produced) :
    Prop where
  cancels : Cancels cmd -> exists ids, entry = .cancelled ids
  appended : ¬ Cancels cmd -> Appended cmd entry
  upgrade : WellFormedUpgrade gatewayId seen cmd -> entry = .fuota cmd

/-- One entry for each command and in their order, every one in the queue it belongs to. -/
def Routed (gatewayId : Bytes) : SeenIds -> List Bytes -> List Produced -> Prop
  | _, [], [] => True
  | seen, cmd :: rest, entry :: entries =>
    RoutedCommand gatewayId seen cmd entry /\ Routed gatewayId (seenAfter seen cmd) rest entries
  | _, _, _ => False

def RoutedCorrectly (gatewayId : Bytes) (seen : SeenIds) (message : Message) : Prop :=
  exists entries after,
    validateRequestIds gatewayId seen message.payload = .ok (entries, after) /\
      Routed gatewayId seen message.commands entries

/-- What a command must not be: a hexadecimal text that throws, or a firmware upgrade. -/
structure Routable (gatewayId : Bytes) (seen : SeenIds) (cmd : Bytes) : Prop where
  hexadecimal : ¬ Cancels cmd -> reachesCommand gatewayId seen (explode colon cmd) = true ->
    (part (explode colon cmd) 5).length % 2 = 0 -> Reads (hexPairs (part (explode colon cmd) 5))
  other : ¬ WellFormedUpgrade gatewayId seen cmd

def AllRoutable (gatewayId : Bytes) : SeenIds -> List Bytes -> Prop
  | _, [] => True
  | seen, cmd :: rest =>
    Routable gatewayId seen cmd /\ AllRoutable gatewayId (seenAfter seen cmd) rest

/-- The same command; of two cancellations the ids may differ. -/
def SameCommand (read sent : Bytes) : Prop := read = sent \/ Cancels read /\ Cancels sent

/-- The commands the client takes out of the payload are those of the message. -/
def Framed (message : Message) : Prop :=
  List.Forall₂ SameCommand (commandsOf message.payload) message.commands

theorem produce_total (gatewayId : Bytes) (seen : SeenIds) (cmd : Bytes) :
    Reads (produce gatewayId seen cmd) <->
      (¬ Cancels cmd -> reachesCommand gatewayId seen (explode colon cmd) = true ->
        (part (explode colon cmd) 5).length % 2 = 0 ->
        Reads (hexPairs (part (explode colon cmd) 5))) := by
  unfold produce Cancels
  by_cases cancel : part (explode colon cmd) 0 = ascii "CANCEL"
  next => simp [cancel]
  next =>
    cases reached : reachesCommand gatewayId seen (explode colon cmd) with
    | false => simp [cancel, reached]
    | true =>
      have allowed : part (explode colon cmd) 4 ∈ allowedCmds := by
        simp only [reachesCommand, Bool.and_eq_true, decide_eq_true_eq] at reached
        exact reached.2
      have reads := validateCommand_reads (explode colon cmd) allowed
      simp only [cancel, reached, if_false, if_true, not_false_eq_true, forall_const, <- reads,
        reads_bind]
      constructor
      next =>
        intro produced
        obtain ⟨matched, checked, -⟩ := produced
        exact ⟨matched, checked⟩
      next =>
        intro readable
        obtain ⟨matched, checked⟩ := readable
        refine ⟨matched, checked, ?_⟩
        split <;> exact reads_pure _

theorem produce_entry (gatewayId : Bytes) (seen after : SeenIds) (cmd : Bytes) (entry : Produced)
    (produced : produce gatewayId seen cmd = .ok (entry, after)) :
    (Cancels cmd -> exists ids, entry = .cancelled ids) /\
      (¬ Cancels cmd -> entry = .odm cmd \/ entry = .failed cmd) := by
  -- a command that is no cancellation goes to one queue, and never to that of the firmware
  unfold produce at produced
  by_cases cancel : part (explode colon cmd) 0 = ascii "CANCEL"
  next =>
    simp only [cancel, if_true, Except.ok.injEq, Prod.mk.injEq] at produced
    exact ⟨fun _ => ⟨_, produced.1.symm⟩, fun other => absurd cancel other⟩
  next =>
    refine ⟨fun same => absurd same cancel, fun _ => ?_⟩
    simp only [cancel, if_false] at produced
    split at produced
    next =>
      cases checked : validateCommand (explode colon cmd) with
      | error fault => simp [checked, bind, Except.bind] at produced
      | ok matched =>
        simp only [checked, bind, Except.bind, pure, Except.pure] at produced
        split at produced
        next passes =>
          have valid : validateCommand (explode colon cmd) = .ok true := by
            rw [checked]
            simp_all
          rw [enqueue_odm _ cmd valid] at produced
          simp only [Except.ok.injEq, Prod.mk.injEq] at produced
          exact Or.inl produced.1.symm
        next =>
          simp only [Except.ok.injEq, Prod.mk.injEq] at produced
          exact Or.inr produced.1.symm
    next =>
      simp only [Except.ok.injEq, Prod.mk.injEq] at produced
      exact Or.inr produced.1.symm

theorem SameCommand.after {read sent : Bytes} (same : SameCommand read sent) (seen : SeenIds) :
    seenAfter seen read = seenAfter seen sent := by
  rcases same with rfl | ⟨cancelRead, cancelSent⟩
  next => rfl
  next =>
    unfold Cancels at cancelRead cancelSent
    simp [seenAfter, cancelRead, cancelSent]

theorem upgrade_not_cancel {gatewayId : Bytes} {seen : SeenIds} {cmd : Bytes}
    (upgrade : WellFormedUpgrade gatewayId seen cmd) : ¬ Cancels cmd := by
  intro cancel
  have numeric := upgrade.numeric
  unfold Cancels at cancel
  rw [idIsNumeric, cancel] at numeric
  revert numeric
  decide

/-- What one command leaves is right exactly when it is read as sent and is routable. -/
theorem routedCommand_iff (gatewayId : Bytes) (seen : SeenIds) (read sent : Bytes) :
    (exists entry after, produce gatewayId seen read = .ok (entry, after) /\
        RoutedCommand gatewayId seen sent entry) <->
      SameCommand read sent /\ Routable gatewayId seen sent := by
  constructor
  next =>
    intro routed
    obtain ⟨entry, after, produced, right⟩ := routed
    have known := produce_entry gatewayId seen after read entry produced
    by_cases cancel : Cancels sent
    next =>
      obtain ⟨ids, rfl⟩ := right.cancels cancel
      have cancelRead : Cancels read := by
        by_contra other
        have wrong := known.2 other
        simp at wrong
      refine ⟨Or.inr ⟨cancelRead, cancel⟩, ?_, ?_⟩
      next => exact fun other => absurd cancel other
      next => exact fun upgrade => upgrade_not_cancel upgrade cancel
    next =>
      have queued := right.appended cancel
      have otherRead : ¬ Cancels read := by
        intro cancelRead
        obtain ⟨ids, rfl⟩ := known.1 cancelRead
        simp [Appended] at queued
      obtain rfl : read = sent := by
        rcases known.2 otherRead with rfl | rfl <;> simpa [Appended] using queued
      refine ⟨Or.inl rfl, ?_, ?_⟩
      next => exact (produce_total gatewayId seen read).mp ⟨_, produced⟩
      next =>
        intro upgrade
        have wrong := known.2 cancel
        simp [right.upgrade upgrade] at wrong
  next =>
    intro fine
    obtain ⟨same, routable⟩ := fine
    rcases same with rfl | ⟨cancelRead, cancel⟩
    next =>
      obtain ⟨result, produced⟩ := (produce_total gatewayId seen read).mpr routable.hexadecimal
      have known := produce_entry gatewayId seen result.2 read result.1 produced
      refine ⟨result.1, result.2, produced, known.1, ?_, fun upgrade => ?_⟩
      next =>
        intro other
        rcases known.2 other with queued | failed
        next => exact Or.inl queued
        next => exact Or.inr (Or.inr failed)
      next => exact absurd upgrade routable.other
    next =>
      obtain ⟨result, produced⟩ := (produce_total gatewayId seen read).mpr
        fun other => absurd cancelRead other
      have known := produce_entry gatewayId seen result.2 read result.1 produced
      refine ⟨result.1, result.2, produced, fun _ => known.1 cancelRead, ?_, fun upgrade => ?_⟩
      next => exact fun other => absurd cancel other
      next => exact absurd upgrade routable.other

theorem produceAll_cons (gatewayId : Bytes) (seen : SeenIds) (cmd : Bytes) (rest : List Bytes)
    (entries : List Produced) (last : SeenIds) :
    produceAll gatewayId seen (cmd :: rest) = .ok (entries, last) <->
      exists entry after others, produce gatewayId seen cmd = .ok (entry, after) /\
        produceAll gatewayId after rest = .ok (others, last) /\ entries = entry :: others := by
  simp only [produceAll, ok_bind]
  constructor
  next =>
    intro produced
    obtain ⟨⟨entry, after⟩, first, ⟨others, last'⟩, later, same⟩ := produced
    simp only [pure, Except.pure, Except.ok.injEq, Prod.mk.injEq] at same
    obtain ⟨rfl, rfl⟩ := same
    exact ⟨entry, after, others, first, later, rfl⟩
  next =>
    intro produced
    obtain ⟨entry, after, others, first, later, rfl⟩ := produced
    exact ⟨(entry, after), first, (others, last), later, rfl⟩

theorem produceAll_routed_iff (gatewayId : Bytes) (seen : SeenIds) (reads sents : List Bytes) :
    (exists entries after, produceAll gatewayId seen reads = .ok (entries, after) /\
        Routed gatewayId seen sents entries) <->
      List.Forall₂ SameCommand reads sents /\ AllRoutable gatewayId seen sents := by
  induction reads generalizing seen sents with
  | nil => cases sents <;> simp [produceAll, Routed, AllRoutable]
  | cons read rest ih =>
    cases sents with
    | nil =>
      simp only [produceAll_cons, List.forall₂_nil_right_iff, reduceCtorEq, false_and, iff_false]
      rintro ⟨_, _, ⟨entry, after, others, first, later, rfl⟩, wrong⟩
      exact wrong
    | cons sent others =>
      rw [List.forall₂_cons, AllRoutable]
      have one := routedCommand_iff gatewayId seen read sent
      have more := ih (seenAfter seen sent) others
      constructor
      next =>
        intro routed
        obtain ⟨_, last, produced, right⟩ := routed
        obtain ⟨entry, after, entries, first, later, rfl⟩ :=
          (produceAll_cons gatewayId seen read rest _ last).mp produced
        have fine := one.mp ⟨entry, after, first, right.1⟩
        have same : after = seenAfter seen sent :=
          (produce_after gatewayId seen after read entry first).trans (fine.1.after seen)
        have behind := more.mp ⟨entries, last, same ▸ later, right.2⟩
        exact ⟨⟨fine.1, behind.1⟩, fine.2, behind.2⟩
      next =>
        intro fine
        obtain ⟨⟨same, sames⟩, routable, routables⟩ := fine
        obtain ⟨entry, after, first, right⟩ := one.mpr ⟨same, routable⟩
        obtain ⟨entries, last, later, behind⟩ := more.mpr ⟨sames, routables⟩
        have seenSame : after = seenAfter seen sent :=
          (produce_after gatewayId seen after read entry first).trans (same.after seen)
        refine ⟨entry :: entries, last, ?_, right, behind⟩
        exact (produceAll_cons gatewayId seen read rest _ last).mpr
          ⟨entry, after, entries, first, seenSame ▸ later, rfl⟩

/-- A message is routed correctly exactly when its commands are read as sent, no text in them
throws and none is a firmware upgrade. -/
theorem routing_correct_iff (gatewayId : Bytes) (seen : SeenIds) (message : Message) :
    RoutedCorrectly gatewayId seen message <->
      Framed message /\ AllRoutable gatewayId seen message.commands :=
  produceAll_routed_iff gatewayId seen (commandsOf message.payload) message.commands

theorem explode_append (delim : UInt8) (text rest : Bytes) (clean : delim ∉ text) :
    explode delim (text ++ delim :: rest) = text :: explode delim rest := by
  induction text with
  | nil => simp [explode]
  | cons letter others ih =>
    have other : letter ≠ delim := fun same => clean (by simp [same])
    simp [explode, other, ih (by simp_all)]

theorem explode_clean (delim : UInt8) (text : Bytes) (clean : delim ∉ text) :
    explode delim text = [text] := by
  induction text with
  | nil => rfl
  | cons letter others ih =>
    have other : letter ≠ delim := fun same => clean (by simp [same])
    simp [explode, other, ih (by simp_all)]

theorem explode_intercalate (delim : UInt8) (texts : List Bytes) (some : texts ≠ [])
    (clean : ∀ text ∈ texts, delim ∉ text) :
    explode delim ([delim].intercalate texts) = texts := by
  induction texts with
  | nil => exact absurd rfl some
  | cons text rest ih =>
    have here := clean text (by simp)
    cases rest with
    | nil => simpa using explode_clean delim text here
    | cons next others =>
      have later := ih (by simp) fun other known => clean other (by simp [known])
      rw [List.intercalate_cons_of_ne_nil (by simp), List.append_assoc]
      simpa [later] using explode_append delim text ([delim].intercalate (next :: others)) here

theorem takeWhile_text (text : Bytes) (clean : 0 ∉ text) :
    (text.takeWhile fun letter => letter ≠ 0) = text := by
  apply List.takeWhile_eq_self_iff.mpr
  intro letter known
  have other : letter ≠ 0 := fun same => clean (same ▸ known)
  simp [other]

theorem dropWhile_group (group rest : Bytes) (plain : colon ∉ group) :
    ((group ++ colon :: rest).dropWhile fun letter => letter ≠ colon).drop 1 = rest := by
  induction group with
  | nil => simp
  | cons letter others ih =>
    have other : letter ≠ colon := fun same => plain (by simp [same])
    have later := ih (by simp_all)
    simpa [other] using later

theorem framed_refl (message : Message) (same : commandsOf message.payload = message.commands) :
    Framed message := by
  unfold Framed
  rw [same]
  exact List.forall₂_same.mpr fun cmd _ => Or.inl rfl

/-- Several commands behind a group id are read as sent when no text holds a separator. -/
theorem grouped_framed (group : Bytes) (first second : Bytes) (rest : List Bytes)
    (plain : colon ∉ group) (clean : ∀ cmd ∈ first :: second :: rest, hyphen ∉ cmd)
    (text : 0 ∉ (Message.mk (some group) (first :: second :: rest)).payload) :
    Framed { group := some group, commands := first :: second :: rest } := by
  apply framed_refl
  have payload : (Message.mk (some group) (first :: second :: rest)).payload =
      group ++ colon :: [hyphen].intercalate (first :: second :: rest) := by
    simp [Message.payload]
  unfold commandsOf
  rw [takeWhile_text _ text, payload]
  have separators : hyphen ∈ group ++ colon :: [hyphen].intercalate (first :: second :: rest) ∧
      colon ∈ group ++ colon :: [hyphen].intercalate (first :: second :: rest) := by
    simp
  simp only [separators, and_self, if_true]
  rw [dropWhile_group _ _ plain]
  exact explode_intercalate hyphen _ (by simp) clean

theorem single_framed (cmd : Bytes) (clean : hyphen ∉ cmd) (text : 0 ∉ cmd) :
    Framed { commands := [cmd] } := by
  apply framed_refl
  have payload : (Message.mk none [cmd]).payload = cmd := by simp [Message.payload]
  unfold commandsOf
  rw [payload, takeWhile_text cmd text]
  simp [clean, explode_clean]

def firmwareUpgrade : Bytes :=
  ascii "1:3C00000000000001:0:3C00000000000001:27:/opt/fw:meter.bin"

theorem firmwareUpgrade_wellFormed : WellFormedUpgrade gatewayText {} firmwareUpgrade where
  count := by decide
  named := by decide
  numeric := by decide
  unused := by decide
  gateway := by decide
  dest := by decide
  type := by decide

/-- `Validate_command` reads the firmware directory as a DLMS command and knows no type 27. -/
theorem firmware_upgrade_failed :
    WellFormedUpgrade gatewayText {} firmwareUpgrade /\
      ¬ RoutedCorrectly gatewayText {} { commands := [firmwareUpgrade] } := by
  refine ⟨firmwareUpgrade_wellFormed, ?_⟩
  intro routed
  have fine := (produceAll_routed_iff gatewayText {} _ [firmwareUpgrade]).mp routed
  exact fine.2.1.other firmwareUpgrade_wellFormed

end Hes.Mqtt
