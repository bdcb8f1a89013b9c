import Mathlib.Data.List.Perm.Basic
import Hes.Pull

set_option autoImplicit false

namespace Hes.PathBook

open Prog

/-- What a transmission on a path gives: its code, and whether the gateway is still connected. -/
structure Answer where
  code : Code
  connected : Bool
  deriving DecidableEq, Repr

/-- What a path is promoted for. -/
inductive Reason where
  | reconnect
  | pages
  | status
  | command
  deriving DecidableEq, Repr

def Reason.Success : Reason -> Code -> Prop
  | .reconnect, code => code = .dlmsSuccess \/ code = .success
  | .pages, code => code = .success
  -- the reply is the status itself: zero for disabled, one for enabled
  | .status, code => code ≠ .failure
  | .command, code => code = .success

inductive PathEvent where
  | began (onAlternate : Bool)
  | answered (path : PathInfo) (code : Code)
  /-- With the alternate paths in front of it and those that left them. -/
  | promoted (reason : Reason) (path : PathInfo) (alternates erased : List PathInfo)
  deriving DecidableEq, Repr

/-- The paths of a node. `vector` counts the assignments to the vector of the alternate paths: a
reference or an iterator into it is good only for the vector it was taken from. -/
structure Book where
  primaryPath : PathInfo
  alternatePaths : List PathInfo
  vector : Nat := 0
  connected : Bool
  answers : Nat -> Answer
  sent : Nat := 0
  log : List PathEvent := []

def Book.paths (book : Book) : List PathInfo := book.primaryPath :: book.alternatePaths

/-- A path by reference. -/
inductive Place where
  | primary
  | alternate (vector index : Nat)
  deriving DecidableEq, Repr

def Place.onAlternate : Place -> Bool
  | .primary => false
  | .alternate _ _ => true

-- a reference into a vector that is gone gives nothing: what the source does then is undefined
def read (place : Place) : Prog Book PathInfo := fun book =>
  match place with
  | .primary => (some book.primaryPath, book)
  | .alternate vector index =>
    (if vector = book.vector then book.alternatePaths[index]? else none, book)

/-- The iterator is moved on and compared with the end, of the same vector or of another one. -/
def advance (vector : Nat) : Prog Book Unit := fun book =>
  (if vector = book.vector then some () else none, book)

def note (event : PathEvent) : Prog Book Unit :=
  update fun book => { book with log := book.log ++ [event] }

def transmitCommandOnPathPmesh (path : PathInfo) : Prog Book Code := fun book =>
  let answer := book.answers book.sent
  (some answer.code,
    { book with connected := answer.connected, sent := book.sent + 1
                log := book.log ++ [.answered path answer.code] })

def attemptDlmsReconnect (path : PathInfo) : Prog Book Code := do
  let ret <- transmitCommandOnPathPmesh path
  if ret = .dlmsSuccess || ret = .success then return .success
  else if ret = .dlmsConnectionFailed then return .dlmsConnectionFailed
  else return .failure

/-- A new vector takes the place of the old one, without any path that equals the promoted one. -/
def promoteReconnected (alt : PathInfo) (book : Book) : Book :=
  { book with
    primaryPath := alt
    alternatePaths := book.primaryPath :: book.alternatePaths.filter (fun x => x ≠ alt)
    vector := book.vector + 1
    log := book.log ++ [.promoted .reconnect alt book.alternatePaths
      (book.alternatePaths.filter fun x => x = alt)] }

/-- `erase(it)` and `push_back` of the primary path that was. -/
def promoteAt (reason : Reason) (index : Nat) (alt : PathInfo) (book : Book) : Book :=
  { book with
    primaryPath := alt
    alternatePaths := book.alternatePaths.eraseIdx index ++ [book.primaryPath]
    log := book.log ++ [.promoted reason alt book.alternatePaths
      book.alternatePaths[index]?.toList] }

def reconnectAlternates (vector : Nat) : List Nat -> Prog Book Code
  | [] => pure .failure
  | index :: rest => do
    let alt <- read (.alternate vector index)
    let retVal <- attemptDlmsReconnect alt
    if retVal = .success then
      update (promoteReconnected alt)
      return .success
    else if retVal = .dlmsConnectionFailed then return .dlmsConnectionFailed
    else reconnectAlternates vector rest

/-- The vector of the alternate paths and its indices, none when the gateway is gone. -/
def alternatesIfConnected : Prog Book (Nat × List Nat) :=
  observe fun book =>
    (book.vector, if book.connected then List.range book.alternatePaths.length else [])

def attemptDlmsReconnectAllPaths (failedPath : PathInfo) : Prog Book Code := do
  let ret <- attemptDlmsReconnect failedPath
  if ret = .success then return .success
  else if ret = .dlmsConnectionFailed then return .dlmsConnectionFailed
  else
    let (vector, alternates) <- alternatesIfConnected
    reconnectAlternates vector alternates

def pullPages (place : Place) : Nat -> UInt8 -> Prog Book (Code × UInt8)
  | 0, page => pure (.failure, page)
  | turns + 1, page => do
    let path <- read place
    match <- transmitCommandOnPathPmesh path with
    | .nextPagePresent =>
      if page + 1 ≥ 16 then return (.failure, page + 1)
      else pullPages place turns (page + 1)
    | .success => return (.success, page)
    | .dlmsConnectionFailed =>
      let failedPath <- read place
      if (<- attemptDlmsReconnectAllPaths failedPath) = .success then pullPages place turns page
      else return (.dlmsConnectionFailed, page)
    | .dlmsError => return (.dlmsError, page)
    | _ => return (.failure, page)

def pullProfilePagesOnPath (place : Place) (page : UInt8) : Prog Book (Code × UInt8) := do
  note (.began place.onAlternate)
  pullPages place 16 page

def tryAlternates (vector : Nat) : List Nat -> UInt8 -> Prog Book (Code × UInt8)
  | [], page => pure (.failure, page)
  | index :: rest, page => do
    let (ret, next) <- pullProfilePagesOnPath (.alternate vector index) page
    match ret with
    | .success =>
      let alt <- read (.alternate vector index)
      update (promoteAt .pages index alt)
      return (.success, next)
    | .dlmsError | .dlmsConnectionFailed => return (.failure, next)
    | _ =>
      advance vector
      tryAlternates vector rest next

def tryPathsForProfilePull (page : UInt8) : Prog Book (Code × UInt8) := do
  let (ret, next) <- pullProfilePagesOnPath .primary page
  match ret with
  | .success => return (.success, next)
  | .dlmsError | .dlmsConnectionFailed => return (.failure, next)
  | _ =>
    let (vector, alternates) <- alternatesIfConnected
    tryAlternates vector alternates next

/-- The first alternate path on which the attempt gives a result is promoted. -/
def promoteFirst (reason : Reason) (attempt : PathInfo -> Prog Book (Option Code)) (vector : Nat) :
    List Nat -> Prog Book Code
  | [] => pure .failure
  | index :: rest => do
    let alt <- read (.alternate vector index)
    match <- attempt alt with
    | some ret =>
      update (promoteAt reason index alt)
      return ret
    | none => promoteFirst reason attempt vector rest

/-- One attempt on the primary path, then the other one on each alternate path. -/
def onFirstPath (reason : Reason) (onPrimary onAlternate : PathInfo -> Prog Book (Option Code)) :
    Prog Book Code := do
  let primary <- read .primary
  match <- onPrimary primary with
  | some ret => return ret
  | none =>
    let (vector, alternates) <- alternatesIfConnected
    promoteFirst reason onAlternate vector alternates

def fuotaStatus (path : PathInfo) : Prog Book (Option Code) := do
  let ret <- transmitCommandOnPathPmesh path
  return if ret ≠ .failure then some ret else none

def checkFuotaStatus : Prog Book Code := onFirstPath .status fuotaStatus fuotaStatus

def flashSave (path : PathInfo) : Prog Book Code := do
  if (<- transmitCommandOnPathPmesh path) = .success then return .success else return .failure

def softReset (path : PathInfo) : Prog Book Code := do
  if (<- transmitCommandOnPathPmesh path) = .success then return .success else return .failure

def performFlashAndReset (path : PathInfo) : Prog Book Code := do
  if (<- flashSave path) ≠ .success then return .failure
  else if (<- softReset path) ≠ .success then return .failure
  else return .success

/-- On an alternate path any code but a failure counts, on the primary path only a success. -/
def fuotaDisable (sufficient : Code -> Bool) (path : PathInfo) : Prog Book (Option Code) := do
  let ret <- transmitCommandOnPathPmesh path
  if sufficient ret then
    if (<- performFlashAndReset path) = .success then return some ret else return none
  else return none

def fuotaDisableForANode : Prog Book Code :=
  onFirstPath .command (fuotaDisable fun ret => ret = .success)
    (fuotaDisable fun ret => ret ≠ .failure)

def internalFirmwareVersion (path : PathInfo) : Prog Book (Option Code) := do
  let ret <- transmitCommandOnPathPmesh path
  return if ret = .success then some ret else none

def pullInternalFirmwareVersionForANode : Prog Book Code :=
  onFirstPath .command internalFirmwareVersion internalFirmwareVersion

/-- The functions that move the paths of a node. -/
inductive Operation where
  | tryPathsForProfilePull (page : UInt8)
  | attemptDlmsReconnectAllPaths (failedPath : PathInfo)
  | checkFuotaStatus
  | fuotaDisableForANode
  | pullInternalFirmwareVersionForANode
  deriving DecidableEq, Repr

def Operation.run : Operation -> Prog Book Code
  | .tryPathsForProfilePull page => do
    let (ret, _) <- PathBook.tryPathsForProfilePull page
    return ret
  | .attemptDlmsReconnectAllPaths failedPath => PathBook.attemptDlmsReconnectAllPaths failedPath
  | .checkFuotaStatus => PathBook.checkFuotaStatus
  | .fuotaDisableForANode => PathBook.fuotaDisableForANode
  | .pullInternalFirmwareVersionForANode => PathBook.pullInternalFirmwareVersionForANode

def Preceded (events : List PathEvent) : Prop :=
  forall front reason path alternates erased back,
    events = front ++ .promoted reason path alternates erased :: back ->
    exists earlier code, front = earlier ++ [.answered path code] /\ reason.Success code

def ErasedAlone (events : List PathEvent) : Prop :=
  forall reason path alternates erased,
    .promoted reason path alternates erased ∈ events -> erased = [path]

/-- A node's paths in front of an operation, with what its transmissions are going to give. -/
def opened (primaryPath : PathInfo) (alternatePaths : List PathInfo) (connected : Bool)
    (answers : Nat -> Answer) : Book :=
  { primaryPath := primaryPath, alternatePaths := alternatePaths, connected := connected
    answers := answers }

/-- The paths stay the same ones, and a promoted path is the one that succeeded and that left. -/
structure Kept (operation : Operation) (start : Book) : Prop where
  defined : (operation.run start).1.isSome = true
  same : (operation.run start).2.paths.Perm start.paths
  succeeded : Preceded (operation.run start).2.log
  erased : ErasedAlone (operation.run start).2.log

def isReconnection : PathEvent -> Bool
  | .promoted .reconnect _ _ _ => true
  | _ => false

def reconnections (events : List PathEvent) : Nat := events.countP isReconnection

/-- No alternate path is connected again while the pages are pulled on an alternate path. -/
def Undisturbed (events : List PathEvent) : Prop :=
  forall front back, events = front ++ .began true :: back -> reconnections back = 0

/-- An alternate path that is connected again stands once among the alternate paths. -/
def OccursOnce (events : List PathEvent) : Prop :=
  forall path alternates erased, .promoted .reconnect path alternates erased ∈ events ->
    alternates.count path = 1

theorem Preceded.append {front rest : List PathEvent} (before : Preceded front)
    (behind : Preceded rest) : Preceded (front ++ rest) := by
  intro left reason path alternates erased right run
  rcases List.append_eq_append_iff.mp run with ⟨middle, rfl, run'⟩ | ⟨middle, rfl, run'⟩
  next =>
    obtain ⟨earlier, code, rfl, success⟩ := behind middle reason path alternates erased right run'
    exact ⟨front ++ earlier, code, by simp, success⟩
  next =>
    cases middle with
    | nil =>
      obtain ⟨earlier, code, empty, -⟩ := behind [] reason path alternates erased right run'.symm
      simp at empty
    | cons event middle =>
      obtain ⟨rfl, -⟩ := List.cons.inj run'
      exact before left reason path alternates erased middle rfl

theorem preceded_quiet (events : List PathEvent)
    (quiet : forall reason path alternates erased,
      .promoted reason path alternates erased ∉ events) : Preceded events := by
  intro front reason path alternates erased back run
  exact absurd (by simp [run]) (quiet reason path alternates erased)

/-- A stretch of a run: what it adds to the log and what it does to the paths. -/
structure Stretch (before after : Book) (events : List PathEvent) : Prop where
  log : after.log = before.log ++ events
  preceded : Preceded events
  erased : ErasedAlone events <-> OccursOnce events
  same : OccursOnce events -> after.paths.Perm before.paths
  vector : after.vector = before.vector + reconnections events

def Moved (before after : Book) : Prop := exists events, Stretch before after events

theorem erasedAlone_append (front rest : List PathEvent) :
    ErasedAlone (front ++ rest) <-> ErasedAlone front /\ ErasedAlone rest := by
  simp only [ErasedAlone, List.mem_append, or_imp, forall_and]

theorem occursOnce_append (front rest : List PathEvent) :
    OccursOnce (front ++ rest) <-> OccursOnce front /\ OccursOnce rest := by
  simp only [OccursOnce, List.mem_append, or_imp, forall_and]

theorem reconnections_append (front rest : List PathEvent) :
    reconnections (front ++ rest) = reconnections front + reconnections rest :=
  List.countP_append

theorem Stretch.append {first second third : Book} {front rest : List PathEvent}
    (before : Stretch first second front) (behind : Stretch second third rest) :
    Stretch first third (front ++ rest) where
  log := by rw [behind.log, before.log, List.append_assoc]
  preceded := before.preceded.append behind.preceded
  erased := by rw [erasedAlone_append, occursOnce_append, before.erased, behind.erased]
  same := by
    rw [occursOnce_append]
    intro once
    exact (behind.same once.2).trans (before.same once.1)
  vector := by
    rw [behind.vector, before.vector, reconnections_append]
    omega

theorem Moved.refl (book : Book) : Moved book book :=
  ⟨[], by simp, preceded_quiet [] (by simp), by simp [ErasedAlone, OccursOnce],
    fun _ => List.Perm.refl _, by simp [reconnections]⟩

theorem Moved.trans (first second third : Book) (before : Moved first second)
    (behind : Moved second third) : Moved first third := by
  obtain ⟨front, before⟩ := before
  obtain ⟨rest, behind⟩ := behind
  exact ⟨front ++ rest, before.append behind⟩

theorem stretch_quiet {before after : Book} (events : List PathEvent)
    (log : after.log = before.log ++ events)
    (quiet : forall reason path alternates erased,
      .promoted reason path alternates erased ∉ events)
    (paths : after.paths = before.paths) (vector : after.vector = before.vector) :
    Stretch before after events where
  log := log
  preceded := preceded_quiet events quiet
  erased := by
    constructor
    next => exact fun _ path alternates erased inside => absurd inside (quiet _ _ _ _)
    next => exact fun _ reason path alternates erased inside => absurd inside (quiet _ _ _ _)
  same := fun _ => by rw [paths]
  vector := by
    have none : reconnections events = 0 := by
      rw [reconnections, List.countP_eq_zero]
      intro event inside
      cases event with
      | promoted reason path alternates erased => exact absurd inside (quiet _ _ _ _)
      | began onAlternate => simp [isReconnection]
      | answered path code => simp [isReconnection]
    rw [vector, none, Nat.add_zero]

theorem promoted_erased (reason : Reason) (path : PathInfo) (alternates erased : List PathInfo)
    (front : List PathEvent) (quiet : forall reason path alternates erased,
      .promoted reason path alternates erased ∉ front) :
    ErasedAlone (front ++ [.promoted reason path alternates erased]) <-> erased = [path] := by
  rw [erasedAlone_append]
  constructor
  next => exact fun alone => alone.2 reason path alternates erased (by simp)
  next =>
    intro alone
    refine ⟨fun _ _ _ _ inside => absurd inside (quiet _ _ _ _), ?_⟩
    intro reason' path' alternates' erased' inside
    simp only [List.mem_singleton, PathEvent.promoted.injEq] at inside
    obtain ⟨-, rfl, -, rfl⟩ := inside
    exact alone

theorem filter_alone (path : PathInfo) (alternates : List PathInfo) :
    alternates.filter (fun x => x = path) = [path] <-> alternates.count path = 1 := by
  have copies : alternates.filter (fun x => x = path) =
      List.replicate (alternates.count path) path := by
    rw [← List.filter_beq]
    congr 1
  rw [copies]
  constructor
  next =>
    intro alone
    have size := congrArg List.length alone
    simpa using size
  next =>
    intro once
    simp [once]

theorem filter_perm (path : PathInfo) (alternates : List PathInfo)
    (once : alternates.count path = 1) :
    (path :: alternates.filter (fun x => x ≠ path)).Perm alternates := by
  -- a path that stands once is taken out of the list, whichever way it is done
  have split := List.filter_append_perm (fun x => decide (x = path)) alternates
  rw [(filter_alone path alternates).mpr once] at split
  simpa using split

def Book.code (book : Book) : Code := (book.answers book.sent).code

/-- Behind the next transmission. -/
def Book.answered (book : Book) (path : PathInfo) : Book :=
  { book with connected := (book.answers book.sent).connected, sent := book.sent + 1
              log := book.log ++ [.answered path book.code] }

theorem transmit_ran (path : PathInfo) (book : Book) :
    transmitCommandOnPathPmesh path book = (some book.code, book.answered path) := rfl

def reconnectCode (code : Code) : Code :=
  if code = .dlmsSuccess || code = .success then .success
  else if code = .dlmsConnectionFailed then .dlmsConnectionFailed
  else .failure

theorem attemptDlmsReconnect_ran (path : PathInfo) (book : Book) :
    attemptDlmsReconnect path book = (some (reconnectCode book.code), book.answered path) := by
  rw [attemptDlmsReconnect, ran_bind (transmit_ran path book), reconnectCode]
  split
  next => rfl
  next => split <;> rfl

theorem reconnectCode_success (code : Code) :
    reconnectCode code = .success <-> Reason.reconnect.Success code := by
  unfold reconnectCode Reason.Success
  cases code <;> simp

theorem read_alternate (book : Book) (index : Nat) (inside : index < book.alternatePaths.length) :
    read (.alternate book.vector index) book = (some book.alternatePaths[index], book) := by
  simp [read, inside]

/-- A stretch in which no page pull begins. It leaves the list alone unless it replaces it. -/
structure Calls (before after : Book) (events : List PathEvent) : Prop
    extends Stretch before after events where
  began : forall onAlternate, .began onAlternate ∉ events
  alternates : reconnections events = 0 -> after.alternatePaths = before.alternatePaths

theorem Calls.append {first second third : Book} {front rest : List PathEvent}
    (before : Calls first second front) (behind : Calls second third rest) :
    Calls first third (front ++ rest) where
  toStretch := before.toStretch.append behind.toStretch
  began := by
    intro onAlternate inside
    rcases List.mem_append.mp inside with inside | inside
    next => exact before.began onAlternate inside
    next => exact behind.began onAlternate inside
  alternates := by
    intro none
    rw [reconnections_append] at none
    rw [behind.alternates (by omega), before.alternates (by omega)]

theorem calls_nil (book : Book) : Calls book book [] where
  toStretch := stretch_quiet [] (by simp) (by simp) rfl rfl
  began := by simp
  alternates := fun _ => rfl

theorem answered_calls (path : PathInfo) (book : Book) :
    Calls book (book.answered path) [.answered path book.code] where
  toStretch := stretch_quiet _ rfl (by simp) rfl rfl
  began := by simp
  alternates := fun _ => rfl

/-- The promotion of the last path that was tried, as the answer on it and the new vector. -/
theorem reconnected_calls (alt : PathInfo) (book : Book)
    (success : Reason.reconnect.Success book.code) :
    Calls book (promoteReconnected alt (book.answered alt))
      [.answered alt book.code, .promoted .reconnect alt book.alternatePaths
        (book.alternatePaths.filter fun x => x = alt)] where
  log := by simp [promoteReconnected, Book.answered]
  preceded := by
    intro front reason path alternates erased back run
    cases front with
    | nil => simp at run
    | cons first front =>
      cases front with
      | nil =>
        simp only [List.cons_append, List.nil_append, List.cons.injEq, PathEvent.promoted.injEq]
          at run
        obtain ⟨rfl, ⟨rfl, rfl, -, -⟩, -⟩ := run
        exact ⟨[], book.code, rfl, success⟩
      | cons second front => simp at run
  erased := by
    have first := promoted_erased .reconnect alt book.alternatePaths
      (book.alternatePaths.filter fun x => x = alt) [.answered alt book.code] (by simp)
    refine first.trans ((filter_alone alt book.alternatePaths).trans ?_)
    constructor
    next =>
      rintro one path alternates erased inside
      simp only [List.mem_cons, reduceCtorEq, PathEvent.promoted.injEq, List.not_mem_nil, or_false,
        false_or, true_and] at inside
      obtain ⟨rfl, rfl, -⟩ := inside
      exact one
    next =>
      exact fun once => once alt book.alternatePaths
        (book.alternatePaths.filter fun x => x = alt) (by simp)
  same := by
    intro once
    have one : book.alternatePaths.count alt = 1 :=
      once alt book.alternatePaths (book.alternatePaths.filter fun x => x = alt) (by simp)
    have swapped := List.Perm.swap book.primaryPath alt
      (book.alternatePaths.filter fun x => x ≠ alt)
    exact swapped.trans ((filter_perm alt book.alternatePaths one).cons book.primaryPath)
  vector := rfl
  began := by simp
  alternates := by simp [reconnections, isReconnection]

/-- A reconnect ends, and it promotes a path only when it succeeds. -/
def Settled (prog : Prog Book Code) (book : Book) : Prop :=
  exists result after events, prog book = (some result, after) /\ Calls book after events /\
    (result ≠ .success -> reconnections events = 0)


theorem reconnectAlternates_settled (alternates : List Nat) (book : Book)
    (inside : ∀ index ∈ alternates, index < book.alternatePaths.length) :
    Settled (reconnectAlternates book.vector alternates) book := by
  induction alternates generalizing book with
  | nil => exact ⟨_, _, _, rfl, calls_nil book, fun _ => rfl⟩
  | cons index rest ih =>
    have here := inside index List.mem_cons_self
    let alt := book.alternatePaths[index]
    rw [reconnectAlternates, Settled, ran_bind (read_alternate book index here),
      ran_bind (attemptDlmsReconnect_ran alt book)]
    by_cases success : reconnectCode book.code = .success
    next =>
      refine ⟨.success, promoteReconnected alt (book.answered alt), _, ?_,
        reconnected_calls alt book ((reconnectCode_success _).mp success), by simp⟩
      rw [if_pos success]
      rfl
    next =>
      by_cases failed : reconnectCode book.code = .dlmsConnectionFailed
      next =>
        refine ⟨.dlmsConnectionFailed, book.answered alt, _, ?_, answered_calls alt book,
          fun _ => rfl⟩
        rw [if_neg success, if_pos failed]
        rfl
      next =>
        obtain ⟨result, after, events, later, calls, quiet⟩ := ih (book.answered alt)
          fun other among => inside other (List.mem_cons_of_mem _ among)
        refine ⟨result, after, _, ?_, (answered_calls alt book).append calls, ?_⟩
        next =>
          rw [if_neg success, if_neg failed]
          exact later
        next =>
          intro other
          rw [reconnections_append, quiet other]
          rfl

theorem attemptDlmsReconnectAllPaths_settled (failedPath : PathInfo) (book : Book) :
    Settled (attemptDlmsReconnectAllPaths failedPath) book := by
  rw [attemptDlmsReconnectAllPaths, Settled, ran_bind (attemptDlmsReconnect_ran failedPath book)]
  have first := answered_calls failedPath book
  by_cases success : reconnectCode book.code = .success
  next =>
    refine ⟨.success, _, _, ?_, first, fun _ => rfl⟩
    rw [if_pos success]
    rfl
  next =>
    by_cases failed : reconnectCode book.code = .dlmsConnectionFailed
    next =>
      refine ⟨.dlmsConnectionFailed, _, _, ?_, first, fun _ => rfl⟩
      rw [if_neg success, if_pos failed]
      rfl
    next =>
      rw [if_neg success, if_neg failed]
      have inside : ∀ index ∈ (if (book.answered failedPath).connected then
          List.range (book.answered failedPath).alternatePaths.length else []),
          index < (book.answered failedPath).alternatePaths.length := by
        intro index among
        split at among
        next => exact List.mem_range.mp among
        next => simp at among
      obtain ⟨result, after, events, later, calls, quiet⟩ :=
        reconnectAlternates_settled _ (book.answered failedPath) inside
      refine ⟨result, after, _, later, first.append calls, ?_⟩
      intro other
      rw [reconnections_append, quiet other]
      rfl

def Readable (place : Place) (book : Book) : Prop := exists path, read place book = (some path, book)

theorem readable_primary (book : Book) : Readable .primary book := ⟨book.primaryPath, rfl⟩

theorem readable_or (place : Place) (book : Book) :
    Readable place book \/ read place book = (none, book) := by
  cases place with
  | primary => exact Or.inl (readable_primary book)
  | alternate vector index =>
    cases found : (if vector = book.vector then book.alternatePaths[index]? else none) with
    | none => exact Or.inr (by simp [read, found])
    | some path => exact Or.inl ⟨path, by simp [read, found]⟩

theorem read_answered (place : Place) (path other : PathInfo) (book : Book)
    (found : read place book = (some path, book)) :
    read place (book.answered other) = (some path, book.answered other) := by
  cases place with
  | primary =>
    simp only [read, Prod.mk.injEq, Option.some.injEq, and_true] at found
    simp [read, Book.answered, found]
  | alternate vector index =>
    simp only [read, Prod.mk.injEq, and_true] at found
    simp only [read, Book.answered, Prod.mk.injEq, and_true]
    exact found

theorem Calls.readable {before after : Book} {events : List PathEvent}
    (calls : Calls before after events) (quiet : reconnections events = 0) (place : Place)
    (readable : Readable place before) : Readable place after := by
  cases place with
  | primary => exact readable_primary after
  | alternate vector index =>
    obtain ⟨path, found⟩ := readable
    refine ⟨path, ?_⟩
    have vectors := calls.vector
    simp only [read, Prod.mk.injEq, and_true] at found ⊢
    rw [vectors, quiet, calls.alternates quiet, Nat.add_zero]
    exact found

theorem quiet_of_readable {before after : Book} {events : List PathEvent}
    (calls : Calls before after events) (place : Place) (other : place ≠ .primary)
    (readable : Readable place before) (still : Readable place after) :
    reconnections events = 0 := by
  cases place with
  | primary => exact absurd rfl other
  | alternate vector index =>
    obtain ⟨path, found⟩ := readable
    obtain ⟨path', found'⟩ := still
    have vectors := calls.vector
    simp only [read, Prod.mk.injEq, and_true] at found found'
    have first : vector = before.vector := by
      by_contra different
      simp [different] at found
    have last : vector = after.vector := by
      by_contra different
      simp [different] at found'
    omega

/-- What the pages of one path leave. The references are dead only behind a reconnection. -/
structure PagesDone (place : Place) (book : Book) (outcome : Option (Code × UInt8) × Book)
    (events : List PathEvent) : Prop where
  calls : Calls book outcome.2 events
  primary : place = .primary -> outcome.1.isSome = true
  dead : outcome.1 = none -> 0 < reconnections events
  late : place ≠ .primary -> 0 < reconnections events -> forall code next,
    outcome.1 = some (code, next) -> code = .failure
  success : forall next, outcome.1 = some (.success, next) -> exists earlier path,
    events = earlier ++ [.answered path .success] /\ read place outcome.2 = (some path, outcome.2)

/-- A result without success behind calls that promoted nothing. -/
theorem Calls.pagesDone {book after : Book} {events : List PathEvent}
    (calls : Calls book after events) (quiet : reconnections events = 0) (place : Place)
    (code : Code) (page : UInt8) (other : code ≠ .success) :
    PagesDone place book ((pure (code, page) : Prog Book (Code × UInt8)) after) events where
  calls := calls
  primary := fun _ => rfl
  dead := by simp [pure]
  late := by
    intro _ some'
    omega
  success := by
    intro next same
    simp only [pure, Option.some.injEq, Prod.mk.injEq] at same
    exact absurd same.1 other

theorem PagesDone.behind {place : Place} {book middle : Book}
    {outcome : Option (Code × UInt8) × Book} {front rest : List PathEvent}
    (done : PagesDone place middle outcome rest) (calls : Calls book middle front)
    (quiet : place ≠ .primary -> reconnections front = 0) :
    PagesDone place book outcome (front ++ rest) where
  calls := calls.append done.calls
  primary := done.primary
  dead := by
    intro none
    have more := done.dead none
    rw [reconnections_append]
    omega
  late := by
    intro other some'
    rw [reconnections_append, quiet other, Nat.zero_add] at some'
    exact done.late other some'
  success := by
    intro next same
    obtain ⟨earlier, path, events, known⟩ := done.success next same
    exact ⟨front ++ earlier, path, by simp [events], known⟩

theorem pullPages_done (place : Place) (turns : Nat) (page : UInt8) (book : Book)
    (readable : Readable place book) :
    exists events, PagesDone place book (pullPages place turns page book) events := by
  induction turns generalizing page book with
  | zero => exact ⟨_, (calls_nil book).pagesDone rfl place .failure page (by simp)⟩
  | succ turns ih =>
    obtain ⟨path, found⟩ := readable
    have sent := answered_calls path book
    have again := read_answered place path path book found
    rw [pullPages, ran_bind found, ran_bind (transmit_ran path book)]
    cases code : book.code with
    | nextPagePresent =>
      dsimp only
      split
      next => exact ⟨_, sent.pagesDone rfl place .failure (page + 1) (by simp)⟩
      next =>
        obtain ⟨events, done⟩ := ih (page + 1) (book.answered path) ⟨path, again⟩
        exact ⟨_, done.behind sent fun _ => rfl⟩
    | success =>
      refine ⟨_, sent, fun _ => rfl, by simp [pure], ?_, fun next _ => ?_⟩
      next => simp [reconnections, isReconnection]
      next => exact ⟨[], path, by rw [code]; rfl, again⟩
    | dlmsConnectionFailed =>
      obtain ⟨result, after, events, settled, calls, quiet⟩ :=
        attemptDlmsReconnectAllPaths_settled path (book.answered path)
      dsimp only
      rw [ran_bind again, ran_bind settled]
      have both := sent.append calls
      by_cases success : result = .success
      next =>
        rw [if_pos success]
        rcases readable_or place after with readable | dead
        next =>
          obtain ⟨events', done⟩ := ih page after readable
          refine ⟨_, done.behind both fun other => ?_⟩
          exact quiet_of_readable both place other ⟨path, found⟩ readable
        next =>
          -- The vector the reference was taken from is gone.
          have moved : 0 < reconnections ([.answered path book.code] ++ events) := by
            by_contra none
            obtain ⟨path', found'⟩ := both.readable (by omega) place ⟨path, found⟩
            rw [dead] at found'
            simp at found'
          have notPrimary : place ≠ .primary := by
            rintro rfl
            simp [read] at dead
          cases turns with
          | zero =>
            refine ⟨_, both, fun _ => rfl, fun _ => moved, ?_, ?_⟩
            next =>
              intro _ _ code' next same
              simp only [pullPages, pure, Option.some.injEq, Prod.mk.injEq] at same
              exact same.1.symm
            next =>
              intro next same
              simp [pullPages, pure] at same
          | succ turns =>
            rw [pullPages, waited_bind dead]
            exact ⟨_, both, fun primary => absurd primary notPrimary, fun _ => moved, by simp,
              by simp⟩
      next =>
        rw [if_neg success]
        have none : reconnections ([.answered path book.code] ++ events) = 0 := by
          rw [reconnections_append, quiet success]
          rfl
        exact ⟨_, both.pagesDone none place .dlmsConnectionFailed page (by simp)⟩
    | dlmsError => exact ⟨_, sent.pagesDone rfl place .dlmsError page (by simp)⟩
    | _ => exact ⟨_, sent.pagesDone rfl place .failure page (by simp)⟩

/-- `erase(it)` takes out the path that is promoted, and the old primary path comes in for it. -/
theorem Stretch.promoteAt {before after : Book} {events earlier : List PathEvent}
    (stretch : Stretch before after events) (reason : Reason) (index : Nat) (alt : PathInfo)
    (code : Code) (found : after.alternatePaths[index]? = some alt)
    (last : events = earlier ++ [.answered alt code]) (success : reason.Success code)
    (other : reason ≠ .reconnect) :
    Stretch before (promoteAt reason index alt after)
      (events ++ [.promoted reason alt after.alternatePaths [alt]]) where
  log := by simp [PathBook.promoteAt, stretch.log, found]
  preceded := by
    intro front reason' path alternates erased back run
    rcases List.append_eq_append_iff.mp run with ⟨middle, rfl, run'⟩ | ⟨middle, whole, run'⟩
    next =>
      cases middle with
      | nil =>
        simp only [List.nil_append, List.cons.injEq, PathEvent.promoted.injEq] at run'
        obtain ⟨⟨rfl, rfl, -, -⟩, -⟩ := run'
        exact ⟨earlier, code, by simpa using last, success⟩
      | cons event middle => simp at run'
    next =>
      cases middle with
      | nil =>
        simp only [List.nil_append, List.cons.injEq, PathEvent.promoted.injEq] at run'
        obtain ⟨⟨rfl, rfl, -, -⟩, -⟩ := run'
        rw [List.append_nil] at whole
        exact ⟨earlier, code, whole.symm.trans last, success⟩
      | cons event middle =>
        obtain ⟨rfl, -⟩ := List.cons.inj run'
        exact stretch.preceded front reason' path alternates erased middle whole
  erased := by
    rw [erasedAlone_append, occursOnce_append, stretch.erased]
    refine and_congr_right fun _ => ⟨fun _ => ?_, fun _ => ?_⟩
    next =>
      intro path alternates erased inside
      simp only [List.mem_singleton, PathEvent.promoted.injEq] at inside
      exact absurd inside.1.symm other
    next =>
      intro reason' path alternates erased inside
      simp only [List.mem_singleton, PathEvent.promoted.injEq] at inside
      obtain ⟨-, rfl, -, rfl⟩ := inside
      rfl
  same := by
    rw [occursOnce_append]
    intro once
    have before' := stretch.same once.1
    refine List.Perm.trans ?_ before'
    obtain ⟨inside, known⟩ := List.getElem?_eq_some_iff.mp found
    have taken := List.getElem_cons_eraseIdx_perm inside
    rw [known] at taken
    have moved : (alt :: (after.alternatePaths.eraseIdx index ++ [after.primaryPath])).Perm
        (after.primaryPath :: alt :: after.alternatePaths.eraseIdx index) :=
      List.perm_append_singleton after.primaryPath (alt :: after.alternatePaths.eraseIdx index)
    exact moved.trans (taken.cons after.primaryPath)
  vector := by
    have none : reconnections [.promoted reason alt after.alternatePaths [alt]] = 0 := by
      cases reason with
      | reconnect => exact absurd rfl other
      | _ => rfl
    rw [reconnections_append, none, Nat.add_zero]
    exact stretch.vector

theorem note_stretch (onAlternate : Bool) (book : Book) :
    Stretch book { book with log := book.log ++ [.began onAlternate] } [.began onAlternate] :=
  stretch_quiet _ rfl (by simp) rfl rfl

/-- The alternate paths in their order: the run is undefined behind a reconnection. -/
structure AlternatesDone {A : Type} (book : Book) (outcome : Option A × Book)
    (events : List PathEvent) : Prop where
  stretch : Stretch book outcome.2 events
  dead : outcome.1 = none <-> 0 < reconnections events
  starts : events = [] \/ exists rest, events = .began true :: rest

theorem tryAlternates_done (alternates : List Nat) (page : UInt8) (book : Book)
    (inside : ∀ index ∈ alternates, index < book.alternatePaths.length) :
    exists events, AlternatesDone book (tryAlternates book.vector alternates page book) events := by
  induction alternates generalizing page book with
  | nil =>
    refine ⟨[], stretch_quiet [] (by simp [tryAlternates, pure]) (by simp) rfl rfl, ?_, Or.inl rfl⟩
    simp [tryAlternates, pure, reconnections]
  | cons index rest ih =>
    let began : Book := { book with log := book.log ++ [.began true] }
    have here := inside index List.mem_cons_self
    have readable : Readable (.alternate book.vector index) began :=
      ⟨book.alternatePaths[index], read_alternate began index here⟩
    obtain ⟨events, done⟩ := pullPages_done _ 16 page began readable
    have front := (note_stretch true book).append done.calls.toStretch
    have count : reconnections ([.began true] ++ events) = reconnections events := by
      rw [reconnections_append]
      exact Nat.zero_add _
    have ran : pullProfilePagesOnPath (.alternate book.vector index) page book =
        pullPages (.alternate book.vector index) 16 page began := rfl
    rw [tryAlternates]
    cases pulled : pullPages (.alternate book.vector index) 16 page began with
    | mk outcome after =>
      rw [pulled] at done front
      cases outcome with
      | none =>
        rw [waited_bind (ran.trans pulled)]
        refine ⟨_, front, ?_, Or.inr ⟨events, rfl⟩⟩
        rw [count]
        simpa using done.dead rfl
      | some result =>
        obtain ⟨ret, next⟩ := result
        rw [ran_bind (ran.trans pulled)]
        have early (other : ret ≠ .failure) : reconnections events = 0 := by
          by_contra some'
          exact other (done.late (by simp) (by omega) ret next rfl)
        cases ret with
        | success =>
          obtain ⟨earlier, path, last, found⟩ := done.success next rfl
          have known : after.alternatePaths[index]? = some path := by
            simp only [read, Prod.mk.injEq, and_true] at found
            split at found
            next => exact found
            next => simp at found
          have promoted := front.promoteAt .pages index path .success known
            (by rw [last, ← List.append_assoc]) rfl (by simp)
          dsimp only
          rw [ran_bind found]
          refine ⟨_, promoted, ?_, Or.inr ⟨_, rfl⟩⟩
          have none : reconnections [.promoted .pages path after.alternatePaths [path]] = 0 := rfl
          rw [reconnections_append, count, early (by simp), none]
          simp [bind, update, pure]
        | dlmsError =>
          refine ⟨_, front, ?_, Or.inr ⟨events, rfl⟩⟩
          rw [count, early (by simp)]
          simp [pure]
        | dlmsConnectionFailed =>
          refine ⟨_, front, ?_, Or.inr ⟨events, rfl⟩⟩
          rw [count, early (by simp)]
          simp [pure]
        | _ =>
          -- The iterator is moved on, in the vector it belongs to or not.
          dsimp only
          by_cases same : book.vector = after.vector
          next =>
            have quiet : reconnections events = 0 := by
              have vectors := done.calls.vector
              change after.vector = book.vector + reconnections events at vectors
              omega
            have kept : after.alternatePaths = book.alternatePaths := done.calls.alternates quiet
            have moved : advance book.vector after = (some (), after) := by simp [advance, same]
            obtain ⟨events', later⟩ := ih next after (by
              intro other among
              rw [kept]
              exact inside other (List.mem_cons_of_mem _ among))
            rw [ran_bind moved, same]
            refine ⟨_, front.append later.stretch, ?_, Or.inr ⟨_, rfl⟩⟩
            rw [reconnections_append, count, quiet, Nat.zero_add]
            exact later.dead
          next =>
            have some' : 0 < reconnections events := by
              have vectors := done.calls.vector
              change after.vector = book.vector + reconnections events at vectors
              omega
            have stuck : advance book.vector after = (none, after) := by simp [advance, same]
            rw [waited_bind stuck]
            refine ⟨_, front, ?_, Or.inr ⟨events, rfl⟩⟩
            rw [count]
            simpa using some'

/-- A whole operation. It gets no result exactly when it is disturbed. -/
structure Finished {A : Type} (book : Book) (outcome : Option A × Book) (events : List PathEvent) :
    Prop where
  stretch : Stretch book outcome.2 events
  defined : outcome.1.isSome = true <-> Undisturbed events

theorem undisturbed_quiet (events : List PathEvent) (quiet : .began true ∉ events) :
    Undisturbed events := by
  intro front back run
  exact absurd (by simp [run]) quiet

theorem undisturbed_append (front rest : List PathEvent) (quiet : .began true ∉ front)
    (starts : rest = [] \/ exists others, rest = .began true :: others) :
    Undisturbed (front ++ rest) <-> reconnections rest = 0 := by
  constructor
  next =>
    intro undisturbed
    rcases starts with rfl | ⟨others, rfl⟩
    next => rfl
    next =>
      have none := undisturbed front others rfl
      simpa [reconnections, isReconnection] using none
  next =>
    intro none left right run
    rcases List.append_eq_append_iff.mp run with ⟨middle, rfl, run'⟩ | ⟨middle, whole, run'⟩
    next =>
      rw [run', reconnections_append] at none
      have count : reconnections (.began true :: right) = reconnections right :=
        List.countP_cons_of_neg (by simp [isReconnection])
      omega
    next =>
      cases middle with
      | nil =>
        rw [List.nil_append] at run'
        rw [← run'] at none
        have count : reconnections (.began true :: right) = reconnections right :=
          List.countP_cons_of_neg (by simp [isReconnection])
        omega
      | cons event middle =>
        obtain ⟨rfl, -⟩ := List.cons.inj run'
        exact absurd (by simp [whole]) quiet

theorem tryPathsForProfilePull_finished (page : UInt8) (book : Book) :
    exists events, Finished book (tryPathsForProfilePull page book) events := by
  let began : Book := { book with log := book.log ++ [.began false] }
  obtain ⟨events, done⟩ := pullPages_done .primary 16 page began (readable_primary began)
  have front := (note_stretch false book).append done.calls.toStretch
  have quiet : .began true ∉ [PathEvent.began false] ++ events := by
    simp [done.calls.began true]
  have ran : pullProfilePagesOnPath .primary page book = pullPages .primary 16 page began := rfl
  rw [tryPathsForProfilePull]
  cases pulled : pullPages .primary 16 page began with
  | mk outcome after =>
    rw [pulled] at done front
    cases outcome with
    | none => simpa using done.primary rfl
    | some result =>
      obtain ⟨ret, next⟩ := result
      rw [ran_bind (ran.trans pulled)]
      have ended (code : Code) : Finished book
          ((pure (code, next) : Prog Book (Code × UInt8)) after) ([.began false] ++ events) :=
        ⟨front, iff_of_true rfl (undisturbed_quiet _ quiet)⟩
      cases ret with
      | success => exact ⟨_, ended .success⟩
      | dlmsError => exact ⟨_, ended .failure⟩
      | dlmsConnectionFailed => exact ⟨_, ended .failure⟩
      | _ =>
        obtain ⟨events', later⟩ := tryAlternates_done
          (if after.connected then List.range after.alternatePaths.length else []) next after (by
            intro index among
            split at among
            next => exact List.mem_range.mp among
            next => simp at among)
        refine ⟨_, front.append later.stretch, ?_⟩
        have alive := not_congr later.dead
        rw [undisturbed_append _ _ quiet later.starts]
        change (tryAlternates after.vector _ next after).1.isSome = true <-> _
        rw [Option.isSome_iff_ne_none, ne_eq, alive]
        omega

/-- An attempt on a path: answers on it, and the last one is a success when there is a result. -/
def Attempts (reason : Reason) (attempt : PathInfo -> Prog Book (Option Code)) : Prop :=
  forall path book, exists result after events, attempt path book = (some result, after) /\
    Calls book after events /\ reconnections events = 0 /\
    (forall code, result = some code ->
      exists earlier last, events = earlier ++ [.answered path last] /\ reason.Success last)

theorem promoteFirst_finished (reason : Reason) (attempt : PathInfo -> Prog Book (Option Code))
    (attempts : Attempts reason attempt) (other : reason ≠ .reconnect) (alternates : List Nat)
    (book : Book) (inside : ∀ index ∈ alternates, index < book.alternatePaths.length) :
    exists events result, Stretch book (promoteFirst reason attempt book.vector alternates book).2
        events /\ .began true ∉ events /\
      (promoteFirst reason attempt book.vector alternates book).1 = some result := by
  induction alternates generalizing book with
  | nil => exact ⟨[], .failure, (calls_nil book).toStretch, by simp, rfl⟩
  | cons index rest ih =>
    have here := inside index List.mem_cons_self
    let alt := book.alternatePaths[index]
    obtain ⟨result, after, events, tried, calls, quiet, success⟩ := attempts alt book
    have kept := calls.alternates quiet
    have vectors : after.vector = book.vector := by rw [calls.vector, quiet, Nat.add_zero]
    rw [promoteFirst, ran_bind (read_alternate book index here), ran_bind tried]
    cases result with
    | some code =>
      obtain ⟨earlier, last, run, good⟩ := success code rfl
      have found : after.alternatePaths[index]? = some alt := by
        rw [kept]
        exact List.getElem?_eq_getElem here
      refine ⟨_, code, calls.toStretch.promoteAt reason index alt last found run good other, ?_,
        rfl⟩
      simp [calls.began true]
    | none =>
      obtain ⟨events', result, later, began, ended⟩ := ih after (by
        intro other among
        rw [kept]
        exact inside other (List.mem_cons_of_mem _ among))
      rw [vectors] at later ended
      exact ⟨_, result, calls.toStretch.append later, by simp [calls.began true, began], ended⟩

theorem onFirstPath_finished (reason : Reason)
    (onPrimary onAlternate : PathInfo -> Prog Book (Option Code))
    (primary : Attempts reason onPrimary) (alternate : Attempts reason onAlternate)
    (other : reason ≠ .reconnect) (book : Book) :
    exists events, Finished book (onFirstPath reason onPrimary onAlternate book) events := by
  obtain ⟨result, after, events, tried, calls, -, -⟩ := primary book.primaryPath book
  have found : read .primary book = (some book.primaryPath, book) := rfl
  rw [onFirstPath, ran_bind found, ran_bind tried]
  cases result with
  | some code =>
    refine ⟨_, calls.toStretch, ?_⟩
    simp [pure, undisturbed_quiet _ (calls.began true)]
  | none =>
    obtain ⟨events', result, later, began, ended⟩ := promoteFirst_finished reason onAlternate
      alternate other (if after.connected then List.range after.alternatePaths.length else [])
      after (by
        intro index among
        split at among
        next => exact List.mem_range.mp among
        next => simp at among)
    refine ⟨_, calls.toStretch.append later, ?_⟩
    change (promoteFirst reason onAlternate after.vector _ after).1.isSome = true <-> _
    rw [ended]
    simp [undisturbed_quiet (events ++ events') (by simp [calls.began true, began])]

theorem fuotaStatus_attempts : Attempts .status fuotaStatus := by
  intro path book
  refine ⟨if book.code ≠ .failure then some book.code else none, book.answered path, _, ?_,
    answered_calls path book, rfl, ?_⟩
  next => rw [fuotaStatus, ran_bind (transmit_ran path book)]; rfl
  next =>
    intro code result
    by_cases failed : book.code = .failure
    next => simp [failed] at result
    next => exact ⟨[], book.code, rfl, failed⟩

theorem internalFirmwareVersion_attempts : Attempts .command internalFirmwareVersion := by
  intro path book
  refine ⟨if book.code = .success then some book.code else none, book.answered path, _, ?_,
    answered_calls path book, rfl, ?_⟩
  next => rw [internalFirmwareVersion, ran_bind (transmit_ran path book)]; rfl
  next =>
    intro code result
    by_cases success : book.code = .success
    next => exact ⟨[], book.code, rfl, success⟩
    next => simp [success] at result

theorem flashSave_ran (path : PathInfo) (book : Book) :
    flashSave path book =
      (some (if book.code = .success then .success else .failure), book.answered path) := by
  rw [flashSave, ran_bind (transmit_ran path book)]
  split <;> rfl

theorem softReset_ran (path : PathInfo) (book : Book) :
    softReset path book =
      (some (if book.code = .success then .success else .failure), book.answered path) := by
  rw [softReset, ran_bind (transmit_ran path book)]
  split <;> rfl

theorem performFlashAndReset_calls (path : PathInfo) (book : Book) :
    exists result after events, performFlashAndReset path book = (some result, after) /\
      Calls book after events /\ reconnections events = 0 /\
      (result = .success -> exists earlier, events = earlier ++ [.answered path .success]) := by
  have saved := answered_calls path book
  rw [performFlashAndReset, ran_bind (flashSave_ran path book)]
  by_cases flash : book.code = .success
  next =>
    have reset := answered_calls path (book.answered path)
    rw [if_pos flash, if_neg (by simp), ran_bind (softReset_ran path (book.answered path))]
    by_cases soft : (book.answered path).code = .success
    next =>
      refine ⟨.success, _, _, ?_, saved.append reset, rfl, ?_⟩
      next => simp [soft, pure]
      next => exact fun _ => ⟨[.answered path book.code], by rw [soft]⟩
    next =>
      refine ⟨.failure, _, _, ?_, saved.append reset, rfl, by simp⟩
      simp [soft, pure]
  next =>
    refine ⟨.failure, _, _, ?_, saved, rfl, by simp⟩
    simp [flash, pure]

theorem fuotaDisable_attempts (sufficient : Code -> Bool) :
    Attempts .command (fuotaDisable sufficient) := by
  intro path book
  have first := answered_calls path book
  rw [fuotaDisable, ran_bind (transmit_ran path book)]
  by_cases enough : sufficient book.code = true
  next =>
    obtain ⟨result, after, events, ran, calls, quiet, last⟩ :=
      performFlashAndReset_calls path (book.answered path)
    have calm : reconnections ([.answered path book.code] ++ events) = 0 := by
      rw [reconnections_append, quiet]
      rfl
    rw [if_pos enough, ran_bind ran]
    by_cases success : result = .success
    next =>
      obtain ⟨earlier, run⟩ := last success
      refine ⟨some book.code, after, _, by rw [if_pos success]; rfl, first.append calls, calm, ?_⟩
      intro _ _
      exact ⟨[.answered path book.code] ++ earlier, .success, by rw [run, List.append_assoc], rfl⟩
    next =>
      exact ⟨none, after, _, by rw [if_neg success]; rfl, first.append calls, calm, by simp⟩
  next =>
    rw [if_neg enough]
    exact ⟨none, book.answered path, _, rfl, first, rfl, by simp⟩

theorem Operation.finished (operation : Operation) (book : Book) :
    exists events, Finished book (operation.run book) events := by
  cases operation with
  | tryPathsForProfilePull page =>
    obtain ⟨events, done⟩ := tryPathsForProfilePull_finished page book
    cases ran : PathBook.tryPathsForProfilePull page book with
    | mk outcome after =>
      rw [ran] at done
      refine ⟨events, ?_⟩
      rw [Operation.run]
      cases outcome with
      | none =>
        rw [waited_bind ran]
        exact ⟨done.stretch, done.defined⟩
      | some result =>
        rw [ran_bind ran]
        exact ⟨done.stretch, done.defined⟩
  | attemptDlmsReconnectAllPaths failedPath =>
    obtain ⟨result, after, events, ran, calls, -⟩ :=
      attemptDlmsReconnectAllPaths_settled failedPath book
    refine ⟨events, ?_⟩
    rw [Operation.run, ran]
    exact ⟨calls.toStretch, iff_of_true rfl (undisturbed_quiet _ (calls.began true))⟩
  | checkFuotaStatus =>
    exact onFirstPath_finished .status _ _ fuotaStatus_attempts fuotaStatus_attempts (by simp) book
  | fuotaDisableForANode =>
    exact onFirstPath_finished .command _ _ (fuotaDisable_attempts _) (fuotaDisable_attempts _)
      (by simp) book
  | pullInternalFirmwareVersionForANode =>
    exact onFirstPath_finished .command _ _ internalFirmwareVersion_attempts
      internalFirmwareVersion_attempts (by simp) book

/-- The paths are kept exactly where no path that stands twice is connected again, and none at all
while an alternate path is pulled. -/
theorem kept_iff (operation : Operation) (primaryPath : PathInfo) (alternatePaths : List PathInfo)
    (connected : Bool) (answers : Nat -> Answer) :
    let start := opened primaryPath alternatePaths connected answers
    Kept operation start <->
      Undisturbed (operation.run start).2.log /\ OccursOnce (operation.run start).2.log := by
  intro start
  obtain ⟨events, done⟩ := operation.finished start
  have log : (operation.run start).2.log = events := by
    rw [done.stretch.log]
    rfl
  rw [log]
  constructor
  next =>
    intro kept
    have erased := kept.erased
    rw [log] at erased
    exact ⟨done.defined.mp kept.defined, done.stretch.erased.mp erased⟩
  next =>
    rintro ⟨undisturbed, once⟩
    refine ⟨done.defined.mpr undisturbed, done.stretch.same once, ?_, ?_⟩
    next => rw [log]; exact done.stretch.preceded
    next => rw [log]; exact done.stretch.erased.mpr once

/-- The primary path fails, the first alternate path loses the connection, and only the second one
can be connected again. -/
def lostConnection (sent : Nat) : Answer :=
  { code := match sent with
      | 1 => .dlmsConnectionFailed
      | 4 => .dlmsSuccess
      | _ => .failure
    connected := true }

theorem lostConnection_disturbs :
    ¬ forall operation primaryPath alternatePaths connected answers,
      Kept operation (opened primaryPath alternatePaths connected answers) := by
  intro every
  have kept := every (.tryPathsForProfilePull 0) { hopCount := 1, path := [1, 1, 1, 1] }
    [{ hopCount := 1, path := [2, 2, 2, 2] }, { hopCount := 1, path := [3, 3, 3, 3] }] true
    lostConnection
  have defined := kept.defined
  revert defined
  decide +kernel

end Hes.PathBook
