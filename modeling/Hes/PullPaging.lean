import Hes.PullNotes

set_option autoImplicit false

namespace Hes

open Prog

/-- The frames of a pull that has gone on to the page `pages`. -/
inductive Pulled : Nat -> List Note -> Prop where
  | start : Pulled 0 []
  | other {pages : Nat} {notes : List Note} (note : Note) : Pulled pages notes ->
      (note.merged = true -> ¬ (note.last = true /\ pageDone note.code = true)) ->
      Pulled pages (notes ++ [note])
  | next {pages : Nat} {notes : List Note} (note : Note) : Pulled pages notes ->
      note.last = true -> note.code = .nextPagePresent -> note.merged = true ->
      note.asked = UInt8.ofNat pages -> Pulled (pages + 1) (notes ++ [note])

theorem Pulled.others {pages : Nat} {notes rest : List Note} (pulled : Pulled pages notes)
    (others : ∀ note ∈ rest, note.merged = true ->
      ¬ (note.last = true /\ pageDone note.code = true)) : Pulled pages (notes ++ rest) := by
  induction rest generalizing notes with
  | nil => simpa using pulled
  | cons note rest ih =>
    have first := pulled.other note (others note (by simp))
    simpa using ih first fun later known => others later (by simp [known])

namespace Client

section Frames

variable {profile : Profile} {start : PullState} {pages : Nat}

/-- A pull that is at the page `pages`. -/
def InPull (profile : Profile) (start : PullState) (pages : Nat) (client : Client) : Prop :=
  exists asked added, Pulled pages added /\
    Gathering profile start profile.state asked added client

/-- A pull whose page `pages` was answered with `SUCCESS`. -/
def Finished (profile : Profile) (start : PullState) (pages : Nat) (client : Client) : Prop :=
  exists asked added note, Pulled pages added /\ note.last = true /\ note.code = .success /\
    note.asked = UInt8.ofNat pages /\
    Gathering profile start profile.state asked (added ++ [note]) client

theorem Unexpected.unmerged {note : Note} (unexpected : Unexpected note) :
    ¬ (note.last = true /\ pageDone note.code = true) := by
  rintro ⟨last, done⟩
  have other := unexpected last
  cases code : note.code <;> simp [pageDone, expectedCode, code] at done other

theorem transmitCommandOnPathPmesh_transmitted {state : CurrentState} {asked : UInt8}
    {added : List Note} (fuel : Nat) (packetType : UInt8) (cmd : Bytes) (path : PathRef)
    (timeoutRetries : Nat) (known : state = profile.state \/ state = .dlmsConnect) :
    Returns (Gathering profile start state asked added)
      (transmitCommandOnPathPmesh fuel packetType cmd path timeoutRetries)
      (Transmitted profile start state asked added) :=
  triple_bind (fun _ => Gathering profile start state asked added)
    (triple_observe _ fun _ gathering => gathering)
    fun packet => transmitVector_transmitted fuel packet timeoutRetries known

theorem Transmitted.gathering {state : CurrentState} {asked : UInt8} {added : List Note}
    {code : Code} {client : Client}
    (transmitted : Transmitted profile start state asked added code client) :
    exists new, Gathering profile start state asked (added ++ new) client := by
  rcases transmitted with ⟨_, tried, note, _, _, gathering⟩ | ⟨_, tried, _, gathering⟩
  next => exact ⟨tried ++ [note], by simpa using gathering⟩
  next => exact ⟨tried, gathering⟩

theorem setNode_pulls (change : NodeInfo -> NodeInfo)
    (same : forall node, (change node).profileData = node.profileData) :
    Returns (InPull profile start pages) (setNode change)
      fun _ => InPull profile start pages := by
  apply triple_update
  rintro client ⟨asked, added, pulled, gathering⟩
  refine ⟨asked, added, pulled, ?_⟩
  constructor
  next => exact gathering.notes
  next => simpa [same] using gathering.contents
  next => exact gathering.parsed
  next => exact gathering.own
  next => exact gathering.asked
  next => exact gathering.state

/-- The frames of a reconnection are not stored. -/
theorem reconnected_pulls {client last : Client} {asked : UInt8} {added new : List Note}
    (pulled : Pulled pages added)
    (before : Gathering profile start profile.state asked added client)
    (after : Gathering profile client.pull .dlmsConnect asked new last) :
    InPull profile start pages { last with control :=
      { last.control with currentState := client.control.currentState } } := by
  have unmerged : ∀ note ∈ new, note.merged = false := by
    intro note known
    by_contra merged
    have own := after.own note known (by simpa using merged)
    cases profile <;> cases own
  have nothing : mergedFrames new = [] := by
    simp only [mergedFrames, List.map_eq_nil_iff, List.filter_eq_nil_iff]
    intro note known
    simp [unmerged note known]
  refine ⟨asked, added ++ new, pulled.others ?_, ?_⟩
  next =>
    intro note known merged
    simp [unmerged note known] at merged
  constructor
  next => simp [after.notes, before.notes]
  next =>
    dsimp only
    rw [after.contents, before.contents, mergedFrames_append, nothing]
    simp [Contents.mergeAll]
  next =>
    intro note known
    rcases List.mem_append.mp known with earlier | later
    next => exact before.parsed note earlier
    next => exact after.parsed note later
  next => simp
  next => exact after.asked
  next => exact before.state

theorem attemptDlmsReconnect_pulls (fuel : Nat) (path : PathRef) :
    Returns (InPull profile start pages) (attemptDlmsReconnect fuel path)
      fun _ => InPull profile start pages := by
  rintro client ⟨asked, added, pulled, gathering⟩
  -- the pull of the reconnection starts where the client stands
  let connecting (after : Client) := exists new,
    Gathering profile client.pull .dlmsConnect asked new after
  suffices fixed : Returns (fun before => before = client) (attemptDlmsReconnect fuel path)
      fun _ => InPull profile start pages from fixed client rfl
  refine triple_bind (fun old before => old = client.control.currentState /\ before = client)
    (triple_observe _ ?_) fun old => ?_
  next =>
    rintro _ rfl
    exact ⟨rfl, rfl⟩
  apply triple_known
  rintro rfl
  refine triple_bind (fun _ => Gathering profile client.pull .dlmsConnect asked []) ?_ fun _ => ?_
  next =>
    rintro _ rfl
    constructor
    next => simp
    next => simp [mergedFrames, Contents.mergeAll]
    next => simp
    next => simp
    next => exact gathering.asked
    next => exact Or.inl rfl
  refine triple_bind (fun _ => connecting)
    ((transmitCommandOnPathPmesh_transmitted fuel 0x07 dlmsConnect path 3 (Or.inr rfl)).weaken
      (fun _ begun => begun) fun _ _ transmitted => by simpa using transmitted.gathering)
    fun ret => ?_
  refine triple_bind (fun _ => InPull profile start pages) ?_ fun _ => ?_
  next =>
    rintro last ⟨new, after⟩
    exact reconnected_pulls pulled gathering after
  split
  next => exact triple_pure _ fun _ known => known
  next => split <;> exact triple_pure _ fun _ known => known

theorem alternatesIfConnected_pulls : Returns (InPull profile start pages) alternatesIfConnected
    fun _ => InPull profile start pages :=
  triple_observe _ fun _ known => known

theorem reconnectAlternates_pulls (fuel : Nat) (alternates : List Nat) :
    Returns (InPull profile start pages) (reconnectAlternates fuel alternates)
      fun _ => InPull profile start pages := by
  induction alternates with
  | nil => exact triple_pure _ fun _ known => known
  | cons index rest ih =>
    rw [reconnectAlternates]
    refine triple_bind _ (attemptDlmsReconnect_pulls fuel _) fun retVal => ?_
    split
    next =>
      exact triple_bind _ (setNode_pulls (promoteReconnected index) fun _ => rfl)
        fun _ => triple_pure _ fun _ known => known
    next =>
      split
      next => exact triple_pure _ fun _ known => known
      next => exact ih

theorem attemptDlmsReconnectAllPaths_pulls (fuel : Nat) (failedPath : PathRef) :
    Returns (InPull profile start pages) (attemptDlmsReconnectAllPaths fuel failedPath)
      fun _ => InPull profile start pages := by
  unfold attemptDlmsReconnectAllPaths
  refine triple_bind _ (attemptDlmsReconnect_pulls fuel failedPath) fun ret => ?_
  split
  next => exact triple_pure _ fun _ known => known
  next =>
    split
    next => exact triple_pure _ fun _ known => known
    next =>
      exact triple_bind _ alternatesIfConnected_pulls
        fun alternates => reconnectAlternates_pulls fuel alternates

/-- A pull on a path, or on all of them, and the page index it hands back. -/
def PagesPulled (profile : Profile) (start : PullState) (outcome : Code × UInt8)
    (client : Client) : Prop :=
  exists pages, outcome.2 = UInt8.ofNat pages /\
    if outcome.1 = .success then Finished profile start pages client
    else InPull profile start pages client

theorem inPull_failed {client : Client} {code : Code} {page : UInt8}
    (same : page = UInt8.ofNat pages) (failed : code ≠ .success)
    (known : InPull profile start pages client) :
    PagesPulled profile start (code, page) client :=
  ⟨pages, same, by simpa [failed] using known⟩

theorem ofNat_succ (pages : Nat) : UInt8.ofNat pages + 1 = UInt8.ofNat (pages + 1) := by simp

/-- A page that was answered takes the pull to the next page, ends it, or stores nothing. -/
def Onward (profile : Profile) (start : PullState) (pages : Nat) (code : Code) (client : Client) :
    Prop :=
  if code = .nextPagePresent then InPull profile start (pages + 1) client
  else if code = .success then Finished profile start pages client
  else InPull profile start pages client

theorem Onward.other {code : Code} {client : Client} (onward : Onward profile start pages code client)
    (more : code ≠ .nextPagePresent) (unfinished : code ≠ .success) :
    InPull profile start pages client := by
  simpa [Onward, more, unfinished] using onward

theorem transmitted_pulls {client : Client} {added : List Note} {code : Code}
    (pulled : Pulled pages added)
    (transmitted : Transmitted profile start profile.state (UInt8.ofNat pages) added code client) :
    Onward profile start pages code client := by
  unfold Onward
  rcases transmitted with ⟨expected, tried, note, unexpected, met, gathering⟩ | ⟨rfl, trying⟩
  next =>
    have reached : Pulled pages (added ++ tried) := pulled.others fun other known _ =>
      Unexpected.unmerged (unexpected other known)
    split
    next page =>
      exact ⟨_, _, reached.next note met.last (met.code.trans page) (met.next page) met.asked,
        gathering⟩
    next other =>
      split
      next done =>
        exact ⟨_, added ++ tried, note, reached, met.last, met.code.trans done, met.asked,
          gathering⟩
      next failed =>
        have unmerged : note.merged = true -> ¬ (note.last = true /\ pageDone note.code = true) := by
          rintro - ⟨-, page⟩
          rw [met.code] at page
          simp [pageDone, other, failed] at page
        exact ⟨_, _, reached.other note unmerged, gathering⟩
  next =>
    obtain ⟨tried, unexpected, gathering⟩ := trying
    simp only [reduceCtorEq, if_false]
    exact ⟨_, added ++ tried, pulled.others fun other known _ =>
      Unexpected.unmerged (unexpected other known), gathering⟩

theorem askPage_pulls {page : UInt8} :
    Returns (InPull profile start pages) (askPage page)
      fun _ client => exists added, Pulled pages added /\
        Gathering profile start profile.state page added client := by
  apply triple_update
  rintro client ⟨asked, added, pulled, gathering⟩
  refine ⟨added, pulled, ?_⟩
  constructor
  next => exact gathering.notes
  next => exact gathering.contents
  next => exact gathering.parsed
  next => exact gathering.own
  next => rfl
  next => exact gathering.state

theorem pullProfilePagesOnPath_pulls (fuel : Nat) (path : PathRef) (turns : Nat) (page : UInt8)
    (same : page = UInt8.ofNat pages) :
    Returns (InPull profile start pages) (pullProfilePagesOnPath fuel profile path turns page)
      (PagesPulled profile start) := by
  induction turns generalizing pages page with
  | zero => exact triple_pure _ fun _ known => inPull_failed same (by simp) known
  | succ turns ih =>
    rw [pullProfilePagesOnPath]
    refine triple_bind _ askPage_pulls fun _ => ?_
    apply triple_exists
    intro added
    apply triple_known
    intro pulled
    subst same
    refine triple_bind (fun _ => Gathering profile start profile.state (UInt8.ofNat pages) added)
      (triple_observe _ fun _ gathering => gathering) fun dlmsCmd => ?_
    refine triple_bind _ ((transmitCommandOnPathPmesh_transmitted fuel 0x07 dlmsCmd path 3
      (Or.inl rfl)).weaken (fun _ gathering => gathering)
      fun code _ transmitted => transmitted_pulls pulled transmitted) fun code => ?_
    split
    next =>
      split
      next =>
        exact triple_pure _ fun _ known => inPull_failed (ofNat_succ pages) (by simp) known
      next => exact ih _ (ofNat_succ pages)
    next => exact triple_pure _ fun _ known => ⟨pages, rfl, known⟩
    next =>
      refine triple_bind _ ((attemptDlmsReconnectAllPaths_pulls fuel path).weaken
        (fun _ onward => onward.other (by simp) (by simp)) fun _ _ known => known) fun ret => ?_
      split
      next => exact ih _ rfl
      next => exact triple_pure _ fun _ known => inPull_failed rfl (by simp) known
    next =>
      exact triple_pure _ fun _ onward =>
        inPull_failed rfl (by simp) (onward.other (by simp) (by simp))
    next more unfinished _ _ =>
      exact triple_pure _ fun _ onward => inPull_failed rfl (by simp) (onward.other more unfinished)

theorem PagesPulled.failed {outcome : Code × UInt8} {client : Client}
    (pulled : PagesPulled profile start outcome client) (failed : outcome.1 ≠ .success) :
    exists pages, outcome.2 = UInt8.ofNat pages /\ InPull profile start pages client := by
  obtain ⟨pages, same, known⟩ := pulled
  exact ⟨pages, same, by simpa [failed] using known⟩

/-- A path that failed hands the page index to what comes behind it. -/
theorem failed_pulls {A : Type} {ret : Code} {page : UInt8} {prog : Prog Client A}
    {post : A -> Client -> Prop} (failed : ret ≠ .success)
    (behind : forall pages, page = UInt8.ofNat pages ->
      Returns (InPull profile start pages) prog post) :
    Returns (PagesPulled profile start (ret, page)) prog post := by
  intro client pulled
  obtain ⟨pages, same, known⟩ := pulled.failed failed
  exact behind pages same client known

theorem promoted_pulls (index : Nat) (page : UInt8) :
    Returns (PagesPulled profile start (.success, page)) (setNode (promotePulled index))
      fun _ => PagesPulled profile start (.success, page) := by
  apply triple_update
  rintro client ⟨pages, same, asked, added, note, pulled, last, done, itsAsked, gathering⟩
  refine ⟨pages, same, asked, added, note, pulled, last, done, itsAsked, ?_⟩
  constructor
  next => exact gathering.notes
  next => exact gathering.contents
  next => exact gathering.parsed
  next => exact gathering.own
  next => exact gathering.asked
  next => exact gathering.state

theorem gaveUp_pulls {ret : Code} {page : UInt8} (failed : ret ≠ .success) :
    Returns (PagesPulled profile start (ret, page)) (pure (Code.failure, page))
      (PagesPulled profile start) :=
  failed_pulls failed fun _ same => triple_pure _ fun _ known => inPull_failed same (by simp) known

theorem tryAlternates_pulls (fuel : Nat) (alternates : List Nat) (page : UInt8)
    (same : page = UInt8.ofNat pages) :
    Returns (InPull profile start pages) (tryAlternates fuel profile alternates page)
      (PagesPulled profile start) := by
  induction alternates generalizing pages page with
  | nil => exact triple_pure _ fun _ known => inPull_failed same (by simp) known
  | cons index rest ih =>
    rw [tryAlternates]
    refine triple_bind _ (pullProfilePagesOnPath_pulls fuel _ 16 page same) fun outcome => ?_
    obtain ⟨ret, next⟩ := outcome
    dsimp only
    split
    next =>
      exact triple_bind _ (promoted_pulls index next) fun _ => triple_pure _ fun _ known => known
    next => exact gaveUp_pulls (by simp)
    next => exact gaveUp_pulls (by simp)
    next failed _ _ => exact failed_pulls failed fun pages same => ih next same

theorem tryPathsForProfilePull_pulls (fuel : Nat) :
    Returns (InPull profile start 0) (tryPathsForProfilePull fuel profile 0)
      (PagesPulled profile start) := by
  refine triple_bind _ (pullProfilePagesOnPath_pulls fuel _ 16 0 rfl) fun outcome => ?_
  obtain ⟨ret, next⟩ := outcome
  dsimp only
  split
  next => exact triple_pure _ fun _ known => known
  next => exact gaveUp_pulls (by simp)
  next => exact gaveUp_pulls (by simp)
  next failed _ _ =>
    refine failed_pulls failed fun pages same => ?_
    exact triple_bind _ alternatesIfConnected_pulls
      fun alternates => tryAlternates_pulls fuel alternates next same

end Frames

end Client

def mergedNotes (notes : List Note) : List Note := notes.filter fun note => note.merged

/-- The reply that took the pull to its next page. -/
def Note.advances (note : Note) : Bool := note.last && note.code = .nextPagePresent

theorem pulled_count {pages : Nat} {notes : List Note} (pulled : Pulled pages notes) :
    ((mergedNotes notes).filter Note.advances).length = pages := by
  -- the pages that went into the buffer are those the loop went on with, and some more
  induction pulled with
  | start => rfl
  | other note _ unmerged ih =>
    have stays : note.merged = true -> note.advances = false := by
      intro merged
      have other := unmerged merged
      by_contra advances
      apply other
      simp only [Note.advances, Bool.not_eq_false, Bool.and_eq_true, decide_eq_true_eq] at advances
      exact ⟨advances.1, by simp [pageDone, advances.2]⟩
    cases merged : note.merged with
    | false => simpa [mergedNotes, merged] using ih
    | true => simpa [mergedNotes, merged, stays merged] using ih
  | next note _ last code merged _ ih =>
    have advances : note.advances = true := by simp [Note.advances, last, code]
    have added (notes : List Note) : mergedNotes (notes ++ [note]) = mergedNotes notes ++ [note] := by
      simp [mergedNotes, merged]
    rw [added, List.filter_append, List.length_append, ih]
    simp [advances]

theorem pulled_asked {pages : Nat} {notes : List Note} (pulled : Pulled pages notes)
    (only : ∀ note ∈ mergedNotes notes, note.last = true /\ pageDone note.code = true) :
    (mergedNotes notes).map (fun note => note.asked) = (List.range pages).map UInt8.ofNat := by
  induction pulled with
  | start => rfl
  | other note _ unmerged ih =>
    have skipped : note.merged = false := by
      by_contra merged
      have merged : note.merged = true := by simpa using merged
      exact unmerged merged (only note (by simp [mergedNotes, merged]))
    have same (notes : List Note) : mergedNotes (notes ++ [note]) = mergedNotes notes := by
      simp [mergedNotes, skipped]
    rw [same] at only ⊢
    exact ih only
  | next note _ _ _ merged asked ih =>
    have added (notes : List Note) : mergedNotes (notes ++ [note]) = mergedNotes notes ++ [note] := by
      simp [mergedNotes, merged]
    rw [added] at only ⊢
    rw [List.map_append, ih fun earlier known => only earlier (by simp [known]), List.range_succ]
    simp [asked]

/-- The pages `0..k` are in the buffer, each once and in order, and each parsed in full. -/
structure Sound (profile : Profile) (k : UInt8) (notes : List Note) (contents : Contents) :
    Prop where
  pages : (mergedNotes notes).map (fun note => note.page) =
    (List.range (k.toNat + 1)).map UInt8.ofNat
  parsed : ∀ note ∈ mergedNotes notes, Dlms.parses note.frame (byteAt note.frame 25) = true
  contents : contents = profile.empty.mergeAll (mergedFrames notes)

/-- Every reply that was merged names the page that was asked for and ends its transmission, and
the last reply is merged. -/
structure InStep (notes : List Note) : Prop where
  named : ∀ note ∈ mergedNotes notes, note.page = note.asked
  acted : ∀ note ∈ mergedNotes notes, note.last = true /\ pageDone note.code = true
  ended : exists front note, notes = front ++ [note] /\ note.merged = true
  bounded : (mergedNotes notes).length ≤ 256

/-- The reply with the last code is not a page: one page was merged without the loop taking it for
one, and the pages came in order all the same. -/
structure Stray (notes : List Note) : Prop where
  named : (mergedNotes notes).map (fun note => note.page) =
    (List.range (mergedNotes notes).length).map UInt8.ofNat
  parsed : ∀ note ∈ mergedNotes notes, Dlms.parses note.frame (byteAt note.frame 25) = true
  ended : exists front note, notes = front ++ [note] /\ note.merged = false
  one : ((mergedNotes notes).filter fun note => !note.advances).length = 1
  bounded : (mergedNotes notes).length ≤ 256

theorem filter_split (notes : List Note) :
    (notes.filter Note.advances).length + (notes.filter fun note => !note.advances).length =
      notes.length := by
  induction notes with
  | nil => rfl
  | cons note rest ih => cases advances : note.advances <;> simp [advances] <;> omega

theorem all_advance (notes : List Note)
    (none : (notes.filter fun note => !note.advances).length = 0) :
    ∀ note ∈ notes, note.last = true /\ pageDone note.code = true := by
  intro note known
  have advances : note.advances = true := by
    have empty := List.filter_eq_nil_iff.mp (List.length_eq_zero_iff.mp none) note known
    simpa using empty
  simp only [Note.advances, Bool.and_eq_true, decide_eq_true_eq] at advances
  exact ⟨advances.1, by simp [pageDone, advances.2]⟩

theorem toNat_page (pages : Nat) : (UInt8.ofNat pages).toNat = pages % 256 := by simp

theorem sound_iff_merged {profile : Profile} {pages : Nat} {front : List Note} {note : Note}
    {contents : Contents} (pulled : Pulled pages front) (last : note.last = true)
    (done : note.code = .success) (asked : note.asked = UInt8.ofNat pages)
    (parsed : ∀ other ∈ front ++ [note], other.Parsed) (merged : note.merged = true)
    (same : contents = profile.empty.mergeAll (mergedFrames (front ++ [note]))) :
    Sound profile (UInt8.ofNat pages) (front ++ [note]) contents <-> InStep (front ++ [note]) := by
  have added : mergedNotes (front ++ [note]) = mergedNotes front ++ [note] := by
    simp [mergedNotes, merged]
  have counted := pulled_count pulled
  have split := filter_split (mergedNotes front)
  have doneNote : note.last = true /\ pageDone note.code = true := ⟨last, by simp [pageDone, done]⟩
  -- the pages asked for, when the loop took every merged reply for its page
  have inOrder (only : ∀ note ∈ mergedNotes front, note.last = true /\ pageDone note.code = true) :
      (mergedNotes (front ++ [note])).map (fun note => note.asked) =
        (List.range (pages + 1)).map UInt8.ofNat := by
    rw [added, List.map_append, pulled_asked pulled only, List.range_succ]
    simp [asked]
  constructor
  next =>
    intro sound
    have length := congrArg List.length sound.pages
    rw [toNat_page, added] at length
    simp only [List.length_map, List.length_append, List.length_cons, List.length_nil,
      List.length_range] at length
    have acted := all_advance (mergedNotes front) (by omega)
    refine ⟨?_, ?_, ⟨front, note, rfl, merged⟩, ?_⟩
    next =>
      apply List.map_inj_left.mp
      rw [sound.pages, inOrder acted, toNat_page, show pages % 256 = pages by omega]
    next =>
      intro other known
      rw [added] at known
      rcases List.mem_append.mp known with earlier | same
      next => exact acted other earlier
      next => rw [List.mem_singleton.mp same]; exact doneNote
    next =>
      rw [added]
      simp only [List.length_append, List.length_cons, List.length_nil]
      omega
  next =>
    intro inStep
    have acted : ∀ other ∈ mergedNotes front, other.last = true /\ pageDone other.code = true :=
      fun other known => inStep.acted other (by rw [added]; simp [known])
    have ordered := inOrder acted
    have length := congrArg List.length ordered
    have bounded := inStep.bounded
    simp only [List.length_map, List.length_range] at length
    refine ⟨?_, ?_, same⟩
    next =>
      rw [toNat_page, show pages % 256 = pages by omega, <- ordered]
      exact List.map_inj_left.mpr inStep.named
    next =>
      intro other known
      have inside : other ∈ front ++ [note] := List.mem_of_mem_filter known
      have stored : other.merged = true := List.of_mem_filter known
      exact parsed other inside stored (inStep.acted other known).2

theorem sound_iff_stray {profile : Profile} {pages : Nat} {front : List Note} {note : Note}
    {contents : Contents} (pulled : Pulled pages front) (merged : note.merged = false)
    (same : contents = profile.empty.mergeAll (mergedFrames (front ++ [note]))) :
    Sound profile (UInt8.ofNat pages) (front ++ [note]) contents <-> Stray (front ++ [note]) := by
  have added : mergedNotes (front ++ [note]) = mergedNotes front := by
    simp [mergedNotes, merged]
  have counted := pulled_count pulled
  have split := filter_split (mergedNotes front)
  constructor
  next =>
    intro sound
    have length := congrArg List.length sound.pages
    rw [toNat_page, added] at length
    simp only [List.length_map, List.length_range] at length
    refine ⟨?_, sound.parsed, ⟨front, note, rfl, merged⟩, ?_, ?_⟩
    next =>
      rw [sound.pages, toNat_page, added]
      rw [length]
    next => rw [added]; omega
    next => rw [added]; omega
  next =>
    intro stray
    have one := stray.one
    have bounded := stray.bounded
    rw [added] at one bounded
    refine ⟨?_, stray.parsed, same⟩
    rw [stray.named, toNat_page, added, show pages % 256 + 1 = (mergedNotes front).length by omega]

/-- A pull that ends well is sound exactly when its replies came in step with its requests. -/
theorem paging_sound_iff (fuel : Nat) (profile : Profile) (client last : Client) (k : UInt8)
    (state : client.control.currentState = profile.state)
    (empty : profile.contents client.pull.node.profileData = profile.empty)
    (returned : Client.tryPathsForProfilePull fuel profile 0 client = (some (.success, k), last)) :
    Sound profile k (last.pull.notes.drop client.pull.notes.length)
        (profile.contents last.pull.node.profileData) <->
      InStep (last.pull.notes.drop client.pull.notes.length) \/
        Stray (last.pull.notes.drop client.pull.notes.length) := by
  have begun : Client.InPull profile client.pull 0 client := by
    refine ⟨client.pull.asked, [], Pulled.start, ?_⟩
    constructor
    next => simp
    next => rfl
    next => simp
    next => simp
    next => rfl
    next => exact Or.inl state
  obtain ⟨pages, same, finished⟩ :=
    (Client.tryPathsForProfilePull_pulls fuel).returned begun returned
  obtain ⟨asked, front, note, pulled, isLast, done, itsAsked, gathering⟩ := finished
  have notes : last.pull.notes.drop client.pull.notes.length = front ++ [note] := by
    simp [gathering.notes]
  have contents := gathering.contents
  rw [empty] at contents
  rw [notes]
  obtain rfl : k = UInt8.ofNat pages := same
  cases merged : note.merged with
  | true =>
    have noStray : ¬ Stray (front ++ [note]) := by
      intro stray
      obtain ⟨other, final, split, unmerged⟩ := stray.ended
      obtain ⟨_, rfl⟩ := List.append_singleton_inj.mp split
      simp [merged] at unmerged
    rw [sound_iff_merged pulled isLast done itsAsked gathering.parsed merged contents]
    simp [noStray]
  | false =>
    have notInStep : ¬ InStep (front ++ [note]) := by
      intro inStep
      obtain ⟨other, final, split, isMerged⟩ := inStep.ended
      obtain ⟨_, rfl⟩ := List.append_singleton_inj.mp split
      simp [merged] at isMerged
    rw [sound_iff_stray pulled merged contents]
    simp [notInStep]

/-- The callers ask for the first page in the state of the profile and with an empty buffer. -/
theorem pullProfileForANode_prepares (fuel : Nat) (profile : Profile) (client : Client) :
    exists prepared : Client,
      Client.pullProfileForANode fuel profile client =
        (do let outcome <- Client.tryPathsForProfilePull fuel profile 0
            Client.setCurrentNode false
            return outcome) prepared /\
      prepared.control.currentState = profile.state /\
      profile.contents prepared.pull.node.profileData = profile.empty /\
      prepared.pull.notes = client.pull.notes :=
  ⟨_, rfl, rfl, profile.contents_clear client.pull.node.profileData, rfl⟩

/-- A block load page of the node 01020304: one block of one record. -/
def blockPage (page next value : UInt8) : Bytes :=
  [0x2E, 0x1E, 0x08, 0x00, 0x00, 0x00, 0x00, 0x00, 0x00, 0x00, 0x00, 0x01, 0x02, 0x03, 0x04, 0x00,
    0x00] ++ withChecksum [0x2D, 0x00, 0x0D, page, 0x0E, 0x04, 0x00, next, 0x01, 0x06, 0x00, 0x11,
    value]

/-- A client in the block load state, at a node that sends the pages. -/
def blockLoadClient (replies : List Bytes) : Client where
  inputs := { recv := fun turn => match replies[turn]? with
    | some bytes => .data bytes none
    | none => .timedOut }
  control := { targetState := .pull, currentState := .blockLoad }
  pull := { currentNode := true, node := { nodeMacAddress := [0x3C, 0xC1, 0xF6, 0x01, 1, 2, 3, 4]
                                           primaryPath := { path := [1, 2, 3, 4] } } }

theorem paging_sound_two_pages :
    Sound .blockLoad 1
      (Client.tryPathsForProfilePull 4 .blockLoad 0
        (blockLoadClient [blockPage 0 1 7, blockPage 1 0 8])).2.pull.notes
      (Profile.contents .blockLoad (Client.tryPathsForProfilePull 4 .blockLoad 0
        (blockLoadClient [blockPage 0 1 7, blockPage 1 0 8])).2.pull.node.profileData) := by
  refine (paging_sound_iff 4 .blockLoad (blockLoadClient [blockPage 0 1 7, blockPage 1 0 8]) _ 1
    rfl rfl (returned_of_fst _ _ _ (by decide +kernel))).mpr (Or.inl ⟨?_, ?_, ?_, ?_⟩)
  next => decide +kernel
  next => decide +kernel
  next => exact ⟨_, _, (List.dropLast_append_getLast (by decide +kernel)).symm, by decide +kernel⟩
  next => decide +kernel

/-- Page 0 is answered once more while page 1 is asked for: page 1 never arrives. -/
theorem late_page_merged_twice :
    let client := blockLoadClient [blockPage 0 1 7, blockPage 0 1 7, blockPage 2 0 9]
    let outcome := Client.tryPathsForProfilePull 4 .blockLoad 0 client
    client.control.currentState = Profile.state .blockLoad /\
      Profile.contents .blockLoad client.pull.node.profileData = Profile.empty .blockLoad /\
      outcome.1 = some (.success, 2) /\
      (mergedNotes outcome.2.pull.notes).map (fun note => note.page) = [0, 0, 2] /\
      ¬ Sound .blockLoad 2 outcome.2.pull.notes
        (Profile.contents .blockLoad outcome.2.pull.node.profileData) := by
  have pages : (mergedNotes (Client.tryPathsForProfilePull 4 .blockLoad 0
      (blockLoadClient [blockPage 0 1 7, blockPage 0 1 7, blockPage 2 0 9])).2.pull.notes).map
      (fun note => note.page) = [0, 0, 2] := by
    decide +kernel
  refine ⟨rfl, rfl, by decide +kernel, pages, ?_⟩
  intro sound
  have wrong := pages.symm.trans sound.pages
  revert wrong
  decide

end Hes
