import Mathlib.Logic.Function.Basic
import Hes.Lib.Transition

set_option autoImplicit false

namespace Hes.Registry

open Transition

abbrev GatewayId := Vector UInt8 16

abbrev Pointer := Nat

/-- Where the thread that owns a `Client` stands between accept and destruction. -/
inductive Phase where
  | accepted
  | serving
  | identified
  | registered
  | unregistered
  deriving DecidableEq, Repr

structure Client where
  gatewayId : GatewayId := Vector.replicate 16 0
  duplicateGateway : Bool := false
  allowReconnect : Bool := true
  phase : Phase := .accepted
  deriving DecidableEq, Repr

structure Server where
  clients : Pointer -> Option Client := fun _ => none
  gClients : GatewayId -> Option Pointer := fun _ => none

def Server.modify (server : Server) (pointer : Pointer) (change : Client -> Client) : Server :=
  { server with
    clients := Function.update server.clients pointer ((server.clients pointer).map change) }

def Client.flagDuplicate (client : Client) : Client :=
  { client with duplicateGateway := true, allowReconnect := false }

def Server.dropOld (server : Server) (key : GatewayId) : Server :=
  match server.gClients key with
  | some old =>
    let flagged := server.modify old Client.flagDuplicate
    { flagged with gClients := Function.update flagged.gClients key none }
  | none => server

def Server.registerClient (server : Server) (key : GatewayId) (newClient : Pointer) : Server :=
  let cleared := server.dropOld key
  { cleared with gClients := Function.update cleared.gClients key (some newClient) }

def Server.unregisterClient (server : Server) (key : GatewayId) (currentClient : Pointer) :
    Server :=
  if server.gClients key = some currentClient then
    { server with gClients := Function.update server.gClients key none }
  else server

inductive Event where
  | accept (pointer : Pointer)
  | discard (pointer : Pointer)
  | dispatch (pointer : Pointer)
  | identify (pointer : Pointer) (gatewayId : GatewayId)
  | register (pointer : Pointer)
  | unregister (pointer : Pointer)
  | destroy (pointer : Pointer)
  deriving DecidableEq, Repr

/-- The thread owning `pointer` takes `action` when it stands in one of `phases`. -/
def Server.whenIn (server : Server) (pointer : Pointer) (phases : List Phase)
    (action : Client -> Server) : Option Server :=
  match server.clients pointer with
  | some client => if client.phase ∈ phases then some (action client) else none
  | none => none

def Server.release (server : Server) (pointer : Pointer) : Server :=
  { server with clients := Function.update server.clients pointer none }

def step : Step Server Event := fun server event =>
  match event with
  | .accept pointer =>
    match server.clients pointer with
    | none => some { server with clients := Function.update server.clients pointer (some {}) }
    | some _ => none
  -- configure_socket_options failed: destroyed without a thread
  | .discard pointer => server.whenIn pointer [.accepted] fun _ => server.release pointer
  | .dispatch pointer => server.whenIn pointer [.accepted] fun _ =>
      server.modify pointer fun client => { client with phase := .serving }
  -- comm_init_status lets the first chunk alone reach initCommunication
  | .identify pointer gatewayId => server.whenIn pointer [.serving] fun _ =>
      server.modify pointer fun client =>
        { client with gatewayId := gatewayId, phase := .identified }
  | .register pointer => server.whenIn pointer [.identified] fun client =>
      (server.registerClient client.gatewayId pointer).modify pointer fun current =>
        { current with phase := .registered }
  | .unregister pointer => server.whenIn pointer [.serving, .registered] fun client =>
      (server.unregisterClient client.gatewayId pointer).modify pointer fun current =>
        { current with phase := .unregistered }
  | .destroy pointer => server.whenIn pointer [.unregistered] fun _ => server.release pointer

def Client.Listed (client : Client) : Prop :=
  client.phase = .registered /\ client.duplicateGateway = false

/-- Only a client that has registered is ever flagged. -/
def Client.Ordered (client : Client) : Prop :=
  client.duplicateGateway = true -> client.phase = .registered \/ client.phase = .unregistered

structure Server.Valid (server : Server) : Prop where
  ordered : forall pointer client, server.clients pointer = some client -> client.Ordered
  entry : forall key pointer, server.gClients key = some pointer ->
    exists client, server.clients pointer = some client /\ client.gatewayId = key /\ client.Listed
  present : forall pointer client, server.clients pointer = some client -> client.Listed ->
    server.gClients client.gatewayId = some pointer

@[simp]
theorem modify_gClients (server : Server) (pointer : Pointer) (change : Client -> Client) :
    (server.modify pointer change).gClients = server.gClients := rfl

theorem modify_same (server : Server) (pointer : Pointer) (change : Client -> Client) :
    (server.modify pointer change).clients pointer = (server.clients pointer).map change := by
  simp [Server.modify]

theorem modify_other (server : Server) (pointer other : Pointer) (change : Client -> Client)
    (different : other ≠ pointer) :
    (server.modify pointer change).clients other = server.clients other := by
  simp [Server.modify, different]

theorem whenIn_some (server next : Server) (pointer : Pointer) (phases : List Phase)
    (action : Client -> Server) :
    server.whenIn pointer phases action = some next <->
      exists client, server.clients pointer = some client /\ client.phase ∈ phases /\
        action client = next := by
  unfold Server.whenIn
  cases known : server.clients pointer <;> simp

/-- The registry is untouched by a change at a pointer that is not listed before or after. -/
theorem unlisted_update_valid (server : Server) (valid : server.Valid) (pointer : Pointer)
    (after : Option Client)
    (before : forall client, server.clients pointer = some client -> ¬ client.Listed)
    (unlisted : forall client, after = some client -> ¬ client.Listed)
    (ordered : forall client, after = some client -> client.Ordered) :
    Server.Valid { server with clients := Function.update server.clients pointer after } := by
  constructor
  next =>
    intro target client known
    by_cases same : target = pointer
    next =>
      subst same
      exact ordered client (by simpa using known)
    next =>
      exact valid.ordered target client (by simpa [same] using known)
  next =>
    intro key target listed
    obtain ⟨client, known, same, holds⟩ := valid.entry key target listed
    have different : target ≠ pointer := by
      intro equal
      exact before client (equal ▸ known) holds
    exact ⟨client, by simpa [different] using known, same, holds⟩
  next =>
    intro target client known holds
    by_cases same : target = pointer
    next =>
      subst same
      exact absurd holds (unlisted client (by simpa using known))
    next =>
      exact valid.present target client (by simpa [same] using known) holds

theorem modify_valid (server : Server) (valid : server.Valid) (pointer : Pointer)
    (change : Client -> Client)
    (before : forall client, server.clients pointer = some client -> ¬ client.Listed)
    (after : forall client, ¬ (change client).Listed)
    (ordered : forall client, server.clients pointer = some client -> (change client).Ordered) :
    (server.modify pointer change).Valid := by
  refine unlisted_update_valid server valid pointer _ before ?_ ?_
  next =>
    intro client known
    obtain ⟨previous, -, rfl⟩ := Option.map_eq_some_iff.mp known
    exact after previous
  next =>
    intro client known
    obtain ⟨previous, alive, rfl⟩ := Option.map_eq_some_iff.mp known
    exact ordered previous alive

theorem erase_flagged_valid (server : Server) (valid : server.Valid) (key : GatewayId)
    (pointer : Pointer) (change : Client -> Client) (listed : server.gClients key = some pointer)
    (after : forall client, ¬ (change client).Listed)
    (ordered : forall client, client.Listed -> (change client).Ordered) :
    Server.Valid { server.modify pointer change with
      gClients := Function.update server.gClients key none } := by
  obtain ⟨owner, known, owned, registered⟩ := valid.entry key pointer listed
  constructor
  next =>
    intro target client found
    by_cases same : target = pointer
    next =>
      subst same
      have changed : change owner = client := by simpa [modify_same, known] using found
      exact changed ▸ ordered owner registered
    next =>
      exact valid.ordered target client
        (by simpa [modify_other _ _ _ _ same] using found)
  next =>
    intro other target found
    have different : other ≠ key := by
      rintro rfl
      simp at found
    have previous : server.gClients other = some target := by simpa [different] using found
    obtain ⟨client, alive, same, holds⟩ := valid.entry other target previous
    have elsewhere : target ≠ pointer := by
      rintro rfl
      have equal : owner = client := by simpa [known] using alive
      exact different (by rw [← same, ← equal, owned])
    exact ⟨client, by rw [modify_other _ _ _ _ elsewhere]; exact alive, same, holds⟩
  next =>
    intro target client found holds
    by_cases same : target = pointer
    next =>
      subst same
      have changed : (server.clients target).map change = some client := by
        simpa [modify_same] using found
      obtain ⟨previous, -, rfl⟩ := Option.map_eq_some_iff.mp changed
      exact absurd holds (after previous)
    next =>
      have previous : server.clients target = some client := by
        simpa [modify_other _ _ _ _ same] using found
      have present := valid.present target client previous holds
      have different : client.gatewayId ≠ key := by
        intro equal
        rw [equal, listed] at present
        exact same (by simpa using present.symm)
      simpa [different] using present

theorem flagDuplicate_unlisted (client : Client) : ¬ client.flagDuplicate.Listed := by
  simp [Client.Listed, Client.flagDuplicate]

theorem flagDuplicate_ordered (client : Client) (listed : client.Listed) :
    client.flagDuplicate.Ordered := fun _ => Or.inl listed.1

theorem dropOld_valid (server : Server) (valid : server.Valid) (key : GatewayId) :
    (server.dropOld key).Valid := by
  unfold Server.dropOld
  cases listed : server.gClients key with
  | none => exact valid
  | some old =>
    exact erase_flagged_valid server valid key old _ listed flagDuplicate_unlisted
      flagDuplicate_ordered

theorem dropOld_absent (server : Server) (key : GatewayId) :
    (server.dropOld key).gClients key = none := by
  unfold Server.dropOld
  cases listed : server.gClients key <;> simp [listed]

theorem dropOld_unlisted (server : Server) (valid : server.Valid) (key : GatewayId)
    (pointer : Pointer) (client : Client) (known : server.clients pointer = some client)
    (unlisted : ¬ client.Listed) : (server.dropOld key).clients pointer = some client := by
  unfold Server.dropOld
  cases listed : server.gClients key with
  | none => exact known
  | some old =>
    obtain ⟨owner, alive, -, holds⟩ := valid.entry key old listed
    have different : pointer ≠ old := by
      rintro rfl
      have equal : owner = client := by simpa [alive] using known
      exact unlisted (equal ▸ holds)
    simpa [modify_other _ _ _ _ different] using known

theorem register_valid (server : Server) (valid : server.Valid) (pointer : Pointer)
    (client : Client) (known : server.clients pointer = some client)
    (phase : client.phase = .identified) :
    ((server.registerClient client.gatewayId pointer).modify pointer fun current =>
      { current with phase := .registered }).Valid := by
  have unlisted : ¬ client.Listed := by simp [Client.Listed, phase]
  have unflagged : client.duplicateGateway = false := by
    have ordered := valid.ordered pointer client known
    simpa [Client.Ordered, phase] using ordered
  have cleared := dropOld_valid server valid client.gatewayId
  have alive := dropOld_unlisted server valid client.gatewayId pointer client known unlisted
  constructor
  next =>
    intro target owner found
    by_cases same : target = pointer
    next =>
      subst same
      have equal : { client with phase := .registered } = owner := by
        simpa [modify_same, Server.registerClient, alive] using found
      subst equal
      exact fun _ => Or.inl rfl
    next =>
      exact cleared.ordered target owner
        (by simpa [modify_other _ _ _ _ same, Server.registerClient] using found)
  next =>
    intro key target found
    by_cases same : key = client.gatewayId
    next =>
      subst same
      have equal : pointer = target := by simpa [Server.registerClient] using found
      subst equal
      refine ⟨{ client with phase := .registered }, ?_, rfl, rfl, unflagged⟩
      simp [modify_same, Server.registerClient, alive]
    next =>
      have previous : (server.dropOld client.gatewayId).gClients key = some target := by
        simpa [Server.registerClient, same] using found
      obtain ⟨owner, lives, owned, holds⟩ := cleared.entry key target previous
      have different : target ≠ pointer := by
        rintro rfl
        have equal : client = owner := by simpa [alive] using lives
        exact unlisted (equal ▸ holds)
      exact ⟨owner, by simpa [modify_other _ _ _ _ different, Server.registerClient] using lives,
        owned, holds⟩
  next =>
    intro target owner found holds
    by_cases same : target = pointer
    next =>
      subst same
      have equal : { client with phase := .registered } = owner := by
        simpa [modify_same, Server.registerClient, alive] using found
      subst equal
      simp [Server.registerClient]
    next =>
      have lives : (server.dropOld client.gatewayId).clients target = some owner := by
        simpa [modify_other _ _ _ _ same, Server.registerClient] using found
      have present := cleared.present target owner lives holds
      have different : owner.gatewayId ≠ client.gatewayId := by
        intro equal
        rw [equal, dropOld_absent] at present
        simp at present
      simpa [Server.registerClient, different] using present

theorem unregister_valid (server : Server) (valid : server.Valid) (pointer : Pointer)
    (client : Client) (known : server.clients pointer = some client) :
    ((server.unregisterClient client.gatewayId pointer).modify pointer fun current =>
      { current with phase := .unregistered }).Valid := by
  have after : forall current : Client, ¬ { current with phase := Phase.unregistered }.Listed := by
    simp [Client.Listed]
  have ordered : forall current : Client, { current with phase := Phase.unregistered }.Ordered :=
    fun current _ => Or.inr rfl
  unfold Server.unregisterClient
  by_cases own : server.gClients client.gatewayId = some pointer
  next =>
    rw [if_pos own]
    exact erase_flagged_valid server valid client.gatewayId pointer _ own after
      fun current _ => ordered current
  next =>
    rw [if_neg own]
    refine modify_valid server valid pointer _ ?_ after fun current _ => ordered current
    intro current alive holds
    have equal : client = current := by simpa [known] using alive
    exact own (equal ▸ valid.present pointer current alive holds)

theorem unlisted_of_phase (server : Server) (pointer : Pointer) (client : Client)
    (known : server.clients pointer = some client) (phase : client.phase ≠ .registered)
    (current : Client) (alive : server.clients pointer = some current) : ¬ current.Listed := by
  have equal : client = current := by simpa [known] using alive
  subst equal
  exact fun listed => phase listed.1

theorem unflagged_of_phase (server : Server) (valid : server.Valid) (pointer : Pointer)
    (client : Client) (known : server.clients pointer = some client)
    (unlisted : client.phase ≠ .registered) (active : client.phase ≠ .unregistered)
    (current : Client) (alive : server.clients pointer = some current) :
    current.duplicateGateway = false := by
  have equal : client = current := by simpa [known] using alive
  subst equal
  have ordered := valid.ordered pointer client known
  simpa [Client.Ordered, unlisted, active] using ordered

theorem initial_valid : Server.Valid {} := by
  constructor <;> simp

theorem step_valid (server next : Server) (event : Event) (valid : server.Valid)
    (stepped : step server event = some next) : next.Valid := by
  cases event with
  | accept pointer =>
    cases free : server.clients pointer with
    | some client => simp [step, free] at stepped
    | none =>
      have opened : { server with clients := Function.update server.clients pointer (some {}) } =
          next := by simpa [step, free] using stepped
      subst opened
      refine unlisted_update_valid server valid pointer _ (by simp [free]) ?_ ?_ <;>
        simp [Client.Listed, Client.Ordered]
  | discard pointer =>
    obtain ⟨client, known, phase, rfl⟩ := (whenIn_some _ _ _ _ _).mp stepped
    have unlisted := unlisted_of_phase server pointer client known (by simp_all)
    exact unlisted_update_valid server valid pointer none unlisted (by simp) (by simp)
  | dispatch pointer =>
    obtain ⟨client, known, phase, rfl⟩ := (whenIn_some _ _ _ _ _).mp stepped
    have unflagged := unflagged_of_phase server valid pointer client known (by simp_all) (by simp_all)
    have unlisted := unlisted_of_phase server pointer client known (by simp_all)
    refine modify_valid server valid pointer _ unlisted (by simp [Client.Listed]) ?_
    intro current alive flagged
    exact absurd flagged (by simp [unflagged current alive])
  | identify pointer gatewayId =>
    obtain ⟨client, known, phase, rfl⟩ := (whenIn_some _ _ _ _ _).mp stepped
    have unflagged := unflagged_of_phase server valid pointer client known (by simp_all) (by simp_all)
    have unlisted := unlisted_of_phase server pointer client known (by simp_all)
    refine modify_valid server valid pointer _ unlisted (by simp [Client.Listed]) ?_
    intro current alive flagged
    exact absurd flagged (by simp [unflagged current alive])
  | register pointer =>
    obtain ⟨client, known, phase, rfl⟩ := (whenIn_some _ _ _ _ _).mp stepped
    exact register_valid server valid pointer client known (by simpa using phase)
  | unregister pointer =>
    obtain ⟨client, known, phase, rfl⟩ := (whenIn_some _ _ _ _ _).mp stepped
    exact unregister_valid server valid pointer client known
  | destroy pointer =>
    obtain ⟨client, known, phase, rfl⟩ := (whenIn_some _ _ _ _ _).mp stepped
    have unlisted := unlisted_of_phase server pointer client known (by simp_all)
    exact unlisted_update_valid server valid pointer none unlisted (by simp) (by simp)

theorem run_valid (server : Server) (events : List Event)
    (finished : run step {} events = some server) : server.Valid :=
  run_invariant step Server.Valid
    (fun before event next valid stepped => step_valid before next event valid stepped)
    {} server events initial_valid finished

theorem unregister_keeps_others (server next : Server) (pointer other : Pointer)
    (key : GatewayId) (different : other ≠ pointer)
    (listed : server.gClients key = some other)
    (stepped : step server (.unregister pointer) = some next) :
    next.gClients key = some other := by
  obtain ⟨client, -, -, rfl⟩ := (whenIn_some _ _ _ _ _).mp stepped
  rw [modify_gClients, Server.unregisterClient]
  by_cases own : server.gClients client.gatewayId = some pointer
  next =>
    have elsewhere : key ≠ client.gatewayId := by
      rintro rfl
      exact different (by simpa [own] using listed.symm)
    simpa [own, elsewhere] using listed
  next =>
    simpa [own] using listed

def gatewayA : GatewayId := #v[0x33, 0x43, 0x30, 0x41, 0, 0, 0, 0, 0, 0, 0, 0, 0, 0, 0, 0]

/-- The older session has unregistered but its `Client` is not destroyed yet. -/
def reconnectBeforeDestroy : List Event :=
  [.accept 0, .dispatch 0, .identify 0 gatewayA, .register 0, .unregister 0,
    .accept 1, .dispatch 1, .identify 1 gatewayA, .register 1]

/-- Each live listed client is the one entry of its gateway, and no unregister disturbs another. -/
theorem registry_invariant (server : Server) (events : List Event)
    (finished : run step {} events = some server) :
    (forall key pointer, server.gClients key = some pointer ->
      exists client, server.clients pointer = some client /\ client.gatewayId = key /\
        client.duplicateGateway = false) /\
    (forall first second client other, server.clients first = some client ->
      server.clients second = some other -> client.Listed -> other.Listed ->
      client.gatewayId = other.gatewayId -> first = second) /\
    (forall pointer client, server.clients pointer = some client ->
      client.phase = .registered -> client.duplicateGateway = false ->
      server.gClients client.gatewayId = some pointer) /\
    (forall pointer next key other, step server (.unregister pointer) = some next ->
      other ≠ pointer -> server.gClients key = some other -> next.gClients key = some other) := by
  have valid := run_valid server events finished
  refine ⟨?_, ?_, ?_, ?_⟩
  next =>
    intro key pointer listed
    obtain ⟨client, alive, same, holds⟩ := valid.entry key pointer listed
    exact ⟨client, alive, same, holds.2⟩
  next =>
    intro first second client other firstAlive secondAlive firstListed secondListed same
    have one := valid.present first client firstAlive firstListed
    have two := valid.present second other secondAlive secondListed
    rw [same, two] at one
    simpa using one.symm
  next =>
    intro pointer client alive registered unflagged
    exact valid.present pointer client alive ⟨registered, unflagged⟩
  next =>
    intro pointer next key other stepped different listed
    exact unregister_keeps_others server next pointer other key different listed stepped

theorem registry_invariant_reconnect :
    exists server client, run step {} reconnectBeforeDestroy = some server /\
      server.clients 1 = some client /\ server.gClients client.gatewayId = some 1 := by
  refine ⟨_, _, rfl, rfl, ?_⟩
  exact (registry_invariant _ reconnectBeforeDestroy rfl).2.2.1 1 _ rfl rfl rfl

/-- Two live unflagged clients of one gateway while the first one is being torn down. -/
theorem two_live_unflagged_clients :
    exists server first second, run step {} reconnectBeforeDestroy = some server /\
      server.clients 0 = some first /\ server.clients 1 = some second /\
      first.gatewayId = second.gatewayId /\ first.duplicateGateway = false /\
      second.duplicateGateway = false := by
  refine ⟨_, _, _, rfl, rfl, rfl, rfl, rfl, rfl⟩

end Hes.Registry
