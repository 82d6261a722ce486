import AmqpClient.Proofs.Client.Retrying
import AmqpClient.Proofs.Endpoint.Secrecy
import AmqpClient.Proofs.Exchange.Naming
import AmqpClient.Proofs.Supervisor.Unwinding
import AmqpClient.Proofs.Topology.DelayedRouting
import AmqpClient.Simulation.Scenario

/-!
# Launching a client

To build a client is to find nothing wrong with its configuration and then to spawn the loop of
its supervisor. Three things can be wrong, and the first of them is told: the address cannot be
read, the exchange type names no kind, the queue has no name. Then nothing has been spawned, and
nothing is ever asked of a broker; otherwise one loop runs from then on. This holds whatever parser
reads the address.
-/

set_option autoImplicit false

namespace AmqpClient

/-! ## What is wrong with a configuration -/

namespace Config

variable (config : Config)

/-- What is told of a configuration, the first of all that is wrong with it. -/
inductive Refuses [AddressParser] : ClientError → Prop where
  | unaddressed (unread : AddressParser.parse? config.address = none) :
      Refuses (.invalidEndpoint config.address)
  | unkind {address : Address} {form : String}
      (read : AddressParser.parse? config.address = some address)
      (isNormal : ExchangeKind.IsNormalOf form config.exchangeType)
      (unknown : ∀ kind : ExchangeKind, kind.wireName ≠ form) :
      Refuses (.invalidTopology ("unsupported exchange type `" ++ form ++ "`"))
  | unnamed {address : Address} {kind : ExchangeKind}
      (read : AddressParser.parse? config.address = some address)
      (isKind : ExchangeKind.IsNormalOf kind.wireName config.exchangeType)
      (blank : ∀ char ∈ config.queue.toList, Text.isBlank char = true) :
      Refuses (.invalidTopology "queue name must not be empty")

/-- Nothing is wrong with a configuration that has this address and this kind of exchange. -/
structure IsSound [AddressParser] (address : Address) (kind : ExchangeKind) : Prop where
  read : AddressParser.parse? config.address = some address
  isKind : ExchangeKind.IsNormalOf kind.wireName config.exchangeType
  named : ∃ char ∈ config.queue.toList, Text.isBlank char = false

variable {config} {error : ClientError} {address : Address} {kind : ExchangeKind}

theorem Refuses.isFatal [AddressParser] (refuses : config.Refuses error) :
    error.isFatal = true := by
  cases refuses <;> rfl

private theorem Refuses.not_isTransient [AddressParser] (refuses : config.Refuses error) :
    error.isTransient = false := by
  cases refuses <;> rfl

private theorem refuses_or_isSound [AddressParser] (config : Config) :
    (∃ error, config.Refuses error) ∨ ∃ address kind, config.IsSound address kind := by
  cases read : AddressParser.parse? config.address with
  | none => exact .inl ⟨_, .unaddressed read⟩
  | some address =>
      cases known : ExchangeKind.parse config.exchangeType with
      | error error =>
          obtain ⟨form, isNormal, unknown, -⟩ := ExchangeKind.parse_eq_error_iff.mp known
          exact .inl ⟨_, .unkind read isNormal unknown⟩
      | ok kind =>
          have isKind := ExchangeKind.parse_eq_ok_iff.mp known
          by_cases blank : ∀ char ∈ config.queue.toList, Text.isBlank char = true
          · exact .inl ⟨_, .unnamed read isKind blank⟩
          · push Not at blank
            simp only [ne_eq, Bool.not_eq_true] at blank
            exact .inr ⟨address, kind, read, isKind, blank⟩

/-- Something is told of a configuration if one of three things is wrong, whichever. -/
theorem exists_refuses_iff [AddressParser] :
    (∃ error, config.Refuses error) ↔
      AddressParser.parse? config.address = none ∨
        (∀ kind : ExchangeKind, ¬ ExchangeKind.IsNormalOf kind.wireName config.exchangeType) ∨
        ∀ char ∈ config.queue.toList, Text.isBlank char = true := by
  constructor
  · rintro ⟨error, refuses⟩
    cases refuses with
    | unaddressed unread => exact .inl unread
    | unkind _ isNormal unknown =>
        exact .inr (.inl fun kind isKind => unknown kind (isKind.eq isNormal))
    | unnamed _ _ blank => exact .inr (.inr blank)
  · intro wrong
    rcases config.refuses_or_isSound with refuses | ⟨address, kind, sound⟩
    · exact refuses
    · rcases wrong with unread | unknown | blank
      · cases unread.symm.trans sound.read
      · exact absurd sound.isKind (unknown kind)
      · obtain ⟨char, listed, solid⟩ := sound.named
        cases solid.symm.trans (blank char listed)

/-! ## What a configuration describes -/

/-- The topology of a configuration with an exchange of this kind. -/
def described (config : Config) (kind : ExchangeKind) : Topology where
  queue := config.queue
  exchange := config.exchange
  kind := kind
  routingKey := config.routingKey
  queueArguments :=
    (config.maxPriority.map fun max => (Topology.maxPriorityArgument, .shortShortUInt max)).toList

private theorem build_choices (config : Config) (kind : ExchangeKind) :
    Topology.build config.queue (config.choices kind) = config.described kind := by
  cases given : config.maxPriority with
  | none =>
      simp only [choices, described, given]
      rfl
  | some max =>
      simp only [choices, described, given]
      rfl

private theorem usesExchange_described (config : Config) (kind : ExchangeKind) :
    (config.described kind).usesExchange = true ↔
      config.exchange ≠ "" ∧ config.routingKey ≠ "" := by
  simp only [Topology.usesExchange, Bool.and_eq_true, decide_eq_true_eq]
  rfl

private theorem topology_of_unkind {form : String}
    (isNormal : ExchangeKind.IsNormalOf form config.exchangeType)
    (unknown : ∀ kind : ExchangeKind, kind.wireName ≠ form) :
    config.topology = .error (ExchangeKind.unsupported form) := by
  have refused := ExchangeKind.parse_eq_error_iff.mpr ⟨form, isNormal, unknown, rfl⟩
  rw [topology, refused]
  rfl

private theorem topology_of_unnamed
    (isKind : ExchangeKind.IsNormalOf kind.wireName config.exchangeType)
    (blank : ∀ char ∈ config.queue.toList, Text.isBlank char = true) :
    config.topology = .error (.invalidTopology "queue name must not be empty") := by
  rw [topology_of_parse (ExchangeKind.parse_eq_ok_iff.mpr isKind), build_choices,
    Topology.validate, described, Text.trimChars_eq_nil_iff.mpr blank]
  rfl

private theorem IsSound.topology_eq [AddressParser] (sound : config.IsSound address kind) :
    config.topology = .ok (config.described kind) := by
  have solid : Text.trimChars config.queue.toList ≠ [] := by
    intro trimmed
    obtain ⟨char, listed, solid⟩ := sound.named
    cases solid.symm.trans (Text.trimChars_eq_nil_iff.mp trimmed char listed)
  have valid : (config.described kind).validate = .ok () := Topology.validate_of_queue rfl solid
  rw [topology_of_parse (ExchangeKind.parse_eq_ok_iff.mpr sound.isKind), build_choices, valid]
  rfl

end Config

/-! ## Loops in the background -/

namespace Supervisor

/-- A loop that was spawned, and how far it has come. -/
structure SpawnedLoop where
  plan : Plan
  run : Run

/-- The calls that a loop has made through its connector. -/
def SpawnedLoop.calls (loop : SpawnedLoop) : List Call :=
  issuedCalls loop.run.history

/-- What goes on in the background: loops, the one spawned first at the front. -/
abbrev Background := List SpawnedLoop

namespace Background

def spawn (plan : Plan) (cells : SupervisorCells) (background : Background) : Background :=
  background ++ [{ plan, run := { cells } }]

/-- One of the loops, or something around it, takes a step. -/
inductive Step : Background → Background → Prop where
  | run {plan : Plan} {run next : Run} (front rest : Background)
      (step : Supervisor.Step plan run next) :
      Step (front ++ { plan, run } :: rest) (front ++ { plan, run := next } :: rest)

abbrev Steps : Background → Background → Prop :=
  Relation.ReflTransGen Step

end Background

/-- A loop goes on as one that keeps its plan. -/
structure SpawnedLoop.GoesOn (before after : SpawnedLoop) : Prop where
  plan : after.plan = before.plan
  steps : Supervisor.Steps before.plan before.run after.run

theorem SpawnedLoop.GoesOn.refl (loop : SpawnedLoop) : loop.GoesOn loop :=
  ⟨rfl, .refl⟩

theorem SpawnedLoop.GoesOn.trans {first second third : SpawnedLoop} (before : first.GoesOn second)
    (after : second.GoesOn third) : first.GoesOn third :=
  ⟨after.plan.trans before.plan, before.steps.trans (before.plan ▸ after.steps)⟩

namespace Background

variable {before after : Background}

theorem Step.goesOn (step : Step before after) :
    List.Forall₂ SpawnedLoop.GoesOn before after := by
  have refl (loops : Background) : List.Forall₂ SpawnedLoop.GoesOn loops loops :=
    List.forall₂_same.mpr fun loop _ => .refl loop
  cases step with
  | run front rest step =>
      exact List.rel_append (refl front) (.cons ⟨rfl, .single step⟩ (refl rest))

private theorem goesOn_trans {later : Background}
    (first : List.Forall₂ SpawnedLoop.GoesOn before after)
    (second : List.Forall₂ SpawnedLoop.GoesOn after later) :
    List.Forall₂ SpawnedLoop.GoesOn before later := by
  induction first generalizing later with
  | nil => exact second
  | cons goes _ ih =>
      cases second with
      | cons goes' rest => exact .cons (goes.trans goes') (ih rest)

/-- No loop comes or goes while the loops run. -/
theorem Steps.goesOn (steps : Steps before after) :
    List.Forall₂ SpawnedLoop.GoesOn before after := by
  induction steps with
  | refl => exact List.forall₂_same.mpr fun loop _ => .refl loop
  | tail _ step ih => exact goesOn_trans ih step.goesOn

/-- The calls of all loops that were spawned after those of an earlier background. -/
def callsSince (background later : Background) : List Call :=
  (later.drop background.length).flatMap SpawnedLoop.calls

private theorem callsSince_of_goesOn {background others : Background}
    (goesOn : List.Forall₂ SpawnedLoop.GoesOn background others) (spawned : Background) :
    callsSince background (others ++ spawned) = spawned.flatMap SpawnedLoop.calls := by
  rw [callsSince, goesOn.length_eq, List.drop_left]

/-- A loop that was spawned goes on beside the others. -/
theorem exists_of_steps_spawn {plan : Plan} {cells : SupervisorCells}
    {background later : Background} (steps : Steps (background.spawn plan cells) later) :
    ∃ others run, later = others ++ [SpawnedLoop.mk plan run] ∧
      List.Forall₂ SpawnedLoop.GoesOn background others ∧
      Supervisor.Steps plan { cells } run := by
  have goesOn := List.forall₂_take background.length steps.goesOn
  have runs := List.forall₂_drop background.length steps.goesOn
  rw [spawn, List.take_left] at goesOn
  rw [spawn, List.drop_left, List.forall₂_cons_left_iff] at runs
  obtain ⟨⟨_, run⟩, _, ⟨rfl, ran⟩, rest, last⟩ := runs
  rw [List.forall₂_nil_left_iff.mp rest] at last
  exact ⟨_, run, by rw [← last, List.take_append_drop], goesOn, ran⟩

end Background

end Supervisor

/-! ## Launching -/

namespace Client

/-- The client of a sound configuration. -/
def ofSound (config : Config) (role : ChannelRole) (settings : SupervisorSettings)
    (address : Address) (kind : ExchangeKind) : Client where
  plan :=
    { endpoint := config.override address
      topology := config.described kind
      role
      settings }
  cells := { handle := .present }
  workers := config.workers

section

variable {config : Config} {address : Address} {kind : ExchangeKind} {error : ClientError}
  (role : ChannelRole) (settings : SupervisorSettings)

private theorem start_of_refuses [AddressParser] (refuses : config.Refuses error) :
    start config role settings = .error error := by
  cases refuses with
  | unaddressed unread =>
      rw [start, config.endpoint_of_unread unread]
      rfl
  | unkind read isNormal unknown =>
      rw [start, config.endpoint_of_read read, Config.topology_of_unkind isNormal unknown]
      rfl
  | unnamed read isKind blank =>
      rw [start, config.endpoint_of_read read, Config.topology_of_unnamed isKind blank]
      rfl

private theorem start_of_isSound [AddressParser] (sound : config.IsSound address kind) :
    start config role settings = .ok (ofSound config role settings address kind) := by
  have valid := Config.validate_of_topology sound.topology_eq
  rw [start, config.endpoint_of_read sound.read, sound.topology_eq]
  change (Supervisor.Plan.build _ _ role settings >>= _) = _
  rw [Supervisor.Plan.build, valid]
  rfl

variable {role settings}

private theorem start_eq_error_iff [AddressParser] :
    start config role settings = .error error ↔ config.Refuses error := by
  refine ⟨fun failed => ?_, start_of_refuses role settings⟩
  rcases config.refuses_or_isSound with ⟨other, refuses⟩ | ⟨address, kind, sound⟩
  · cases failed.symm.trans (start_of_refuses role settings refuses)
    exact refuses
  · cases failed.symm.trans (start_of_isSound role settings sound)

private theorem exists_isSound_of_start [AddressParser] {client : Client}
    (built : start config role settings = .ok client) :
    ∃ address kind, config.IsSound address kind ∧
      client = ofSound config role settings address kind := by
  rcases config.refuses_or_isSound with ⟨other, refuses⟩ | ⟨address, kind, sound⟩
  · cases built.symm.trans (start_of_refuses role settings refuses)
  · exact ⟨address, kind, sound,
      Except.ok.inj (built.symm.trans (start_of_isSound role settings sound))⟩

end

section

variable {σ : Type} (spawn : Supervisor.Plan → SupervisorCells → σ → σ) (config : Config)
  (role : ChannelRole) (settings : SupervisorSettings)

/-- Builds a client, and spawns its loop by a change of whatever runs in the background. -/
def launch [AddressParser] : ExceptT ClientError (StateM σ) Client := do
  let endpoint ← config.endpoint
  let topology ← config.topology
  let plan ← Supervisor.Plan.build endpoint topology role settings
  let cells ← ({} : SupervisorCells).start
  modify (spawn plan cells)
  return { plan, cells, workers := config.workers }

/-- What has become of the background when a client was built, or was not. -/
def conclude (built : Except ClientError Client) (state : σ) : Except ClientError Client × σ :=
  match built with
  | .ok client => (.ok client, spawn client.plan client.cells state)
  | .error error => (.error error, state)

/-- A part that a launch begins with is a part that building the client begins with. -/
theorem run_bind {α : Type} {next : α → ExceptT ClientError (StateM σ) Client}
    {build : α → Except ClientError Client} {state : σ} (first : Except ClientError α)
    (same : ∀ value, (next value).run.run state = conclude spawn (build value) state) :
    (liftM first >>= next).run.run state = conclude spawn (first >>= build) state := by
  cases first with
  | error error => rfl
  | ok value => exact same value

/-- A launch from a state: what the caller gets, and what has become of the state. -/
def launched [AddressParser] (state : σ) : Except ClientError Client × σ :=
  (launch spawn config role settings).run.run state

/-- What is spawned is the loop of the client that is built, and nothing if none is. -/
theorem launched_eq [AddressParser] (state : σ) :
    launched spawn config role settings state =
      conclude spawn (start config role settings) state := by
  refine run_bind spawn _ fun endpoint => ?_
  refine run_bind spawn _ fun topology => ?_
  refine run_bind spawn _ fun plan => ?_
  rfl

variable {spawn config role settings} {state after : σ}

private theorem fst_launched [AddressParser] :
    (launched spawn config role settings state).1 = start config role settings := by
  rw [launched_eq]
  cases start config role settings <;> rfl

private theorem launched_eq_error [AddressParser] {error : ClientError}
    (failed : launched spawn config role settings state = (.error error, after)) :
    start config role settings = .error error ∧ after = state := by
  have built := fst_launched.symm.trans (congrArg Prod.fst failed)
  rw [launched_eq, built] at failed
  exact ⟨built, (congrArg Prod.snd failed).symm⟩

private theorem launched_eq_ok [AddressParser] {client : Client}
    (done : launched spawn config role settings state = (.ok client, after)) :
    start config role settings = .ok client ∧ after = spawn client.plan client.cells state := by
  have built := fst_launched.symm.trans (congrArg Prod.fst done)
  rw [launched_eq, built] at done
  exact ⟨built, (congrArg Prod.snd done).symm⟩

end

/-- A scenario of a client is launched in its world. -/
theorem scenario_eq [AddressParser] (kind : Simulation.ClientKind) (config : Config)
    (settings : SupervisorSettings) (publisher : PublisherSettings) (consumer : ConsumerSettings)
    (world : Simulation.World) :
    Simulation.Scenario.ofClient kind config settings publisher consumer world =
      match launched Simulation.Scenario.startLoop config
        (if kind = .producer then .producer else .consumer) settings world with
      | (.ok client, world) =>
        .ok { kind, plan := client.plan, publisher, consumer, workers := client.workers, world }
      | (.error error, _) => .error error := by
  rw [launched_eq, Simulation.Scenario.ofClient]
  cases start config (if kind = .producer then .producer else .consumer) settings <;> rfl

/-- A client does what its configuration says. -/
structure Suits [AddressParser] (config : Config) (role : ChannelRole)
    (settings : SupervisorSettings) (client : Client) : Prop where
  endpoint : config.endpoint = .ok client.plan.endpoint
  topology : config.topology = .ok client.plan.topology
  role : client.plan.role = role
  settings : client.plan.settings = settings
  workers : client.workers = config.workers
  queue : client.plan.topology.queue = config.queue
  exchange : client.plan.topology.exchange = config.exchange
  routingKey : client.plan.topology.routingKey = config.routingKey
  kind : ExchangeKind.IsNormalOf client.plan.topology.kind.wireName config.exchangeType
  routes : client.plan.topology.usesExchange = true ↔ config.exchange ≠ "" ∧ config.routingKey ≠ ""
  target : client.plan.topology.publishTarget =
    if config.exchange ≠ "" ∧ config.routingKey ≠ "" then (config.exchange, config.routingKey)
    else ("", config.queue)
  priority : Keyed.get? client.plan.topology.queueArguments "x-max-priority" =
    config.maxPriority.map .shortShortUInt

private theorem ofSound_suits [AddressParser] {config : Config} {role : ChannelRole}
    {settings : SupervisorSettings}
    {address : Address} {kind : ExchangeKind} (sound : config.IsSound address kind) :
    Suits config role settings (ofSound config role settings address kind) where
  endpoint := config.endpoint_of_read sound.read
  topology := sound.topology_eq
  role := rfl
  settings := rfl
  workers := rfl
  queue := rfl
  exchange := rfl
  routingKey := rfl
  kind := sound.isKind
  routes := config.usesExchange_described kind
  target := if_congr (config.usesExchange_described kind) rfl rfl
  priority := by
    cases given : config.maxPriority with
    | none => simp [ofSound, Config.described, given, Keyed.get?]
    | some max => simp [ofSound, Config.described, given, Keyed.get?, Topology.maxPriorityArgument]

private theorem start_cells_of_start [AddressParser] {config : Config} {role : ChannelRole}
    {settings : SupervisorSettings} {client : Client}
    (built : start config role settings = .ok client) :
    ({} : SupervisorCells).start = .ok client.cells ∧
      client.cells.start = .error .alreadyStarted := by
  obtain ⟨address, kind, -, rfl⟩ := exists_isSound_of_start built
  exact ⟨rfl, rfl⟩

/-- A launch leaves nothing behind if something is wrong with the configuration, and otherwise
one loop and a client that suits the configuration. -/
structure LaunchesCleanly [AddressParser] (config : Config) (role : ChannelRole)
    (settings : SupervisorSettings) : Prop where
  fails : ∀ {σ : Type} (spawn : Supervisor.Plan → SupervisorCells → σ → σ) (state : σ),
    (∃ error, (launched spawn config role settings state).1 = .error error) ↔
      AddressParser.parse? config.address = none ∨
        (∀ kind : ExchangeKind, ¬ ExchangeKind.IsNormalOf kind.wireName config.exchangeType) ∨
        ∀ char ∈ config.queue.toList, Text.isBlank char = true
  /-- The first thing that is wrong is told, and it is not one to be tried again. -/
  tells : ∀ {σ : Type} (spawn : Supervisor.Plan → SupervisorCells → σ → σ) (state : σ) error,
    (launched spawn config role settings state).1 = .error error ↔ config.Refuses error
  fatal : ∀ error, config.Refuses error → error.isFatal = true ∧ error.isTransient = false
  /-- However loops are spawned, a launch that fails spawns none. -/
  spares : ∀ {σ : Type} (spawn : Supervisor.Plan → SupervisorCells → σ → σ) (state after : σ)
    error, launched spawn config role settings state = (.error error, after) → after = state
  /-- Any other launch spawns one, and there will not be another. -/
  spawns : ∀ {σ : Type} (spawn : Supervisor.Plan → SupervisorCells → σ → σ) (state after : σ)
    client, launched spawn config role settings state = (.ok client, after) →
      after = spawn client.plan client.cells state ∧ client.cells.start = .error .alreadyStarted
  /-- After a launch that has failed, what went on before goes on, and nothing else. -/
  silent : ∀ (background left later : Supervisor.Background) error,
    launched Supervisor.Background.spawn config role settings background = (.error error, left) →
      Supervisor.Background.Steps left later →
      List.Forall₂ Supervisor.SpawnedLoop.GoesOn background later ∧
        background.callsSince later = []
  /-- After any other, one loop goes on beside it, and all new calls are those of its run. -/
  supervises : ∀ (background left later : Supervisor.Background) client,
    launched Supervisor.Background.spawn config role settings background = (.ok client, left) →
      Supervisor.Background.Steps left later →
      ∃ others run, later = others ++ [Supervisor.SpawnedLoop.mk client.plan run] ∧
        List.Forall₂ Supervisor.SpawnedLoop.GoesOn background others ∧
        Supervisor.Reachable client.plan run ∧
        background.callsSince later = Supervisor.issuedCalls run.history
  suits : ∀ {σ : Type} (spawn : Supervisor.Plan → SupervisorCells → σ → σ) (state after : σ)
    client, launched spawn config role settings state = (.ok client, after) →
      Suits config role settings client
  /-- Producers and consumers are launched like this, whatever their further settings are. -/
  scenarios : ∀ (kind : Simulation.ClientKind) (publisher : PublisherSettings)
    (consumer : ConsumerSettings) (world : Simulation.World),
    (if kind = .producer then ChannelRole.producer else .consumer) = role →
      Simulation.Scenario.ofClient kind config settings publisher consumer world =
        match launched Simulation.Scenario.startLoop config role settings world with
        | (.ok client, world) =>
          .ok { kind, plan := client.plan, publisher, consumer, workers := client.workers, world }
        | (.error error, _) => .error error

/-- Whatever is wrong with a configuration is found before a loop is spawned. -/
theorem launchesCleanly [AddressParser] (config : Config) (role : ChannelRole)
    (settings : SupervisorSettings) : LaunchesCleanly config role settings where
  fails spawn state := by
    simp only [fst_launched, start_eq_error_iff]
    exact Config.exists_refuses_iff
  tells spawn state error := by
    rw [fst_launched]
    exact start_eq_error_iff
  fatal error refuses := ⟨refuses.isFatal, refuses.not_isTransient⟩
  spares spawn state after error failed := (launched_eq_error failed).2
  spawns spawn state after client done := by
    obtain ⟨built, spawned⟩ := launched_eq_ok done
    exact ⟨spawned, (start_cells_of_start built).2⟩
  silent background left later error failed steps := by
    obtain ⟨-, rfl⟩ := launched_eq_error failed
    have calls := Supervisor.Background.callsSince_of_goesOn steps.goesOn []
    rw [List.append_nil] at calls
    exact ⟨steps.goesOn, calls⟩
  supervises background left later client done steps := by
    obtain ⟨built, rfl⟩ := launched_eq_ok done
    obtain ⟨others, run, rfl, goesOn, ran⟩ := Supervisor.Background.exists_of_steps_spawn steps
    have started : Supervisor.Step client.plan {} { cells := client.cells } :=
      .start (start_cells_of_start built).1
    refine ⟨others, run, rfl, goesOn, .head started ran, ?_⟩
    rw [Supervisor.Background.callsSince_of_goesOn goesOn, List.flatMap_singleton]
    rfl
  suits spawn state after client done := by
    obtain ⟨address, kind, sound, rfl⟩ := exists_isSound_of_start (launched_eq_ok done).1
    exact ofSound_suits sound
  scenarios kind publisher consumer world ofRole := by
    rw [← ofRole]
    exact scenario_eq kind config settings publisher consumer world

-- An address that cannot be read is told first, though there is no such kind of exchange either.
example :
    letI : AddressParser := ⟨fun _ => none⟩
    start { address := "amqp", exchangeType := "direkt" } .producer {} =
      .error (.invalidEndpoint "amqp") :=
  rfl

end Client

end AmqpClient
