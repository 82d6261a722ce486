import AmqpClient.Address.Text
import AmqpClient.Client
import AmqpClient.Proofs.Consumer.Setbacks
import AmqpClient.Proofs.Publisher.Setbacks
import AmqpClient.Proofs.Supervisor.Setbacks

/-!
# What a client tries again for

A client has three loops: its supervisor dials and sets channels up, its pushes write until
they are confirmed, and its consumers subscribe. Each of them tries again on account of
any error, and asks no error of what kind it is. All the same, over a link they try again
for transient errors only, since every fatal one is told to the caller before: that of a
configuration before there is a client, that of a value before there is a message.
-/

set_option autoImplicit false

namespace AmqpClient

/-! ## Failures of a computation in parts -/

section

variable {α β : Type} {first : Except ClientError α} {next : α → Except ClientError β}

private theorem error_of_bind {error : ClientError} (failed : first >>= next = .error error) :
    first = .error error ∨ ∃ value, first = .ok value ∧ next value = .error error := by
  cases first with
  | error other =>
      cases failed
      exact .inl rfl
  | ok value => exact .inr ⟨value, rfl, failed⟩

private theorem ok_of_bind {result : β} (built : first >>= next = .ok result) :
    ∃ value, first = .ok value ∧ next value = .ok result := by
  cases first with
  | error other => cases built
  | ok value => exact ⟨value, rfl, built⟩

end

/-! ## Configurations -/

private theorem Topology.exists_details_of_validate {topology : Topology} {error : ClientError}
    (failed : topology.validate = .error error) : ∃ details, error = .invalidTopology details := by
  unfold validate at failed
  split at failed
  · cases failed
    exact ⟨_, rfl⟩
  · cases failed

namespace Config

variable {config : Config} {error : ClientError}

private theorem exists_address_of_endpoint [AddressParser]
    (failed : config.endpoint = .error error) :
    ∃ address, error = .invalidEndpoint address := by
  unfold endpoint at failed
  rcases error_of_bind failed with unread | ⟨parsed, -, failed⟩
  · unfold Endpoint.parse at unread
    split at unread
    · cases unread
    · cases unread
      exact ⟨_, rfl⟩
  · dsimp only at failed
    split at failed <;> cases failed

private theorem exists_details_of_topology (failed : config.topology = .error error) :
    ∃ details, error = .invalidTopology details := by
  unfold topology at failed
  rcases error_of_bind failed with unread | ⟨kind, -, failed⟩
  · unfold ExchangeKind.parse at unread
    split at unread
    · cases unread
    · cases unread
      exact ⟨_, rfl⟩
  · rcases error_of_bind failed with invalid | ⟨_, -, failed⟩
    · exact Topology.exists_details_of_validate invalid
    · cases failed

theorem validate_of_topology {topology : Topology} (built : config.topology = .ok topology) :
    topology.validate = .ok () := by
  unfold Config.topology at built
  obtain ⟨kind, -, built⟩ := ok_of_bind built
  obtain ⟨⟨⟩, valid, built⟩ := ok_of_bind built
  cases built
  exact valid

private theorem exists_details_of_number? {environment : Environment} {name : String} {limit : Nat}
    (failed : environment.number? name limit = .error error) :
    ∃ details, error = .config name details := by
  unfold Environment.number? at failed
  split at failed
  · cases failed
  · split at failed
    · cases failed
    · cases failed
      exact ⟨_, rfl⟩

/-- A merge fails with the first number that cannot be read. -/
theorem exists_key_of_merge {environment : Environment}
    (failed : (config.merge environment).2 = .error error) :
    ∃ key details, error = .config key details := by
  unfold merge mergeNumbers at failed
  split at failed
  · next unread =>
    cases failed
    exact ⟨_, exists_details_of_number? unread⟩
  · split at failed
    · next unread =>
      cases failed
      exact ⟨_, exists_details_of_number? unread⟩
    · split at failed
      · next unread =>
        cases failed
        exact ⟨_, exists_details_of_number? unread⟩
      · cases failed

private theorem exists_key_of_ofEnvironment {environment : Environment}
    (failed : Config.ofEnvironment environment = .error error) :
    ∃ key details, error = .config key details := by
  unfold ofEnvironment at failed
  split at failed
  · cases failed
  · next merged =>
    cases failed
    exact exists_key_of_merge (congrArg Prod.snd merged)

end Config

/-! ## Building a client -/

namespace Client

section

variable [AddressParser] {config : Config} {role : ChannelRole} {settings : SupervisorSettings}

private theorem checked_of_start {client : Client}
    (built : start config role settings = .ok client) :
    config.endpoint = .ok client.plan.endpoint ∧ config.topology = .ok client.plan.topology := by
  unfold start Supervisor.Plan.build at built
  obtain ⟨endpoint, given, built⟩ := ok_of_bind built
  obtain ⟨topology, described, built⟩ := ok_of_bind built
  obtain ⟨plan, planned, built⟩ := ok_of_bind built
  obtain ⟨⟨⟩, -, planned⟩ := ok_of_bind planned
  obtain ⟨cells, -, built⟩ := ok_of_bind built
  cases planned
  cases built
  exact ⟨given, described⟩

private theorem unchecked_of_start {error : ClientError}
    (failed : start config role settings = .error error) :
    config.endpoint = .error error ∨ config.topology = .error error := by
  unfold start Supervisor.Plan.build at failed
  rcases error_of_bind failed with unaddressed | ⟨endpoint, -, failed⟩
  · exact .inl unaddressed
  · rcases error_of_bind failed with undescribed | ⟨topology, described, failed⟩
    · exact .inr undescribed
    · have valid := Config.validate_of_topology described
      simp only [valid] at failed
      cases failed

/-! ## What is told, and what is tried again -/

/-- What a client tells its caller, and what it tries again for. -/
structure IsPrudent (config : Config) (role : ChannelRole) (settings : SupervisorSettings) :
    Prop where
  /-- A number of the environment that cannot be read leaves no configuration. -/
  reads : ∀ environment error, Config.ofEnvironment environment = .error error →
    ∃ key details, error = .config key details
  merges : ∀ environment error, (config.merge environment).2 = .error error →
    ∃ key details, error = .config key details
  /-- A wrong endpoint or topology leaves no client, and so no loop. -/
  refuses : ∀ error, start config role settings = .error error →
    config.endpoint = .error error ∧ (∃ address, error = .invalidEndpoint address) ∨
      config.topology = .error error ∧ ∃ details, error = .invalidTopology details
  /-- With a client there is nothing of the kind left to be found. -/
  checks : ∀ client, start config role settings = .ok client →
    config.endpoint = .ok client.plan.endpoint ∧ config.topology = .ok client.plan.topology
  supervises : ∀ client, start config role settings = .ok client →
    Supervisor.RetriesTransient client.plan
  /-- A value without a JSON form is refused where it is handed in. -/
  serializes : ∀ (desk : Publisher.Desk) (request : Publisher.Request) (details : String)
    (crowd after : Publisher.Crowd),
    request.content = .json (.error details) →
      (crowd.welcome desk request).callers crowd.arrivals = some { errand := .refused } ∧
        (Publisher.Steps desk (crowd.welcome desk request) after →
          ∀ caller, after.callers crowd.arrivals = some caller →
            caller.errand.result? = some (.error .parsePayload) ∧ caller.marks = [])
  pushes : ∀ plan, Publisher.Push.RetriesTransient plan
  consumes : ∀ plan, Consumer.RetriesTransient plan

/-- The loops of a client try again for transient errors only. -/
theorem isPrudent (config : Config) (role : ChannelRole) (settings : SupervisorSettings) :
    IsPrudent config role settings where
  reads := by
    intro environment error failed
    exact Config.exists_key_of_ofEnvironment failed
  merges := by
    intro environment error failed
    exact Config.exists_key_of_merge failed
  refuses := by
    intro error failed
    rcases unchecked_of_start failed with unaddressed | undescribed
    · exact .inl ⟨unaddressed, Config.exists_address_of_endpoint unaddressed⟩
    · exact .inr ⟨undescribed, Config.exists_details_of_topology undescribed⟩
  checks := by
    intro client built
    exact checked_of_start built
  supervises := by
    intro client built
    have valid := Config.validate_of_topology (checked_of_start built).2
    exact Supervisor.retriesTransient valid
  serializes := by
    intro desk request details crowd after unserializable
    have refuses := Publisher.Crowd.HasRefused.welcome desk crowd unserializable
    constructor
    · rw [Publisher.Crowd.callers_welcome, if_pos rfl, Publisher.Desk.errand, unserializable]
    · intro steps caller found
      rw [(refuses.steps steps).refused caller found]
      exact ⟨rfl, rfl⟩
  pushes := Publisher.Push.retriesTransient
  consumes := Consumer.retriesTransient

end

/-! ## A dial that is refused -/

/-- The loop was started and is about to dial. -/
def dialing (plan : Supervisor.Plan) : Supervisor.Run :=
  ({ cells := { handle := .present } } : Supervisor.Run).meet plan .begin

private theorem reachable_dialing (plan : Supervisor.Plan) :
    Supervisor.Reachable plan (dialing plan) := by
  have started : Supervisor.Step plan {} { cells := { handle := .present } } := .start rfl
  exact (Relation.ReflTransGen.single started).tail (.look (by decide) rfl rfl)

section

local instance : AddressParser := ⟨Address.parse?⟩

private theorem exists_start : ∃ client, start {} .producer {} = .ok client := by
  have built : (start {} .producer {}).toOption.isSome = true := by decide +kernel
  cases given : start {} .producer {} with
  | ok client => exact ⟨client, rfl⟩
  | error error =>
      rw [given] at built
      cases built

/-- Whatever the fault is with which a first dial meets, it is tried again for. -/
theorem isPrudent_dialing :
    ∃ client, start {} .producer {} = .ok client ∧
      ∀ fault : Wire.Fault,
        let refused := Wire.callFailure fault (.connect client.plan.endpoint)
        (dialing client.plan).point.setback? (.replied (.error refused)) = some refused ∧
          refused.isTransient = true ∧ refused.isFatal = false := by
  obtain ⟨client, built⟩ := exists_start
  refine ⟨client, built, ?_⟩
  intro fault refused
  have supervised := (isPrudent {} .producer {}).supervises client built
  have setback : (dialing client.plan).point.setback? (.replied (.error refused)) =
      some refused := rfl
  have untold : (dialing client.plan).marks = [] := rfl
  have carried : (dialing client.plan).IsCarried := by
    intro call reply returned
    rw [untold] at returned
    cases returned
  have carries : (dialing client.plan).point.Carries client.plan (.replied (.error refused)) := by
    rintro _ _ ⟨⟩ ⟨⟩
    exact Wire.brings_connection _ fault
  exact ⟨setback, supervised.transient _ _ _ (reachable_dialing _) carried carries setback⟩

end

end Client

end AmqpClient
