import AmqpClient.Config
import AmqpClient.Proofs.Topology.Installation
import Mathlib.Data.List.Induction

/-!
# Delayed exchanges and their inner kinds

A delayed exchange is declared with its inner kind as an argument. Two choices set the kind of
an exchange, and only one of them sets the argument as well; neither takes an argument away that
is there. So the argument stands for the last delayed exchange that was chosen, and the kind for
the last exchange of either sort. They fit together exactly if these two say the same, which a
configuration of the delayed kind never does.
-/

set_option autoImplicit false

namespace AmqpClient

def Call.declaresExchange : Call → Bool
  | .declareExchange .. => true
  | _ => false

namespace Topology

/-! ## Building a topology up -/

/-- What can be chosen about a topology. -/
inductive Choice where
  | exchange (name : String) (kind : ExchangeKind)
  | delayedExchange (name : String) (inner : ExchangeKind)
  | routingKey (key : String)
  | argument (key : String) (value : FieldValue)
  | maxPriority (max : UInt8)
  | ttl (milliseconds : Int32)
  | maxLength (max : Int32)
  | maxLengthBytes (max : Int32)
  deriving DecidableEq, Repr

def choose (topology : Topology) : Choice → Topology
  | .exchange name kind => topology.withExchange name kind
  | .delayedExchange name inner => topology.withDelayedExchange name inner
  | .routingKey key => topology.withRoutingKey key
  | .argument key value => topology.withArgument key value
  | .maxPriority max => topology.withMaxPriority max
  | .ttl milliseconds => topology.withTtl milliseconds
  | .maxLength max => topology.withMaxLength max
  | .maxLengthBytes max => topology.withMaxLengthBytes max

/-- A topology for a queue with choices made one after the other. -/
def build (queue : String) (choices : List Choice) : Topology :=
  choices.foldl choose (ofQueue queue)

private theorem build_concat (queue : String) (choices : List Choice) (choice : Choice) :
    build queue (choices ++ [choice]) = (build queue choices).choose choice :=
  List.foldl_append

namespace Choice

/-- The kind of exchange that is chosen, if an exchange is. -/
def kind? : Choice → Option ExchangeKind
  | .exchange _ kind => some kind
  | .delayedExchange _ _ => some .delayed
  | _ => none

def inner? : Choice → Option ExchangeKind
  | .delayedExchange _ inner => some inner
  | _ => none

end Choice

def lastKind (choices : List Choice) : ExchangeKind :=
  (choices.reverse.findSome? Choice.kind?).getD .direct

def lastInner? (choices : List Choice) : Option ExchangeKind :=
  choices.reverse.findSome? Choice.inner?

private theorem lastKind_concat (choices : List Choice) (choice : Choice) :
    lastKind (choices ++ [choice]) = choice.kind?.getD (lastKind choices) := by
  cases kind : choice.kind? <;> simp [lastKind, kind]

private theorem lastInner?_concat (choices : List Choice) (choice : Choice) :
    lastInner? (choices ++ [choice]) = choice.inner?.or (lastInner? choices) := by
  cases inner : choice.inner? <;> simp [lastInner?, inner]

/-! ## What is declared -/

def innerArguments (inner? : Option ExchangeKind) : FieldTable :=
  match inner? with
  | none => []
  | some inner => [(delayedTypeArgument, .longString (Text.encodeUtf8 inner.wireName))]

private theorem kind_build (queue : String) (choices : List Choice) :
    (build queue choices).kind = lastKind choices := by
  induction choices using List.reverseRecOn with
  | nil => rfl
  | append_singleton choices choice ih =>
      rw [build_concat, lastKind_concat, ← ih]
      cases choice <;> rfl

/-- Nothing but the inner kind is ever among the arguments of an exchange. -/
theorem exchangeArguments_build (queue : String) (choices : List Choice) :
    (build queue choices).exchangeArguments = innerArguments (lastInner? choices) := by
  induction choices using List.reverseRecOn with
  | nil => rfl
  | append_singleton choices choice ih =>
      rw [build_concat, lastInner?_concat]
      cases choice with
      | delayedExchange name inner =>
          simp only [choose, withDelayedExchange, ih, Choice.inner?, Option.some_or]
          cases lastInner? choices with
          | none => rfl
          | some former => simp [innerArguments, Keyed.insert]
      | exchange | routingKey | argument | maxPriority | ttl | maxLength | maxLengthBytes =>
          exact ih

/-- An exchange declare has an inner kind among its arguments exactly if it is of the delayed
kind. -/
def FitsKind : Call → Prop
  | .declareExchange _ _ kind arguments =>
    (Keyed.get? arguments delayedTypeArgument).isSome = true ↔ kind = .delayed
  | _ => True

/-- The declare of a topology's exchange fits its kind on every channel. -/
def CarriesInner (topology : Topology) : Prop :=
  ∀ channel, FitsKind (InstallStep.declareExchange.call topology channel)

private theorem carriesInner_build_iff (queue : String) (choices : List Choice) :
    (build queue choices).CarriesInner ↔
      ((lastInner? choices).isSome = true ↔ lastKind choices = .delayed) := by
  have carried : (Keyed.get? (build queue choices).exchangeArguments delayedTypeArgument).isSome =
      (lastInner? choices).isSome := by
    rw [exchangeArguments_build]
    cases lastInner? choices <;> simp [innerArguments, Keyed.get?]
  simp only [CarriesInner, FitsKind, InstallStep.call, carried, kind_build, forall_const]

/-- Of the calls that a topology plans, one declares an exchange at most. -/
theorem eq_of_mem_plannedCalls {topology : Topology} {channel : Nat} {finds : Call → Bool}
    {call : Call} (declares : call.declaresExchange = true)
    (planned : call ∈ topology.plannedCalls channel finds) :
    call = InstallStep.declareExchange.call topology channel := by
  have routed : call ∈ topology.routingCalls channel finds := by
    rcases List.mem_cons.mp planned with rfl | later
    · cases declares
    · rcases List.mem_append.mp later with queued | routed
      · split at queued
        · cases queued
        · cases List.mem_singleton.mp queued
          cases declares
      · exact routed
  unfold routingCalls at routed
  split at routed
  · rcases List.mem_cons.mp routed with rfl | later
    · cases declares
    · rcases List.mem_append.mp later with declared | bound
      · split at declared
        · cases declared
        · exact List.mem_singleton.mp declared
      · cases List.mem_singleton.mp bound
        cases declares
  · cases routed

/-- Whoever serves an installation, the exchange is declared in one way. -/
theorem eq_of_declaresExchange {σ : Type} (serve : Serving σ) (topology : Topology)
    (channel : Nat) (state : σ) {call : Call} (declares : call.declaresExchange = true)
    (made : call ∈ (install serve topology channel state).record.map (·.1)) :
    call = InstallStep.declareExchange.call topology channel := by
  cases valid : topology.validate with
  | error error => simp [install_of_invalid serve topology channel state valid] at made
  | ok =>
      have follows := install_follows serve topology channel state valid
      exact eq_of_mem_plannedCalls declares (follows.planned_prefix.subset made)

end Topology

namespace Config

/-! ## Configurations -/

/-- The choices that a configuration makes, when its exchange type is read as a kind. -/
def choices (config : Config) (kind : ExchangeKind) : List Topology.Choice :=
  [.exchange config.exchange kind, .routingKey config.routingKey] ++
    (config.maxPriority.map .maxPriority).toList

/-- A configuration describes the topology that is built up by its choices. -/
theorem topology_of_parse {config : Config} {kind : ExchangeKind}
    (read : ExchangeKind.parse config.exchangeType = .ok kind) :
    config.topology =
      (Topology.build config.queue (config.choices kind)).validate.map fun _ =>
        Topology.build config.queue (config.choices kind) := by
  rw [Config.topology, read]
  cases given : config.maxPriority with
  | none =>
      simp only [choices, given]
      rfl
  | some max =>
      simp only [choices, given]
      rfl

private theorem exists_kind_of_topology {config : Config} {topology : Topology}
    (described : config.topology = .ok topology) :
    ∃ kind, ExchangeKind.parse config.exchangeType = .ok kind ∧
      topology = Topology.build config.queue (config.choices kind) := by
  cases read : ExchangeKind.parse config.exchangeType with
  | error error =>
      rw [Config.topology, read] at described
      cases described
  | ok kind =>
      rw [topology_of_parse read] at described
      refine ⟨kind, rfl, ?_⟩
      cases valid : (Topology.build config.queue (config.choices kind)).validate with
      | error error =>
          rw [valid] at described
          cases described
      | ok =>
          rw [valid] at described
          exact (Except.ok.inj described).symm

private theorem lastKind_choices (config : Config) (kind : ExchangeKind) :
    Topology.lastKind (config.choices kind) = kind := by
  cases given : config.maxPriority <;> simp only [choices, given] <;> rfl

private theorem lastInner?_choices (config : Config) (kind : ExchangeKind) :
    Topology.lastInner? (config.choices kind) = none := by
  cases given : config.maxPriority <;> simp only [choices, given] <;> rfl

/-- No configuration names an inner kind, so it may not name the delayed kind either. -/
theorem carriesInner_of_topology {config : Config} {topology : Topology}
    (described : config.topology = .ok topology) :
    topology.CarriesInner ↔ ExchangeKind.parse config.exchangeType ≠ .ok .delayed := by
  obtain ⟨kind, read, rfl⟩ := exists_kind_of_topology described
  rw [Topology.carriesInner_build_iff, lastInner?_choices, lastKind_choices, read, ne_eq,
    Except.ok.injEq]
  simp

end Config

namespace Topology

/-! ## When a declare carries the inner kind -/

private theorem isSome_lastInner?_iff {choices : List Choice} :
    (lastInner? choices).isSome = true ↔ ∃ name inner, .delayedExchange name inner ∈ choices := by
  simp only [lastInner?, List.findSome?_isSome_iff, List.mem_reverse]
  constructor
  · rintro ⟨choice, chosen, isInner⟩
    cases choice with
    | delayedExchange name inner => exact ⟨name, inner, chosen⟩
    | exchange | routingKey | argument | maxPriority | ttl | maxLength | maxLengthBytes =>
        cases isInner
  · rintro ⟨name, inner, chosen⟩
    exact ⟨_, chosen, rfl⟩

/-- When the declare of an exchange carries an inner kind exactly if its kind is the delayed one:
for choices, if there is a delayed exchange among them exactly if the last exchange chosen is
delayed; for a configuration, if it does not ask for the delayed kind. -/
theorem carriesInner_iff {σ : Type} (serve : Serving σ) (channel : Nat) (state : σ)
    (queue : String) (choices : List Choice) (config : Config) :
    ((build queue choices).CarriesInner ↔
      ((∃ name inner, .delayedExchange name inner ∈ choices) ↔ lastKind choices = .delayed)) ∧
    (∀ topology, config.topology = .ok topology →
      (topology.CarriesInner ↔ ExchangeKind.parse config.exchangeType ≠ .ok .delayed)) ∧
    (∀ topology, ∀ call ∈ (install serve topology channel state).record.map (·.1),
      call.declaresExchange = true →
        call = InstallStep.declareExchange.call topology channel) := by
  refine ⟨?_, fun topology => Config.carriesInner_of_topology, ?_⟩
  · rw [carriesInner_build_iff, isSome_lastInner?_iff]
  · exact fun topology call made declares =>
      eq_of_declaresExchange serve topology channel state declares made

theorem validate_of_queue {topology : Topology} {queue : String} (named : topology.queue = queue)
    (solid : Text.trimChars queue.toList ≠ []) : topology.validate = .ok () := by
  rw [validate, named, if_neg solid]

private theorem queue_build (queue : String) (choices : List Choice) :
    (build queue choices).queue = queue := by
  induction choices using List.reverseRecOn with
  | nil => rfl
  | append_singleton choices choice ih =>
      rw [build_concat]
      cases choice <;> exact ih

private theorem exists_topology_of_parse {type : String} {kind : ExchangeKind}
    (read : ExchangeKind.parse type = .ok kind) :
    ∃ topology, Config.topology { exchangeType := type } = .ok topology := by
  have described := Config.topology_of_parse (show ExchangeKind.parse
    ({ exchangeType := type } : Config).exchangeType = .ok kind from read)
  rw [validate_of_queue (queue_build "rmq-queue" _) (by decide)] at described
  exact ⟨_, described⟩

/-- A delayed exchange that is declared with its inner kind, and a direct one without any. -/
theorem carriesInner_iff_declared :
    let choices := [.delayedExchange "jobs-ex" .fanout, .routingKey "jobs"]
    let serve : Serving Unit := fun _ served => (.ok (.found false), served)
    let installed := install serve (build "jobs" choices) 1 ()
    (build "jobs" choices).CarriesInner ∧
      (∃ topology, Config.topology {} = .ok topology ∧ topology.CarriesInner) ∧
      ∃ call ∈ installed.record.map (·.1), call.declaresExchange = true ∧
        call = InstallStep.declareExchange.call (build "jobs" choices) 1 := by
  intro choices serve installed
  obtain ⟨built, configured, declared⟩ := carriesInner_iff serve 1 () "jobs" choices {}
  have made : InstallStep.declareExchange.call (build "jobs" choices) 1 ∈
      installed.record.map (·.1) := by
    have valid : (build "jobs" choices).validate = .ok () :=
      validate_of_queue (queue_build _ _) (by decide)
    have queued : (build "jobs" choices).afterInstallStep (.found false) .checkQueue =
        .calling .declareQueue := rfl
    have routed : (build "jobs" choices).afterInstallStep (.found false) .declareQueue =
        .calling .checkExchange := rfl
    have unfound : (build "jobs" choices).afterInstallStep (.found false) .checkExchange =
        .calling .declareExchange := rfl
    simp only [installed, install, beginInstall, valid]
    rw [carryOut_of_ok rfl, queued, carryOut_of_ok rfl, routed, carryOut_of_ok rfl, unfound,
      carryOut_of_ok rfl]
    simp [Installation.prepend]
  refine ⟨built.mpr ⟨fun _ => rfl, fun _ => ⟨"jobs-ex", .fanout, List.mem_cons_self⟩⟩, ?_, ?_⟩
  · have direct : ExchangeKind.parse "direct" = .ok .direct := rfl
    obtain ⟨topology, described⟩ := exists_topology_of_parse direct
    refine ⟨topology, described, (configured topology described).mpr fun delayed => ?_⟩
    cases direct.symm.trans delayed
  · exact ⟨_, made, rfl, declared _ _ made rfl⟩

/-- An exchange chosen to be of the delayed kind has no inner kind, by choice or by
configuration, and one that is no longer delayed keeps the inner kind it had. -/
theorem inner_kind_missing_or_left_over :
    ¬ (build "jobs" [.exchange "jobs-ex" .delayed, .routingKey "jobs"]).CarriesInner ∧
      ¬ (build "jobs" [.delayedExchange "jobs-ex" .fanout, .exchange "jobs-ex" .direct,
        .routingKey "jobs"]).CarriesInner ∧
      ∃ topology, Config.topology { exchangeType := "x-delayed-message" } = .ok topology ∧
        ¬ topology.CarriesInner := by
  simp only [carriesInner_build_iff]
  refine ⟨by decide, by decide, ?_⟩
  have delayed : ExchangeKind.parse "x-delayed-message" = .ok .delayed := rfl
  obtain ⟨topology, described⟩ := exists_topology_of_parse delayed
  refine ⟨topology, described, fun carries => ?_⟩
  exact (Config.carriesInner_of_topology described).mp carries delayed

end Topology

end AmqpClient
