import AmqpClient.Proofs.Topology.Installation
import Mathlib.Data.Set.Insert
import Mathlib.Logic.Function.Basic
import Mathlib.Logic.Relation

/-!
# What an installation leaves behind

A broker holds queues and exchanges under their names, and bindings. It may fail any call,
before or after the call has taken effect. All that it has to keep to is that a look-up
which does not fail finds exactly what is there. Then whatever was half done by
installations that have failed is what the next one would have done anyway: once one
succeeds, the broker holds what it held at first, and what the topology asks for.
-/

set_option autoImplicit false

namespace AmqpClient.Topology

variable {σ : Type}

/-! ## Declarations under a name -/

section

variable {α : Type}

/-- Something is declared under a name. What is there already stays as it is. -/
def declared (table : String → Option α) (name : String) (value : α) : String → Option α :=
  Function.update table name (some ((table name).getD value))

variable (table : String → Option α) (name : String) (value other : α)

@[simp] theorem declared_self :
    declared table name value name = some ((table name).getD value) :=
  Function.update_self ..

private theorem declared_of_ne {name another : String} (apart : another ≠ name) :
    declared table name value another = table another :=
  Function.update_of_ne apart ..

private theorem declared_of_isSome {table : String → Option α} {name : String}
    (present : (table name).isSome = true) : declared table name value = table := by
  obtain ⟨old, held⟩ := Option.isSome_iff_exists.mp present
  rw [declared, held, Option.getD_some, ← held, Function.update_eq_self]

@[simp] theorem declared_declared :
    declared (declared table name value) name other = declared table name value :=
  declared_of_isSome _ (by simp)

end

/-! ## Holdings -/

/-- What a broker holds. Queues and exchanges are known by name, with their declarations. -/
structure Holdings where
  queues : String → Option FieldTable := fun _ => none
  exchanges : String → Option (ExchangeKind × FieldTable) := fun _ => none
  /-- Queue, exchange and routing key. -/
  bindings : Set (String × String × String) := ∅

def InstallStep.isLookUp : InstallStep → Bool
  | .checkQueue | .checkExchange => true
  | .declareQueue | .declareExchange | .bindQueue => false

def InstallStep.isDeclare : InstallStep → Bool
  | .declareQueue | .declareExchange => true
  | .checkQueue | .checkExchange | .bindQueue => false

def InstallProgress.isDeclare : InstallProgress → Bool
  | .calling step => step.isDeclare
  | .finished _ => false

private theorem isDeclare_installExchange (topology : Topology) :
    topology.installExchange.isDeclare = false := by
  unfold installExchange
  split <;> rfl

namespace Holdings

def has (topology : Topology) (holdings : Holdings) : InstallStep → Bool
  | .checkQueue => (holdings.queues topology.queue).isSome
  | .checkExchange => (holdings.exchanges topology.exchange).isSome
  | .declareQueue | .declareExchange | .bindQueue => false

/-- What a step is to bring about. -/
def after (topology : Topology) (holdings : Holdings) : InstallStep → Holdings
  | .checkQueue | .checkExchange => holdings
  | .declareQueue =>
    { holdings with
      queues := declared holdings.queues topology.queue topology.queueArguments }
  | .declareExchange =>
    { holdings with
      exchanges :=
        declared holdings.exchanges topology.exchange
          (topology.kind, topology.exchangeArguments) }
  | .bindQueue =>
    { holdings with
      bindings :=
        insert (topology.queue, topology.exchange, topology.routingKey) holdings.bindings }

/-- All that a topology asks for, next to what is there. -/
def including (topology : Topology) (holdings : Holdings) : Holdings :=
  let queued := holdings.after topology .declareQueue
  if topology.usesExchange then
    (queued.after topology .declareExchange).after topology .bindQueue
  else queued

/-- How a step may be served: a look-up that does not fail is answered truthfully, and
any step takes effect that does not fail. -/
structure Serves (topology : Topology) (step : InstallStep) (before : Holdings) (reply : Reply)
    (after : Holdings) : Prop where
  truthful : step.isLookUp = true → ∀ answer, reply = .ok answer →
    answer.isFound = before.has topology step
  effect : after = before.after topology step ∨
    (∃ error, reply = .error error) ∧ after = before

/-- One set of holdings is another with what a topology asks for, and with nothing else. -/
structure Gains (topology : Topology) (before after : Holdings) : Prop where
  queue : after.queues topology.queue =
    some ((before.queues topology.queue).getD topology.queueArguments)
  otherQueues : ∀ name, name ≠ topology.queue → after.queues name = before.queues name
  exchange : topology.usesExchange = true → after.exchanges topology.exchange =
    some ((before.exchanges topology.exchange).getD (topology.kind, topology.exchangeArguments))
  otherExchanges : ∀ name, (topology.usesExchange = true → name ≠ topology.exchange) →
    after.exchanges name = before.exchanges name
  bindings : ∀ binding, binding ∈ after.bindings ↔ binding ∈ before.bindings ∨
    topology.usesExchange = true ∧
      binding = (topology.queue, topology.exchange, topology.routingKey)

section

variable {topology : Topology} {step : InstallStep} {before after : Holdings}

private theorem gains_including (topology : Topology) (before : Holdings) :
    before.Gains topology (before.including topology) := by
  unfold including
  cases uses : topology.usesExchange with
  | true =>
      constructor
      · exact declared_self ..
      · intro name apart
        exact declared_of_ne _ _ apart
      · intro _
        exact declared_self ..
      · intro name apart
        exact declared_of_ne _ _ (apart uses)
      · intro binding
        simp [Holdings.after, uses, or_comm]
  | false =>
      constructor
      · exact declared_self ..
      · intro name apart
        exact declared_of_ne _ _ apart
      · intro used
        cases uses.symm.trans used
      · intro name _
        rfl
      · intro binding
        simp [Holdings.after, uses]

private theorem Gains.unique {other : Holdings} (gains : before.Gains topology after)
    (also : before.Gains topology other) : after = other := by
  have queues : after.queues = other.queues := by
    funext name
    by_cases same : name = topology.queue
    · rw [same, gains.queue, also.queue]
    · rw [gains.otherQueues name same, also.otherQueues name same]
  have exchanges : after.exchanges = other.exchanges := by
    funext name
    by_cases same : topology.usesExchange = true ∧ name = topology.exchange
    · rw [same.2, gains.exchange same.1, also.exchange same.1]
    · rw [gains.otherExchanges name (not_and.mp same), also.otherExchanges name (not_and.mp same)]
  have bindings : after.bindings = other.bindings := by
    ext binding
    rw [gains.bindings, also.bindings]
  cases after
  cases other
  cases queues
  cases exchanges
  cases bindings
  rfl

/-! ## What a step does to the holdings -/

private theorem including_of_unused (unused : topology.usesExchange = false)
    (queue : (before.queues topology.queue).isSome = true) :
    before.including topology = before := by
  simp [including, unused, Holdings.after, declared_of_isSome _ queue]

private theorem including_of_present (uses : topology.usesExchange = true)
    (queue : (before.queues topology.queue).isSome = true)
    (exchange : (before.exchanges topology.exchange).isSome = true)
    (binding : (topology.queue, topology.exchange, topology.routingKey) ∈ before.bindings) :
    before.including topology = before := by
  simp [including, uses, Holdings.after, declared_of_isSome _ queue,
    declared_of_isSome _ exchange, Set.insert_eq_of_mem binding]

private theorem including_after (routed : step = .declareExchange ∨ step = .bindQueue →
    topology.usesExchange = true) :
    (before.after topology step).including topology = before.including topology := by
  cases step with
  | checkQueue | checkExchange => rfl
  | declareQueue => simp [including, Holdings.after]
  | declareExchange => simp [including, Holdings.after, routed (.inl rfl)]
  | bindQueue => simp [including, Holdings.after, routed (.inr rfl)]

/-- What is in place once an installation has come so far. -/
def IsReady (topology : Topology) (holdings : Holdings) : InstallProgress → Prop
  | .calling .checkQueue | .calling .declareQueue => True
  | .calling .checkExchange | .calling .declareExchange =>
    topology.usesExchange = true ∧ (holdings.queues topology.queue).isSome = true
  | .calling .bindQueue =>
    topology.usesExchange = true ∧ (holdings.queues topology.queue).isSome = true ∧
      (holdings.exchanges topology.exchange).isSome = true
  | .finished (.ok ()) => holdings.including topology = holdings
  | .finished (.error _) => True

private theorem isReady_installExchange (queue : (before.queues topology.queue).isSome = true) :
    before.IsReady topology topology.installExchange := by
  unfold installExchange
  split
  · next uses => exact ⟨uses, queue⟩
  · next unused => exact including_of_unused (Bool.eq_false_iff.mpr unused) queue

theorem IsReady.routed (ready : before.IsReady topology (.calling step))
    (routing : step = .declareExchange ∨ step = .bindQueue) : topology.usesExchange = true := by
  rcases routing with rfl | rfl
  · exact ready.1
  · exact ready.1

private theorem Serves.including_eq {reply : Reply}
    (serves : Serves topology step before reply after)
    (ready : before.IsReady topology (.calling step)) :
    after.including topology = before.including topology := by
  rcases serves.effect with rfl | ⟨-, rfl⟩
  · exact including_after ready.routed
  · rfl

theorem IsReady.next {reply : Reply} (ready : before.IsReady topology (.calling step))
    (serves : Serves topology step before reply after) :
    after.IsReady topology (topology.continueInstall step reply).1 := by
  cases reply with
  | error error => trivial
  | ok answer =>
      have effect : after = before.after topology step := by
        rcases serves.effect with effect | ⟨⟨error, failed⟩, -⟩
        · exact effect
        · cases failed
      subst effect
      have truthful (lookUp : step.isLookUp = true) :
          answer.isFound = before.has topology step := serves.truthful lookUp answer rfl
      cases step with
      | checkQueue =>
          simp only [continueInstall, afterInstallStep]
          split
          · next found => exact isReady_installExchange ((truthful rfl).symm.trans found)
          · trivial
      | declareQueue => exact isReady_installExchange (by simp [Holdings.after])
      | checkExchange =>
          obtain ⟨uses, queue⟩ := ready
          simp only [continueInstall, afterInstallStep]
          split
          · next found => exact ⟨uses, queue, (truthful rfl).symm.trans found⟩
          · exact ⟨uses, queue⟩
      | declareExchange =>
          obtain ⟨uses, queue⟩ := ready
          exact ⟨uses, queue, by simp [Holdings.after]⟩
      | bindQueue =>
          obtain ⟨uses, queue, exchange⟩ := ready
          exact including_of_present uses queue exchange (Set.mem_insert _ _)

/-- Where all is in place, the look-ups find it, and nothing is declared. -/
theorem Serves.next_isDeclare {reply : Reply} (serves : Serves topology step before reply after)
    (settled : before.including topology = before)
    (ready : before.IsReady topology (.calling step)) (declares : step.isDeclare = false) :
    (topology.continueInstall step reply).1.isDeclare = false := by
  have gains := settled ▸ gains_including topology before
  cases reply with
  | error error => rfl
  | ok answer =>
      cases step with
      | checkQueue =>
          have found : answer.isFound = true := by
            rw [serves.truthful rfl answer rfl, has, gains.queue]
            rfl
          simp only [continueInstall, afterInstallStep, found, if_true]
          exact isDeclare_installExchange topology
      | checkExchange =>
          have found : answer.isFound = true := by
            rw [serves.truthful rfl answer rfl, has, gains.exchange ready.1]
            rfl
          simp only [continueInstall, afterInstallStep, found, if_true]
          rfl
      | declareQueue | declareExchange => cases declares
      | bindQueue => rfl

private theorem Serves.eq_of_settled {reply : Reply}
    (serves : Serves topology step before reply after)
    (settled : before.including topology = before)
    (ready : before.IsReady topology (.calling step)) (declares : step.isDeclare = false) :
    after = before := by
  rcases serves.effect with rfl | ⟨-, rfl⟩
  · cases step with
    | checkQueue | checkExchange => rfl
    | declareQueue | declareExchange => cases declares
    | bindQueue =>
        have gains := settled ▸ gains_including topology before
        have bound := (gains.bindings _).mpr (.inr ⟨ready.1, rfl⟩)
        simp [Holdings.after, Set.insert_eq_of_mem bound]
  · rfl

end

end Holdings

/-! ## Brokers -/

/-- A broker that answers look-ups truthfully, whatever else it does. -/
structure Registry (σ : Type) where
  serve : Serving σ
  holdings : σ → Holdings
  sound : ∀ topology channel step state,
    Holdings.Serves topology step (holdings state) (serve (step.call topology channel) state).1
      (holdings (serve (step.call topology channel) state).2)

def declares : Call → Bool
  | .declareQueue .. | .declareExchange .. => true
  | _ => false

private theorem declares_call (topology : Topology) (channel : Nat) (step : InstallStep) :
    declares (step.call topology channel) = step.isDeclare := by
  cases step <;> rfl

namespace Registry

variable (registry : Registry σ) {topology : Topology} {channel : Nat}

def install (topology : Topology) (channel : Nat) (state : σ) : Installation σ :=
  Topology.install registry.serve topology channel state

/-- An installation is on its way to what the topology asks for, however it ends, and a
successful one has come there. -/
theorem including_carryOut (progress : InstallProgress) (state : σ)
    (ready : (registry.holdings state).IsReady topology progress) :
    let out := carryOut registry.serve topology channel progress state
    (registry.holdings out.state).including topology =
        (registry.holdings state).including topology ∧
      (out.result = .ok () →
        (registry.holdings out.state).including topology = registry.holdings out.state) := by
  induction progress, state using carryOut.induct registry.serve topology channel with
  | case1 result state =>
      rw [carryOut_finished]
      refine ⟨rfl, ?_⟩
      rintro rfl
      exact ready
  | case2 step state call served ih =>
      have serves := registry.sound topology channel step state
      obtain ⟨kept, reached⟩ := ih (ready.next serves)
      rw [carryOut]
      exact ⟨kept.trans (serves.including_eq ready), reached⟩

/-- Where all is in place, an installation leaves it as it is. -/
theorem carryOut_of_settled (progress : InstallProgress) (state : σ)
    (settled : (registry.holdings state).including topology = registry.holdings state)
    (ready : (registry.holdings state).IsReady topology progress)
    (declares : progress.isDeclare = false) :
    let out := carryOut registry.serve topology channel progress state
    (∀ entry ∈ out.record, Topology.declares entry.1 = false) ∧
      registry.holdings out.state = registry.holdings state := by
  induction progress, state using carryOut.induct registry.serve topology channel with
  | case1 result state =>
      rw [carryOut_finished]
      exact ⟨List.forall_mem_nil _, rfl⟩
  | case2 step state call served ih =>
      have serves := registry.sound topology channel step state
      have same := serves.eq_of_settled settled ready declares
      have keeps : (registry.holdings served.2).including topology = registry.holdings served.2 := by
        rw [same, settled]
      obtain ⟨silent, unchanged⟩ := ih keeps (ready.next serves)
        (serves.next_isDeclare settled ready declares)
      rw [carryOut]
      refine ⟨?_, unchanged.trans same⟩
      intro entry made
      rcases List.mem_cons.mp made with rfl | later
      · exact (declares_call topology channel step).trans declares
      · exact silent entry later

def Attempts (topology : Topology) (before after : σ) : Prop :=
  ∃ channel, after = (registry.install topology channel before).state

section

variable {registry} {state before : σ}

private theorem isReady_beginInstall (topology : Topology) (holdings : Holdings) :
    holdings.IsReady topology topology.beginInstall := by
  unfold beginInstall
  split <;> trivial

private theorem isDeclare_beginInstall (topology : Topology) :
    topology.beginInstall.isDeclare = false := by
  unfold beginInstall
  split <;> rfl

private theorem including_install (registry : Registry σ) (topology : Topology) (channel : Nat)
    (state : σ) :
    (registry.holdings (registry.install topology channel state).state).including topology =
        (registry.holdings state).including topology ∧
      ((registry.install topology channel state).result = .ok () →
        (registry.holdings (registry.install topology channel state).state).including topology =
          registry.holdings (registry.install topology channel state).state) :=
  registry.including_carryOut _ state (isReady_beginInstall topology _)

private theorem including_of_attempts
    (attempts : Relation.ReflTransGen (registry.Attempts topology) before state) :
    (registry.holdings state).including topology = (registry.holdings before).including topology := by
  induction attempts with
  | refl => rfl
  | tail _ attempt ih =>
      obtain ⟨channel, rfl⟩ := attempt
      exact (registry.including_install topology channel _).1.trans ih

/-- After any number of attempts, a success leads to what a success would have led to at
once. -/
theorem gains_of_attempts
    (attempts : Relation.ReflTransGen (registry.Attempts topology) before state)
    (succeeds : (registry.install topology channel state).result = .ok ()) :
    (registry.holdings before).Gains topology
      (registry.holdings (registry.install topology channel state).state) := by
  obtain ⟨kept, reached⟩ := registry.including_install topology channel state
  rw [← reached succeeds, kept, including_of_attempts attempts]
  exact Holdings.gains_including topology _

end

end Registry

/-! ## What can be said of every installation -/

/-- What a topology can rely on that is installed again and again. -/
structure InstallsSoundly (topology : Topology) : Prop where
  refuses : ∀ {σ : Type} (serve : Serving σ) (channel : Nat) (state : σ) (error : ClientError),
    topology.validate = .error error →
      install serve topology channel state = { record := [], result := .error error, state }
  /-- Whatever the replies are, the planned calls are made up to the first failure. -/
  follows : ∀ {σ : Type} (serve : Serving σ) (channel : Nat) (state : σ),
    topology.validate = .ok () →
      (install serve topology channel state).Follows (topology.plannedCalls channel)
  installs : ∀ {σ : Type} (registry : Registry σ) (channel : Nat) (state : σ),
    (registry.install topology channel state).result = .ok () →
      (registry.holdings state).Gains topology
        (registry.holdings (registry.install topology channel state).state)
  /-- A second installation changes nothing, and succeeds unless the broker fails a call. -/
  repeats : ∀ {σ : Type} (registry : Registry σ) (channel another : Nat) (state : σ),
    let first := registry.install topology channel state
    let second := registry.install topology another first.state
    first.result = .ok () →
      (∀ entry ∈ second.record, declares entry.1 = false) ∧
        registry.holdings second.state = registry.holdings first.state ∧
        ((∀ call error, (call, .error error) ∉ second.record) → second.result = .ok ())
  /-- Attempts that have failed, wherever and with whatever effect, are made up for: a later
  success leads where a success would have led at once. -/
  recovers : ∀ {σ : Type} (registry : Registry σ) (channel : Nat) (before state : σ),
    Relation.ReflTransGen (registry.Attempts topology) before state →
      let last := registry.install topology channel state
      last.result = .ok () →
        (registry.holdings before).Gains topology (registry.holdings last.state) ∧
          ∀ another, (registry.install topology another before).result = .ok () →
            registry.holdings (registry.install topology another before).state =
              registry.holdings last.state

theorem installsSoundly (topology : Topology) : topology.InstallsSoundly := by
  constructor
  · intro σ serve channel state error invalid
    exact install_of_invalid serve topology channel state invalid
  · intro σ serve channel state valid
    exact install_follows serve topology channel state valid
  · intro σ registry channel state succeeds
    exact Registry.gains_of_attempts .refl succeeds
  · intro σ registry channel another state first second succeeds
    have settled := (registry.including_install topology channel state).2 succeeds
    obtain ⟨silent, unchanged⟩ := registry.carryOut_of_settled topology.beginInstall first.state
      settled (Registry.isReady_beginInstall topology _) (Registry.isDeclare_beginInstall topology)
    refine ⟨silent, unchanged, ?_⟩
    have valid : topology.validate = .ok () := by
      cases judged : topology.validate with
      | ok => rfl
      | error error =>
          have refused := install_of_invalid registry.serve topology channel state judged
          cases (congrArg Installation.result refused).symm.trans succeeds
    have follows := install_follows registry.serve topology another first.state valid
    exact follows.result_eq_ok_iff.mpr
  · intro σ registry channel before state attempts last succeeds
    have gains := Registry.gains_of_attempts attempts succeeds
    refine ⟨gains, fun another atOnce => ?_⟩
    exact (Registry.gains_of_attempts .refl atOnce).unique gains

/-! ## A broker that loses an answer -/

inductive Temper where
  | serves
  | refuses
  /-- The call takes effect, but its answer is lost. -/
  | forgets

def Temper.reply (temper : Temper) (answer : Answer) : Reply :=
  match temper with
  | .serves => .ok answer
  | .refuses => .error .channel
  | .forgets => .error .channelTimeout

namespace Holdings

/-- What a call of any installation is to bring about, and its answer. -/
def serve (holdings : Holdings) : Call → Answer × Holdings
  | .queueExists _ queue => (.found (holdings.queues queue).isSome, holdings)
  | .exchangeExists _ exchange _ => (.found (holdings.exchanges exchange).isSome, holdings)
  | .declareQueue _ queue arguments =>
    (.done, { holdings with queues := declared holdings.queues queue arguments })
  | .declareExchange _ exchange kind arguments =>
    (.done, { holdings with exchanges := declared holdings.exchanges exchange (kind, arguments) })
  | .bindQueue _ queue exchange routingKey =>
    (.done,
      { holdings with bindings := insert (queue, exchange, routingKey) holdings.bindings })
  | _ => (.done, holdings)

private theorem serve_after (topology : Topology) (channel : Nat) (step : InstallStep)
    (holdings : Holdings) :
    (holdings.serve (step.call topology channel)).2 = holdings.after topology step := by
  cases step <;> rfl

private theorem isFound_serve (topology : Topology) (channel : Nat) (step : InstallStep)
    (holdings : Holdings) :
    (holdings.serve (step.call topology channel)).1.isFound = holdings.has topology step := by
  cases step <;> rfl

end Holdings

/-- A broker whose temper changes from call to call. -/
def moody : Registry (Holdings × List Temper) where
  serve call state :=
    let served := state.1.serve call
    let temper := state.2.headD .serves
    let holdings := match temper with
      | .serves | .forgets => served.2
      | .refuses => state.1
    (temper.reply served.1, holdings, state.2.tail)
  holdings := Prod.fst
  sound := by
    intro topology channel step state
    have effect := Holdings.serve_after topology channel step state.1
    have found := Holdings.isFound_serve topology channel step state.1
    cases state.2.headD .serves with
    | serves =>
        refine ⟨?_, .inl effect⟩
        rintro - _ ⟨⟩
        exact found
    | refuses => exact ⟨nofun, .inr ⟨⟨_, rfl⟩, rfl⟩⟩
    | forgets => exact ⟨nofun, .inl effect⟩

def orders : Topology :=
  { queue := "orders", exchange := "events", routingKey := "created" }

private theorem install_forgotten :
    moody.install orders 1 ({}, [.serves, .forgets]) =
      { record :=
          [(orders.queueLookUp 1, .ok (.found false)),
            (.declareQueue 1 "orders" [], .error .channelTimeout)]
        result := .error .channelTimeout
        state := (({} : Holdings).after orders .declareQueue, []) } := by
  have begins : orders.beginInstall = .calling .checkQueue := rfl
  rw [Registry.install, install, begins, carryOut_of_ok rfl]
  exact congrArg _ (carryOut_of_error rfl)

private theorem install_retried :
    (moody.install orders 2 (({} : Holdings).after orders .declareQueue, [])).result =
      .ok () := by
  have begins : orders.beginInstall = .calling .checkQueue := rfl
  have queueFound : orders.afterInstallStep (.found true) .checkQueue =
      .calling .checkExchange := rfl
  have exchangeMissing : orders.afterInstallStep (.found false) .checkExchange =
      .calling .declareExchange := rfl
  rw [Registry.install, install, begins, carryOut_of_ok rfl]
  change (carryOut _ _ _ (orders.afterInstallStep (.found true) .checkQueue) _).result = _
  rw [queueFound, carryOut_of_ok rfl]
  change (carryOut _ _ _ (orders.afterInstallStep (.found false) .checkExchange) _).result = _
  rw [exchangeMissing, carryOut_of_ok rfl]
  change (carryOut _ _ _ (.calling .bindQueue) _).result = _
  rw [carryOut_of_ok rfl]
  change (carryOut _ _ _ (.finished (.ok ())) _).result = _
  rw [carryOut_finished]

/-- The queue is declared, but the answer is lost; another installation makes up for it. -/
theorem recovers_lostAnswer :
    let first := moody.install orders 1 ({}, [.serves, .forgets])
    let second := moody.install orders 2 first.state
    first.result = .error .channelTimeout ∧ second.result = .ok () ∧
      (({} : Holdings).Gains orders (moody.holdings second.state)) := by
  intro first second
  have succeeds : second.result = .ok () := by
    simp only [second, first, install_forgotten]
    exact install_retried
  have once : Relation.ReflTransGen (moody.Attempts orders) ({}, [.serves, .forgets])
      first.state := .single ⟨1, rfl⟩
  refine ⟨congrArg Installation.result install_forgotten, succeeds, ?_⟩
  exact ((installsSoundly orders).recovers moody 2 _ _ once succeeds).1

end AmqpClient.Topology
