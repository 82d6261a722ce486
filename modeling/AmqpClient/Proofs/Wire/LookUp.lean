import AmqpClient.Proofs.Wire.Isolation

/-!
# Look-ups aside

Whether a queue or an exchange is there is found out on a channel that is opened for this alone
and closed again, if it is still open then. The channel in use has no part in it. To see this,
a link writes down what it is asked to do and what comes of it, which changes nothing else.
-/

set_option autoImplicit false

namespace AmqpClient.Wire

/-! ## What can be looked up -/

inductive Sought where
  | queue (name : String)
  | exchange (name : String) (kind : ExchangeKind)
  deriving DecidableEq, Repr

namespace Sought

def call (channel : Nat) : Sought → Call
  | .queue name => .queueExists channel name
  | .exchange name kind => .exchangeExists channel name kind

/-- The passive declare by which something is looked up. -/
def method : Sought → Method
  | .queue name => .declareQueue .passive name []
  | .exchange name kind => .declareExchange .passive name kind []

def failure : Sought → ClientError
  | .queue name => .declareQueue name
  | .exchange name _ => .declareExchange name

private theorem callFailure_call (fault : Fault) (channel : Nat) (sought : Sought) :
    callFailure fault (sought.call channel) = sought.failure := by
  cases sought <;> rfl

@[simp] theorem method_ne_closeChannel (sought : Sought) : sought.method ≠ .closeChannel := by
  cases sought <;> exact nofun

private theorem failure_ne_channel (sought : Sought) : sought.failure ≠ .channel := by
  cases sought <;> exact nofun

end Sought

private theorem Fault.isNotFound_iff {fault : Fault} :
    fault.isNotFound = true ↔
      ∃ code text, fault = .protocol code text ∧ code.isSoft = true ∧ code.number = 404 := by
  constructor
  · intro absent
    unfold Fault.isNotFound at absent
    split at absent
    · exact ⟨_, _, rfl, rfl, rfl⟩
    · cases absent
  · rintro ⟨code, text, rfl, -, numbered⟩
    cases code <;> first | rfl | cases numbered

/-! ## Links that write down what they carry -/

/-- An operation, and what came of it. -/
structure Event where
  operation : Operation
  outcome : Except Fault Nat

def Operation.opensChannel : Operation → Bool
  | .openChannel _ => true
  | .dial _ | .invoke .. | .closeConnection _ => false

namespace Link

variable {σ : Type} (link : Link σ)

/-- The same link, with a list of all that it has carried. -/
def recorded : Link (σ × List Event) where
  run operation state :=
    let (outcome, next) := link.run operation state.1
    (outcome, next, state.2 ++ [{ operation, outcome }])
  connectionOf state := link.connectionOf state.1
  isConnectionOpen state := link.isConnectionOpen state.1
  isChannelOpen state := link.isChannelOpen state.1

/-! ## The course of a look-up -/

variable {call : Call} {channel : Nat} {method : Method} {state : σ}

/-- All ways in which a look-up can go, with what is carried over the link. -/
inductive Goes (call : Call) (channel : Nat) (method : Method) (state : σ) :
    Reply → σ → List Event → Prop where
  | scarce {fault : Fault} {next : σ}
      (refuses : link.run (.openChannel (link.connectionOf state channel)) state =
        (.error fault, next)) :
      Goes call channel method state (.error .channel) next
        [{ operation := .openChannel (link.connectionOf state channel), outcome := .error fault }]
  | closed {scratch : Nat} {opened next : σ} {outcome : Except Fault Nat}
      (opens : link.run (.openChannel (link.connectionOf state channel)) state =
        (.ok scratch, opened))
      (looks : link.run (.invoke scratch method) opened = (outcome, next))
      (isOver : link.isChannelOpen next scratch = false) :
      Goes call channel method state (lookUpReply call outcome) next
        [{ operation := .openChannel (link.connectionOf state channel), outcome := .ok scratch },
         { operation := .invoke scratch method, outcome }]
  | released {scratch : Nat} {opened next after : σ} {outcome ending : Except Fault Nat}
      (opens : link.run (.openChannel (link.connectionOf state channel)) state =
        (.ok scratch, opened))
      (looks : link.run (.invoke scratch method) opened = (outcome, next))
      (isOpen : link.isChannelOpen next scratch = true)
      (closes : link.run (.invoke scratch .closeChannel) next = (ending, after)) :
      Goes call channel method state (lookUpReply call outcome) after
        [{ operation := .openChannel (link.connectionOf state channel), outcome := .ok scratch },
         { operation := .invoke scratch method, outcome },
         { operation := .invoke scratch .closeChannel, outcome := ending }]

private theorem exists_goes (call : Call) (channel : Nat) (method : Method) (state : σ) :
    ∃ reply after events,
      link.lookUp call channel method state = (reply, after) ∧
        link.recorded.lookUp call channel method (state, []) = (reply, after, events) ∧
        link.Goes call channel method state reply after events := by
  rcases opening : link.run (.openChannel (link.connectionOf state channel)) state with
    ⟨fault | scratch, opened⟩
  · refine ⟨_, _, _, ?_, ?_, .scarce opening⟩
    · simp only [lookUp, opening]
    · simp only [lookUp, recorded, opening, List.nil_append]
  · rcases looking : link.run (.invoke scratch method) opened with ⟨outcome, next⟩
    cases isOpen : link.isChannelOpen next scratch with
    | false =>
        refine ⟨_, _, _, ?_, ?_, .closed opening looking isOpen⟩
        · simp [lookUp, releaseChannel, opening, looking, isOpen]
        · simp [lookUp, releaseChannel, recorded, opening, looking, isOpen]
    | true =>
        rcases closing : link.run (.invoke scratch .closeChannel) next with ⟨ending, after⟩
        refine ⟨_, _, _, ?_, ?_, .released opening looking isOpen closing⟩
        · simp [lookUp, releaseChannel, opening, looking, isOpen, closing]
        · simp [lookUp, releaseChannel, recorded, opening, looking, isOpen, closing]

/-! ## What is carried -/

namespace Goes

variable {link} {reply : Reply} {after : σ} {events : List Event}

/-- One attempt is made to open a channel. -/
theorem countP_opensChannel (goes : link.Goes call channel method state reply after events) :
    events.countP (·.operation.opensChannel) = 1 := by
  cases goes <;> rfl

theorem aside (goes : link.Goes call channel method state reply after events)
    (fresh : ∀ connection scratch,
      (link.run (.openChannel connection) state).1 = .ok scratch → scratch ≠ channel) :
    ∀ event ∈ events, event.operation.channel? ≠ some channel := by
  have apart {scratch : Nat} {opened : σ}
      (opens : link.run (.openChannel (link.connectionOf state channel)) state =
        (.ok scratch, opened)) : some scratch ≠ some channel := fun same =>
    fresh _ scratch (congrArg Prod.fst opens) (Option.some.inj same)
  cases goes with
  | scarce _ => exact List.forall_mem_singleton.mpr nofun
  | closed opens _ _ =>
      exact List.forall_mem_cons.mpr ⟨nofun, List.forall_mem_singleton.mpr (apart opens)⟩
  | released opens _ _ _ =>
      exact List.forall_mem_cons.mpr ⟨nofun, List.forall_mem_cons.mpr
        ⟨apart opens, List.forall_mem_singleton.mpr (apart opens)⟩⟩

/-- All but the opening is done on the channel that was opened. -/
theorem confined (goes : link.Goes call channel method state reply after events) :
    ∀ event ∈ events, event.operation.opensChannel = true ∨
      ∃ connection scratch,
        { operation := .openChannel connection, outcome := .ok scratch } ∈ events ∧
          event.operation.channel? = some scratch := by
  intro event listed
  cases goes with
  | scarce _ =>
      cases List.mem_singleton.mp listed
      exact .inl rfl
  | closed _ _ _ =>
      rcases List.mem_cons.mp listed with rfl | later
      · exact .inl rfl
      · cases List.mem_singleton.mp later
        exact .inr ⟨_, _, List.mem_cons_self, rfl⟩
  | released _ _ _ _ =>
      rcases List.mem_cons.mp listed with rfl | later
      · exact .inl rfl
      · refine .inr ⟨_, _, List.mem_cons_self, ?_⟩
        rcases List.mem_cons.mp later with rfl | last
        · rfl
        · cases List.mem_singleton.mp last
          rfl

/-- What is carried off the channel in use is all that can have changed anything. -/
theorem spares (goes : link.Goes call channel method state reply after events)
    (isAside : ∀ event ∈ events, event.operation.channel? ≠ some channel)
    {keeps : σ → σ → Prop}
    (trans : ∀ {first second third}, keeps first second → keeps second third → keeps first third)
    (kept : ∀ operation before, operation.channel? ≠ some channel →
      keeps before (link.run operation before).2) : keeps state after := by
  have step {operation : Operation} {before next : σ} {outcome : Except Fault Nat}
      (carried : link.run operation before = (outcome, next))
      (listed : { operation, outcome } ∈ events) : keeps before next := by
    have isKept := kept operation before (isAside _ listed)
    rwa [carried] at isKept
  cases goes with
  | scarce refuses => exact step refuses (by simp)
  | closed opens looks _ => exact trans (step opens (by simp)) (step looks (by simp))
  | released opens looks _ closes =>
      exact trans (step opens (by simp)) (trans (step looks (by simp)) (step closes (by simp)))

/-- A channel that was opened has been closed in the end, or closing it was tried. -/
theorem releases (goes : link.Goes call channel method state reply after events) :
    ∀ connection scratch,
      { operation := .openChannel connection, outcome := .ok scratch } ∈ events →
      link.isChannelOpen after scratch = false ∨
        ∃ outcome, { operation := .invoke scratch .closeChannel, outcome } ∈ events := by
  intro connection scratch opened
  cases goes with
  | scarce _ => simp at opened
  | closed _ _ isOver =>
      obtain ⟨-, rfl⟩ : _ ∧ scratch = _ := by simpa using opened
      exact .inl isOver
  | released _ _ _ _ =>
      obtain ⟨-, rfl⟩ : _ ∧ scratch = _ := by simpa using opened
      exact .inr ⟨_, List.mem_cons_of_mem _ (List.mem_cons_of_mem _ List.mem_cons_self)⟩

end Goes

/-! ## What is told -/

private theorem lookUpReply_call (sought : Sought) (channel : Nat) (fault : Fault) :
    lookUpReply (sought.call channel) (.error fault) =
      if fault.isNotFound then .ok (.found false) else .error sought.failure := by
  rw [lookUpReply, Sought.callFailure_call]

/-- The passive declare for what is sought had this outcome. -/
def Looked (sought : Sought) (events : List Event) (outcome : Except Fault Nat) : Prop :=
  ∃ scratch, { operation := .invoke scratch sought.method, outcome } ∈ events

/-- No channel could be opened. -/
def LacksChannel (events : List Event) : Prop :=
  ∃ connection fault, { operation := .openChannel connection, outcome := .error fault } ∈ events

/-- What a look-up tells of the one thing that it depends on. -/
inductive Tells (sought : Sought) (events : List Event) : Reply → Prop where
  | scarce (lacks : LacksChannel events) (unlooked : ∀ outcome, ¬ Looked sought events outcome) :
      Tells sought events (.error .channel)
  | looked {outcome : Except Fault Nat} {channel : Nat} (opened : ¬ LacksChannel events)
      (looked : ∀ other, Looked sought events other ↔ other = outcome) :
      Tells sought events (lookUpReply (sought.call channel) outcome)

theorem Goes.tells {link : Link σ} {sought : Sought} {reply : Reply} {after : σ}
    {events : List Event}
    (goes : link.Goes (sought.call channel) channel sought.method state reply after events) :
    Tells sought events reply := by
  cases goes with
  | scarce _ => exact .scarce ⟨_, _, List.mem_singleton_self _⟩ (by simp [Looked])
  | closed _ _ _ => exact .looked (by simp [LacksChannel]) (by simp [Looked])
  | released _ _ _ _ =>
      refine .looked (by simp [LacksChannel]) fun other => ?_
      simp [Looked, sought.method_ne_closeChannel]

section

variable {sought : Sought} {reply : Reply} {events : List Event}

namespace Tells

private theorem found_iff (tells : Tells sought events reply) :
    reply = .ok (.found true) ↔ ∃ number, Looked sought events (.ok number) := by
  cases tells with
  | scarce _ unlooked => simp [unlooked]
  | @looked outcome _ _ looked =>
      simp only [looked]
      cases outcome with
      | ok number => simp [lookUpReply]
      | error fault =>
          rw [lookUpReply_call]
          split <;> simp

private theorem absent_iff (tells : Tells sought events reply) :
    reply = .ok (.found false) ↔
      ∃ fault, Looked sought events (.error fault) ∧ fault.isNotFound = true := by
  cases tells with
  | scarce _ unlooked => simp [unlooked]
  | @looked outcome _ _ looked =>
      simp only [looked]
      cases outcome with
      | ok number => simp [lookUpReply]
      | error fault =>
          rw [lookUpReply_call]
          cases absent : fault.isNotFound <;> simp [absent]

private theorem scarce_iff (tells : Tells sought events reply) :
    reply = .error .channel ↔ LacksChannel events := by
  cases tells with
  | scarce lacks _ => simp [lacks]
  | @looked outcome channel opened _ =>
      cases outcome with
      | ok number => simp [lookUpReply, opened]
      | error fault =>
          rw [lookUpReply_call]
          split <;> simp [opened, sought.failure_ne_channel]

private theorem failed_iff (tells : Tells sought events reply) :
    reply = .error sought.failure ↔
      ∃ fault, Looked sought events (.error fault) ∧ fault.isNotFound = false := by
  cases tells with
  | scarce _ unlooked => simp [unlooked, sought.failure_ne_channel.symm]
  | @looked outcome channel _ looked =>
      simp only [looked]
      cases outcome with
      | ok number => simp [lookUpReply]
      | error fault =>
          rw [lookUpReply_call]
          cases absent : fault.isNotFound <;> simp [absent]

end Tells

end

/-- A look-up that has no part in the channel in use, gives back the channel of its own, and
tells what became of its passive declare. -/
structure LooksAside (sought : Sought) (channel : Nat) (state : σ) (reply : Reply) (after : σ)
    (events : List Event) : Prop where
  aside : ∀ event ∈ events, event.operation.channel? ≠ some channel
  confined : ∀ event ∈ events, event.operation.opensChannel = true ∨
    ∃ connection scratch,
      { operation := .openChannel connection, outcome := .ok scratch } ∈ events ∧
        event.operation.channel? = some scratch
  /-- What no operation off the channel in use changes is not changed, be it the state of that
  channel, the signal of its end, or anything else. -/
  spares : ∀ keeps : σ → σ → Prop,
    (∀ {first second third}, keeps first second → keeps second third → keeps first third) →
    (∀ operation before, operation.channel? ≠ some channel →
      keeps before (link.run operation before).2) → keeps state after
  single : events.countP (·.operation.opensChannel) = 1
  releases : ∀ connection scratch,
    { operation := .openChannel connection, outcome := .ok scratch } ∈ events →
      link.isChannelOpen after scratch = false ∨
        ∃ outcome, { operation := .invoke scratch .closeChannel, outcome } ∈ events
  found_iff : reply = .ok (.found true) ↔ ∃ number, Looked sought events (.ok number)
  absent_iff : reply = .ok (.found false) ↔
    ∃ code text, Looked sought events (.error (.protocol code text)) ∧ code.isSoft = true ∧
      code.number = 404
  scarce_iff : reply = .error .channel ↔ LacksChannel events
  failed_iff : reply = .error sought.failure ↔
    ∃ fault, Looked sought events (.error fault) ∧
      ∀ code text, fault = .protocol code text → code.isSoft = true → code.number ≠ 404
  told : reply = .ok (.found true) ∨ reply = .ok (.found false) ∨ reply = .error .channel ∨
    reply = .error sought.failure

private theorem Goes.isAside {link : Link σ} {sought : Sought} {reply : Reply} {after : σ}
    {events : List Event}
    (goes : link.Goes (sought.call channel) channel sought.method state reply after events)
    (fresh : ∀ connection scratch,
      (link.run (.openChannel connection) state).1 = .ok scratch → scratch ≠ channel) :
    link.LooksAside sought channel state reply after events := by
  have tells := goes.tells
  refine ⟨goes.aside fresh, goes.confined, fun keeps trans => goes.spares (goes.aside fresh) trans,
    goes.countP_opensChannel, goes.releases, tells.found_iff, ?_, tells.scarce_iff, ?_, ?_⟩
  · simp only [tells.absent_iff, Fault.isNotFound_iff]
    constructor
    · rintro ⟨_, looked, code, text, rfl, soft, numbered⟩
      exact ⟨code, text, looked, soft, numbered⟩
    · rintro ⟨code, text, looked, soft, numbered⟩
      exact ⟨_, looked, code, text, rfl, soft, numbered⟩
  · simp only [tells.failed_iff, Bool.eq_false_iff, ne_eq, Fault.isNotFound_iff, not_exists,
      not_and]
  · cases tells with
    | scarce _ _ => exact .inr (.inr (.inl rfl))
    | @looked outcome channel _ _ =>
        cases outcome with
        | ok number => exact .inl rfl
        | error fault =>
            rw [lookUpReply_call]
            split
            · exact .inr (.inl rfl)
            · exact .inr (.inr (.inr rfl))

private theorem perform_call (link : Link σ) (sought : Sought) (channel : Nat) (state : σ) :
    link.perform (sought.call channel) state =
      link.lookUp (sought.call channel) channel sought.method state := by
  cases sought <;> rfl

/-- On a network, a look-up leaves the channel in use as it is, unless its connection ends. -/
theorem stands_perform {network : Network} {id : Nat} {channel : Channel}
    (found : network.channel? id = some channel) (sought : Sought) :
    Network.Stands id channel (Network.link.perform (sought.call id) network).2 := by
  obtain ⟨reply, after, events, looked, -, goes⟩ :=
    Network.link.exists_goes (sought.call id) id sought.method network
  have aside := goes.aside fun connection scratch opened => Network.ne_of_openChannel found opened
  let keeps (before after : Network) : Prop :=
    Network.Stands id channel before → Network.Stands id channel after
  have kept : keeps network after :=
    goes.spares aside (fun first second => second ∘ first)
      fun operation before isAside stands => stands.run isAside
  rw [perform_call, looked]
  exact kept (.kept found)

/-- A look-up is made aside of the channel in use, over any link that opens another channel when
it is asked for one. -/
theorem looksAside (sought : Sought) (channel : Nat) (state : σ)
    (fresh : ∀ connection scratch,
      (link.run (.openChannel connection) state).1 = .ok scratch → scratch ≠ channel) :
    ∃ reply after events,
      link.perform (sought.call channel) state = (reply, after) ∧
        link.recorded.perform (sought.call channel) (state, []) = (reply, after, events) ∧
        link.LooksAside sought channel state reply after events := by
  obtain ⟨reply, after, events, looked, recorded, goes⟩ :=
    link.exists_goes (sought.call channel) channel sought.method state
  refine ⟨reply, after, events, ?_, ?_, goes.isAside fresh⟩
  · rw [perform_call, looked]
  · rw [perform_call, recorded]

/-- A connection with one channel in use, to a broker that does not know a queue. -/
def unknowing : Network :=
  { host := "127.0.0.1"
    port := 5672
    script := [("queue.declare", [{ refusal? := some (.closeChannel 404 "no queue") }])]
    connections := [{ channelCount := 1 }]
    channels := [{ connection := 1, number := 1 }] }

/-- The broker closes the channel of the look-up. The one in use stays as it is. -/
theorem looksAside_unknowing :
    (∀ connection scratch,
      (Network.link.run (.openChannel connection) unknowing).1 = .ok scratch → scratch ≠ 1) ∧
    ∃ after events,
      Network.link.perform (.queueExists 1 "orders") unknowing = (.ok (.found false), after) ∧
        Network.link.LooksAside (.queue "orders") 1 unknowing (.ok (.found false)) after events ∧
        after.channel? 1 = some { connection := 1, number := 1 } ∧
        Network.link.isChannelOpen after 2 = false := by
  have present : unknowing.channel? 1 = some { connection := 1, number := 1 } := rfl
  have fresh : ∀ connection scratch,
      (Network.link.run (.openChannel connection) unknowing).1 = .ok scratch → scratch ≠ 1 :=
    fun connection scratch opened => Network.ne_of_openChannel present opened
  refine ⟨fresh, ?_⟩
  obtain ⟨reply, after, events, performed, -, aside⟩ :=
    looksAside Network.link (.queue "orders") 1 unknowing fresh
  have told : reply = .ok (.found false) := (congrArg Prod.fst performed).symm.trans rfl
  have reached : (Network.link.perform (.queueExists 1 "orders") unknowing).2 = after :=
    congrArg Prod.snd performed
  have stands := stands_perform present (.queue "orders")
  rw [show (Sought.queue "orders").call 1 = .queueExists 1 "orders" from rfl, reached] at stands
  subst told
  refine ⟨after, events, performed, aside, ?_, ?_⟩
  · cases stands with
    | kept found => exact found
    | lost _ _ known isOver =>
        have isOpen : after.isConnectionOpen 1 = true := by
          rw [← reached]
          rfl
        rw [Network.isConnectionOpen, known] at isOpen
        exact absurd (by simpa using isOpen) isOver
  · rw [← reached]
    rfl

end Link

end AmqpClient.Wire
