import AmqpClient.Proofs.Site.Staleness
import AmqpClient.Proofs.Supervisor.Release
import AmqpClient.Proofs.Supervisor.SetUp
import AmqpClient.Proofs.Supervisor.Trail

/-!
# Addresses and bindings

What a publisher addresses its messages to, and what a supervisor sets up on the channels that
they are written to, are told from the topology apart from each other. They agree: a message
goes to the exchange and under the key that the queue was bound with on its very channel, or
it goes straight to the queue, and then no exchange is ever spoken of.
-/

set_option autoImplicit false

namespace AmqpClient

/-! ## Calls about exchanges -/

def Call.isAboutExchange : Call → Bool
  | .exchangeExists .. | .declareExchange .. | .bindQueue .. => true
  | _ => false

namespace Supervisor

section

variable {plan : Plan} {run : Run} {call : Call}

/-- Whatever was called was the call of a point that the loop had come to. -/
theorem exists_calling (reached : Reachable plan run) (called : call ∈ issuedCalls run.history) :
    ∃ former, Reachable plan former ∧ former.point.call? plan = some call := by
  induction reached with
  | refl => cases called
  | @tail before after reached step ih =>
      obtain ⟨more, told⟩ := Steps.history_prefix (Relation.ReflTransGen.single step)
      rw [← told, issuedCalls_append] at called
      rcases List.mem_append.mp called with early | late
      · exact ih early
      · exact ⟨after, reached.tail step, step.call?_of_makes ⟨more, told.symm, late⟩⟩

theorem InstallTrail.usesExchange {topology : Topology} {channel : Nat}
    {step : Topology.InstallStep} {marks : List Mark}
    (trail : InstallTrail topology channel (.calling step) marks)
    (about : (step.call topology channel).isAboutExchange = true) :
    topology.usesExchange = true := by
  cases trail with
  | checkQueue | declareQueue => cases about
  | checkExchange _ uses | declareExchange _ uses | bindQueue _ _ uses => exact uses

/-- A supervisor speaks of exchanges only if its topology uses one. -/
theorem usesExchange_of_called (reached : Reachable plan run)
    (called : call ∈ issuedCalls run.history) (about : call.isAboutExchange = true) :
    plan.topology.usesExchange = true := by
  obtain ⟨former, come, pending⟩ := exists_calling reached called
  cases point : former.point with
  | setup connection stage deadline =>
      obtain ⟨trail, follows, -⟩ := (Run.isAccounted_of_reachable come).setup _ _ _ point
      rw [point] at pending
      cases follows with
      | install installs =>
          cases pending
          exact installs.usesExchange about
      | openChannel | confirmSelect | discard =>
          cases pending
          cases about
  | entry | releaseChannel | releaseConnection | dial | dialPause | setupPause | ready | closed =>
      rw [point] at pending
      cases pending <;> cases about

end

/-! ## What the setup of a session tells -/

/-- The session was stored right after a setup of its channel that left these marks. -/
def Run.WasSetUp (plan : Plan) (run : Run) (session : Session) (told : List Mark) : Prop :=
  ∃ isQueueFound isExchangeFound front back,
    told = setUpMarks plan session isQueueFound isExchangeFound ∧
      run.marks = front ++ told ++ .wrote (some session) :: back

/-- The queue is there: it was found, or it was declared. -/
def IsQueueInPlace (topology : Topology) (channel : Nat) (told : List Mark) : Prop :=
  .returned (.queueExists channel topology.queue) (.ok (.found true)) ∈ told ∨
    .returned (.declareQueue channel topology.queue topology.queueArguments) (.ok .done) ∈ told

section

variable {plan : Plan} {run : Run} {session : Session}

private theorem exists_wasSetUp (reached : Reachable plan run)
    (stored : .wrote (some session) ∈ run.marks) : ∃ told, run.WasSetUp plan session told := by
  obtain ⟨before, back, split⟩ := List.append_of_mem stored
  obtain ⟨isQueueFound, isExchangeFound, front, rfl⟩ :=
    (Run.isAccounted_of_reachable reached).sound before session back split
  exact ⟨_, isQueueFound, isExchangeFound, front, back, rfl, split⟩

private theorem Run.WasSetUp.isQueueInPlace {told : List Mark}
    (setUp : run.WasSetUp plan session told) :
    IsQueueInPlace plan.topology session.channel told := by
  obtain ⟨isQueueFound, isExchangeFound, _, _, rfl, -⟩ := setUp
  cases isQueueFound with
  | true => exact .inl (by simp [setUpMarks, queueMarks, answered])
  | false => exact .inr (by simp [setUpMarks, queueMarks, answered])

theorem Run.WasSetUp.bound {told : List Mark} (setUp : run.WasSetUp plan session told)
    (uses : plan.topology.usesExchange = true) :
    .returned (.bindQueue session.channel plan.topology.queue plan.topology.exchange
      plan.topology.routingKey) (.ok .done) ∈ told := by
  obtain ⟨isQueueFound, isExchangeFound, _, _, rfl, -⟩ := setUp
  simp [setUpMarks, routingMarks_of_uses uses, answered]

end

end Supervisor

/-! ## Addressed messages -/

namespace Publisher

/-- The desk of a publisher that works with a supervisor. -/
def Desk.ofSupervisor (plan : Supervisor.Plan) (settings : PublisherSettings) : Desk where
  topology := plan.topology
  settings
  channelTimeout := plan.settings.channelTimeout

namespace Errand

/-- The call whose end an errand waits for. -/
def call? : Errand → Option Call
  | .push plan point => point.call? plan
  | .handOff plan point => point.call? plan
  | .confirmation .. | .refused => none

/-- The message goes where the topology says. -/
def IsAddressed (topology : Topology) : Errand → Prop
  | .push plan _ | .handOff plan _ =>
    (plan.message.exchange, plan.message.routingKey) = topology.publishTarget
  | .confirmation .. | .refused => True

variable {topology : Topology}

/-- All that publishers call is to publish, and they do it where the topology says. -/
theorem IsAddressed.eq_publish {errand : Errand} {call : Call}
    (addressed : errand.IsAddressed topology) (calling : errand.call? = some call) :
    ∃ session message, errand.writing? = some session ∧
      call = .publish session.channel message ∧
      (message.exchange, message.routingKey) = topology.publishTarget := by
  cases errand with
  | push plan point =>
      cases point with
      | publishing session deadline =>
          cases calling
          exact ⟨session, plan.message, rfl, rfl, addressed⟩
      | entry | claiming | confirming | pausing | finished => cases calling
  | handOff plan point =>
      cases point with
      | publishing session deadline =>
          cases calling
          exact ⟨session, plan.message, rfl, rfl, addressed⟩
      | entry | claiming | finished => cases calling
  | confirmation | refused => cases calling

theorem IsAddressed.afterHandOff {plan : Plan} {before : HandOff.Point}
    (addressed : (Errand.handOff plan before).IsAddressed topology) (after : HandOff.Point) :
    (Errand.afterHandOff plan before after).IsAddressed topology := by
  unfold Errand.afterHandOff
  split
  · exact trivial
  · exact addressed

end Errand

private theorem isAddressed_errand (desk : Desk) (request : Request) (id : MessageId) :
    (desk.errand request id).IsAddressed desk.topology := by
  unfold Desk.errand
  split
  · exact rfl
  · exact rfl
  · exact trivial
  · exact rfl

/-- The messages of all callers go where the topology says. -/
def Crowd.IsAddressed (topology : Topology) (crowd : Crowd) : Prop :=
  ∀ ticket caller, crowd.callers ticket = some caller → caller.errand.IsAddressed topology

namespace Crowd.IsAddressed

variable {desk : Desk} {crowd after : Crowd} {topology : Topology}

theorem put {ticket : Nat} {caller? : Option Caller} (claims : Claims)
    (addressed : crowd.IsAddressed topology)
    (own : ∀ caller, caller? = some caller → caller.errand.IsAddressed topology) :
    (crowd.put ticket caller? claims).IsAddressed topology := by
  intro other caller present
  rw [Crowd.callers_put] at present
  split at present
  · exact own caller present
  · exact addressed other caller present

theorem step (addressed : crowd.IsAddressed desk.topology) (step : Step desk crowd after) :
    after.IsAddressed desk.topology := by
  cases step with
  | around => exact addressed
  | arrive request =>
      refine addressed.put crowd.claims fun caller same => ?_
      cases same
      exact isAddressed_errand desk request _
  | @push ticket plan point marks event found occurs =>
      have former : (Errand.push plan point).IsAddressed desk.topology :=
        addressed ticket _ found
      refine addressed.put _ fun caller same => ?_
      cases same
      exact former
  | @handOff ticket plan point marks event found occurs =>
      have former : (Errand.handOff plan point).IsAddressed desk.topology :=
        addressed ticket _ found
      refine addressed.put _ fun caller same => ?_
      cases same
      exact former.afterHandOff _
  | resolve | drop => exact addressed.put _ nofun

end Crowd.IsAddressed

end Publisher

/-! ## Callers and the channels they write to -/

namespace Site

section

variable {plan : Supervisor.Plan} {desk : Publisher.Desk} {site : Site}

private theorem isAddressed_of_reachable {work : Supervisor.Run → Supervisor.Run → Prop}
    (reached : Reachable work desk site) : site.crowd.IsAddressed desk.topology := by
  induction reached with
  | refl =>
      intro ticket caller present
      cases present
  | tail _ step addressed =>
      cases step with
      | supervise => exact addressed
      | attend step signals cells now =>
          rw [crowd_attended signals cells now]
          exact addressed.step step

/-- The session that a caller waits for, or writes on the channel of, was stored. -/
theorem stored_of_caller (reached : Reachable (Supervisor.Step plan) desk site) {ticket : Nat}
    {caller : Publisher.Caller} {session : Session} (present : site.callers ticket = some caller)
    (heads : caller.errand.waiting? = some session ∨ caller.errand.writing? = some session) :
    .wrote (some session) ∈ site.run.marks := by
  induction reached generalizing caller session with
  | refl => cases present
  | @tail before after reached step ih =>
      cases step with
      | supervise works =>
          obtain ⟨since, told⟩ := Supervisor.Steps.history_prefix (.single works)
          have stored := ih present heads
          change _ ∈ Supervisor.Run.marks _
          rw [Supervisor.Run.marks, ← told, List.map_append]
          exact List.mem_append_left _ stored
      | attend step signals cells now =>
          rcases Publisher.Crowd.approach_of_step step present with
            ⟨unwaited, unwritten⟩ | ⟨former, found, approach⟩
          · rcases heads with waits | writes
            · cases unwaited.symm.trans waits
            · cases unwritten.symm.trans writes
          cases approach with
          | stay same => exact ih found (same ▸ heads)
          | look other ready waits unwritten =>
              rcases heads with waiting | writes
              · cases waits.symm.trans waiting
                have come : Supervisor.Reachable plan before.run := Steps.run reached
                have accounted := Supervisor.Run.isAccounted_of_reachable come
                exact Supervisor.wrote_of_lastWritten
                  (accounted.held ▸ Supervisor.session_of_readySession ready)
              · cases unwritten.symm.trans writes
          | write other waited up first moved writes =>
              rcases heads with waits | writing
              · cases moved.symm.trans waits
              · cases writes.symm.trans writing
                exact ih found (.inl waited)
          | leave gone unwritten =>
              rcases heads with waits | writes
              · cases gone.symm.trans waits
              · cases unwritten.symm.trans writes

/-- A publish call under way is on a channel that was set up for it. -/
theorem exists_wasSetUp_of_call?
    (reached : Reachable (Supervisor.Step plan) desk site) {ticket : Nat}
    {caller : Publisher.Caller} {channel : Nat} {message : OutboundMessage}
    (present : site.callers ticket = some caller)
    (calling : caller.errand.call? = some (.publish channel message)) :
    (message.exchange, message.routingKey) = desk.topology.publishTarget ∧
      ∃ session told, session.channel = channel ∧ site.run.WasSetUp plan session told := by
  have addressed := isAddressed_of_reachable reached ticket caller present
  obtain ⟨session, written, writes, same, target⟩ := addressed.eq_publish calling
  cases same
  have stored := stored_of_caller reached present (.inr writes)
  obtain ⟨told, setUp⟩ := Supervisor.exists_wasSetUp reached.run stored
  exact ⟨target, session, told, rfl, setUp⟩

end

/-! ## Addresses and bindings agree -/

/-- The queue was bound to where the message goes, when its channel was set up. -/
def RunsThrough (topology : Topology) (message : OutboundMessage) (session : Session)
    (told : List Supervisor.Mark) : Prop :=
  message.exchange ≠ "" ∧ message.routingKey ≠ "" ∧
    .returned (.bindQueue session.channel topology.queue message.exchange message.routingKey)
      (.ok .done) ∈ told

/-- The message goes straight to the queue, which was there when its channel was set up. -/
def RunsStraight (topology : Topology) (message : OutboundMessage) (session : Session)
    (told : List Supervisor.Mark) : Prop :=
  message.exchange = "" ∧ message.routingKey = topology.queue ∧
    Supervisor.IsQueueInPlace topology session.channel told

/-- Every publish call under way is on a channel whose setup the message goes with. -/
def Carries (plan : Supervisor.Plan)
    (way : OutboundMessage → Session → List Supervisor.Mark → Prop) (site : Site) : Prop :=
  ∀ ticket caller channel message, site.callers ticket = some caller →
    caller.errand.call? = some (.publish channel message) →
    ∃ session told, session.channel = channel ∧ site.run.WasSetUp plan session told ∧
      way message session told

/-- How the messages of publishers agree with the setups of their channels. It is the
topology alone that tells which way all of them go. -/
structure KeepsAddresses (plan : Supervisor.Plan) (site : Site) : Prop where
  publishes : ∀ ticket caller call, site.callers ticket = some caller →
    caller.errand.call? = some call → ∃ channel message, call = .publish channel message
  routed : plan.topology.usesExchange = true → site.Carries plan (RunsThrough plan.topology)
  direct : plan.topology.usesExchange = false →
    site.Carries plan (RunsStraight plan.topology) ∧
      ∀ call ∈ Supervisor.issuedCalls site.run.history, call.isAboutExchange = false

theorem keepsAddresses_of_reachable {plan : Supervisor.Plan} {settings : PublisherSettings}
    {site : Site}
    (reached : Reachable (Supervisor.Step plan) (.ofSupervisor plan settings) site) :
    site.KeepsAddresses plan := by
  constructor
  · intro ticket caller call present calling
    have addressed := isAddressed_of_reachable reached ticket caller present
    obtain ⟨session, message, -, same, -⟩ := addressed.eq_publish calling
    exact ⟨session.channel, message, same⟩
  · intro uses ticket caller channel message present calling
    obtain ⟨target, session, told, same, setUp⟩ :=
      exists_wasSetUp_of_call? reached present calling
    obtain ⟨exchange, routingKey⟩ := Prod.mk.inj (target.trans (if_pos uses))
    have named := uses
    simp only [Topology.usesExchange, Bool.and_eq_true, decide_eq_true_eq] at named
    refine ⟨session, told, same, setUp, ?_⟩
    rw [RunsThrough, exchange, routingKey]
    exact ⟨named.1, named.2, setUp.bound uses⟩
  · intro unused
    refine ⟨fun ticket caller channel message present calling => ?_, fun call issued => ?_⟩
    · obtain ⟨target, session, told, same, setUp⟩ :=
        exists_wasSetUp_of_call? reached present calling
      have away : ¬ plan.topology.usesExchange = true := Bool.eq_false_iff.mp unused
      obtain ⟨exchange, routingKey⟩ := Prod.mk.inj (target.trans (if_neg away))
      exact ⟨session, told, same, setUp, exchange, routingKey, setUp.isQueueInPlace⟩
    · by_contra about
      have uses := Supervisor.usesExchange_of_called reached.run issued
        (Bool.not_eq_false _ ▸ about)
      cases unused.symm.trans uses

/-! ## A message on its way -/

open Supervisor (routed routedReady)

/-- A push has its slot, and writes on the channel of the first session. -/
theorem keepsAddresses_of_reachable_routed :
    ∃ site caller message,
      Reachable (Supervisor.Step routed) (.ofSupervisor routed {}) site ∧
        site.callers 0 = some caller ∧ caller.errand.call? = some (.publish 0 message) ∧
        message.exchange = "events" ∧ message.routingKey = "new" ∧ site.KeepsAddresses routed := by
  let pushing : Publisher.Request := { content := .raw [], priority := 0 }
  have ready : Reachable (Supervisor.Step routed) (.ofSupervisor routed {})
      { run := routedReady } :=
    steps_of_run _ Supervisor.reachable_routedReady
  have pushed := ready.tail (.attend (.arrive _ pushing) rfl rfl rfl)
  have waiting := pushed.tail (.attend (.push 0 rfl (.interrupt rfl)) rfl rfl rfl)
  have writing := waiting.tail (.attend (.push 0 rfl (.interrupt rfl)) rfl rfl rfl)
  exact ⟨_, _, _, writing, rfl, rfl, rfl, rfl, keepsAddresses_of_reachable writing⟩

end Site

end AmqpClient
