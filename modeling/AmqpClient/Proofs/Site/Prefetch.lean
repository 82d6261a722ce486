import AmqpClient.Proofs.Site.Station
import Mathlib.Logic.Function.Basic

/-!
# The bound on unsettled deliveries

A broker carries out the calls that are made, early or late, and hands deliveries to the
channels that are subscribed to. A channel that has its number of unsettled ones gets no more;
whoever settles a delivery, and when, is left open. The consumer limits every channel before it
subscribes to it, whatever became of the channels before, and so no channel ever has more
unsettled deliveries than are configured.
-/

set_option autoImplicit false

namespace AmqpClient

open Consumer (isLimit isSubscription Diary)

/-- A supervisor makes no calls of a consumer. -/
theorem Supervisor.not_consumes_of_called {plan : Supervisor.Plan} {run : Supervisor.Run}
    {call : Call} (reached : Supervisor.Reachable plan run) (called : .called call ∈ run.marks) :
    isLimit call = false ∧ isSubscription call = false := by
  obtain ⟨entry, told, same⟩ := List.mem_map.mp called
  obtain ⟨front, back, split⟩ := List.append_of_mem told
  obtain ⟨ledger, reads, -⟩ := Run.isKept_of_reachable reached
  rw [split] at reads
  obtain ⟨middle, -, late⟩ := reads.split
  obtain ⟨next, enters, -⟩ := late.head
  rw [same] at enters
  cases enters with
  | dial | openChannel | refuse | closeChannel | closeConnection => exact ⟨rfl, rfl⟩
  | setUp idle about => cases call <;> first | exact ⟨rfl, rfl⟩ | cases about
  | unopened _ _ ends => rcases ends with fails | wrong <;> first | cases fails | cases wrong
  | failed _ _ _ fails => cases fails
  | channelClosed _ _ ends | connectionClosed _ _ _ ends => cases ends

/-! ## Limits before subscriptions -/

namespace Consumer.Diary

/-- The call that has succeeded. -/
def Mark.accepted? : Mark → Option Call
  | .returned _ call (.ok _) => some call
  | _ => none

/-- The calls of a consumer that have succeeded. -/
def accepted (diary : Diary) : List Call :=
  diary.marks.filterMap Mark.accepted?

/-- The session whose channel would not be limited. -/
def Mark.refusal? : Mark → Option Session
  | .returned session (.qos ..) (.error _) | .cutOff session (.qos ..) => some session
  | _ => none

private theorem Mark.rank_of_refusal? {mark : Mark} {session : Session}
    (refused : mark.refusal? = some session) :
    mark.rank = .some (8 * session.generation + 3) := by
  unfold refusal? at refused
  split at refused
  · cases refused
    rfl
  · cases refused
    rfl
  · cases refused

theorem Mark.session?_of_refusal? {mark : Mark} {session : Session}
    (refused : mark.refusal? = some session) : mark.session? = some session := by
  unfold refusal? at refused
  split at refused
  · exact refused
  · exact refused
  · cases refused

variable {plan : Plan} {diary : Diary} {session : Session} {call : Call}

private theorem Mark.Leads.of_called {early : Mark}
    (leads : early.Leads plan (.called session call)) :
    early = .took session ∧ call = .qos session.channel plan.settings.prefetch ∨
      (∃ answer, early =
          .returned session (.qos session.channel plan.settings.prefetch) (.ok answer)) ∧
        call = .consume session.channel plan.queue plan.settings.consumerTag := by
  cases leads with
  | limit => exact .inl ⟨rfl, rfl⟩
  | subscribe => exact .inr ⟨⟨_, rfl⟩, rfl⟩

private theorem Mark.Leads.of_returned {early : Mark} {reply : Reply}
    (leads : early.Leads plan (.returned session call reply)) : early = .called session call := by
  cases leads with
  | returned => rfl

/-- Whatever is told is told at some time, between other things. -/
theorem exists_split {mark : Mark} (told : mark ∈ diary.marks) :
    ∃ front time back, diary.entries = front ++ { time, mark := mark } :: back := by
  obtain ⟨⟨time, mark⟩, member, rfl⟩ := List.mem_map.mp told
  obtain ⟨front, back, split⟩ := List.append_of_mem member
  exact ⟨front, time, back, split⟩

namespace IsInOrder

/-- A consumer limits channels to the configured number only. -/
theorem eq_qos_of_called (inOrder : diary.IsInOrder plan)
    (called : .called session call ∈ diary.marks) (limits : isLimit call = true) :
    call = .qos session.channel plan.settings.prefetch := by
  obtain ⟨front, time, back, split⟩ := exists_split called
  rcases inOrder.begins_or_follows split with ⟨-, wrong⟩ | ⟨_, _, -, follows⟩
  · cases wrong
  · rcases follows.leads.of_called with ⟨-, same⟩ | ⟨-, rfl⟩
    · exact same
    · cases limits

/-- A channel is subscribed to right after it was limited with success. -/
theorem limited_of_called {front back : List Entry} {time : Nat} (inOrder : diary.IsInOrder plan)
    (split : diary.entries = front ++ { time, mark := .called session call } :: back)
    (subscribes : isSubscription call = true) :
    call = .consume session.channel plan.queue plan.settings.consumerTag ∧
      ∃ earlier since upon answer, front = earlier ++
        [{ time := since
           mark := .called session (.qos session.channel plan.settings.prefetch) },
         { time := upon
           mark := .returned session (.qos session.channel plan.settings.prefetch)
             (.ok answer) }] := by
  rcases inOrder.begins_or_follows split with ⟨-, wrong⟩ | ⟨front, ⟨upon, mark⟩, rfl, follows⟩
  · cases wrong
  have leads : mark.Leads plan (.called session call) := follows.leads
  rcases leads.of_called with ⟨-, rfl⟩ | ⟨⟨answer, rfl⟩, same⟩
  · cases subscribes
  rw [List.append_assoc] at split
  rcases inOrder.begins_or_follows split with ⟨-, wrong⟩ | ⟨earlier, ⟨since, mark⟩, rfl, follows⟩
  · cases wrong
  have before : mark = .called session (.qos session.channel plan.settings.prefetch) :=
    follows.leads.of_returned
  refine ⟨same, earlier, since, upon, answer, ?_⟩
  rw [before, List.append_assoc]
  rfl

/-- What is subscribed to is the channel of the session, and it was limited with success. -/
theorem exists_limited {channel : Nat} {queue tag : String} (inOrder : diary.IsInOrder plan)
    (called : .called session (.consume channel queue tag) ∈ diary.marks) :
    channel = session.channel ∧ ∃ upon answer,
      { time := upon
        mark := .returned session (.qos session.channel plan.settings.prefetch) (.ok answer) } ∈
          diary.entries := by
  obtain ⟨front, time, back, split⟩ := exists_split called
  obtain ⟨same, earlier, since, upon, answer, rfl⟩ := inOrder.limited_of_called split rfl
  refine ⟨(Call.consume.inj same).1, upon, answer, ?_⟩
  rw [split]
  simp

/-- On a channel that would not be limited nothing is subscribed to. -/
theorem not_called_of_refusal {entry : Entry} {queue tag : String} (inOrder : diary.IsInOrder plan)
    (told : entry ∈ diary.entries) (refused : entry.mark.refusal? = some session) :
    .called session (.consume session.channel queue tag) ∉ diary.marks := by
  intro called
  obtain ⟨-, upon, answer, limited⟩ := inOrder.exists_limited called
  have twice := inOrder.eq_of_rank_eq told limited (Mark.rank_of_refusal? refused)
  rw [twice] at refused
  cases refused

end IsInOrder

end Consumer.Diary

/-! ## What a broker keeps for the consumers of a channel -/

structure Outlet where
  /-- The bound that was set. Zero is none. -/
  limit : Nat := 0
  isServed : Bool := false
  /-- The deliveries that were handed out and are not settled. -/
  unsettled : List Nat := []

def Outlet.HasRoom (outlet : Outlet) : Prop :=
  outlet.limit = 0 ∨ outlet.unsettled.length < outlet.limit

namespace Outlet

/-- What the broker makes of a call. -/
def carryOut (outlets : Nat → Outlet) : Call → Nat → Outlet
  | .qos channel prefetch =>
    Function.update outlets channel { outlets channel with limit := prefetch.toNat }
  | .consume channel _ _ =>
    Function.update outlets channel { outlets channel with isServed := true }
  | _ => outlets

variable (outlets : Nat → Outlet) (call : Call) (channel : Nat)

/-- Only a limit of its own changes the limit of a channel. -/
theorem limit_carryOut :
    (∃ prefetch, call = .qos channel prefetch ∧
        (carryOut outlets call channel).limit = prefetch.toNat) ∨
      (∀ prefetch, call ≠ .qos channel prefetch) ∧
        (carryOut outlets call channel).limit = (outlets channel).limit := by
  cases call with
  | qos limited prefetch =>
      by_cases same : channel = limited
      · subst same
        exact .inl ⟨prefetch, rfl, by simp [carryOut]⟩
      · refine .inr ⟨fun _ wrong => same (Call.qos.inj wrong).1.symm, ?_⟩
        simp [carryOut, Function.update_of_ne same]
  | consume subscribed queue tag =>
      refine .inr ⟨nofun, ?_⟩
      by_cases same : channel = subscribed
      · subst same
        simp [carryOut]
      · simp [carryOut, Function.update_of_ne same]
  | connect | openChannel | queueExists | declareQueue | exchangeExists | declareExchange
  | bindQueue | confirmSelect | publish | closeChannel | closeConnection => exact .inr ⟨nofun, rfl⟩

variable {outlets call channel}

private theorem isServed_carryOut (serves : (carryOut outlets call channel).isServed = true) :
    (outlets channel).isServed = true ∨ ∃ queue tag, call = .consume channel queue tag := by
  cases call with
  | qos limited prefetch =>
      by_cases same : channel = limited
      · subst same
        exact .inl (by simpa [carryOut] using serves)
      · exact .inl (by simpa [carryOut, Function.update_of_ne same] using serves)
  | consume subscribed queue tag =>
      by_cases same : channel = subscribed
      · subst same
        exact .inr ⟨queue, tag, rfl⟩
      · exact .inl (by simpa [carryOut, Function.update_of_ne same] using serves)
  | connect | openChannel | queueExists | declareQueue | exchangeExists | declareExchange
  | bindQueue | confirmSelect | publish | closeChannel | closeConnection => exact .inl serves

private theorem unsettled_carryOut :
    (carryOut outlets call channel).unsettled = (outlets channel).unsettled := by
  cases call with
  | qos other | consume other =>
      by_cases same : channel = other
      · subst same
        simp [carryOut]
      · simp [carryOut, Function.update_of_ne same]
  | connect | openChannel | queueExists | declareQueue | exchangeExists | declareExchange
  | bindQueue | confirmSelect | publish | closeChannel | closeConnection => rfl

end Outlet

/-- A consumer, its supervisor, and what the broker keeps for them. -/
structure Supply where
  station : Station := {}
  outlets : Nat → Outlet := fun _ => {}
  /-- The consumer's calls that the broker has carried out. -/
  done : List Call := []

namespace Supply

def setOutlet (channel : Nat) (outlet : Outlet) (supply : Supply) : Supply :=
  { supply with outlets := Function.update supply.outlets channel outlet }

inductive Step (plan : Supervisor.Plan) (consumer : Consumer.Plan) : Supply → Supply → Prop where
  /-- A call succeeds only once it was carried out. -/
  | work {supply : Supply} {station : Station} :
      Station.Step plan consumer supply.station station →
      station.diary.accepted ⊆ supply.done →
      Step plan consumer supply { supply with station }
  /-- It may be carried out although it fails, or was given up. -/
  | carryOut {supply : Supply} {session : Session} {call : Call} :
      .called session call ∈ supply.station.diary.marks →
      Step plan consumer supply
        { supply with
          outlets := Outlet.carryOut supply.outlets call
          done := supply.done ++ [call] }
  | handOut {supply : Supply} {channel : Nat} (tag : Nat) :
      (supply.outlets channel).isServed = true → (supply.outlets channel).HasRoom →
      Step plan consumer supply
        (supply.setOutlet channel
          { supply.outlets channel with
            unsettled := (supply.outlets channel).unsettled ++ [tag] })
  /-- A delivery is settled, or goes with its channel. -/
  | settle (supply : Supply) (channel tag : Nat) :
      Step plan consumer supply
        (supply.setOutlet channel
          { supply.outlets channel with
            unsettled := (supply.outlets channel).unsettled.erase tag })

abbrev Steps (plan : Supervisor.Plan) (consumer : Consumer.Plan) : Supply → Supply → Prop :=
  Relation.ReflTransGen (Step plan consumer)

def Reachable (plan : Supervisor.Plan) (consumer : Consumer.Plan) (supply : Supply) : Prop :=
  Steps plan consumer {} supply

section

variable {plan : Supervisor.Plan} {consumer : Consumer.Plan} {supply after : Supply}

private theorem station_of_reachable (reached : Reachable plan consumer supply) :
    Station.Reachable plan consumer supply.station := by
  induction reached with
  | refl => exact .refl
  | tail _ step ih =>
      cases step with
      | work step => exact ih.tail step
      | carryOut | handOut | settle => exact ih

/-- What the consumer and its supervisor do while nothing succeeds that was not carried out. -/
theorem steps_of_station {station : Station}
    (steps : Station.Steps plan consumer supply.station station)
    (succeeded : station.diary.accepted ⊆ supply.done) :
    Steps plan consumer supply { supply with station } := by
  induction steps with
  | refl => exact .refl
  | @tail middle station _ step ih =>
      have early := ih fun call accepted => by
        obtain ⟨mark, told, same⟩ := List.mem_filterMap.mp accepted
        exact succeeded (List.mem_filterMap.mpr ⟨mark, step.told told, same⟩)
      have last : Step plan consumer { supply with station := middle }
          { supply with station } := .work step succeeded
      exact early.tail last

theorem isInOrder_of_reachable (reached : Reachable plan consumer supply) :
    supply.station.diary.IsInOrder consumer :=
  Station.isInOrder_of_reachable (station_of_reachable reached)

/-- The broker has done what it was asked for, and nothing else. -/
structure IsHonest (consumer : Consumer.Plan) (supply : Supply) : Prop where
  succeeded : supply.station.diary.accepted ⊆ supply.done
  limited : ∀ channel, .qos channel consumer.settings.prefetch ∈ supply.done →
    (supply.outlets channel).limit = consumer.settings.prefetch.toNat
  served : ∀ channel, (supply.outlets channel).isServed = true →
    ∃ session queue tag,
      .called session (.consume channel queue tag) ∈ supply.station.diary.marks

private theorem isHonest_initial : ({} : Supply).IsHonest consumer where
  succeeded := List.nil_subset _
  limited _ done := absurd done List.not_mem_nil
  served _ isServed := absurd isServed Bool.false_ne_true

theorem IsHonest.carryOut {session : Session} {call : Call} (honest : supply.IsHonest consumer)
    (inOrder : supply.station.diary.IsInOrder consumer)
    (called : .called session call ∈ supply.station.diary.marks) :
    { supply with
      outlets := Outlet.carryOut supply.outlets call
      done := supply.done ++ [call] : Supply }.IsHonest consumer := by
  refine ⟨?_, fun channel done => ?_, fun channel serves => ?_⟩
  · exact fun call accepted => List.mem_append_left _ (honest.succeeded accepted)
  · rcases Outlet.limit_carryOut supply.outlets call channel with
      ⟨prefetch, rfl, limit⟩ | ⟨other, limit⟩
    · cases inOrder.eq_qos_of_called called rfl
      exact limit
    · rcases List.mem_append.mp done with early | late
      · exact limit.trans (honest.limited channel early)
      · exact absurd (List.mem_singleton.mp late).symm (other _)
  · rcases Outlet.isServed_carryOut serves with early | ⟨queue, tag, rfl⟩
    · exact honest.served channel early
    · exact ⟨session, queue, tag, called⟩

/-- Outlets that keep their limits and their subscriptions. -/
theorem IsHonest.congr (honest : supply.IsHonest consumer) {outlets : Nat → Outlet}
    (limit : ∀ channel, (outlets channel).limit = (supply.outlets channel).limit)
    (isServed : ∀ channel, (outlets channel).isServed = (supply.outlets channel).isServed) :
    { supply with outlets }.IsHonest consumer where
  succeeded := honest.succeeded
  limited channel done := (limit channel).trans (honest.limited channel done)
  served channel serves := honest.served channel ((isServed channel).symm.trans serves)

private theorem IsHonest.setOutlet {channel : Nat} (honest : supply.IsHonest consumer)
    (unsettled : List Nat) :
    (supply.setOutlet channel { supply.outlets channel with unsettled }).IsHonest consumer := by
  refine honest.congr (fun other => ?_) fun other => ?_
  all_goals
    by_cases same : other = channel
    · subst same
      simp
    · simp [Function.update_of_ne same]

theorem IsHonest.step (honest : supply.IsHonest consumer)
    (reached : Reachable plan consumer supply) (step : Step plan consumer supply after) :
    after.IsHonest consumer := by
  cases step with
  | @work station step succeeded =>
      refine ⟨succeeded, honest.limited, fun channel serves => ?_⟩
      obtain ⟨session, queue, tag, called⟩ := honest.served channel serves
      exact ⟨session, queue, tag, step.told called⟩
  | carryOut called => exact honest.carryOut (isInOrder_of_reachable reached) called
  | handOut | settle => exact honest.setOutlet _

private theorem isHonest_of_reachable (reached : Reachable plan consumer supply) :
    supply.IsHonest consumer := by
  induction reached with
  | refl => exact isHonest_initial
  | tail before step honest => exact honest.step before step

/-- A channel that is served is limited to the configured number. -/
theorem limit_of_isServed {channel : Nat} (reached : Reachable plan consumer supply)
    (serves : (supply.outlets channel).isServed = true) :
    (supply.outlets channel).limit = consumer.settings.prefetch.toNat := by
  have honest := isHonest_of_reachable reached
  have inOrder := isInOrder_of_reachable reached
  obtain ⟨session, queue, tag, called⟩ := honest.served channel serves
  obtain ⟨rfl, upon, answer, limited⟩ := inOrder.exists_limited called
  have succeeded : .returned session (.qos session.channel consumer.settings.prefetch)
      (.ok answer) ∈ supply.station.diary.marks := List.mem_map_of_mem limited
  exact honest.limited _ (honest.succeeded (List.mem_filterMap.mpr ⟨_, succeeded, rfl⟩))

private theorem unsettled_le_of_reachable (positive : 0 < consumer.settings.prefetch)
    (reached : Reachable plan consumer supply) (channel : Nat) :
    (supply.outlets channel).unsettled.length ≤ consumer.settings.prefetch.toNat := by
  induction reached generalizing channel with
  | refl => exact Nat.zero_le _
  | @tail before after reached step ih =>
      cases step with
      | work => exact ih channel
      | carryOut =>
          rw [Outlet.unsettled_carryOut]
          exact ih channel
      | @handOut served tag serves room =>
          by_cases same : channel = served
          · subst same
            have limit := limit_of_isServed reached serves
            have bounded : 0 < consumer.settings.prefetch.toNat :=
              UInt16.lt_iff_toNat_lt.mp positive
            have few : (before.outlets channel).unsettled.length <
                consumer.settings.prefetch.toNat := by
              rcases room with free | few
              · omega
              · exact limit ▸ few
            simpa [setOutlet] using Nat.succ_le_of_lt few
          · simpa [setOutlet, Function.update_of_ne same] using ih channel
      | settle other tag =>
          by_cases same : channel = other
          · subst same
            have fewer : ((before.outlets channel).unsettled.erase tag).length ≤
                (before.outlets channel).unsettled.length := List.length_erase_le
            simpa [setOutlet] using Nat.le_trans fewer (ih channel)
          · simpa [setOutlet, Function.update_of_ne same] using ih channel

/-! ## Limits that are kept -/

/-- What holds of a consumer's calls, and of what the broker hands to its channels. -/
structure KeepsPrefetch (consumer : Consumer.Plan) (supply : Supply) : Prop where
  /-- Every subscription comes right after a limit of its channel that has succeeded. -/
  limited : ∀ front back time session call,
    supply.station.diary.entries = front ++ { time, mark := .called session call } :: back →
    isSubscription call = true →
      call = .consume session.channel consumer.queue consumer.settings.consumerTag ∧
        ∃ earlier since upon answer, front = earlier ++
          [{ time := since
             mark := .called session (.qos session.channel consumer.settings.prefetch) },
           { time := upon
             mark := .returned session (.qos session.channel consumer.settings.prefetch)
               (.ok answer) }]
  configured : ∀ session call, .called session call ∈ supply.station.diary.marks →
    isLimit call = true → call = .qos session.channel consumer.settings.prefetch
  /-- Nobody else limits the channels or subscribes to them. -/
  alone : ∀ call, .called call ∈ supply.station.run.marks →
    isLimit call = false ∧ isSubscription call = false
  /-- Where the limit has failed, nothing is subscribed to. -/
  refused : Supervisor.OpensAnew supply.station.run.marks →
    ∀ entry ∈ supply.station.diary.entries, ∀ session, entry.mark.refusal? = some session →
      ∀ other queue tag, .called other (.consume session.channel queue tag) ∉
        supply.station.diary.marks
  bounded : 0 < consumer.settings.prefetch → ∀ channel,
    (supply.outlets channel).unsettled.length ≤ consumer.settings.prefetch.toNat

theorem keepsPrefetch_of_reachable (reached : Reachable plan consumer supply) :
    supply.KeepsPrefetch consumer := by
  have inOrder := isInOrder_of_reachable reached
  have station := station_of_reachable reached
  refine ⟨fun _ _ _ _ _ => inOrder.limited_of_called, fun _ _ => inOrder.eq_qos_of_called,
    fun _ => Supervisor.not_consumes_of_called (Station.run_of_reachable station),
    fun anew entry told session refused other queue tag called => ?_,
    fun positive => unsettled_le_of_reachable positive reached⟩
  obtain ⟨calling, toldToo, same⟩ := List.mem_map.mp called
  have named : calling.mark.session? = some other := by
    rw [same]
    rfl
  have onChannel : session.channel = other.channel := (inOrder.exists_limited called).1
  cases Station.eq_of_channel_eq station anew told toldToo (Diary.Mark.session?_of_refusal? refused)
    named onChannel
  exact inOrder.not_called_of_refusal told refused called

end

/-! ## A channel with one delivery -/

section

open Supervisor (oneQueue oneQueueReady oneQueueSession)

/-- The consumer may have one delivery at a time. -/
def oneConsumer : Consumer.Plan :=
  { queue := "jobs", settings := { prefetch := 1 }, channelTimeout := 10000, workers := 1 }

/-- The channel of the first session is about to be limited. -/
def limiting : Station :=
  let sees := ({} : Diary).sees oneQueueReady.signals oneQueueReady.cells oneQueueReady.now
  let taken := (sees.meet oneConsumer .begin).meet oneConsumer .woken
  { run := oneQueueReady
    diary := { taken with run := taken.run.turn }.makeCall oneQueueSession (.qos 0 1) }

def subscribing : Station :=
  { limiting with
    diary :=
      (limiting.diary.meet oneConsumer (.replied (.ok .done))).makeCall oneQueueSession
        (.consume 0 "jobs" "rmq-tag") }

def streaming : Station :=
  { limiting with
    diary := subscribing.diary.meet oneConsumer (.replied (.ok (.stream 0))) }

private theorem reachable_limiting : Station.Reachable oneQueue oneConsumer limiting := by
  have joint : ({} : Station).IsJoint := ⟨rfl, rfl, rfl⟩
  have ready : Station.Reachable oneQueue oneConsumer _ :=
    joint.steps_of_run Supervisor.reachable_oneQueueReady
  have begun := ready.tail (.consume (.meet rfl (.interrupt rfl rfl)))
  have taken := begun.tail (.consume (.meet rfl (.interrupt rfl rfl)))
  have turned := taken.tail (.consume (.rest (.overlook rfl rfl rfl)))
  exact turned.tail (.consume (.call rfl rfl rfl rfl rfl))

private theorem steps_subscribing : Station.Steps oneQueue oneConsumer limiting subscribing := by
  have limited : Station.Step oneQueue oneConsumer limiting
      { limiting with diary := limiting.diary.meet oneConsumer (.replied (.ok .done)) } :=
    .consume (.meet rfl (.reply rfl rfl rfl (by rintro answer ⟨⟩; rfl)))
  exact (Relation.ReflTransGen.single limited).tail (.consume (.call rfl rfl rfl rfl rfl))

private theorem step_streaming : Station.Step oneQueue oneConsumer subscribing streaming :=
  .consume (.meet rfl (.reply rfl rfl rfl (by rintro answer ⟨⟩; rfl)))

/-- The broker has carried out both calls of the consumer. -/
def served : Supply :=
  { station := streaming
    outlets :=
      Outlet.carryOut (Outlet.carryOut (fun _ => {}) (.qos 0 1)) (.consume 0 "jobs" "rmq-tag")
    done := [.qos 0 1, .consume 0 "jobs" "rmq-tag"] }

private theorem reachable_served : Reachable oneQueue oneConsumer served := by
  have limits : Reachable oneQueue oneConsumer { station := limiting } :=
    steps_of_station reachable_limiting (List.nil_subset _)
  have calling : .called oneQueueSession (.qos 0 1) ∈ limiting.diary.marks :=
    List.mem_of_getLast? rfl
  have subscribes := (limits.tail (.carryOut calling)).trans
    (steps_of_station steps_subscribing (by decide))
  have callingToo :
      .called oneQueueSession (.consume 0 "jobs" "rmq-tag") ∈ subscribing.diary.marks :=
    List.mem_of_getLast? rfl
  exact (subscribes.tail (.carryOut callingToo)).tail (.work step_streaming (by decide))

/-- The one delivery is handed out. -/
def full : Supply :=
  served.setOutlet 0 { served.outlets 0 with unsettled := [7] }

theorem keepsPrefetch_of_reachable_full :
    Reachable oneQueue oneConsumer full ∧ (full.outlets 0).limit = 1 ∧
      Supervisor.OpensAnew full.station.run.marks ∧ full.KeepsPrefetch oneConsumer := by
  have handed : Step oneQueue oneConsumer served full := .handOut 7 rfl (.inr (by decide))
  have reached := reachable_served.tail handed
  exact ⟨reached, rfl, by decide, keepsPrefetch_of_reachable reached⟩

end

end Supply

end AmqpClient
