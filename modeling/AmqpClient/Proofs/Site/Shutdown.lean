import AmqpClient.Proofs.Site.Basic
import AmqpClient.Proofs.Supervisor.WindDown

/-!
# After a shutdown

From any point that a supervisor is shut down at, it winds down, nobody publishes
anything more, and whoever asks for a session is told of the shutdown.
-/

set_option autoImplicit false

namespace AmqpClient

namespace Supervisor

variable {plan : Plan}

private theorem goesOn_turn : Site.GoesOn (Turn plan) := by
  intro run after turn
  refine ⟨?_, turn.isShutDown⟩
  cases turn with
  | pass milliseconds => exact Nat.le_add_right _ _
  | signal | start | request => exact Nat.le_refl _
  | shutDown begun =>
      obtain ⟨history, same⟩ := run.setCells_eq _
      rw [same]
  | poll poll => exact poll.surrounds.now.symm.le

end Supervisor

namespace Site

open Supervisor

variable {plan : Plan} {desk : Publisher.Desk} {site later : Site}

/-- All work has stopped or is about to, whatever happens. -/
structure Stops (plan : Plan) (desk : Publisher.Desk) (site later : Site) : Prop where
  supervisor : WindsDown plan site.run later.run
  silent : ∀ after ticket session, Step (Turn plan) desk later after →
    ¬ later.crowd.Publishes after.crowd ticket session
  /-- Whoever has come after the shutdown got nothing but word of it. -/
  newcomers : later.crowd.TurnsAway site.arrivals
  refuses : later.crowd.Refuses

private theorem isStopping_of_reachable (reached : Reachable (Turn plan) desk site)
    (isShutDown : site.run.cells.isShutDown = true) : site.run.IsStopping plan := by
  obtain ⟨rest, runs⟩ := Run.isAtRest_of_turns reached.run
  exact ⟨rest, runs, isShutDown⟩

private theorem turnsAway_of_reachable (reached : Reachable (Turn plan) desk site) :
    site.crowd.TurnsAway site.arrivals := by
  have orderly := Publisher.isOrderly_of_reachable (Steps.crowd goesOn_turn reached)
  intro ticket caller late present
  exact absurd (orderly.drawn ticket caller present) (Nat.not_lt.mpr late)

private theorem turnsAway_of_steps (reached : Reachable (Turn plan) desk site)
    (isShutDown : site.run.cells.isShutDown = true) (steps : Steps (Turn plan) desk site later) :
    later.crowd.TurnsAway site.arrivals := by
  induction steps with
  | refl => exact turnsAway_of_reachable reached
  | tail before step ih =>
      have stopping := isStopping_of_reachable reached isShutDown
      exact ih.step (stopping.turns (Steps.run before)).1.isShutDown (step.crowd goesOn_turn)

/-- Whatever a supervisor was about when it was shut down, and whatever happens then, all
its work is stopped, and so is that of all callers. -/
theorem stops_of_shutDown (reached : Reachable (Turn plan) desk site)
    (isShutDown : site.run.cells.isShutDown = true) (steps : Steps (Turn plan) desk site later) :
    Stops plan desk site later := by
  have stopping := isStopping_of_reachable reached isShutDown
  have down : later.crowd.cells.isShutDown = true := (stopping.turns steps.run).1.isShutDown
  refine ⟨stopping.windsDown steps.run, ?_, turnsAway_of_steps reached isShutDown steps,
    Publisher.Crowd.refuses_of_isShutDown down⟩
  intro after ticket session step publishes
  have up := (Publisher.Crowd.waited_of_publishes (step.crowd goesOn_turn) publishes).1
  exact Bool.false_ne_true (up.symm.trans down)

/-- A supervisor is shut down while a session is ready and a caller waits for its slot. -/
theorem exists_shutDown :
    ∃ site caller, Reachable (Turn oneProducer) Publisher.oneDesk site ∧
      site.run.cells.isShutDown = true ∧
      site.run.cells.session = some { generation := 1, connection := 0, channel := 0 } ∧
      site.callers 0 = some caller ∧ caller.errand.waiting? = site.run.cells.session := by
  let request : Publisher.Request := { content := .raw [], priority := 0 }
  have ready : Reachable (Turn oneProducer) Publisher.oneDesk { run := oneProducerReady } :=
    steps_of_run _ turns_oneProducerReady
  have arrived := ready.tail (.attend (.arrive _ request) rfl rfl rfl)
  have waiting := arrived.tail (.attend (.push 0 rfl (.interrupt rfl)) rfl rfl rfl)
  have down := waiting.tail (.supervise (.shutDown rfl))
  exact ⟨_, _, down, rfl, rfl, rfl, rfl⟩

theorem stops_of_shutDown_waiting :
    ∃ site later caller, Reachable (Turn oneProducer) Publisher.oneDesk site ∧
      site.run.cells.isShutDown = true ∧
      site.callers 0 = some caller ∧ caller.errand.waiting? = site.run.cells.session ∧
      Poll oneProducer site.run later.run ∧ Stops oneProducer Publisher.oneDesk site later := by
  obtain ⟨site, caller, reached, isShutDown, held, present, waits⟩ := exists_shutDown
  have stopping := isStopping_of_reachable reached isShutDown
  have coherent := Run.isCoherent_of_reachable stopping.reached
  have started : site.run.cells.handle ≠ .absent := by
    refine coherent.started ?_
    rw [(coherent.current _).mpr held]
    simp
  obtain ⟨after, poll⟩ := stopping.exists_poll started
  exact ⟨site, { site with run := after }, caller, reached, isShutDown, present, waits, poll,
    stops_of_shutDown reached isShutDown (.single (.supervise (.poll poll)))⟩

end Site

end AmqpClient
