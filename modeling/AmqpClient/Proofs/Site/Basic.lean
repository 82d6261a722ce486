import AmqpClient.Proofs.Publisher.Writing
import AmqpClient.Proofs.Supervisor.Poll
import AmqpClient.Proofs.Supervisor.Reconnect

/-!
# A publisher and its supervisor

The supervisor works by itself, in steps of some kind, and the callers of the publisher
see what it has come to. Callers change nothing about the supervisor.
-/

set_option autoImplicit false

namespace AmqpClient

structure Site where
  run : Supervisor.Run := {}
  claims : Claims := []
  callers : Nat → Option Publisher.Caller := fun _ => none
  arrivals : Nat := 0

namespace Site

/-- The callers, with what they see of the supervisor. -/
def crowd (site : Site) : Publisher.Crowd where
  signals := site.run.signals
  cells := site.run.cells
  now := site.run.now
  claims := site.claims
  callers := site.callers
  arrivals := site.arrivals

/-- What the callers have come to while the supervisor has stood still. -/
def attended (crowd : Publisher.Crowd) (site : Site) : Site where
  run := site.run
  claims := crowd.claims
  callers := crowd.callers
  arrivals := crowd.arrivals

/-- One step of the supervisor, or one of a caller. -/
inductive Step (work : Supervisor.Run → Supervisor.Run → Prop) (desk : Publisher.Desk) :
    Site → Site → Prop where
  | supervise {site : Site} {run : Supervisor.Run} :
      work site.run run → Step work desk site { site with run }
  | attend {site : Site} {crowd : Publisher.Crowd} :
      Publisher.Step desk site.crowd crowd → crowd.signals = site.run.signals →
      crowd.cells = site.run.cells → crowd.now = site.run.now →
      Step work desk site (site.attended crowd)

abbrev Steps (work : Supervisor.Run → Supervisor.Run → Prop) (desk : Publisher.Desk) :
    Site → Site → Prop :=
  Relation.ReflTransGen (Step work desk)

def Reachable (work : Supervisor.Run → Supervisor.Run → Prop) (desk : Publisher.Desk)
    (site : Site) : Prop :=
  Steps work desk {} site

section

variable {work : Supervisor.Run → Supervisor.Run → Prop} {desk : Publisher.Desk}
  {site later : Site}

theorem crowd_attended {crowd : Publisher.Crowd} (signals : crowd.signals = site.run.signals)
    (cells : crowd.cells = site.run.cells) (now : crowd.now = site.run.now) :
    (site.attended crowd).crowd = crowd := by
  obtain ⟨_, _, _, claims, callers, arrivals⟩ := crowd
  subst signals cells now
  rfl

theorem Steps.run (steps : Steps work desk site later) :
    Relation.ReflTransGen work site.run later.run := by
  induction steps with
  | refl => exact .refl
  | tail _ step ih =>
      cases step with
      | supervise work => exact ih.tail work
      | attend => exact ih

/-- Time goes on, and a shutdown is never taken back. -/
def GoesOn (work : Supervisor.Run → Supervisor.Run → Prop) : Prop :=
  ∀ run after, work run after →
    run.now ≤ after.now ∧ (run.cells.isShutDown = true → after.cells.isShutDown = true)

theorem Step.crowd (goesOn : GoesOn work) (step : Step work desk site later) :
    Publisher.Step desk site.crowd later.crowd := by
  cases step with
  | @supervise run works =>
      obtain ⟨later, kept⟩ := goesOn site.run run works
      obtain ⟨elapsed, passed⟩ := Nat.exists_eq_add_of_le later
      have around : Publisher.Step desk site.crowd
          { site.crowd with
            signals := run.signals, cells := run.cells, now := site.run.now + elapsed } :=
        .around site.crowd run.signals run.cells elapsed kept
      rw [← passed] at around
      exact around
  | attend step signals cells now =>
      rw [crowd_attended signals cells now]
      exact step

theorem Steps.crowd (goesOn : GoesOn work) (steps : Steps work desk site later) :
    Publisher.Steps desk site.crowd later.crowd := by
  induction steps with
  | refl => exact .refl
  | tail _ step ih => exact ih.tail (step.crowd goesOn)

end

theorem steps_of_run {work : Supervisor.Run → Supervisor.Run → Prop} (desk : Publisher.Desk)
    {site : Site} {run : Supervisor.Run} (works : Relation.ReflTransGen work site.run run) :
    Steps work desk site { site with run } := by
  induction works with
  | refl => exact .refl
  | @tail middle after _ step ih =>
      have next : Step work desk { site with run := middle } { site with run := after } :=
        .supervise step
      exact ih.tail next

end Site

/-! ## A site with a session -/

namespace Supervisor

def oneProducer : Plan :=
  { oneQueue with role := .producer }

/-- The loop waits at its first session. -/
def oneProducerReady : Run :=
  let started : Run := { cells := { handle := .present } }
  let dialing := (started.meet oneProducer .begin).turn.makeCall oneProducer
  let connected := (dialing.receive oneProducer (.ok (.connection 0))).turn.makeCall oneProducer
  let opened := connected.receive oneProducer (.ok (.channel 0))
  let installed := opened.receive oneProducer (.ok (.found true))
  (installed.receive oneProducer (.ok .done)).turn

theorem turns_oneProducerReady : Turns oneProducer {} oneProducerReady := by
  have start : Turn oneProducer {} { cells := { handle := .present } } := .start rfl
  have begun : Relation.ReflTransGen (Work oneProducer) { cells := { handle := .present } } _ :=
    .single (.look (by decide) rfl rfl)
  have dialing := (begun.tail (.overlook rfl rfl)).tail (.call rfl rfl)
  have connected := dialing.tail (.answered (.connection 0) rfl rfl rfl rfl)
  have opening := (connected.tail (.overlook rfl rfl)).tail (.call rfl rfl)
  have opened := opening.tail (.answered (.channel 0) rfl rfl rfl rfl)
  have installed := opened.tail (.answered (.found true) rfl rfl rfl rfl)
  have ready := installed.tail (.answered .done rfl rfl rfl rfl)
  have works := ready.tail (.overlook rfl rfl)
  exact (Relation.ReflTransGen.single start).tail (.poll ⟨rfl, works, rfl, rfl, nofun⟩)

end Supervisor

end AmqpClient
