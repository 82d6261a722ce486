import AmqpClient.Topology.Install

/-!
# Installations from beginning to end

An installation asks one question after the other of whoever serves its channel, and goes
on by the replies. It is followed here to its end, whatever the replies are: the calls are
those that the topology plans, up to the first that fails, and that failure is the result.
-/

set_option autoImplicit false

namespace AmqpClient.Topology

variable {σ : Type}

/-- Whatever it is that replies to the calls of a channel. -/
abbrev Serving (σ : Type) := Call → σ → Reply × σ

/-- What came of an installation: its calls with their replies, its result, and what the
calls have left behind. -/
structure Installation (σ : Type) where
  record : List (Call × Reply)
  result : Except ClientError Unit
  state : σ

def Installation.prepend (call : Call) (reply : Reply) (rest : Installation σ) :
    Installation σ :=
  { rest with record := (call, reply) :: rest.record }

/-! ## Following an installation -/

/-- How many calls may come after the one of a step. -/
def InstallStep.rank : InstallStep → Nat
  | .checkQueue => 4
  | .declareQueue => 3
  | .checkExchange => 2
  | .declareExchange => 1
  | .bindQueue => 0

def InstallProgress.rank : InstallProgress → Nat
  | .calling step => step.rank + 1
  | .finished _ => 0

private theorem rank_installExchange_le (topology : Topology) :
    topology.installExchange.rank ≤ 3 := by
  unfold installExchange
  split
  · exact Nat.le_refl 3
  · exact Nat.zero_le 3

private theorem rank_continueInstall (topology : Topology) (step : InstallStep) (reply : Reply) :
    (topology.continueInstall step reply).1.rank ≤ step.rank := by
  have routing := topology.rank_installExchange_le
  cases reply with
  | error error => exact Nat.zero_le _
  | ok answer =>
      cases step with
      | checkQueue =>
          simp only [continueInstall, afterInstallStep]
          split
          · exact Nat.le_trans routing (Nat.le_succ 3)
          · exact Nat.le_refl 4
      | declareQueue => exact routing
      | checkExchange =>
          simp only [continueInstall, afterInstallStep]
          split
          · exact Nat.le_succ 1
          · exact Nat.le_refl 2
      | declareExchange => exact Nat.le_refl 1
      | bindQueue => exact Nat.le_refl 0

/-- Goes on with an installation to its end. -/
def carryOut (serve : Serving σ) (topology : Topology) (channel : Nat) :
    InstallProgress → σ → Installation σ
  | .finished result, state => { record := [], result, state }
  | .calling step, state =>
    let call := step.call topology channel
    let served := serve call state
    (carryOut serve topology channel (topology.continueInstall step served.1).1 served.2).prepend
      call served.1
termination_by progress => progress.rank
decreasing_by exact Nat.lt_succ_of_le (rank_continueInstall topology step _)

def install (serve : Serving σ) (topology : Topology) (channel : Nat) (state : σ) :
    Installation σ :=
  carryOut serve topology channel topology.beginInstall state

section

variable {serve : Serving σ} {topology : Topology} {channel : Nat} {state after : σ}
  {step : InstallStep} {answer : Answer} {error : ClientError}

@[simp] theorem carryOut_finished (result : Except ClientError Unit) :
    carryOut serve topology channel (.finished result) state = { record := [], result, state } := by
  rw [carryOut]

theorem carryOut_of_error
    (served : serve (step.call topology channel) state = (.error error, after)) :
    carryOut serve topology channel (.calling step) state =
      { record := [(step.call topology channel, .error error)]
        result := .error error
        state := after } := by
  rw [carryOut, served]
  simp [continueInstall, Installation.prepend]

theorem carryOut_of_ok (served : serve (step.call topology channel) state = (.ok answer, after)) :
    carryOut serve topology channel (.calling step) state =
      (carryOut serve topology channel (topology.afterInstallStep answer step) after).prepend
        (step.call topology channel) (.ok answer) := by
  rw [carryOut, served]
  rfl

end

/-! ## The calls that a topology plans -/

section

variable (topology : Topology) (channel : Nat) (finds : Call → Bool)

def queueLookUp : Call :=
  .queueExists channel topology.queue

def exchangeLookUp : Call :=
  .exchangeExists channel topology.exchange topology.kind

def exchangeCalls : List Call :=
  topology.exchangeLookUp channel ::
    ((if finds (topology.exchangeLookUp channel) then []
      else
        [.declareExchange channel topology.exchange topology.kind topology.exchangeArguments]) ++
      [.bindQueue channel topology.queue topology.exchange topology.routingKey])

def routingCalls : List Call :=
  if topology.exchange ≠ "" ∧ topology.routingKey ≠ "" then topology.exchangeCalls channel finds
  else []

/-- All calls, when it is known what the look-ups find. -/
def plannedCalls : List Call :=
  topology.queueLookUp channel ::
    ((if finds (topology.queueLookUp channel) then []
      else [.declareQueue channel topology.queue topology.queueArguments]) ++
      topology.routingCalls channel finds)

end

/-- Calls are made in order, up to the first that fails, whose error is the result. -/
inductive Performs : List Call → List (Call × Reply) → Except ClientError Unit → Prop where
  | done : Performs [] [] (.ok ())
  | failed {call : Call} {rest : List Call} {error : ClientError} :
      Performs (call :: rest) [(call, .error error)] (.error error)
  | next {call : Call} {answer : Answer} {rest : List Call} {record : List (Call × Reply)}
      {result : Except ClientError Unit} (performs : Performs rest record result) :
      Performs (call :: rest) ((call, .ok answer) :: record) result

namespace Performs

variable {planned : List Call} {record : List (Call × Reply)} {result : Except ClientError Unit}

theorem planned_prefix (performs : Performs planned record result) :
    record.map (·.1) <+: planned := by
  induction performs with
  | done => exact List.prefix_rfl
  | failed => exact ⟨_, rfl⟩
  | next performs ih => exact List.prefix_cons_inj _ |>.mpr ih

theorem result_eq_ok_iff (performs : Performs planned record result) :
    result = .ok () ↔ ∀ call error, (call, .error error) ∉ record := by
  induction performs with
  | done => simp
  | @failed call rest error => simp
  | next performs ih => simp [ih]

end Performs

/-! ## What was looked up -/

def isFound : Reply → Bool
  | .ok answer => answer.isFound
  | .error _ => false

def finds (record : List (Call × Reply)) (lookUp : Call) : Bool :=
  record.any fun entry => decide (entry.1 = lookUp) && isFound entry.2

section

variable {record : List (Call × Reply)} {call lookUp : Call} {reply : Reply}

private theorem finds_cons_of_ne (other : call ≠ lookUp) :
    finds ((call, reply) :: record) lookUp = finds record lookUp := by
  simp [finds, other]

private theorem finds_cons_self (once : lookUp ∉ record.map (·.1)) :
    finds ((lookUp, reply) :: record) lookUp = isFound reply := by
  have later : finds record lookUp = false := by
    rw [finds, List.any_eq_false]
    intro entry made
    have other : entry.1 ≠ lookUp := by
      rintro rfl
      exact once (List.mem_map_of_mem made)
    simp [other]
  simp only [finds] at later
  simp [finds, later]

end

/-! ## Each step does what is planned -/

/-- An installation is carried out as planned, given what it has found itself. -/
def Installation.Follows (planned : (Call → Bool) → List Call) (out : Installation σ) : Prop :=
  Performs (planned (finds out.record)) out.record out.result

private theorem Installation.Follows.not_made {planned : (Call → Bool) → List Call}
    {out : Installation σ} (follows : out.Follows planned) (call : Call)
    (unplanned : ∀ finds, call ∉ planned finds) : call ∉ out.record.map (·.1) :=
  fun made => unplanned _ (follows.planned_prefix.subset made)

private theorem follows_prepend_iff {planned : (Call → Bool) → List Call} {call : Call}
    {reply : Reply}
    {rest : Installation σ} :
    (rest.prepend call reply).Follows planned ↔
      Performs (planned (finds ((call, reply) :: rest.record))) ((call, reply) :: rest.record)
        rest.result := Iff.rfl

section

variable (serve : Serving σ) (topology : Topology) (channel : Nat) (state : σ)

private theorem usesExchange_iff :
    topology.usesExchange = true ↔ topology.exchange ≠ "" ∧ topology.routingKey ≠ "" := by
  simp [usesExchange]

private theorem queueLookUp_not_mem_routingCalls (finds : Call → Bool) :
    topology.queueLookUp channel ∉ topology.routingCalls channel finds := by
  unfold routingCalls exchangeCalls
  split
  · split <;> simp [queueLookUp, exchangeLookUp]
  · exact List.not_mem_nil

private theorem bindQueue_follows :
    (carryOut serve topology channel (.calling .bindQueue) state).Follows fun _ =>
      [.bindQueue channel topology.queue topology.exchange topology.routingKey] := by
  rcases served : serve (InstallStep.bindQueue.call topology channel) state with ⟨reply, after⟩
  cases reply with
  | error error =>
      rw [carryOut_of_error served]
      exact .failed
  | ok answer =>
      rw [carryOut_of_ok served]
      simp only [afterInstallStep, carryOut_finished]
      exact .next .done

private theorem declareExchange_follows :
    (carryOut serve topology channel (.calling .declareExchange) state).Follows fun _ =>
      [.declareExchange channel topology.exchange topology.kind topology.exchangeArguments,
        .bindQueue channel topology.queue topology.exchange topology.routingKey] := by
  rcases served : serve (InstallStep.declareExchange.call topology channel) state with
    ⟨reply, after⟩
  cases reply with
  | error error =>
      rw [carryOut_of_error served]
      exact .failed
  | ok answer =>
      rw [carryOut_of_ok served]
      exact .next (bindQueue_follows serve topology channel after)

private theorem checkExchange_follows :
    (carryOut serve topology channel (.calling .checkExchange) state).Follows
      (topology.exchangeCalls channel) := by
  rcases served : serve (InstallStep.checkExchange.call topology channel) state with
    ⟨reply, after⟩
  cases reply with
  | error error =>
      rw [carryOut_of_error served]
      exact .failed
  | ok answer =>
      rw [carryOut_of_ok served]
      cases found : isFound (.ok answer) with
      | true =>
          have next : topology.afterInstallStep answer .checkExchange = .calling .bindQueue :=
            congrArg InstallProgress.calling (if_pos found)
          have bound := bindQueue_follows serve topology channel after
          have once := bound.not_made (topology.exchangeLookUp channel)
            fun _ => by simp [exchangeLookUp]
          rw [next]
          change Performs
            (topology.exchangeCalls channel (finds ((topology.exchangeLookUp channel, _) :: _))) _ _
          rw [exchangeCalls, finds_cons_self once, if_pos found]
          exact .next bound
      | false =>
          have found := Bool.eq_false_iff.mp found
          have next : topology.afterInstallStep answer .checkExchange =
              .calling .declareExchange := congrArg InstallProgress.calling (if_neg found)
          have declared := declareExchange_follows serve topology channel after
          have once := declared.not_made (topology.exchangeLookUp channel)
            fun _ => by simp [exchangeLookUp]
          rw [next]
          change Performs
            (topology.exchangeCalls channel (finds ((topology.exchangeLookUp channel, _) :: _))) _ _
          rw [exchangeCalls, finds_cons_self once, if_neg found]
          exact .next declared

private theorem installExchange_follows :
    (carryOut serve topology channel topology.installExchange state).Follows
      (topology.routingCalls channel) := by
  unfold installExchange Installation.Follows routingCalls
  by_cases uses : topology.usesExchange = true
  · rw [if_pos uses, if_pos (topology.usesExchange_iff.mp uses)]
    exact checkExchange_follows serve topology channel state
  · rw [if_neg uses, if_neg (mt topology.usesExchange_iff.mpr uses), carryOut_finished]
    exact .done

/-- What the calls for the routing are does not depend on any call before them. -/
theorem routingCalls_finds_cons {record : List (Call × Reply)} {call : Call} {reply : Reply}
    (other : call ≠ topology.exchangeLookUp channel) :
    topology.routingCalls channel (finds ((call, reply) :: record)) =
      topology.routingCalls channel (finds record) := by
  unfold routingCalls exchangeCalls
  rw [finds_cons_of_ne other]

private theorem declareQueue_follows :
    (carryOut serve topology channel (.calling .declareQueue) state).Follows fun finds =>
      .declareQueue channel topology.queue topology.queueArguments ::
        topology.routingCalls channel finds := by
  rcases served : serve (InstallStep.declareQueue.call topology channel) state with ⟨reply, after⟩
  cases reply with
  | error error =>
      rw [carryOut_of_error served]
      exact .failed
  | ok answer =>
      rw [carryOut_of_ok served, follows_prepend_iff,
        routingCalls_finds_cons topology channel (by simp [InstallStep.call, exchangeLookUp])]
      exact .next (installExchange_follows serve topology channel after)

private theorem checkQueue_follows :
    (carryOut serve topology channel (.calling .checkQueue) state).Follows
      (topology.plannedCalls channel) := by
  rcases served : serve (InstallStep.checkQueue.call topology channel) state with ⟨reply, after⟩
  cases reply with
  | error error =>
      rw [carryOut_of_error served]
      exact .failed
  | ok answer =>
      rw [carryOut_of_ok served]
      have other : topology.queueLookUp channel ≠ topology.exchangeLookUp channel := nofun
      cases found : isFound (.ok answer) with
      | true =>
          have next : topology.afterInstallStep answer .checkQueue = topology.installExchange :=
            if_pos found
          have routed := installExchange_follows serve topology channel after
          -- No later call looks the queue up again, so what the whole record says of the
          -- queue is what this reply says.
          have once := routed.not_made (topology.queueLookUp channel)
            (queueLookUp_not_mem_routingCalls topology channel)
          rw [next]
          change Performs
            (topology.plannedCalls channel (finds ((topology.queueLookUp channel, _) :: _))) _ _
          rw [plannedCalls, routingCalls_finds_cons topology channel other,
            finds_cons_self once, if_pos found]
          exact .next routed
      | false =>
          have found := Bool.eq_false_iff.mp found
          have next : topology.afterInstallStep answer .checkQueue = .calling .declareQueue :=
            if_neg found
          have declared := declareQueue_follows serve topology channel after
          have once := declared.not_made (topology.queueLookUp channel) fun finds =>
            List.not_mem_cons_of_ne_of_not_mem nofun
              (queueLookUp_not_mem_routingCalls topology channel finds)
          rw [next]
          change Performs
            (topology.plannedCalls channel (finds ((topology.queueLookUp channel, _) :: _))) _ _
          rw [plannedCalls, routingCalls_finds_cons topology channel other,
            finds_cons_self once, if_neg found]
          exact .next declared

/-- A valid topology is installed by the calls that it plans. -/
theorem install_follows (valid : topology.validate = .ok ()) :
    (install serve topology channel state).Follows (topology.plannedCalls channel) := by
  rw [install, beginInstall, valid]
  exact checkQueue_follows serve topology channel state

theorem install_of_invalid {error : ClientError} (invalid : topology.validate = .error error) :
    install serve topology channel state = { record := [], result := .error error, state } := by
  rw [install, beginInstall, invalid]
  exact carryOut_finished _

end

end AmqpClient.Topology
