import AmqpClient.CloseSignal
import Mathlib.Data.List.Induction

/-!
# What the observers of a close signal are told

The three ways to look at a signal read three different things: the recorded reason, whether
the notifier is there, and which change the signal has seen last. They agree on every signal
of a board, whenever it was taken and whatever it has seen: what they tell is decided by what
was done with the notifier alone. Once it is over, they all tell the same for good.
-/

set_option autoImplicit false

namespace AmqpClient

/-! ## One look -/

namespace CloseSignal

variable {cell : CloseCell} {signal : CloseSignal}

/-- A new wait finds what the cell records, whatever the signal has seen before. -/
theorem poll_fst (cell : CloseCell) (signal : CloseSignal) :
    (signal.poll cell).1 = cell.closed? := by
  cases recorded : cell.reason with
  | some reason => simp [poll, CloseCell.closed?, recorded]
  | none =>
      simp only [poll, awaitChange, hasChange, CloseCell.closed?, recorded]
      cases dropped : cell.dropped <;> simp

private theorem poll_snd (cell : CloseCell) (signal : CloseSignal) :
    (signal.poll cell).2 = { seen := cell.version } := by
  cases recorded : cell.reason with
  | some reason => simp [poll, recorded]
  | none =>
      simp only [poll, recorded, awaitChange]
      split
      · rfl
      · split <;> rfl

/-- A wait that is under way finds what the cell records, if the only change that it can have
missed is a reason. -/
theorem awaitChange_fst (missed : signal.hasChange cell = cell.reason.isSome) :
    (signal.awaitChange cell).1 = cell.closed? := by
  cases recorded : cell.reason with
  | some reason =>
      have changed : signal.hasChange cell = true := by rw [missed, recorded]; rfl
      simp [awaitChange, changed, CloseCell.closed?, recorded]
  | none =>
      have unchanged : signal.hasChange cell = false := by rw [missed, recorded]; rfl
      simp only [awaitChange, unchanged, CloseCell.closed?, recorded]
      cases dropped : cell.dropped <;> simp

/-- A wait that has nothing to tell is where it was. -/
theorem awaitChange_snd (missed : signal.hasChange cell = cell.reason.isSome)
    (pending : cell.closed? = none) : (signal.awaitChange cell).2 = signal := by
  obtain ⟨unrecorded, isPresent⟩ := Option.or_eq_none_iff.mp pending
  have unchanged : signal.hasChange cell = false := by rw [missed, unrecorded]; rfl
  have present : cell.dropped = false := by simpa using isPresent
  simp [awaitChange, unchanged, present]

end CloseSignal

namespace CloseBoard

/-! ## What was done with the notifier -/

/-- A signal is over once its notifier has told a reason or is gone. -/
def Action.ends : Action → Bool
  | .notify _ | .drop => true
  | _ => false

/-- The first reason that was notified. A notifier that is dropped notifies no more. -/
def firstReason? : List Action → Option String
  | [] => none
  | .notify reason :: _ => some reason
  | .drop :: _ => none
  | _ :: rest => firstReason? rest

def hasEnded (actions : List Action) : Bool :=
  actions.any Action.ends

/-- The reason that a wait gives, or nothing while it goes on. -/
def ending? (actions : List Action) : Option String :=
  if hasEnded actions then some ((firstReason? actions).getD CloseCell.unexplained) else none

variable {actions : List Action} {board : CloseBoard}

private theorem hasEnded_iff :
    hasEnded actions = true ↔ (∃ reason, .notify reason ∈ actions) ∨ .drop ∈ actions := by
  rw [hasEnded, List.any_eq_true]
  constructor
  · rintro ⟨action, done, ends⟩
    cases action with
    | notify reason => exact .inl ⟨reason, done⟩
    | drop => exact .inr done
    | subscribe | clone on | isClosed on | reason on | poll on => cases ends
  · rintro (⟨reason, done⟩ | done)
    · exact ⟨_, done, rfl⟩
    · exact ⟨_, done, rfl⟩

private theorem firstReason?_append (actions later : List Action) :
    firstReason? (actions ++ later) =
      (firstReason? actions).or (if .drop ∈ actions then none else firstReason? later) := by
  induction actions with
  | nil => simp [firstReason?]
  | cons action actions ih =>
      cases action with
      | notify reason => simp [firstReason?]
      | drop => simp [firstReason?]
      | subscribe | clone on | isClosed on | reason on | poll on => simpa [firstReason?] using ih

private theorem firstReason?_isSome (present : .drop ∉ actions) :
    (firstReason? actions).isSome = true ↔ ∃ reason, .notify reason ∈ actions := by
  induction actions with
  | nil => simp [firstReason?]
  | cons action actions ih =>
      have later := ih fun dropped => present (List.mem_cons_of_mem _ dropped)
      cases action with
      | notify reason => simp [firstReason?]
      | drop => exact absurd List.mem_cons_self present
      | subscribe | clone on | isClosed on | reason on | poll on => simpa [firstReason?] using later

private theorem hasEnded_eq (actions : List Action) :
    hasEnded actions = ((firstReason? actions).isSome || decide (.drop ∈ actions)) := by
  rw [Bool.eq_iff_iff, hasEnded_iff, Bool.or_eq_true, decide_eq_true_eq]
  by_cases dropped : .drop ∈ actions
  · simp [dropped]
  · rw [firstReason?_isSome dropped]

/-- What is told at the end is told ever after. -/
theorem ending_lasts (ended : hasEnded actions = true) (later : List Action) :
    hasEnded (actions ++ later) = true ∧
      firstReason? (actions ++ later) = firstReason? actions ∧
      ending? (actions ++ later) = ending? actions := by
  have stillEnded : hasEnded (actions ++ later) = true := by
    rw [hasEnded, List.any_append]
    simpa [hasEnded] using Or.inl ended
  have sameReason : firstReason? (actions ++ later) = firstReason? actions := by
    rw [firstReason?_append]
    cases first : firstReason? actions with
    | some reason => rfl
    | none =>
        have dropped : .drop ∈ actions := by simpa [hasEnded_eq, first] using ended
        simp [dropped]
  exact ⟨stillEnded, sameReason, by simp only [ending?, stillEnded, ended, sameReason]⟩

/-! ## What the board records of it -/

/-- The board after some actions. -/
def after (board : CloseBoard) (actions : List Action) : CloseBoard :=
  actions.foldl (fun board action => (board.perform action).2) board

/-- A new board after some actions. -/
def boardAfter (actions : List Action) : CloseBoard :=
  ({} : CloseBoard).after actions

private theorem boardAfter_concat (actions : List Action) (action : Action) :
    boardAfter (actions ++ [action]) = ((boardAfter actions).perform action).2 :=
  List.foldl_append

/-- The cell is what has come of the notifier. Only a first reason is a change. -/
structure Records (actions : List Action) (board : CloseBoard) : Prop where
  reason : board.cell.reason = firstReason? actions
  dropped : board.cell.dropped = decide (.drop ∈ actions)
  version : board.cell.version = if (firstReason? actions).isSome then 1 else 0

/-- Nothing that is done with the signals changes the cell. -/
theorem cell_perform {action : Action} (board : CloseBoard) (quiet : action.ends = false) :
    (board.perform action).2.cell = board.cell := by
  cases action with
  | notify reason => cases quiet
  | drop => cases quiet
  | subscribe | clone on | isClosed on | reason on | poll on =>
      simp only [perform]
      split <;> rfl

private theorem firstReason?_append_quiet {action : Action} (actions : List Action)
    (quiet : action.ends = false) : firstReason? (actions ++ [action]) = firstReason? actions := by
  have silent : firstReason? [action] = none := by
    cases action with
    | notify reason => cases quiet
    | drop | subscribe | clone on | isClosed on | reason on | poll on => rfl
  rw [firstReason?_append, silent, ite_self, Option.or_none]

private theorem Records.performQuiet {action : Action} (records : Records actions board)
    (quiet : action.ends = false) : Records (actions ++ [action]) (board.perform action).2 := by
  have same := board.cell_perform quiet
  have sameReason := firstReason?_append_quiet actions quiet
  have other : action ≠ .drop := by
    rintro rfl
    cases quiet
  exact
    { reason := by rw [same, sameReason, records.reason]
      dropped := by simp [same, records.dropped, Ne.symm other]
      version := by rw [same, sameReason, records.version] }

/-- A reason is kept if it is the first and there is still a notifier to tell it. -/
theorem Records.performNotify (records : Records actions board) (reason : String) :
    Records (actions ++ [.notify reason]) (board.perform (.notify reason)).2 := by
  by_cases gone : .drop ∈ actions
  · have isGone : board.cell.dropped = true := by simp [records.dropped, gone]
    have sameReason : firstReason? (actions ++ [.notify reason]) = firstReason? actions := by
      simp [firstReason?_append, gone]
    simp only [CloseBoard.perform, isGone, if_true]
    exact
      { reason := records.reason.trans sameReason.symm
        dropped := by simp [isGone, gone]
        version := by rw [sameReason, records.version] }
  · have isPresent : board.cell.dropped = false := by simp [records.dropped, gone]
    have nextReason : firstReason? (actions ++ [.notify reason]) =
        (firstReason? actions).or (some reason) := by
      simp [firstReason?_append, gone, firstReason?]
    simp only [CloseBoard.perform, isPresent, Bool.false_eq_true, if_false, CloseCell.notify]
    cases first : firstReason? actions with
    | some kept =>
        have recorded : board.cell.reason.isSome = true := by simp [records.reason, first]
        rw [if_pos recorded]
        exact
          { reason := by rw [nextReason, records.reason, first]; rfl
            dropped := by simp [isPresent, gone]
            version := by rw [nextReason, records.version, first]; rfl }
    | none =>
        have unrecorded : ¬ board.cell.reason.isSome = true := by simp [records.reason, first]
        rw [if_neg unrecorded]
        exact
          { reason := by rw [nextReason, first]; rfl
            dropped := by simp [gone]
            version := by rw [nextReason, records.version, first]; rfl }

private theorem Records.performDrop (records : Records actions board) :
    Records (actions ++ [.drop]) (board.perform .drop).2 := by
  have sameReason : firstReason? (actions ++ [.drop]) = firstReason? actions := by
    rw [firstReason?_append, firstReason?, ite_self, Option.or_none]
  exact
    { reason := records.reason.trans sameReason.symm
      dropped := by simp [CloseBoard.perform, CloseCell.drop]
      version := by rw [sameReason]; exact records.version }

theorem Records.perform (records : Records actions board) (action : Action) :
    Records (actions ++ [action]) (board.perform action).2 := by
  cases action with
  | notify reason => exact records.performNotify reason
  | drop => exact records.performDrop
  | subscribe | clone on | isClosed on | reason on | poll on => exact records.performQuiet rfl

private theorem records_boardAfter (actions : List Action) :
    Records actions (boardAfter actions) := by
  induction actions using List.reverseRecOn with
  | nil => exact ⟨rfl, rfl, rfl⟩
  | append_singleton actions action ih =>
      rw [boardAfter_concat]
      exact ih.perform action

section

variable (records : Records actions board)

include records

theorem Records.isClosed : board.cell.isClosed = hasEnded actions := by
  rw [CloseCell.isClosed, records.reason, records.dropped, hasEnded_eq]

theorem Records.closed? : board.cell.closed? = ending? actions := by
  rw [CloseCell.closed?, records.reason, records.dropped, ending?, hasEnded_eq]
  cases firstReason? actions with
  | some reason => rfl
  | none => by_cases dropped : .drop ∈ actions <;> simp [dropped]

/-- A signal that has seen the cell while it was open has missed nothing but the reason. -/
theorem Records.hasChange {signal : CloseSignal} (fresh : signal.seen = 0) :
    signal.hasChange board.cell = board.cell.reason.isSome := by
  rw [CloseSignal.hasChange, fresh, records.version, records.reason]
  cases firstReason? actions <;> rfl

end

/-! ## What is observed -/

/-- After some actions, an action has this outcome, whatever is done later. -/
def Observes (before : List Action) (action : Action) (outcome : Outcome) : Prop :=
  ∀ later, ∃ board,
    (({} : CloseBoard).run (before ++ action :: later))[before.length]? = some (outcome, board)

private theorem getElem?_run (board : CloseBoard) (before later : List Action) (action : Action) :
    (board.run (before ++ action :: later))[before.length]? =
      some ((board.after before).perform action) := by
  induction before generalizing board with
  | nil => rfl
  | cons first before ih => exact ih (board.perform first).2

private theorem observes_of_perform {before : List Action} {action : Action} {outcome : Outcome}
    (performed : ((boardAfter before).perform action).1 = outcome) :
    Observes before action outcome := fun later =>
  ⟨_, (getElem?_run {} before later action).trans (by rw [← performed]; rfl)⟩

private theorem signals_perform_poll (board : CloseBoard) (on : Nat) :
    (board.perform (.poll on)).2.signals[on]? =
      board.signals[on]?.map fun _ => { seen := board.cell.version } := by
  cases found : board.signals[on]? with
  | none => simp [perform, found]
  | some signal =>
      have inside := (List.getElem?_eq_some_iff.mp found).1
      simp only [perform, found, CloseSignal.poll_snd, List.getElem?_set_self inside,
        Option.map_some]

/-- What all signals of a notifier tell after some actions. -/
structure TellsAlike (actions : List Action) : Prop where
  isClosed : ∀ on < (boardAfter actions).signals.length,
    Observes actions (.isClosed on) (.isClosed (hasEnded actions))
  reason : ∀ on < (boardAfter actions).signals.length,
    Observes actions (.reason on) (.reason (firstReason? actions))
  poll : ∀ on < (boardAfter actions).signals.length,
    Observes actions (.poll on) (.poll (ending? actions))
  /-- A wait that was begun while the signal was open goes on where it stopped, and stops
  there again as long as there is nothing to tell. -/
  resumed : ∀ earlier later on waiting, actions = earlier ++ .poll on :: later →
    hasEnded earlier = false →
    (boardAfter (earlier ++ [.poll on])).signals[on]? = some waiting →
    (waiting.awaitChange (boardAfter actions).cell).1 = ending? actions ∧
      (ending? actions = none → (waiting.awaitChange (boardAfter actions).cell).2 = waiting)
  /-- Of the end nothing changes any more. -/
  lasts : hasEnded actions = true → ∀ later,
    hasEnded (actions ++ later) = true ∧
      firstReason? (actions ++ later) = firstReason? actions ∧
      ending? (actions ++ later) = ending? actions

/-- A signal that was looked at while it was open has seen no change. -/
theorem seen_of_poll {earlier : List Action} {on : Nat} {waiting : CloseSignal}
    (isOpen : hasEnded earlier = false)
    (held : (boardAfter (earlier ++ [.poll on])).signals[on]? = some waiting) :
    waiting.seen = 0 := by
  have silent : (firstReason? earlier).isSome = false :=
    (Bool.or_eq_false_iff.mp (hasEnded_eq earlier ▸ isOpen)).1
  have unchanged : (boardAfter earlier).cell.version = 0 := by
    simp [(records_boardAfter earlier).version, silent]
  rw [boardAfter_concat, signals_perform_poll, unchanged, Option.map_eq_some_iff] at held
  obtain ⟨_, -, rfl⟩ := held
  rfl

/-- What the signals tell is decided by what was done with the notifier: they are closed
exactly if a reason was notified or the notifier was dropped, and the first reason stands. -/
theorem tellsAlike (actions : List Action) : TellsAlike actions := by
  have records := records_boardAfter actions
  refine ⟨?_, ?_, ?_, ?_, ending_lasts⟩
  · intro on held
    refine observes_of_perform ?_
    simp [CloseBoard.perform, List.getElem?_eq_getElem held, records.isClosed]
  · intro on held
    refine observes_of_perform ?_
    simp [CloseBoard.perform, List.getElem?_eq_getElem held, records.reason]
  · intro on held
    refine observes_of_perform ?_
    simp [CloseBoard.perform, List.getElem?_eq_getElem held, CloseSignal.poll_fst, records.closed?]
  · rintro earlier later on waiting - isOpen held
    have fresh := seen_of_poll isOpen held
    have told := CloseSignal.awaitChange_fst (records.hasChange fresh)
    refine ⟨told.trans records.closed?, fun pending => ?_⟩
    exact CloseSignal.awaitChange_snd (records.hasChange fresh) (records.closed?.trans pending)

/-- A copy made while the signal was open learns of an end that nobody explained. -/
example :
    (({} : CloseBoard).run
        [.clone 0, .poll 1, .drop, .notify "late", .poll 1, .reason 0]).map (·.1) =
      [.signal 1, .poll none, .done, .dropped, .poll (some "closed"), .reason none] := by
  decide

end CloseBoard

end AmqpClient
