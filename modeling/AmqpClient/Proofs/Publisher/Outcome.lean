import AmqpClient.Proofs.Publisher.Crowd

/-!
# Outcomes of pushes

A push writes one message, again and again, until the broker has taken
responsibility for it. All attempts but the last have failed; the push succeeds
exactly if it hears the confirmation of its own last write, and that is the last
thing it does. It fails only before its first write or because of a shutdown.
-/

set_option autoImplicit false

namespace AmqpClient.Publisher

/-! ## Attempts -/

def written (message : OutboundMessage) (channel confirmation : Nat) : List Mark :=
  [.called (.publish channel message),
    .returned (.publish channel message) (.ok (.confirmation confirmation))]

/-- An attempt that failed: the write was refused or cut off, or its confirmation was a
refusal, was lost or did not come in time. -/
inductive FailedAttempt (message : OutboundMessage) : List Mark → Prop where
  | refused (channel : Nat) (error : ClientError) :
      FailedAttempt message
        [.called (.publish channel message), .returned (.publish channel message) (.error error)]
  | cutOff (channel : Nat) :
      FailedAttempt message
        [.called (.publish channel message), .cutOff (.publish channel message)]
  | nacked (channel id : Nat) :
      FailedAttempt message (written message channel id ++ [.heard id (.ok .nack)])
  | lost (channel id : Nat) (error : ClientError) :
      FailedAttempt message (written message channel id ++ [.heard id (.error error)])
  | unheard (channel id : Nat) :
      FailedAttempt message (written message channel id ++ [.unheard id])

/-- What has come of the attempt that is not over yet, or was the last one. -/
inductive LastAttempt (message : OutboundMessage) : Push.Point → List Mark → Prop where
  | entry : LastAttempt message .entry []
  | claiming (session : Session) : LastAttempt message (.claiming session) []
  | publishing (session : Session) (deadline : Nat) :
      LastAttempt message (.publishing session deadline)
        [.called (.publish session.channel message)]
  | confirming (session : Session) (id deadline : Nat) :
      LastAttempt message (.confirming session id deadline) (written message session.channel id)
  | pausing (deadline : Nat) : LastAttempt message (.pausing deadline) []
  | accepted (channel id : Nat) {outcome : Confirmation} (accepts : outcome ≠ .nack) :
      LastAttempt message (.finished (.ok ()))
        (written message channel id ++ [.heard id (.ok outcome)])
  | notConnected : LastAttempt message (.finished (.error .notConnected)) []
  | shutdown {point : Push.Point} {marks : List Mark} (broken : LastAttempt message point marks)
      (unfinished : ∀ result, point ≠ .finished result) :
      LastAttempt message (.finished (.error .shutdown)) marks

/-- Attempts that failed, and what has come after them. -/
def Tells (message : OutboundMessage) (marks rest : List Mark) : Prop :=
  ∃ attempts : List (List Mark),
    (∀ attempt ∈ attempts, FailedAttempt message attempt) ∧ marks = attempts.flatten ++ rest

structure Story (message : OutboundMessage) (point : Push.Point) (marks : List Mark) : Prop where
  tells : ∃ last, LastAttempt message point last ∧ Tells message marks last
  silent : point = .entry ∨ point = .finished (.error .notConnected) → marks = []

namespace Tells

variable {message : OutboundMessage} {marks rest : List Mark}

theorem extend (told : Tells message marks rest) (more : List Mark) :
    Tells message (marks ++ more) (rest ++ more) := by
  obtain ⟨attempts, failed, same⟩ := told
  exact ⟨attempts, failed, by rw [same, List.append_assoc]⟩

theorem close (told : Tells message marks rest) (fails : FailedAttempt message rest) :
    Tells message marks [] := by
  obtain ⟨attempts, failed, same⟩ := told
  refine ⟨attempts ++ [rest], ?_, by simp [same]⟩
  intro attempt member
  rcases List.mem_append.mp member with earlier | last
  · exact failed attempt earlier
  · rw [List.mem_singleton.mp last]
    exact fails

end Tells

/-! ## What one event adds to the story -/

theorem readySession_error {signals : Signals} {cells : SupervisorCells} {error : ClientError}
    (failed : cells.readySession signals = .error error) :
    error = .shutdown ∧ cells.isShutDown = true ∨ error = .notConnected := by
  unfold SupervisorCells.readySession at failed
  split at failed
  · next raised =>
    cases failed
    exact .inl ⟨rfl, raised⟩
  · split at failed
    · cases failed
    · cases failed
      exact .inr rfl

section

variable {plan : Plan} {signals : Signals} {cells : SupervisorCells} {now ticket : Nat}
  {claims : Claims} {marks : List Mark}

/-- A push that pauses has nothing under way. -/
theorem pause_story (told : Tells plan.message marks []) (line : Claims)
    (notices : List Notice) :
    Story plan.message (Push.pause plan now ticket notices line).next.point
      (marks ++ Push.startMarks plan (Push.pause plan now ticket notices line).next) where
  tells := ⟨[], .pausing _, by simpa [Push.pause, Push.startMarks] using told⟩
  silent := by simp [Push.pause, Push.Next.point]

private theorem attempt_story (told : Tells plan.message marks []) (line : Claims)
    (notices : List Notice) :
    Story plan.message
      (Push.attempt plan signals cells now ticket line notices).next.point
      (marks ++
        Push.startMarks plan (Push.attempt plan signals cells now ticket line notices).next) := by
  unfold Push.attempt
  split
  · next session _ =>
    exact ⟨⟨[], .claiming session, by simpa [Push.startMarks] using told⟩,
      by simp [Push.Next.point]⟩
  · refine ⟨⟨[], .shutdown (.pausing 0) nofun, ?_⟩, by simp [Push.finish, Push.Next.point]⟩
    simpa [Push.finish, Push.startMarks, Push.Point.call?] using told
  · exact pause_story told _ _

def marksAfter (plan : Plan) (point : Push.Point) (event : Push.Event) (next : Push.Next)
    (marks : List Mark) : List Mark :=
  marks ++ Push.endMarks plan point event ++ Push.startMarks plan next

private theorem stay_story {point : Push.Point} {event : Push.Event}
    (story : Story plan.message point marks) (quiet : Push.endMarks plan point event = []) :
    Story plan.message point (marksAfter plan point event (.await point) marks) := by
  simpa [marksAfter, quiet, Push.startMarks] using story

private theorem marksAfter_finish (point : Push.Point) (event : Push.Event)
    (result : Except ClientError Unit) (line : Claims) :
    marksAfter plan point event (Push.finish ticket result line).next marks =
      marks ++ Push.endMarks plan point event := by
  simp [marksAfter, Push.finish, Push.startMarks, Push.Point.call?]

private theorem shutdown_story {point : Push.Point} {event : Push.Event}
    (story : Story plan.message point marks) (quiet : Push.endMarks plan point event = [])
    (unfinished : ∀ result, point ≠ .finished result) (line : Claims) :
    Story plan.message (.finished (.error .shutdown))
      (marksAfter plan point event (Push.finish ticket (.error .shutdown) line).next marks) := by
  obtain ⟨last, attempt, told⟩ := story.tells
  rw [marksAfter_finish, quiet, List.append_nil]
  exact ⟨⟨last, .shutdown attempt unfinished, told⟩, by simp⟩

/-- A push that hears of the broker's responsibility succeeds. -/
theorem accepted_story {session : Session} {id deadline : Nat} (outcome : Confirmation)
    (accepts : outcome ≠ .nack)
    (told : Tells plan.message marks (written plan.message session.channel id)) (line : Claims) :
    Story plan.message (.finished (.ok ()))
      (marksAfter plan (.confirming session id deadline) (.confirmed (.ok outcome))
        (Push.finish ticket (.ok ()) line).next marks) := by
  rw [marksAfter_finish]
  exact ⟨⟨_, .accepted session.channel id accepts, told.extend _⟩, by simp⟩

private theorem endMarks_finished (result : Except ClientError Unit) (event : Push.Event) :
    Push.endMarks plan (.finished result) event = [] := by
  cases event <;> rfl

private theorem push_story {point : Push.Point} {event : Push.Event}
    (story : Story plan.message point marks)
    (occurs : Push.Occurs plan cells claims now ticket point event) :
    Story plan.message (Push.react plan signals cells now ticket claims point event).next.point
      (marksAfter plan point event
        (Push.react plan signals cells now ticket claims point event).next marks) := by
  obtain ⟨last, attempt, told⟩ := story.tells
  cases attempt with
  | entry =>
      cases event with
      | begin =>
          have silent := story.silent (.inl rfl)
          simp only [Push.react, Push.begin]
          split
          · simpa [marksAfter, Push.endMarks] using attempt_story told claims []
          · next error failed =>
            rcases readySession_error failed with ⟨rfl, -⟩ | rfl
            · exact shutdown_story story rfl (by simp) claims
            · rw [marksAfter_finish, silent]
              rw [silent] at told
              exact ⟨⟨[], .notConnected, told⟩, fun _ => rfl⟩
      | _ => exact stay_story story rfl
  | claiming session =>
      cases event with
      | shutdown => exact shutdown_story story rfl (by simp) _
      | granted =>
          refine ⟨⟨_, .publishing session _, ?_⟩, by simp [Push.react, Push.Next.point]⟩
          simpa [marksAfter, Push.react, Push.endMarks, Push.startMarks, Push.Point.call?] using
            told.extend [.called (.publish session.channel plan.message)]
      | _ => exact stay_story story rfl
  | publishing session deadline =>
      have ended (mark : Mark) := told.extend [mark]
      cases event with
      | shutdown => exact shutdown_story story rfl (by simp) _
      | replied reply =>
          cases occurs with
          | interrupt found => simp [Push.Point.interrupt?] at found
          | reply _ pending answers =>
              cases pending
              cases reply with
              | error error => exact pause_story ((ended _).close (.refused _ error)) _ _
              | ok answer =>
                  cases answer with
                  | confirmation id =>
                      refine ⟨⟨_, .confirming session id _, ?_⟩, ?_⟩
                      · simpa [marksAfter, Push.react, Push.replied, Push.endMarks,
                          Push.startMarks, Push.Point.call?, written] using
                          ended (.returned _ (.ok (.confirmation id)))
                      · simp [Push.react, Push.replied, Push.Next.point]
                  | _ => exact absurd (answers _ rfl) nofun
      | expired => exact pause_story ((ended _).close (.cutOff _)) _ _
      | _ => exact stay_story story rfl
  | confirming session id deadline =>
      have ended (mark : Mark) := told.extend [mark]
      cases event with
      | shutdown => exact shutdown_story story rfl (by simp) _
      | confirmed outcome =>
          match outcome with
          | .ok .ack => exact accepted_story .ack nofun told claims
          | .ok .notRequested => exact accepted_story .notRequested nofun told claims
          | .ok .nack => exact attempt_story ((ended _).close (.nacked _ id)) _ _
          | .error error => exact pause_story ((ended _).close (.lost _ id error)) _ _
      | expired => exact attempt_story ((ended _).close (.unheard _ id)) _ _
      | _ => exact stay_story story rfl
  | pausing deadline =>
      cases event with
      | shutdown => exact shutdown_story story rfl (by simp) _
      | expired =>
          simpa [marksAfter, Push.react, Push.endMarks, Push.Point.call?,
            Push.Point.confirmation?] using attempt_story told claims []
      | _ => exact stay_story story rfl
  | accepted | notConnected | shutdown => exact stay_story story (endMarks_finished _ _)

private theorem isShutDown_of_occurs {point : Push.Point}
    (occurs : Push.Occurs plan cells claims now ticket point .shutdown) :
    cells.isShutDown = true := by
  cases occurs with
  | interrupt found =>
      cases point with
      | entry | finished => cases found
      | claiming session =>
          simp only [Push.Point.interrupt?] at found
          split at found
          · assumption
          · split at found <;> cases found
      | publishing | confirming | pausing =>
          simp only [Push.Point.interrupt?] at found
          split at found
          · assumption
          · cases found

private theorem isShutDown_of_attempt {line : Claims} {notices : List Notice}
    (ends : (Push.attempt plan signals cells now ticket line notices).next.point =
      .finished (.error .shutdown)) : cells.isShutDown = true := by
  unfold Push.attempt at ends
  split at ends
  · cases ends
  · next failed =>
    rcases readySession_error failed with ⟨-, raised⟩ | other
    · exact raised
    · cases other
  · cases ends

private theorem isShutDown_of_push {point : Push.Point} {event : Push.Event}
    (occurs : Push.Occurs plan cells claims now ticket point event)
    (former : point = .finished (.error .shutdown) → cells.isShutDown = true)
    (ends : (Push.react plan signals cells now ticket claims point event).next.point =
      .finished (.error .shutdown)) : cells.isShutDown = true := by
  cases event with
  | shutdown => exact isShutDown_of_occurs occurs
  | begin =>
      cases point with
      | entry =>
          simp only [Push.react, Push.begin] at ends
          split at ends
          · exact isShutDown_of_attempt ends
          · next error failed =>
            cases ends
            rcases readySession_error failed with ⟨-, raised⟩ | other
            · exact raised
            · cases other
      | _ => exact former ends
  | granted =>
      cases point with
      | claiming session => cases ends
      | _ => exact former ends
  | replied reply =>
      cases point with
      | publishing session deadline => cases reply <;> cases ends
      | _ => exact former ends
  | confirmed outcome =>
      cases point with
      | confirming session id deadline =>
          match outcome with
          | .ok .ack | .ok .notRequested | .error _ => cases ends
          | .ok .nack => exact isShutDown_of_attempt ends
      | _ => exact former ends
  | expired =>
      cases point with
      | publishing session deadline => cases ends
      | confirming session id deadline => exact isShutDown_of_attempt ends
      | pausing deadline => exact isShutDown_of_attempt ends
      | _ => exact former ends

end

/-! ## Outcomes -/

def Errand.isPush : Errand → Bool
  | .push .. | .refused => true
  | .handOff .. | .confirmation .. => false

def Errand.result? : Errand → Option (Except ClientError Unit)
  | .push _ (.finished result) => some result
  | .refused => some (.error .parsePayload)
  | _ => none

def Mark.isAcceptance : Mark → Bool
  | .heard _ (.ok .ack) | .heard _ (.ok .notRequested) => true
  | _ => false

/-- A mark of a call tells of a write of the message. -/
def Mark.IsFaithful (message : OutboundMessage) (mark : Mark) : Prop :=
  ∀ call, mark = .called call → ∃ channel, call = .publish channel message

/-- What can be said of a push at any time. -/
structure PushOutcome (cells : SupervisorCells) (message : OutboundMessage) (caller : Caller) :
    Prop where
  /-- It never writes anything but its message. -/
  faithful : ∀ mark ∈ caller.marks, mark.IsFaithful message
  /-- It succeeds if and only if it hears of the broker's responsibility. -/
  succeeds_iff : caller.errand.result? = some (.ok ()) ↔
    ∃ mark ∈ caller.marks, mark.isAcceptance = true
  /-- What it then heard was the confirmation of its last write and the end of all; the
  attempts before have failed. -/
  succeeds : caller.errand.result? = some (.ok ()) →
    ∃ (attempts : List (List Mark)) (channel id : Nat) (outcome : Confirmation),
      (∀ attempt ∈ attempts, FailedAttempt message attempt) ∧ outcome ≠ .nack ∧
      caller.marks =
        attempts.flatten ++ (written message channel id ++ [.heard id (.ok outcome)])
  /-- It fails without a single write, a payload that has no JSON form being told by the refused
  errand only, or for a shutdown that was requested. -/
  fails : ∀ error, caller.errand.result? = some (.error error) →
    (error = .notConnected ∨ error = .parsePayload ∧ caller.errand = .refused) ∧
        caller.marks = [] ∨
      error = .shutdown ∧ cells.isShutDown = true

namespace FailedAttempt

variable {message : OutboundMessage} {attempt : List Mark}

private theorem faithful (failed : FailedAttempt message attempt) :
    ∀ mark ∈ attempt, mark.IsFaithful message := by
  cases failed <;> simp [Mark.IsFaithful, written]

private theorem not_accepted (failed : FailedAttempt message attempt) :
    ∀ mark ∈ attempt, mark.isAcceptance = false := by
  cases failed <;> simp [Mark.isAcceptance, written]

end FailedAttempt

namespace LastAttempt

variable {message : OutboundMessage} {point : Push.Point} {last : List Mark}

private theorem faithful (attempt : LastAttempt message point last) :
    ∀ mark ∈ last, mark.IsFaithful message := by
  induction attempt with
  | shutdown broken unfinished ih => exact ih
  | _ => simp [Mark.IsFaithful, written]

private theorem accepted_iff (attempt : LastAttempt message point last) :
    (∃ mark ∈ last, mark.isAcceptance = true) ↔ point = .finished (.ok ()) := by
  induction attempt with
  | @accepted channel id outcome accepts =>
      cases outcome with
      | ack | notRequested => simp [Mark.isAcceptance, written]
      | nack => exact absurd rfl accepts
  | shutdown broken unfinished ih => simpa [unfinished (.ok ())] using ih
  | _ => simp [Mark.isAcceptance, written]

end LastAttempt

namespace Story

variable {cells : SupervisorCells} {message : OutboundMessage} {point : Push.Point}
  {marks : List Mark}

theorem initial (message : OutboundMessage) : Story message .entry [] where
  tells := ⟨[], .entry, [], by simp, rfl⟩
  silent _ := rfl

private theorem faithful (story : Story message point marks) :
    ∀ mark ∈ marks, mark.IsFaithful message := by
  obtain ⟨last, attempt, attempts, failed, rfl⟩ := story.tells
  intro mark member
  rcases List.mem_append.mp member with earlier | late
  · obtain ⟨former, isAttempt, inside⟩ := List.mem_flatten.mp earlier
    exact (failed former isAttempt).faithful mark inside
  · exact attempt.faithful mark late

private theorem accepted_iff (story : Story message point marks) :
    point = .finished (.ok ()) ↔ ∃ mark ∈ marks, mark.isAcceptance = true := by
  obtain ⟨last, attempt, attempts, failed, rfl⟩ := story.tells
  rw [← attempt.accepted_iff]
  constructor
  · rintro ⟨mark, member, accepts⟩
    exact ⟨mark, List.mem_append_right _ member, accepts⟩
  · rintro ⟨mark, member, accepts⟩
    rcases List.mem_append.mp member with earlier | late
    · obtain ⟨former, isAttempt, inside⟩ := List.mem_flatten.mp earlier
      rw [(failed former isAttempt).not_accepted mark inside] at accepts
      cases accepts
    · exact ⟨mark, late, accepts⟩

theorem outcome {plan : Plan} (story : Story message point marks)
    (ended : point = .finished (.error .shutdown) → cells.isShutDown = true) :
    PushOutcome cells message { errand := .push plan point, marks } where
  faithful := story.faithful
  succeeds_iff := by
    rw [← story.accepted_iff]
    cases point <;> simp [Errand.result?]
  succeeds succeeded := by
    obtain ⟨last, attempt, attempts, failed, rfl⟩ := story.tells
    cases attempt with
    | accepted channel id accepts =>
        exact ⟨attempts, channel, id, _, failed, accepts, rfl⟩
    | _ => simp [Errand.result?] at succeeded
  fails error failure := by
    obtain ⟨last, attempt, -⟩ := story.tells
    cases attempt with
    | notConnected =>
        cases failure
        exact .inl ⟨.inl rfl, story.silent (.inr rfl)⟩
    | shutdown broken unfinished =>
        cases failure
        exact .inr ⟨rfl, ended rfl⟩
    | _ => simp [Errand.result?] at failure

end Story

/-! ## The pushes of a crowd -/

def Caller.IsTold (cells : SupervisorCells) (caller : Caller) : Prop :=
  match caller.errand with
  | .push plan point =>
    Story plan.message point caller.marks ∧
      (point = .finished (.error .shutdown) → cells.isShutDown = true)
  | .refused => caller.marks = []
  | .handOff .. | .confirmation .. => True

private theorem isTold_errand (desk : Desk) (request : Request) (id : MessageId)
    (cells : SupervisorCells) :
    Caller.IsTold cells { errand := desk.errand request id } := by
  unfold Desk.errand
  split
  · exact ⟨Story.initial _, nofun⟩
  · exact ⟨Story.initial _, nofun⟩
  · exact rfl
  · exact trivial

theorem Caller.IsTold.around {before after : SupervisorCells} {caller : Caller}
    (told : caller.IsTold before)
    (kept : before.isShutDown = true → after.isShutDown = true) : caller.IsTold after := by
  obtain ⟨errand, marks⟩ := caller
  cases errand with
  | push plan point => exact ⟨told.1, fun ended => kept (told.2 ended)⟩
  | refused => exact told
  | handOff | confirmation => exact trivial

private theorem isTold_afterHandOff (plan : Plan) (before after : HandOff.Point)
    (cells : SupervisorCells) :
    Caller.IsTold cells { errand := .afterHandOff plan before after } := by
  unfold Errand.afterHandOff
  split <;> exact trivial

def Crowd.IsTold (crowd : Crowd) : Prop :=
  ∀ ticket caller, crowd.callers ticket = some caller → caller.IsTold crowd.cells

namespace Crowd.IsTold

variable {desk : Desk} {crowd after : Crowd} {ticket : Nat}

theorem put {successor : Caller} (told : crowd.IsTold) (line : Claims)
    (tells : successor.IsTold crowd.cells) :
    (crowd.put ticket (some successor) line).IsTold := by
  intro other caller found
  rw [callers_put] at found
  split at found
  · cases found
    exact tells
  · exact told other caller found

theorem step (told : crowd.IsTold) (step : Step desk crowd after) : after.IsTold := by
  cases step with
  | around signals cells milliseconds kept =>
      intro ticket caller found
      exact (told ticket caller found).around kept
  | arrive request =>
      intro other caller found
      rw [callers_welcome] at found
      split at found
      · cases found
        exact isTold_errand desk request _ _
      · exact told other caller found
  | push ticket present occurs =>
      obtain ⟨story, ended⟩ := told _ _ present
      exact told.put _ ⟨push_story story occurs, isShutDown_of_push occurs ended⟩
  | handOff ticket present occurs => exact told.put _ (isTold_afterHandOff _ _ _ _)
  | resolve present | drop present =>
      intro other caller found
      rw [Crowd.dismiss, callers_put] at found
      split at found
      · cases found
      · exact told other caller found

end Crowd.IsTold

private theorem isTold_of_reachable {desk : Desk} {crowd : Crowd} (reached : Reachable desk crowd) :
    crowd.IsTold := by
  induction reached with
  | refl => exact nofun
  | tail _ step ih => exact ih.step step

/-- A push writes one message until the broker takes responsibility for it. -/
theorem push_outcome {desk : Desk} {crowd : Crowd} {ticket : Nat} {caller : Caller}
    (reached : Reachable desk crowd) (present : crowd.callers ticket = some caller)
    (isPush : caller.errand.isPush = true) :
    ∃ message, PushOutcome crowd.cells message caller := by
  have told := isTold_of_reachable reached ticket caller present
  obtain ⟨errand, marks⟩ := caller
  cases errand with
  | push plan point => exact ⟨plan.message, told.1.outcome told.2⟩
  | refused =>
      have silent : marks = [] := told
      subst silent
      refine ⟨default, by simp, by simp [Errand.result?], by simp [Errand.result?], ?_⟩
      intro error failure
      cases failure
      exact .inl ⟨.inr ⟨rfl, rfl⟩, rfl⟩
  | handOff | confirmation => cases isPush

/-- A push that is refused once and confirmed then. -/
theorem exists_confirmed_push :
    ∃ crowd caller, Reachable oneDesk crowd ∧ crowd.callers 0 = some caller ∧
      caller.errand.isPush = true ∧ caller.errand.result? = some (.ok ()) := by
  have arrived := reachable_oneSession.tail (.arrive _ { content := .raw [], priority := 0 })
  have begun := arrived.tail (.push 0 rfl (.interrupt rfl))
  have granted := begun.tail (.push 0 rfl (.interrupt rfl))
  have written := granted.tail
    (.push 0 rfl (.reply (.ok (.confirmation 0)) rfl (fun _ same => by cases same; rfl)))
  have refused := written.tail (.push 0 rfl (.confirm (.ok .nack) rfl))
  have regranted := refused.tail (.push 0 rfl (.interrupt rfl))
  have rewritten := regranted.tail
    (.push 0 rfl (.reply (.ok (.confirmation 1)) rfl (fun _ same => by cases same; rfl)))
  have confirmed := rewritten.tail (.push 0 rfl (.confirm (.ok .ack) rfl))
  exact ⟨_, _, confirmed, rfl, rfl, rfl⟩

theorem push_outcome_confirmed :
    ∃ crowd caller, Reachable oneDesk crowd ∧ crowd.callers 0 = some caller ∧
      caller.errand.result? = some (.ok ()) ∧
      ∃ message, PushOutcome crowd.cells message caller := by
  obtain ⟨crowd, caller, reached, present, isPush, succeeded⟩ := exists_confirmed_push
  exact ⟨crowd, caller, reached, present, succeeded, push_outcome reached present isPush⟩

end AmqpClient.Publisher
