import AmqpClient.Proofs.Publisher.Crowd

/-!
# Confirmation slots are held by one caller each

Every claim belongs to one caller who waits for the slot of a session or has a
publish call or a confirmation on it. Whoever has one of these comes first in
the line for the slot.
-/

set_option autoImplicit false

namespace AmqpClient

/-! ## Lines for a slot -/

namespace Claims

variable {claims : Claims} {ticket other generation : Nat}

private theorem mem_release {claim : Claim} :
    claim ∈ claims.release ticket ↔ claim ∈ claims ∧ claim.ticket ≠ ticket := by
  simp [release]

private theorem mem_of_holder? (held : claims.holder? generation = some ticket) :
    ({ generation, ticket } : Claim) ∈ claims := by
  obtain ⟨first, found, rfl⟩ := Option.map_eq_some_iff.mp held
  have same : first.generation = generation := by simpa using List.find?_some found
  subst same
  exact List.mem_of_find?_eq_some found

private theorem holder?_claim (held : claims.holder? generation = some ticket) (joined : Nat) :
    (claims.claim joined other).holder? generation = some ticket := by
  obtain ⟨first, found, rfl⟩ := Option.map_eq_some_iff.mp held
  simp [holder?, claim, List.find?_append, found]

private theorem holder?_release (held : claims.holder? generation = some ticket)
    (stays : ticket ≠ other) : (claims.release other).holder? generation = some ticket := by
  obtain ⟨first, found, rfl⟩ := Option.map_eq_some_iff.mp held
  obtain ⟨isOwn, before, after, rfl, others⟩ := List.find?_eq_some_iff_append.mp found
  have kept : (before ++ first :: after).filter (fun claim => claim.ticket ≠ other) =
      before.filter (fun claim => claim.ticket ≠ other) ++
        first :: after.filter (fun claim => claim.ticket ≠ other) := by
    simp [stays]
  rw [holder?, release, kept, List.find?_append, List.find?_eq_none.mpr]
  · simp [isOwn]
  · intro claim inBefore
    exact by simpa using others claim (List.mem_filter.mp inBefore).1

private theorem release_release :
    (claims.release ticket).release ticket = claims.release ticket := by
  simp [release]

private theorem release_of_not_mem
    (absent : ∀ generation, ({ generation, ticket } : Claim) ∉ claims) :
    claims.release ticket = claims := by
  refine List.filter_eq_self.mpr ?_
  intro claim member
  by_cases own : claim.ticket = ticket
  · subst own
    exact absurd member (absent claim.generation)
  · simpa using own

end Claims

namespace Publisher

/-! ## Who stands where -/

def Errand.claiming? : Errand → Option Nat
  | .push _ (.claiming session) | .handOff _ (.claiming session) => some session.generation
  | _ => none

/-- The generation of the session that a publish call is under way on, or that an
unresolved confirmation belongs to. -/
def Errand.tracked? : Errand → Option Nat
  | .push _ (.publishing session _) | .push _ (.confirming session _ _)
  | .handOff _ (.publishing session _) | .confirmation session _ => some session.generation
  | _ => none

/-- The generation of the session on whose slot an errand has a claim. -/
def Errand.claimed? (errand : Errand) : Option Nat :=
  errand.claiming?.or errand.tracked?

/-- A caller has a publish call or an unresolved confirmation on the session of a
generation, or its slot to begin with. -/
def Crowd.IsAlive (crowd : Crowd) (generation ticket : Nat) : Prop :=
  ∃ caller, crowd.callers ticket = some caller ∧
    (caller.errand.tracked? = some generation ∨
      caller.errand.claiming? = some generation ∧
        crowd.claims.holder? generation = some ticket)

namespace Errand

private theorem claimed?_of_tracked? {errand : Errand} {generation : Nat}
    (tracked : errand.tracked? = some generation) : errand.claimed? = some generation := by
  unfold claimed?
  have apart : errand.claiming? = none := by
    unfold tracked? at tracked
    split at tracked <;> first | rfl | cases tracked
  rw [apart, tracked]
  rfl

end Errand

/-! ## What one event does to the line -/

/-- What an event does to the claims of one caller. -/
inductive SlotMove (ticket : Nat) (claims : Claims) (before after : Errand)
    (line : Claims) : Prop where
  /-- Nothing, though a claim may have turned out to be first. -/
  | keep (same : line = claims) (claimed : after.claimed? = before.claimed?)
      (first : ∀ generation, after.tracked? = some generation →
        before.tracked? = some generation ∨ claims.holder? generation = some ticket)
  | leave (released : line = claims.release ticket) (unclaimed : after.claimed? = none)
  /-- Whatever was claimed is given up for a new place at the end of a line. -/
  | join (generation : Nat) (joined : line = (claims.release ticket).claim generation ticket)
      (claimed : after.claimed? = some generation) (waits : after.tracked? = none)

section

variable {plan : Plan} {signals : Signals} {cells : SupervisorCells} {now ticket : Nat}
  {claims : Claims}

private theorem stay_slotMove (errand : Errand) : SlotMove ticket claims errand errand claims :=
  .keep rfl rfl fun _ tracked => .inl tracked

private theorem attempt_slotMove (before : Errand) {line : Claims} (notices : List Notice)
    (released : line = claims.release ticket) :
    SlotMove ticket claims before
      (.push plan (Push.attempt plan signals cells now ticket line notices).next.point)
      (Push.attempt plan signals cells now ticket line notices).claims := by
  have left : line.release ticket = claims.release ticket := by
    rw [released, Claims.release_release]
  unfold Push.attempt
  split
  · next session _ => exact .join session.generation (by rw [released]) rfl rfl
  · exact .leave left rfl
  · exact .leave left rfl

/-- A slot is granted only to the first in line, and only before a shutdown. -/
theorem first_of_granted {Event : Type} {shutdown granted : Event} {session : Session}
    (found : (if cells.isShutDown then some shutdown
      else if claims.holder? session.generation = some ticket then some granted
      else none) = some granted)
    (apart : shutdown ≠ granted) :
    cells.isShutDown = false ∧ claims.holder? session.generation = some ticket := by
  split at found
  · exact absurd (Option.some.inj found) apart
  · next up =>
    split at found
    · next first => exact ⟨Bool.eq_false_iff.mpr up, first⟩
    · cases found

private theorem push_slotMove {point : Push.Point} {event : Push.Event}
    (idle : (Errand.push plan point).claimed? = none → claims = claims.release ticket)
    (occurs : Push.Occurs plan cells claims now ticket point event) :
    SlotMove ticket claims (.push plan point)
      (.push plan (Push.react plan signals cells now ticket claims point event).next.point)
      (Push.react plan signals cells now ticket claims point event).claims := by
  cases point with
  | entry =>
      cases event with
      | begin =>
          simp only [Push.react, Push.begin]
          split
          · exact attempt_slotMove _ _ (idle rfl)
          · exact .leave rfl rfl
      | _ => exact stay_slotMove _
  | claiming session =>
      cases event with
      | shutdown => exact .leave rfl rfl
      | granted =>
          cases occurs with
          | interrupt found =>
              refine .keep rfl rfl fun generation tracked => .inr ?_
              cases tracked
              exact (first_of_granted found (by rintro ⟨⟩)).2
      | _ => exact stay_slotMove _
  | publishing session deadline =>
      cases event with
      | shutdown => exact .leave rfl rfl
      | replied reply =>
          cases reply with
          | ok answer => exact .keep rfl rfl fun _ tracked => .inl tracked
          | error error => exact .leave rfl rfl
      | expired => exact .leave rfl rfl
      | _ => exact stay_slotMove _
  | confirming session confirmation deadline =>
      cases event with
      | shutdown => exact .leave rfl rfl
      | confirmed outcome =>
          match outcome with
          | .ok .ack | .ok .notRequested | .error _ => exact .leave rfl rfl
          | .ok .nack => exact attempt_slotMove _ _ rfl
      | expired => exact attempt_slotMove _ _ rfl
      | _ => exact stay_slotMove _
  | pausing deadline =>
      cases event with
      | shutdown => exact .leave rfl rfl
      | expired => exact attempt_slotMove _ _ (idle rfl)
      | _ => exact stay_slotMove _
  | finished result => exact stay_slotMove _

private theorem handOff_slotMove {point : HandOff.Point} {event : HandOff.Event}
    (idle : (Errand.handOff plan point).claimed? = none → claims = claims.release ticket)
    (occurs : HandOff.Occurs plan cells claims now ticket point event) :
    SlotMove ticket claims (.handOff plan point)
      (.afterHandOff plan point
        (HandOff.react plan signals cells now ticket claims point event).next.point)
      (HandOff.react plan signals cells now ticket claims point event).claims := by
  cases point with
  | entry =>
      cases event with
      | begin =>
          simp only [HandOff.react, HandOff.begin]
          split
          · next session _ => exact .join session.generation (by rw [← idle rfl]) rfl rfl
          · exact .leave rfl rfl
      | _ => exact stay_slotMove _
  | claiming session =>
      cases event with
      | shutdown => exact .leave rfl rfl
      | granted =>
          cases occurs with
          | interrupt found =>
              refine .keep rfl rfl fun generation tracked => .inr ?_
              cases tracked
              exact (first_of_granted found (by rintro ⟨⟩)).2
      | _ => exact stay_slotMove _
  | publishing session deadline =>
      cases event with
      | shutdown => exact .leave rfl rfl
      | replied reply =>
          cases reply with
          | ok answer => exact .keep rfl rfl fun _ tracked => .inl tracked
          | error error => exact .leave rfl rfl
      | expired => exact .leave rfl rfl
      | _ => exact stay_slotMove _
  | finished result => exact stay_slotMove _

end

namespace SlotMove

variable {ticket other generation : Nat} {claims line : Claims} {before after : Errand}

private theorem mem_other_iff (move : SlotMove ticket claims before after line)
    (apart : other ≠ ticket) :
    ({ generation, ticket := other } : Claim) ∈ line ↔
      ({ generation, ticket := other } : Claim) ∈ claims := by
  cases move with
  | keep same claimed first => rw [same]
  | leave released unclaimed =>
      rw [released, Claims.mem_release]
      exact and_iff_left apart
  | join joined line claimed waits =>
      rw [line, Claims.claim, List.mem_append, Claims.mem_release, List.mem_singleton]
      constructor
      · rintro (⟨member, -⟩ | same)
        · exact member
        · exact absurd (congrArg Claim.ticket same) apart
      · exact fun member => .inl ⟨member, apart⟩

private theorem mem_own_iff (move : SlotMove ticket claims before after line)
    (own : ∀ generation, ({ generation, ticket } : Claim) ∈ claims ↔
      before.claimed? = some generation) :
    ({ generation, ticket } : Claim) ∈ line ↔ after.claimed? = some generation := by
  cases move with
  | keep same claimed first => rw [same, claimed, own]
  | leave released unclaimed => simp [released, Claims.mem_release, unclaimed]
  | join joined line claimed waits =>
      rw [line, Claims.claim, List.mem_append, Claims.mem_release, List.mem_singleton, claimed]
      simp [eq_comm]

private theorem holder_other (move : SlotMove ticket claims before after line)
    (apart : other ≠ ticket)
    (held : claims.holder? generation = some other) : line.holder? generation = some other := by
  cases move with
  | keep same claimed first => rw [same, held]
  | leave released unclaimed =>
      rw [released]
      exact Claims.holder?_release held apart
  | join joined line claimed waits =>
      rw [line]
      exact Claims.holder?_claim (Claims.holder?_release held apart) joined

private theorem holder_own (move : SlotMove ticket claims before after line)
    (own : ∀ generation, before.tracked? = some generation →
      claims.holder? generation = some ticket)
    (tracked : after.tracked? = some generation) : line.holder? generation = some ticket := by
  cases move with
  | keep same claimed first =>
      rw [same]
      exact (first generation tracked).elim (own generation) id
  | leave released unclaimed =>
      rw [Errand.claimed?_of_tracked? tracked] at unclaimed
      cases unclaimed
  | join joined line claimed waits =>
      rw [tracked] at waits
      cases waits

end SlotMove

/-! ## The slots of a crowd -/

/-- The claims are those of the callers, and whoever has a publish call or a
confirmation on a session comes first in the line for its slot. -/
structure Crowd.IsOrderly (crowd : Crowd) : Prop where
  claimed : ∀ generation ticket, ({ generation, ticket } : Claim) ∈ crowd.claims ↔
    ∃ caller, crowd.callers ticket = some caller ∧ caller.errand.claimed? = some generation
  first : ∀ ticket caller generation, crowd.callers ticket = some caller →
    caller.errand.tracked? = some generation →
    crowd.claims.holder? generation = some ticket
  drawn : ∀ ticket caller, crowd.callers ticket = some caller → ticket < crowd.arrivals

namespace Crowd.IsOrderly

variable {desk : Desk} {crowd after : Crowd} {ticket : Nat} {caller : Caller}

theorem initial : ({} : Crowd).IsOrderly where
  claimed := by simp
  first := nofun
  drawn := nofun

theorem own (orderly : crowd.IsOrderly) (present : crowd.callers ticket = some caller)
    (generation : Nat) :
    ({ generation, ticket } : Claim) ∈ crowd.claims ↔
      caller.errand.claimed? = some generation := by
  rw [orderly.claimed, present]
  simp

theorem idle (orderly : crowd.IsOrderly) (present : crowd.callers ticket = some caller)
    (unclaimed : caller.errand.claimed? = none) :
    crowd.claims = crowd.claims.release ticket := by
  refine (Claims.release_of_not_mem fun generation member => ?_).symm
  rw [orderly.own present, unclaimed] at member
  cases member

theorem move {successor : Caller} {line : Claims} (orderly : crowd.IsOrderly)
    (present : crowd.callers ticket = some caller)
    (move : SlotMove ticket crowd.claims caller.errand successor.errand line) :
    (crowd.put ticket (some successor) line).IsOrderly where
  claimed generation other := by
    rw [callers_put]
    split
    · next same =>
      subst same
      simpa using move.mem_own_iff (orderly.own present)
    · next apart => exact (move.mem_other_iff apart).trans (orderly.claimed generation other)
  first other newcomer generation found tracked := by
    rw [callers_put] at found
    split at found
    · next same =>
      subst same
      cases found
      exact move.holder_own (fun former => orderly.first _ caller former present) tracked
    · next apart =>
      exact move.holder_other apart (orderly.first other newcomer generation found tracked)
  drawn other newcomer found := by
    rw [callers_put] at found
    split at found
    · next same =>
      subst same
      exact orderly.drawn other caller present
    · exact orderly.drawn other newcomer found

theorem dismiss (orderly : crowd.IsOrderly) (ticket : Nat) :
    (crowd.dismiss ticket).IsOrderly where
  claimed generation other := by
    rw [Crowd.dismiss, callers_put]
    refine Claims.mem_release.trans ?_
    split
    · next same => simp [same]
    · next apart => exact (and_iff_left apart).trans (orderly.claimed generation other)
  first other newcomer generation found tracked := by
    rw [Crowd.dismiss, callers_put] at found
    split at found
    · cases found
    · next apart =>
      exact Claims.holder?_release (orderly.first other newcomer generation found tracked) apart
  drawn other newcomer found := by
    rw [Crowd.dismiss, callers_put] at found
    split at found
    · cases found
    · exact orderly.drawn other newcomer found

private theorem claimed?_errand (desk : Desk) (request : Request) (id : MessageId) :
    (desk.errand request id).claimed? = none := by
  unfold Desk.errand
  split <;> rfl

theorem welcome (orderly : crowd.IsOrderly) (desk : Desk) (request : Request) :
    (crowd.welcome desk request).IsOrderly where
  claimed generation other := by
    have before := orderly.claimed generation other
    rw [callers_welcome]
    split
    · next same =>
      have fresh : crowd.callers other = none := by
        cases found : crowd.callers other with
        | none => rfl
        | some former => exact absurd (orderly.drawn other former found) (by omega)
      refine before.trans ?_
      simp [fresh, claimed?_errand]
    · exact before
  first other newcomer generation found tracked := by
    rw [callers_welcome] at found
    split at found
    · cases found
      have claimed := Errand.claimed?_of_tracked? tracked
      rw [claimed?_errand] at claimed
      cases claimed
    · exact orderly.first other newcomer generation found tracked
  drawn other newcomer found := by
    rw [callers_welcome] at found
    split at found
    · next same => exact same ▸ Nat.lt_succ_self _
    · exact Nat.lt_succ_of_lt (orderly.drawn other newcomer found)

theorem step (orderly : crowd.IsOrderly) (step : Step desk crowd after) : after.IsOrderly := by
  cases step with
  | around => exact ⟨orderly.claimed, orderly.first, orderly.drawn⟩
  | arrive request => exact orderly.welcome desk request
  | push ticket present occurs =>
      exact orderly.move present (push_slotMove (orderly.idle present) occurs)
  | handOff ticket present occurs =>
      exact orderly.move present (handOff_slotMove (orderly.idle present) occurs)
  | resolve | drop => exact orderly.dismiss _

end Crowd.IsOrderly

theorem isOrderly_of_reachable {desk : Desk} {crowd : Crowd} (reached : Reachable desk crowd) :
    crowd.IsOrderly := by
  induction reached with
  | refl => exact Crowd.IsOrderly.initial
  | tail _ step ih => exact ih.step step

namespace Crowd

variable {crowd : Crowd} {generation ticket : Nat}

theorem IsAlive.holder? (alive : crowd.IsAlive generation ticket) (orderly : crowd.IsOrderly) :
    crowd.claims.holder? generation = some ticket := by
  obtain ⟨caller, present, tracked | ⟨-, first⟩⟩ := alive
  · exact orderly.first ticket caller generation present tracked
  · exact first

private theorem isAlive_of_holder? (orderly : crowd.IsOrderly)
    (held : crowd.claims.holder? generation = some ticket) :
    crowd.IsAlive generation ticket := by
  obtain ⟨caller, present, claimed⟩ :=
    (orderly.claimed generation ticket).mp (Claims.mem_of_holder? held)
  rw [Errand.claimed?, Option.or_eq_some_iff] at claimed
  obtain waits | ⟨-, tracked⟩ := claimed
  · exact ⟨caller, present, .inr ⟨waits, held⟩⟩
  · exact ⟨caller, present, .inl tracked⟩

end Crowd

/-- The slot of a session is held exactly if one caller has a publish call or an
unresolved confirmation on it, or the slot to begin with. There is never more than
one of them, and nobody else keeps a claim but those who still wait. -/
theorem slot_held_iff_exists_unique_alive {desk : Desk} {crowd : Crowd}
    (reached : Reachable desk crowd) (generation : Nat) :
    ((crowd.claims.holder? generation).isSome = true ↔
        ∃! ticket, crowd.IsAlive generation ticket) ∧
      (∀ first second, crowd.IsAlive generation first → crowd.IsAlive generation second →
        first = second) ∧
      ∀ ticket, ({ generation, ticket } : Claim) ∈ crowd.claims →
        crowd.IsAlive generation ticket ∨
          ∃ caller, crowd.callers ticket = some caller ∧
            caller.errand.claiming? = some generation := by
  have orderly := isOrderly_of_reachable reached
  have alone (first second : Nat) (one : crowd.IsAlive generation first)
      (two : crowd.IsAlive generation second) : first = second :=
    Option.some.inj ((one.holder? orderly).symm.trans (two.holder? orderly))
  refine ⟨⟨?_, ?_⟩, alone, ?_⟩
  · intro held
    obtain ⟨ticket, holds⟩ := Option.isSome_iff_exists.mp held
    have alive := Crowd.isAlive_of_holder? orderly holds
    exact ⟨ticket, alive, fun other rival => alone other ticket rival alive⟩
  · rintro ⟨ticket, alive, -⟩
    exact Option.isSome_iff_exists.mpr ⟨ticket, alive.holder? orderly⟩
  · intro ticket member
    obtain ⟨caller, present, claimed⟩ := (orderly.claimed generation ticket).mp member
    rw [Errand.claimed?, Option.or_eq_some_iff] at claimed
    obtain waits | ⟨-, tracked⟩ := claimed
    · exact .inr ⟨caller, present, waits⟩
    · exact .inl ⟨caller, present, .inl tracked⟩

/-- A push writes its message while a hand-off waits for the slot. -/
theorem exists_contested_slot :
    ∃ crowd, Reachable oneDesk crowd ∧
      crowd.claims = [{ generation := 1, ticket := 0 }, { generation := 1, ticket := 1 }] ∧
      crowd.IsAlive 1 0 := by
  let pushing : Request := { content := .raw [], priority := 0 }
  let handing : Request := { content := .handOff [], priority := 0 }
  have arrived := (reachable_oneSession.tail (.arrive _ pushing)).tail (.arrive _ handing)
  have begun := arrived.tail (.push 0 rfl (.interrupt rfl))
  have waiting := begun.tail (.handOff 1 rfl (.interrupt rfl))
  have granted := waiting.tail (.push 0 rfl (.interrupt rfl))
  exact ⟨_, granted, rfl, _, rfl, .inl rfl⟩

theorem slot_held_iff_exists_unique_alive_contested :
    ∃ crowd, Reachable oneDesk crowd ∧ crowd.claims.holder? 1 = some 0 ∧
      ((crowd.claims.holder? 1).isSome = true ↔ ∃! ticket, crowd.IsAlive 1 ticket) := by
  obtain ⟨crowd, reached, line, -⟩ := exists_contested_slot
  exact ⟨crowd, reached, by simp [line, Claims.holder?],
    (slot_held_iff_exists_unique_alive reached 1).1⟩

end Publisher

end AmqpClient
