import AmqpClient.Proofs.Consumer.Settlement

/-!
# Settlements asked for in turn

The copies of a delivery are settled one after the other, each call being over before the
next one begins. The first caller is told what the broker makes of it. The flag is up by
then, and stays up if the broker refuses; so all later callers are told that all is well.
What they are told, and what the flag says, is true exactly if the broker has accepted the
first settlement.
-/

set_option autoImplicit false

namespace AmqpClient.Consumer.Custody

/-- A settlement that is asked for, and what the broker answers if it is told. -/
structure Asking where
  settler : Settler
  settlement : Settlement
  outcome : Except ClientError Unit

def ask (asking : Asking) (custody : Custody) : Custody :=
  let tried := custody.attempt asking.settler asking.settlement
  match (settle custody.isSettled asking.settlement).1 with
  | .answered => tried
  | .forwarded _ => tried.answer asking.settler asking.outcome

def askAll : List Asking → Custody → Custody
  | [], custody => custody
  | asking :: later, custody => askAll later (custody.ask asking)

namespace Mark

/-- What a caller was told, at once or by the broker. -/
def told? : Mark → Option (Except ClientError Unit)
  | .attempted attempt => attempt.answer?
  | .answered _ result => some result
  | .forwarded .. | .handled _ | .done => none

def outcome? : Mark → Option (Except ClientError Unit)
  | .answered _ result => some result
  | .attempted _ | .forwarded .. | .handled _ | .done => none

end Mark

def answers (custody : Custody) : List (Except ClientError Unit) :=
  custody.marks.filterMap Mark.told?

def outcomes (custody : Custody) : List (Except ClientError Unit) :=
  custody.marks.filterMap Mark.outcome?

/-- No caller was told of a success when the broker had accepted nothing. -/
def IsTruthful (custody : Custody) : Prop :=
  .ok () ∈ custody.answers → .ok () ∈ custody.outcomes

/-- The delivery counts as settled only if the broker has accepted a settlement. -/
def IsDulySettled (custody : Custody) : Prop :=
  custody.isSettled = true → .ok () ∈ custody.outcomes

section

variable {custody : Custody}

/-- The first call reaches the broker, whose answer is the caller's. -/
theorem ask_of_unsettled (asking : Asking) (unsettled : custody.isSettled = false) :
    (custody.ask asking).isSettled = true ∧
      (custody.ask asking).answers = custody.answers ++ [asking.outcome] ∧
      (custody.ask asking).outcomes = custody.outcomes ++ [asking.outcome] := by
  have asked : custody.ask asking =
      (custody.attempt asking.settler asking.settlement).answer asking.settler
        asking.outcome := by
    simp [ask, settle, unsettled]
  rw [asked, attempt_of_unsettled unsettled, claim_of_unsettled unsettled]
  refine ⟨rfl, ?_, ?_⟩
  · simp [answers, answer, giveUp, forward, List.filterMap_cons, Mark.told?]
  · simp [outcomes, answer, giveUp, forward, List.filterMap_cons, Mark.outcome?]

private theorem ask_of_isSettled (asking : Asking) (settled : custody.isSettled = true) :
    (custody.ask asking).isSettled = true ∧
      (custody.ask asking).answers = custody.answers ++ [.ok ()] ∧
      (custody.ask asking).outcomes = custody.outcomes := by
  have asked : custody.ask asking =
      custody.attempt asking.settler asking.settlement := by
    simp [ask, settle, settled]
  rw [asked, attempt_of_isSettled settled, claim_of_isSettled settled]
  refine ⟨settled, ?_, ?_⟩
  · simp [answers, Mark.told?]
  · simp [outcomes, List.filterMap_cons, Mark.outcome?]

private theorem askAll_of_isSettled (settled : custody.isSettled = true) (later : List Asking) :
    (custody.askAll later).isSettled = true ∧
      (custody.askAll later).answers = custody.answers ++ later.map (fun _ => .ok ()) ∧
      (custody.askAll later).outcomes = custody.outcomes := by
  induction later generalizing custody with
  | nil => exact ⟨settled, (List.append_nil _).symm, rfl⟩
  | cons asking later ih =>
      obtain ⟨kept, told, heard⟩ := ask_of_isSettled asking settled
      obtain ⟨lasting, answers, outcomes⟩ := ih kept
      refine ⟨lasting, ?_, outcomes.trans heard⟩
      rw [askAll, answers, told, List.append_assoc]
      rfl

/-- The broker answers the first of all calls; the others are told of a success whatever it
has answered. -/
theorem askAll_cons (pool : Pool) (first : Asking) (later : List Asking) :
    (({ pool } : Custody).askAll (first :: later)).isSettled = true ∧
      (({ pool } : Custody).askAll (first :: later)).answers =
        first.outcome :: later.map (fun _ => .ok ()) ∧
      (({ pool } : Custody).askAll (first :: later)).outcomes = [first.outcome] := by
  have unsettled : ({ pool } : Custody).isSettled = false := rfl
  obtain ⟨settled, told, heard⟩ := ask_of_unsettled first unsettled
  obtain ⟨lasting, answers, outcomes⟩ := askAll_of_isSettled settled later
  exact ⟨lasting, answers.trans (by rw [told]; rfl), outcomes.trans heard⟩

private theorem isTruthful_askAll_cons (pool : Pool) (first : Asking) (later : List Asking) :
    (({ pool } : Custody).askAll (first :: later)).IsTruthful ↔
      later = [] ∨ first.outcome = .ok () := by
  obtain ⟨-, answers, outcomes⟩ := askAll_cons pool first later
  unfold IsTruthful
  rw [answers, outcomes, List.mem_singleton]
  constructor
  · intro truthful
    cases later with
    | nil => exact .inl rfl
    | cons second later =>
        exact .inr (truthful (List.mem_cons_of_mem _ List.mem_cons_self)).symm
  · rintro (rfl | accepted) told
    · exact List.mem_singleton.mp told
    · exact accepted.symm

private theorem isDulySettled_askAll_cons (pool : Pool) (first : Asking) (later : List Asking) :
    (({ pool } : Custody).askAll (first :: later)).IsDulySettled ↔ first.outcome = .ok () := by
  obtain ⟨settled, -, outcomes⟩ := askAll_cons pool first later
  unfold IsDulySettled
  rw [outcomes, List.mem_singleton]
  exact ⟨fun duly => (duly settled).symm, fun accepted _ => accepted.symm⟩

end

theorem isTruthful_askAll_iff (pool : Pool) (askings : List Asking) :
    ((({ pool } : Custody).askAll askings).IsTruthful ↔
        askings.length ≤ 1 ∨ askings.head?.map (·.outcome) = some (.ok ())) ∧
      ((({ pool } : Custody).askAll askings).IsDulySettled ↔
        askings = [] ∨ askings.head?.map (·.outcome) = some (.ok ())) := by
  cases askings with
  | nil =>
      have quiet : ({ pool } : Custody).IsTruthful ∧ ({ pool } : Custody).IsDulySettled :=
        ⟨nofun, nofun⟩
      exact ⟨iff_of_true quiet.1 (.inl (Nat.zero_le 1)), iff_of_true quiet.2 (.inl rfl)⟩
  | cons first later =>
      rw [isTruthful_askAll_cons, isDulySettled_askAll_cons]
      simp [List.length_eq_zero_iff]

/-- The broker refuses to accept a delivery, and the holder of the copy tries once more. -/
def triedTwice : List Asking :=
  [{ settler := .holder 0, settlement := .ack, outcome := .error .ack },
    { settler := .holder 0, settlement := .ack, outcome := .error .ack }]

theorem success_told_after_refusal :
    ¬ ∀ (pool : Pool) (askings : List Asking),
      (({ pool } : Custody).askAll askings).IsTruthful := by
  intro truthful
  rcases (isTruthful_askAll_cons {} _ _).mp (truthful {} triedTwice) with alone | accepted
  · cases alone
  · cases accepted

end AmqpClient.Consumer.Custody
