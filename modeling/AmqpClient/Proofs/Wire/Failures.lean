import AmqpClient.Wire.Link

/-!
# Failures over a link

A link may fail an operation in any way. The call that is made of it then fails with the
one error that stands for the call. None of these errors comes from a configuration or
from a caller's data: all are transient.
-/

set_option autoImplicit false

namespace AmqpClient.Wire

private theorem isTransient_callFailure (fault : Fault) (call : Call) :
    (callFailure fault call).isTransient = true := by
  cases call <;> rfl

namespace Link

variable {σ : Type} (link : Link σ) {call : Call} {state : σ} {error : ClientError}

private theorem exists_fault_of_request {operation : Operation} {answer : Nat → Answer}
    (failed : (link.request call operation answer state).1 = .error error) :
    ∃ fault, error = callFailure fault call := by
  unfold request at failed
  dsimp only at failed
  split at failed
  · cases failed
  · next fault _ =>
    cases failed
    exact ⟨fault, rfl⟩

/-- A look-up may also fail for want of a channel of its own. -/
theorem exists_fault_of_lookUp {channel : Nat} {method : Method}
    (failed : (link.lookUp call channel method state).1 = .error error) :
    error = .channel ∨ ∃ fault, fault.isNotFound = false ∧ error = callFailure fault call := by
  unfold lookUp at failed
  dsimp only at failed
  split at failed
  · cases failed
    exact .inl rfl
  · simp only at failed
    unfold lookUpReply at failed
    split at failed
    · cases failed
    · next fault _ =>
      split at failed
      · cases failed
      · next known =>
        cases failed
        exact .inr ⟨fault, Bool.eq_false_iff.mpr known, rfl⟩

/-- Every call fails with the error that stands for it, or for want of a channel. -/
theorem exists_fault_of_perform (failed : (link.perform call state).1 = .error error) :
    error = .channel ∨ ∃ fault, error = callFailure fault call := by
  cases call with
  | queueExists channel queue | exchangeExists channel exchange kind =>
      rcases link.exists_fault_of_lookUp failed with scarce | ⟨fault, -, same⟩
      · exact .inl scarce
      · exact .inr ⟨fault, same⟩
  | closeChannel channel | closeConnection connection =>
      unfold perform at failed
      dsimp only at failed
      split at failed
      · exact .inr (link.exists_fault_of_request failed)
      · cases failed
  | _ => exact .inr (link.exists_fault_of_request failed)

private theorem isTransient_of_perform (failed : (link.perform call state).1 = .error error) :
    error.isTransient = true := by
  rcases link.exists_fault_of_perform failed with rfl | ⟨fault, rfl⟩
  · rfl
  · exact isTransient_callFailure fault call

end Link

/-! ## What may come over a link -/

/-- The reply is that of some link in some state. -/
def Brings (call : Call) (reply : Reply) : Prop :=
  ∃ (σ : Type) (link : Link σ) (state : σ), (link.perform call state).1 = reply

def BringsConfirmation (outcome : Except ClientError Confirmation) : Prop :=
  ∃ told, confirmationOutcome told = outcome

def BringsItem (item : Except ClientError Delivery) : Prop :=
  ∃ told, streamOutcome told = item

section

variable {call : Call} {error : ClientError}

theorem Brings.isTransient (brings : Brings call (.error error)) : error.isTransient = true := by
  obtain ⟨σ, link, state, failed⟩ := brings
  exact link.isTransient_of_perform failed

theorem BringsConfirmation.isTransient (brings : BringsConfirmation (.error error)) :
    error.isTransient = true := by
  obtain ⟨told, failed⟩ := brings
  cases told with
  | ok confirmation => cases failed
  | error fault =>
      cases failed
      rfl

theorem BringsItem.isTransient (brings : BringsItem (.error error)) :
    error.isTransient = true := by
  obtain ⟨told, failed⟩ := brings
  cases told with
  | ok delivery => cases failed
  | error fault =>
      cases failed
      rfl

/-- Any fault may meet a dial. -/
theorem brings_connection (endpoint : Endpoint) (fault : Fault) :
    Brings (.connect endpoint) (.error .connection) := by
  let link : Link Unit :=
    { run := fun _ state => (.error fault, state)
      connectionOf := fun _ _ => 0
      isConnectionOpen := fun _ _ => false
      isChannelOpen := fun _ _ => false }
  exact ⟨Unit, link, (), rfl⟩

end

end AmqpClient.Wire
