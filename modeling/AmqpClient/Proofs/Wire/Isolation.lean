import AmqpClient.Wire.Network

/-!
# Channels of a network kept apart

What is done on one channel of a network, or to open another one, leaves every other channel as
it is, its state and its close cell among it, unless the connection of that channel ends.
-/

set_option autoImplicit false

namespace AmqpClient.Wire

/-- The channel that an operation is on. -/
def Operation.channel? : Operation → Option Nat
  | .invoke channel _ => some channel
  | .dial _ | .openChannel _ | .closeConnection _ => none

namespace Network

/-! ## Numbered members -/

section

variable {α : Type} {members : List α} {member old : α} {number other : Nat}

private theorem ne_zero_of_numbered? (found : numbered? members number = some member) :
    number ≠ 0 := by
  rintro rfl
  cases found

private theorem numbered?_of_ne_zero (nonzero : number ≠ 0) :
    numbered? members number = members[number - 1]? :=
  if_neg nonzero

private theorem numbered?_set_self (found : numbered? members number = some old) :
    numbered? (members.set (number - 1) member) number = some member := by
  have nonzero := ne_zero_of_numbered? found
  rw [numbered?_of_ne_zero nonzero] at found ⊢
  obtain ⟨within, -⟩ := List.getElem?_eq_some_iff.mp found
  exact List.getElem?_set_self within

private theorem numbered?_set_of_ne (found : numbered? members other = some old)
    (apart : number ≠ other) :
    numbered? (members.set (other - 1) member) number = numbered? members number := by
  have nonzero := ne_zero_of_numbered? found
  unfold numbered?
  split
  · rfl
  · exact List.getElem?_set_ne (by omega)

private theorem numbered?_append (found : numbered? members number = some member) (added : List α) :
    numbered? (members ++ added) number = some member := by
  have nonzero := ne_zero_of_numbered? found
  rw [numbered?_of_ne_zero nonzero] at found ⊢
  obtain ⟨within, -⟩ := List.getElem?_eq_some_iff.mp found
  rw [List.getElem?_append_left within, found]

end

/-! ## A channel and its connection -/

/-- A channel is as it was, or its connection is over. -/
inductive Stands (id : Nat) (channel : Channel) (network : Network) : Prop where
  | kept (found : network.channel? id = some channel)
  | lost {other : Channel} {connection : Connection} (found : network.channel? id = some other)
      (same : other.connection = channel.connection)
      (known : network.connection? channel.connection = some connection)
      (isOver : connection.state ≠ .connected)

variable {id : Nat} {channel : Channel} {network after : Network}

private theorem Stands.exists_channel? (stands : Stands id channel network) :
    ∃ other, network.channel? id = some other ∧ other.connection = channel.connection := by
  cases stands with
  | kept found => exact ⟨channel, found, rfl⟩
  | lost found same _ _ => exact ⟨_, found, same⟩

theorem Stands.of_eq (stands : Stands id channel network)
    (channels : after.channels = network.channels)
    (connections : after.connections = network.connections) : Stands id channel after := by
  cases stands with
  | kept found => exact .kept (by rw [channel?, channels]; exact found)
  | lost found same known isOver =>
      refine .lost ?_ same ?_ isOver
      · rw [channel?, channels]
        exact found
      · rw [connection?, connections]
        exact known

@[simp] theorem channels_receive (frame : Frame) (network : Network) :
    (network.receive frame).2.channels = network.channels := by
  unfold receive
  dsimp only
  split <;> rfl

@[simp] theorem connections_receive (frame : Frame) (network : Network) :
    (network.receive frame).2.connections = network.connections := by
  unfold receive
  dsimp only
  split <;> rfl

theorem Stands.receive (stands : Stands id channel network) (frame : Frame) :
    Stands id channel (network.receive frame).2 :=
  stands.of_eq (channels_receive frame network) (connections_receive frame network)

/-! ## Ends of channels -/

section

variable {other : Nat} {state : LinkState} {fault? : Option Fault}

@[simp] theorem connections_endChannel (other : Nat) (state : LinkState) (fault? : Option Fault)
    (network : Network) :
    (network.endChannel other state fault?).connections = network.connections := by
  unfold endChannel
  split
  · rfl
  · split <;> rfl

private theorem channel?_endChannel_of_ne (state : LinkState) (fault? : Option Fault)
    (network : Network)
    (apart : id ≠ other) :
    (network.endChannel other state fault?).channel? id = network.channel? id := by
  unfold endChannel
  split
  · rfl
  · next found =>
    split
    · rfl
    · exact numbered?_set_of_ne found apart

private theorem exists_channel?_endChannel (other : Nat) (state : LinkState) (fault? : Option Fault)
    (found : network.channel? id = some channel) :
    ∃ ended, (network.endChannel other state fault?).channel? id = some ended ∧
      ended.connection = channel.connection := by
  by_cases apart : id = other
  · subst apart
    unfold endChannel
    rw [found]
    dsimp only
    split
    · exact ⟨channel, found, rfl⟩
    · exact ⟨_, numbered?_set_self found, rfl⟩
  · exact ⟨channel, (channel?_endChannel_of_ne state fault? network apart).trans found, rfl⟩

theorem Stands.endChannel (stands : Stands id channel network) (apart : id ≠ other) :
    Stands id channel (network.endChannel other state fault?) := by
  have spared := channel?_endChannel_of_ne state fault? network apart
  cases stands with
  | kept found => exact .kept (spared.trans found)
  | lost found same known isOver =>
      refine .lost (spared.trans found) same ?_ isOver
      rw [connection?, connections_endChannel]
      exact known

/-! ## Ends of connections -/

/-- Ends those of some channels that are on a connection. -/
def endChannelsOf (id : Nat) (state : LinkState) (fault? : Option Fault) (network : Network)
    (indices : List Nat) : Network :=
  indices.foldl
    (fun network index =>
      if network.connectionOf (index + 1) = id then network.endChannel (index + 1) state fault?
      else network)
    network

private theorem connections_endChannelsOf (connection : Nat) (state : LinkState)
    (fault? : Option Fault)
    (network : Network) (indices : List Nat) :
    (network.endChannelsOf connection state fault? indices).connections = network.connections := by
  induction indices generalizing network with
  | nil => rfl
  | cons index indices ih =>
      rw [endChannelsOf, List.foldl_cons]
      refine (ih _).trans ?_
      split
      · exact connections_endChannel _ _ _ _
      · rfl

private theorem exists_channel?_endChannelsOf (connection : Nat) (state : LinkState)
    (fault? : Option Fault) (indices : List Nat) (found : network.channel? id = some channel) :
    ∃ ended, (network.endChannelsOf connection state fault? indices).channel? id = some ended ∧
      ended.connection = channel.connection := by
  induction indices generalizing network channel with
  | nil => exact ⟨channel, found, rfl⟩
  | cons index indices ih =>
      rw [endChannelsOf, List.foldl_cons]
      split
      · obtain ⟨ended, found', same⟩ := exists_channel?_endChannel (index + 1) state fault? found
        obtain ⟨last, foundLast, sameLast⟩ := ih found'
        exact ⟨last, foundLast, sameLast.trans same⟩
      · exact ih found

private theorem connectionOf_of_channel? (found : network.channel? id = some channel) :
    network.connectionOf id = channel.connection := by
  rw [connectionOf, found]
  rfl

/-- A channel on another connection is left alone. -/
theorem channel?_endChannelsOf {connection : Nat} {indices : List Nat}
    (found : network.channel? id = some channel) (apart : channel.connection ≠ connection) :
    (network.endChannelsOf connection state fault? indices).channel? id = some channel := by
  induction indices generalizing network with
  | nil => exact found
  | cons index indices ih =>
      rw [endChannelsOf, List.foldl_cons]
      split
      · next onIt =>
        refine ih ((channel?_endChannel_of_ne state fault? network ?_).trans found)
        rintro rfl
        exact apart ((connectionOf_of_channel? found).symm.trans onIt)
      · exact ih found

theorem Stands.endConnection {connection : Nat} (stands : Stands id channel network)
    (ends : state ≠ .connected) :
    Stands id channel (network.endConnection connection state fault?) := by
  unfold Network.endConnection
  split
  · exact stands
  · next present known =>
    split
    · exact stands
    · change Stands id channel (endChannelsOf connection state fault? _ _)
      by_cases same : channel.connection = connection
      · obtain ⟨other, found, sameConnection⟩ := stands.exists_channel?
        let dropped : Connection := { present with state, cell := endCell fault? present.cell }
        let base : Network :=
          { network with connections := network.connections.set (connection - 1) dropped }
        have foundBase : base.channel? id = some other := found
        obtain ⟨ended, foundEnded, sameEnded⟩ := exists_channel?_endChannelsOf connection state
          fault? (List.range network.channels.length) foundBase
        have isKnown : (base.endChannelsOf connection state fault?
            (List.range network.channels.length)).connection? channel.connection = some dropped := by
          rw [connection?, connections_endChannelsOf, same]
          exact numbered?_set_self known
        exact .lost foundEnded (sameEnded.trans sameConnection) isKnown ends
      · cases stands with
        | kept found => exact .kept (channel?_endChannelsOf found same)
        | lost found sameConnection knownOwn isOver =>
            refine .lost (channel?_endChannelsOf found (sameConnection ▸ same)) sameConnection ?_
              isOver
            rw [connection?, connections_endChannelsOf]
            exact (numbered?_set_of_ne known same).trans knownOwn

theorem Stands.refuse (stands : Stands id channel network) (apart : id ≠ other)
    (refusal : Refusal) : Stands id channel (network.refuse other refusal) := by
  cases refusal with
  | closeChannel number text => exact stands.endChannel apart
  | closeConnection number text => exact stands.endConnection nofun
  | hangUp => exact stands.endConnection nofun

theorem Stands.refuseIf (stands : Stands id channel network) (apart : id ≠ other)
    (refusal? : Option Refusal) : Stands id channel (network.refuseIf other refusal?) := by
  cases refusal? with
  | none => exact stands
  | some refusal => exact stands.refuse apart refusal

end

/-! ## Operations -/

private theorem Stands.setConnection {connection : Nat} {present : Connection}
    (stands : Stands id channel network) (changed : Connection)
    (known : network.connection? connection = some present) (isOpen : present.state = .connected) :
    Stands id channel
      { network with connections := network.connections.set (connection - 1) changed } := by
  cases stands with
  | kept found => exact .kept found
  | lost found same knownOwn isOver =>
      refine .lost found same ?_ isOver
      refine (numbered?_set_of_ne known ?_).trans knownOwn
      intro own
      rw [own] at knownOwn
      cases known.symm.trans knownOwn
      exact isOver isOpen

theorem Stands.shakeHands (stands : Stands id channel network) (methods : List Method) :
    Stands id channel (network.shakeHands methods).2 := by
  induction methods generalizing network with
  | nil => exact stands
  | cons method methods ih =>
      unfold Network.shakeHands
      dsimp only
      split
      · exact stands.receive _
      · exact ih (stands.receive _)

theorem Stands.dial (stands : Stands id channel network) (endpoint : Endpoint) :
    Stands id channel (network.dial endpoint).2 := by
  unfold Network.dial
  split
  · have shaken := stands.shakeHands (Method.handshake endpoint)
    dsimp only
    split
    · exact shaken
    · cases shaken with
      | kept found => exact .kept found
      | lost found same known isOver => exact .lost found same (numbered?_append known _) isOver
  · exact stands

theorem Stands.openChannel (stands : Stands id channel network) (connection : Nat) :
    Stands id channel (network.openChannel connection).2 := by
  unfold Network.openChannel
  split
  · exact stands
  · next present known =>
    split
    · exact stands
    · next isOpen =>
      dsimp only
      let counted : Connection := { present with channelCount := present.channelCount + 1 }
      have received := (stands.setConnection counted known (Decidable.not_not.mp isOpen)).receive
        { channel := present.channelCount + 1, method := .openChannel }
      split
      · exact received.endConnection nofun
      · cases received with
        | kept found => exact .kept (numbered?_append found _)
        | lost found same known isOver => exact .lost (numbered?_append found _) same known isOver

theorem Stands.carryOut {other : Nat} {member : Channel} {behaviour : Behaviour}
    (stands : Stands id channel network) (apart : id ≠ other)
    (found : network.channel? other = some member) (method : Method) :
    Stands id channel (network.carryOut other member method behaviour).2 := by
  have refused (refusal : Refusal) := stands.refuse apart refusal
  unfold Network.carryOut
  cases method with
  | closeChannel =>
      dsimp only
      split
      · exact refused _
      · exact stands.endChannel apart
  | selectConfirm =>
      dsimp only
      split
      · exact refused _
      · cases stands with
        | kept foundOwn => exact .kept ((numbered?_set_of_ne found apart).trans foundOwn)
        | lost foundOwn same known isOver =>
            exact .lost ((numbered?_set_of_ne found apart).trans foundOwn) same known isOver
  | publish message =>
      refine Stands.refuseIf ?_ apart _
      exact stands.of_eq rfl rfl
  | consume queue tag =>
      dsimp only
      split
      · exact refused _
      · refine Stands.refuseIf ?_ apart _
        exact stands.of_eq rfl rfl
  | settle tag settlement => exact stands.refuseIf apart _
  | header | startOk | openConnection | closeConnection | openChannel | declareQueue
  | declareExchange | bindQueue | qos =>
      dsimp only
      split
      · exact refused _
      · exact stands

theorem Stands.invoke {other : Nat} (stands : Stands id channel network) (apart : id ≠ other)
    (method : Method) : Stands id channel (network.invoke other method).2 := by
  unfold Network.invoke
  split
  · exact stands
  · next member found =>
    split
    · exact stands
    · refine (stands.receive _).carryOut apart ?_ method
      rw [channel?, channels_receive]
      exact found

theorem Stands.closeConnection (stands : Stands id channel network) (connection : Nat) :
    Stands id channel (network.closeConnection connection).2 := by
  unfold Network.closeConnection
  split
  · exact stands
  · split
    · exact stands
    · dsimp only
      split
      · exact (stands.receive _).endConnection nofun
      · exact (stands.receive _).endConnection nofun

/-- No operation off a channel does anything to it but by the end of its connection. -/
theorem Stands.run (stands : Stands id channel network) {operation : Operation}
    (aside : operation.channel? ≠ some id) : Stands id channel (network.run operation).2 := by
  cases operation with
  | dial endpoint => exact stands.dial endpoint
  | openChannel connection => exact stands.openChannel connection
  | invoke other method =>
      exact stands.invoke (fun same => aside (congrArg some same.symm)) method
  | closeConnection connection => exact stands.closeConnection connection

/-- A channel that is opened is none of those that are there. -/
theorem ne_of_openChannel {connection scratch : Nat} (found : network.channel? id = some channel)
    (opened : (network.openChannel connection).1 = .ok scratch) : scratch ≠ id := by
  have within : id - 1 < network.channels.length := by
    have listed := (numbered?_of_ne_zero (ne_zero_of_numbered? found)).symm.trans found
    exact (List.getElem?_eq_some_iff.mp listed).1
  unfold Network.openChannel at opened
  split at opened
  · cases opened
  · split at opened
    · cases opened
    · dsimp only at opened
      split at opened
      · cases opened
      · cases opened
        rw [channels_receive]
        dsimp only
        omega

end Network

end AmqpClient.Wire
