import Aurum.Node.Broadcast
import Aurum.Node.Honesty

/-!
# Join and leave requests

A node sends join and leave requests on its TCP sessions by
`broadcast_to_nodes` only: the other requests it builds are no joins or leaves,
and a reply starts with a response.  What is passed to `broadcast_to_nodes` is
sent on one session of every node that is linked.
-/

namespace Aurum.Node

open Aurum.Protocol
open Aurum.Container
open Aurum.Replication
open Aurum.Wire

/-- The join and leave requests passed to `broadcast_to_nodes`, in order. -/
def State.announced (state : State) : List (Op Uuid) :=
  state.broadcast.filterMap Cluster.opOf

/-- The join and leave requests among some messages that are sent on a TCP
session, in order. -/
def requests (ref : Ref) (sent : List (Ref × Bytes)) : List (Op Uuid) :=
  (sent.filter fun message => message.1 = ref).filterMap fun message => Cluster.opOf message.2

theorem requests_append (ref : Ref) (sent more : List (Ref × Bytes)) :
    requests ref (sent ++ more) = requests ref sent ++ requests ref more := by
  rw [requests, List.filter_append, List.filterMap_append]
  rfl

/-- Of a request sent to some sessions, one has as many as it is among them. -/
theorem requests_map {op : Op Uuid} {data : Bytes} (carries : Cluster.opOf data = some op)
    (ref : Ref) (targets : List Ref) :
    requests ref (targets.map fun target => (target, data)) =
      List.replicate (targets.count ref) op := by
  induction targets with
  | nil => rfl
  | cons target targets ih =>
      rw [requests] at ih
      rw [requests, List.map_cons, List.filter_cons, List.count_cons]
      by_cases same : target = ref
      · simp [same, carries, ih, List.replicate_succ]
      · simp [same, ih]

/-- The message carries neither a join nor a leave request. -/
def Requestless (message : Bytes) : Prop :=
  Cluster.opOf message = none

instance : DecidablePred Requestless := fun message =>
  inferInstanceAs (Decidable (Cluster.opOf message = none))

/-! ## Messages without a request -/

theorem requestless_of_head {message : Bytes}
    (other : ∀ first others, Kernel.dispatched (message.drop 4) = first :: others →
      first.type = .response ∨
        first.opcode ≠ OpCode.join.byte ∧ first.opcode ≠ OpCode.leave.byte) :
    Requestless message := by
  cases carried : Cluster.opOf message with
  | none => exact carried
  | some op =>
      exfalso
      rcases Cluster.opOf_eq_some_iff.mp carried with ⟨first, only, opcode, request, _⟩
      rcases other first [] only with response | ⟨notJoin, notLeave⟩
      · exact request response
      · cases op with
        | join id => exact notJoin opcode
        | leave id => exact notLeave opcode

/-- Whatever piece is cut off the front of a sub-message and what follows it, it
carries the type of the sub-message. -/
theorem type_of_cut {message first : Submessage} {lengths : List Nat} {pieces : List Bytes}
    {rest : Bytes} (piece : (cut 18 lengths (message.bytes ++ rest)).1 = first.bytes :: pieces) :
    first.type = message.type := by
  cases lengths with
  | nil => cases piece
  | cons length lengths =>
      by_cases fits : length ≤ (message.bytes ++ rest).length ∧ 18 ≤ length
      · rw [cut_cons_of_fits fits] at piece
        obtain ⟨more, rfl⟩ := Nat.exists_eq_add_of_le (Nat.le_trans (by decide : 2 ≤ 18) fits.2)
        rw [Nat.add_comm, Submessage.bytes, Submessage.bytes, List.cons_append, List.cons_append,
          List.take_succ_cons, List.take_succ_cons] at piece
        injection piece with same
        injection same with _ behind
        injection behind with byte
        rcases first with ⟨_, ⟨type⟩, _, _⟩
        exact congrArg MessageType.mk byte.symm
      · rw [cut_cons_of_not_fits fits] at piece
        cases piece

/-- The first sub-message that a serialized queue is read as has the type of the
first one queued, whatever its length. -/
theorem type_of_dispatched {builder : BaseBuilder} {message first : Submessage}
    {behind : List Bytes} {others : List Submessage} {data : Bytes}
    (queue : builder.buffers = message.bytes :: behind)
    (built : builder.getData true = .ok data)
    (read : Kernel.dispatched (data.drop 4) = first :: others) : first.type = message.type := by
  have queued : builder.buffers ≠ [] := by
    rw [queue]
    exact List.cons_ne_nil _ _
  have fits : builder.Fits := by
    by_contra misfit
    rcases BaseBuilder.getData_of_not_fits queued misfit true with ⟨what, refused⟩
    rw [refused] at built
    cases built
  rw [BaseBuilder.getData_of_fits queued fits, if_pos rfl] at built
  cases built
  rw [List.drop_left' (Wire.LittleEndian.le32_length _)] at read
  have count : (builder.buffers.map fun buffer => UInt16.ofNat buffer.length).length < 65536 := by
    rw [List.length_map]
    exact Nat.lt_succ_of_le fits.1
  have pieces := (Kernel.dispatched_tabled builder.buffers.flatten count).1
  rw [← checksummed_frameBody, read, queue, List.flatten_cons, List.map_cons] at pieces
  exact type_of_cut pieces.symm

/-- A reply on a TCP session is read as a response first, even where a length
has been cut. -/
theorem requestless_of_replied {env : Environment} {frame : Bytes} {session : Ref}
    {state : State} {buffer : Bytes} (tcp : (state.memory session).type = .tcp)
    (replied : (handle env frame session state).outcome = .replied buffer) :
    Requestless buffer := by
  rcases run_ok env session (Kernel.dispatched frame) {} state with ⟨builder, next, ran⟩
  obtain ⟨replies, inName, buffersEq⟩ := run_responds rfl ran
  have queue : queuedReplies env session frame state = replies.map Submessage.bytes := by
    rw [queuedReplies, ran]
    exact buffersEq
  have built := exists_replied tcp replied
  apply requestless_of_head
  intro first others read
  cases replies with
  | nil =>
      rw [queue, BaseBuilder.getData_nil rfl] at built
      cases built
      cases read
  | cons reply replies =>
      left
      rw [type_of_dispatched queue built read]
      exact (inName reply List.mem_cons_self).response

theorem voice_requestless (env : Environment) (node : Uuid) :
    Voice env node (fun _ => False) (OnTcp Requestless) where
  opening := by
    intro state withDiscovery connectionsPerNode data _ built _
    apply requestless_of_head
    intro first others read
    rw [dispatched_drop (state.openRequest_messages env withDiscovery connectionsPerNode)
      (state.openMessages_small env withDiscovery connectionsPerNode) built] at read
    cases read
    exact Or.inr ⟨(by decide : OpCode.identify.byte ≠ OpCode.join.byte),
      (by decide : OpCode.identify.byte ≠ OpCode.leave.byte)⟩
  leaving := fun _ _ _ withdrawn => withdrawn.elim

/-! ## Broadcasts -/

/-- Requests have been passed to `broadcast_to_nodes`, in order.  On a TCP session
no others have been sent, and these at most once and in order; each has been sent
to every node with a registered session, on some session with its node id. -/
structure Announces (ops : List (Op Uuid)) (state next : State) : Prop where
  recorded : next.announced = state.announced ++ ops
  sends : ∃ sends, next.sent = state.sent ++ sends ∧
    (∀ ref, (next.memory ref).type = .tcp → (requests ref sends).Sublist ops) ∧
    ∀ op ∈ ops, ∀ ref ∈ next.tcpRefs, ∃ sent ∈ sends, Cluster.opOf sent.2 = some op ∧
      (next.memory sent.1).type = .tcp ∧ (next.memory sent.1).nodeId = (next.memory ref).nodeId

namespace Announces

variable {ops more : List (Op Uuid)} {state middle next : State}

/-- Nothing has been broadcast, and no request has been sent. -/
theorem quiet (utters : Utters (OnTcp Requestless) state next)
    (broadcast : next.broadcast = state.broadcast) : Announces [] state next where
  recorded := by
    rw [State.announced, broadcast, List.append_nil]
    rfl
  sends := by
    rcases utters.said with ⟨said, sentEq, told⟩
    refine ⟨said, sentEq, ?_, fun op member => absurd member List.not_mem_nil⟩
    intro ref tcp
    have none : requests ref said = [] := by
      apply List.filterMap_eq_nil_iff.mpr
      intro message member
      rcases List.mem_filter.mp member with ⟨within, isRef⟩
      have sameRef : message.1 = ref := by simpa using isRef
      exact (told message within).2 (sameRef ▸ tcp)
    rw [none]

/-- What came before has neither broadcast nor sent anything. -/
theorem after (announces : Announces ops middle next) (sent : middle.sent = state.sent)
    (broadcast : middle.broadcast = state.broadcast) : Announces ops state next where
  recorded := by
    rw [announces.recorded, State.announced, broadcast, State.announced]
  sends := by
    rw [← sent]
    exact announces.sends

/-- One broadcast behind the other, if the second has not touched the sessions. -/
theorem trans (first : Announces ops state middle) (second : Announces more middle next)
    (same : ∀ ref, (next.memory ref).type = (middle.memory ref).type ∧
      (next.memory ref).nodeId = (middle.memory ref).nodeId)
    (fewer : ∀ ref ∈ next.tcpRefs, ref ∈ middle.tcpRefs) : Announces (ops ++ more) state next where
  recorded := by
    rw [second.recorded, first.recorded, List.append_assoc]
  sends := by
    rcases first.sends with ⟨early, earlySent, earlyOnce, earlyReaches⟩
    rcases second.sends with ⟨late, lateSent, lateOnce, lateReaches⟩
    refine ⟨early ++ late, by rw [lateSent, earlySent, List.append_assoc], ?_, ?_⟩
    · intro ref tcp
      rw [requests_append]
      exact (earlyOnce ref ((same ref).1 ▸ tcp)).append (lateOnce ref tcp)
    · intro op member ref registered
      rcases List.mem_append.mp member with member | member
      · rcases earlyReaches op member ref (fewer ref registered) with
          ⟨sent, within, carries, tcp, sameNode⟩
        refine ⟨sent, List.mem_append_left _ within, carries, (same sent.1).1.trans tcp, ?_⟩
        rw [(same sent.1).2, (same ref).2]
        exact sameNode
      · rcases lateReaches op member ref registered with ⟨sent, within, reaches⟩
        exact ⟨sent, List.mem_append_right _ within, reaches⟩

/-- `broadcast_to_nodes` of the frame of one request. -/
theorem broadcastToNodes {op : Op Uuid} {data : Bytes} (carries : Cluster.opOf data = some op)
    (state : State) : Announces [op] state (state.broadcastToNodes data) := by
  rw [State.broadcastToNodes_eq]
  constructor
  · simp [State.announced, carries]
  · refine ⟨_, rfl, ?_, ?_⟩
    · intro ref _
      rw [requests_map carries]
      have distinct : (State.broadcastTargets state.memory state.sessions.refs []).Nodup :=
        (State.broadcastTargets_nodup state.memory state.sessions.refs []).of_map _
      exact (List.replicate_sublist_replicate op).mpr
        (List.nodup_iff_count_le_one.mp distinct ref)
    · intro other member ref registered
      rw [List.mem_singleton.mp member]
      rcases State.mem_tcpRefs_iff.mp registered with ⟨within, tcp⟩
      obtain ⟨target, chosen, targetTcp, same⟩ :=
        State.exists_broadcastTarget within tcp List.not_mem_nil
      exact ⟨(target, data), List.mem_map_of_mem chosen, carries, targetTcp, same⟩

end Announces

/-- The leaves broadcast by `disconnect()` of some sessions. -/
def leaves (state : State) (refs : List Ref) : List (Op Uuid) :=
  (refs.filter fun ref => (state.memory ref).type = .websocket).map fun ref =>
    .leave (state.memory ref).id

theorem leaves_append (state : State) (refs others : List Ref) :
    leaves state (refs ++ others) = leaves state refs ++ leaves state others := by
  simp [leaves]

/-- The leaves broadcast for existing sessions depend on their identity only. -/
theorem leaves_congr {state next : State} (same : SameIdentity state next) {refs : List Ref}
    (created : ∀ ref ∈ refs, ref < state.allocated) : leaves next refs = leaves state refs := by
  induction refs with
  | nil => rfl
  | cons ref refs ih =>
      rcases same ref (created ref List.mem_cons_self) with ⟨idEq, typeEq, _⟩
      have rest := ih fun other member => created other (List.mem_cons_of_mem ref member)
      unfold leaves at rest ⊢
      rw [List.filter_cons, List.filter_cons, typeEq]
      split
      · rw [List.map_cons, List.map_cons, idEq, rest]
      · exact rest

namespace Announces

variable {env : Environment} {state next : State}

theorem disconnectSession {ref : Ref} (created : ref < state.allocated)
    (step : state.disconnectSession env ref = .ok next) :
    Announces (leaves next [ref]) state next := by
  rcases Removes.disconnectSession step with ⟨_, same, _, _⟩
  rw [leaves_congr same (by simpa using created)]
  have shut : (state.closeStream ref).broadcast = state.broadcast := by
    unfold State.closeStream
    simp only
    split <;> rfl
  unfold State.disconnectSession at step
  split at step
  · rename_i tcp
    cases step
    have nothing : leaves state [ref] = [] := by
      simp [leaves, tcp]
    rw [nothing]
    exact quiet (.closeStream ref state) shut
  · rename_i websocket
    rcases Result.bind_eq_ok_iff.mp step with ⟨data, serialized, broadcast⟩
    cases broadcast
    have carries := (Cluster.opOf_addLeave serialized).2
    rw [State.closeStream_id] at carries
    have single : leaves state [ref] = [.leave (state.memory ref).id] := by
      simp [leaves, websocket]
    rw [single]
    exact (broadcastToNodes carries _).after (State.closeStream_sent ref state) shut

theorem removeSession (wellFormed : WellFormed state) {id : Uuid} {removed : Bool}
    (step : state.removeSession env id = .ok (removed, next)) :
    ∃ refs, Removes [id] refs state next ∧ Announces (leaves next refs) state next := by
  rcases Removes.removeSession_cases step with rfl | ⟨entry, member, rfl, disconnected⟩
  · exact ⟨[], Removes.none _ _, quiet (.refl _) rfl⟩
  · have created : entry.elem < ({ state with
        sessions := state.sessions.eraseById entry.key.id } : State).allocated :=
      wellFormed.allocated entry member
    exact ⟨[entry.elem], Removes.single wellFormed member disconnected,
      (disconnectSession created disconnected).after rfl rfl⟩

/-- What the removal of sessions takes out of the registry, and that exactly
the leaves for it are broadcast. -/
theorem removeSessions {ids : List Uuid} (wellFormed : WellFormed state)
    (step : state.removeSessions env ids = .ok next) :
    ∃ refs, Removes ids refs state next ∧ Announces (leaves next refs) state next := by
  induction ids generalizing state with
  | nil =>
      cases step
      exact ⟨[], Removes.none _ _, quiet (.refl _) rfl⟩
  | cons id ids ih =>
      rcases Result.bind_eq_ok_iff.mp step with ⟨⟨removed, middle⟩, first, rest⟩
      obtain ⟨refs, firstRemoves, firstAnnounces⟩ := removeSession wellFormed first
      obtain ⟨others, restRemoves, restAnnounces⟩ :=
        ih ((closed_wellFormed env).removeSession first wellFormed) rest
      have created : ∀ ref ∈ refs, ref < middle.allocated := by
        intro ref member
        rcases firstRemoves.removed ref member with ⟨entry, registered, isRef, _⟩
        rw [firstRemoves.allocated, ← isRef]
        exact wellFormed.allocated entry registered
      have changed := OnlyOpenness.removeSessions rest
      have same : ∀ ref, (next.memory ref).type = (middle.memory ref).type ∧
          (next.memory ref).nodeId = (middle.memory ref).nodeId := by
        intro ref
        rw [changed.memory ref]
        exact ⟨rfl, rfl⟩
      refine ⟨refs ++ others, firstRemoves.trans restRemoves, ?_⟩
      rw [leaves_append, leaves_congr restRemoves.same created]
      apply firstAnnounces.trans restAnnounces same
      intro ref registered
      rcases State.mem_tcpRefs_iff.mp registered with ⟨within, tcp⟩
      rcases List.mem_map.mp within with ⟨entry, filed, rfl⟩
      exact State.mem_tcpRefs_iff.mpr ⟨List.mem_map_of_mem (restRemoves.registered entry filed).1,
        (same entry.elem).1.symm.trans tcp⟩

/-- A finished handshake broadcasts the join of its session. -/
theorem greet {ref : Ref} (step : state.onAccept env ref false = .ok next) :
    Descends state next ∧ Announces [.join (state.memory ref).id] state next := by
  rcases Result.bind_eq_ok_iff.mp step with ⟨data, serialized, broadcast⟩
  cases broadcast
  have opened := Descends.update state ref (fun session => { session with isOpen := true })
    (fun _ => ⟨rfl, rfl, rfl⟩)
  have carries := (Cluster.opOf_addJoin serialized).2
  have idEq : ((state.setOpen ref true).memory ref).id = (state.memory ref).id := by
    rw [State.setOpen, State.update_memory_self]
  rw [idEq] at carries
  refine ⟨?_, (broadcastToNodes carries _).after rfl rfl⟩
  rw [State.broadcastToNodes_eq]
  exact opened.trans (Descends.of_eq rfl rfl rfl rfl)

end Announces

/-! ## Events without a broadcast -/

section Quiet

variable {env : Environment} {state next : State}

/-- No handler broadcasts. -/
theorem Effect.broadcast {session : Ref} {message : Submessage}
    (effect : Effect env session message state next) : next.broadcast = state.broadcast := by
  cases effect with
  | discovered next opcode response visited => exact (Links.visitAll visited).broadcast
  | _ => rfl

theorem acceptWebsocket_announces :
    Announces [] state (state.acceptWebsocket env) := by
  apply Announces.quiet (.acceptWebsocket env state)
  rw [State.acceptWebsocket_eq]
  rfl

/-- Frames set off opening requests and replies only. -/
theorem receive_announces {ref : Ref} {frame : Bytes} (created : ref < state.allocated) :
    Announces [] state (state.receive env ref frame) := by
  apply Announces.quiet ((voice_requestless env state.nodeId).receive rfl created
    fun buffer replied tcp => requestless_of_replied tcp replied)
  have handled : (handle env frame ref state).state.broadcast = state.broadcast := by
    apply handle_keeps (fun after => after.broadcast = state.broadcast) _ rfl
    intro call member before
    rcases Kernel.mem_calls member with ⟨_, builder, result, invoked⟩
    exact (invoke_effect invoked).broadcast.trans before
  rcases exists_receive_eq env ref frame state with ⟨sent, received⟩
  rw [received]
  exact handled

end Quiet

end Aurum.Node
