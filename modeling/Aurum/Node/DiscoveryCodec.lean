import Aurum.Node.Frames
import Mathlib.Algebra.Order.BigOperators.Group.List

/-!
# Discovery responses on the wire

`add_discovery` writes the records of all endpoints first and their hosts
behind them; the handler expects every host right behind its record.  What is
read back is the list written exactly when the two layouts are the same bytes.
-/

namespace Aurum.Node

open Aurum.Protocol
open Aurum.Wire
open Aurum.Wire.LittleEndian

/-- The layout the handler reads: every record followed by its host. -/
def interleaved (nodes : List Endpoint) : Bytes :=
  nodes.flatMap fun node => node.record ++ node.host

/-- Behind the first record and up to the last host, the later records
followed by the earlier hosts read like hosts and records in turn. -/
def LayoutsAgree (nodes : List Endpoint) : Prop :=
  nodes.flatMap Endpoint.record ++ nodes.flatMap Endpoint.host = interleaved nodes

instance (nodes : List Endpoint) : Decidable (LayoutsAgree nodes) :=
  inferInstanceAs (Decidable (_ = _))

namespace Handlers

/-! ## Reading what is interleaved -/

theorem readEndpoint_append {front back : Bytes} {node : Endpoint} {offset : Nat}
    (offsetEq : offset = front.length) (short : node.host.length ≤ 65535) :
    readEndpoint (front ++ (node.record ++ (node.host ++ back))) offset =
      .ok (some (node, offset + 4 + node.host.length)) := by
  rcases node with ⟨host, port⟩
  subst offsetEq
  have hostSize : (UInt16.ofNat host.length).toNat = host.length :=
    UInt16.toNat_ofNat_of_lt' (Nat.lt_succ_of_le short)
  have portRead : readU16 (front ++ (le16 port ++ (le16 (UInt16.ofNat host.length) ++
      (host ++ back)))) front.length = .ok port :=
    readU16_append front _ port rfl
  have sizeRead : readU16 (front ++ (le16 port ++ (le16 (UInt16.ofNat host.length) ++
      (host ++ back)))) (front.length + 2) = .ok (UInt16.ofNat host.length) := by
    have read := readU16_append (front ++ le16 port) (host ++ back)
      (UInt16.ofNat host.length) rfl
    rwa [List.append_assoc, List.length_append, le16_length] at read
  have hostRead : readBytes (front ++ (le16 port ++ (le16 (UInt16.ofNat host.length) ++
      (host ++ back)))) (front.length + 4) host.length = .ok host := by
    have read := readBytes_append (front ++ (le16 port ++ le16 (UInt16.ofNat host.length)))
      host back rfl rfl
    simpa [List.append_assoc] using read
  have inside : (front ++ (le16 port ++ (le16 (UInt16.ofNat host.length) ++
      (host ++ back)))).length = front.length + 4 + host.length + back.length := by
    simp only [List.length_append, le16_length]
    omega
  rw [Endpoint.record, List.append_assoc]
  simp only
  rw [readEndpoint, if_neg (by omega)]
  simp only [portRead, sizeRead, hostSize, hostRead, bind, Except.bind]
  rw [if_neg (by omega)]
  rfl

/-- The interleaved layout is read back. -/
theorem readEndpoints_interleaved (front back : Bytes) {nodes : List Endpoint} {offset : Nat}
    (offsetEq : offset = front.length) (short : ∀ node ∈ nodes, node.host.length ≤ 65535) :
    readEndpoints (front ++ (interleaved nodes ++ back)) nodes.length offset = nodes := by
  induction nodes generalizing front offset with
  | nil => rfl
  | cons node nodes ih =>
      have split : front ++ (interleaved (node :: nodes) ++ back) =
          front ++ (node.record ++ (node.host ++ (interleaved nodes ++ back))) := by
        simp only [interleaved, List.flatMap_cons, List.append_assoc]
      have shifted : front ++ (node.record ++ (node.host ++ (interleaved nodes ++ back))) =
          (front ++ (node.record ++ node.host)) ++ (interleaved nodes ++ back) := by
        simp only [List.append_assoc]
      have nextEq : offset + 4 + node.host.length =
          (front ++ (node.record ++ node.host)).length := by
        simp only [List.length_append, Endpoint.record_length]
        omega
      have rest := ih (front ++ (node.record ++ node.host)) nextEq fun other member =>
        short other (List.mem_cons_of_mem node member)
      rw [split, List.length_cons, readEndpoints,
        readEndpoint_append offsetEq (short node List.mem_cons_self)]
      simp only
      rw [shifted, rest]

/-! ## What was read was interleaved -/

theorem drop_eq_take_append (payload : Bytes) (offset count : Nat) :
    payload.drop offset = (payload.drop offset).take count ++ payload.drop (offset + count) := by
  rw [← List.drop_drop, List.take_append_drop]

/-- An endpoint that is read lies in the payload as its record and host. -/
theorem readEndpoint_sound {payload : Bytes} {offset next : Nat} {node : Endpoint}
    (read : readEndpoint payload offset = .ok (some (node, next))) :
    payload.drop offset = node.record ++ (node.host ++ payload.drop next) := by
  unfold readEndpoint at read
  split at read
  · cases read
  rename_i headed
  rw [readU16_of_le (by omega), readU16_of_le (by omega)] at read
  simp only [bind, Except.bind] at read
  split at read
  · cases read
  rename_i hosted
  rw [readBytes_of_le (by omega)] at read
  cases read
  have portWidth : ((payload.drop offset).take 2).length = 2 := by
    simp only [List.length_take, List.length_drop]
    omega
  have sizeWidth : ((payload.drop (offset + 2)).take 2).length = 2 := by
    simp only [List.length_take, List.length_drop]
    omega
  have hostWidth : ((payload.drop (offset + 4)).take
      (ofLe16 ((payload.drop (offset + 2)).take 2)).toNat).length =
        (ofLe16 ((payload.drop (offset + 2)).take 2)).toNat := by
    simp only [List.length_take, List.length_drop]
    omega
  rw [Endpoint.record, List.append_assoc]
  simp only
  rw [hostWidth, UInt16.ofNat_toNat, le16_ofLe16 portWidth, le16_ofLe16 sizeWidth,
    ← drop_eq_take_append, ← drop_eq_take_append payload (offset + 2) 2,
    ← drop_eq_take_append]

/-- Endpoints that are read as many as announced lie in the payload
interleaved. -/
theorem readEndpoints_sound {payload : Bytes} {remaining offset : Nat} {nodes : List Endpoint}
    (read : readEndpoints payload remaining offset = nodes) (all : nodes.length = remaining) :
    interleaved nodes <+: payload.drop offset := by
  induction remaining generalizing offset nodes with
  | zero =>
      cases List.length_eq_zero_iff.mp all
      exact List.nil_prefix
  | succ remaining ih =>
      obtain ⟨entry, entryEq⟩ := readEndpoint_ok payload offset
      rw [readEndpoints, entryEq] at read
      cases entry with
      | none =>
          subst read
          contradiction
      | some entry =>
          rcases entry with ⟨node, next⟩
          subst read
          have rest := ih rfl (Nat.succ_injective all)
          rw [readEndpoint_sound entryEq, interleaved, List.flatMap_cons, List.append_assoc]
          exact (List.prefix_append_right_inj _).mpr
            ((List.prefix_append_right_inj _).mpr rest)

end Handlers

/-! ## The payload of a response -/

/-- What `add_discovery` writes behind the heading. -/
def discoveryPayload (nodes : List Endpoint) : Bytes :=
  le32 (UInt32.ofNat nodes.length) ++
    (nodes.flatMap Endpoint.record ++ nodes.flatMap Endpoint.host)

theorem addDiscovery_buffers (builder : ResponseBuilder) (id : Uuid) (nodes : List Endpoint) :
    (builder.addDiscovery id nodes).buffers =
      builder.buffers ++ [heading OpCode.discovery.byte .response id ++ discoveryPayload nodes] :=
  rfl

theorem interleaved_length (nodes : List Endpoint) :
    (interleaved nodes).length = (nodes.map fun node => 4 + node.host.length).sum := by
  induction nodes with
  | nil => rfl
  | cons node nodes ih =>
      rw [interleaved] at ih ⊢
      rw [List.flatMap_cons, List.length_append, ih, List.length_append, Endpoint.record_length,
        List.map_cons, List.sum_cons]

theorem four_le_of_mem {nodes : List Endpoint} {node : Endpoint} (member : node ∈ nodes) :
    4 + node.host.length ≤ (nodes.map fun node => 4 + node.host.length).sum :=
  List.single_le_sum (fun _ _ => Nat.zero_le _) _
    (List.mem_map.mpr ⟨node, member, rfl⟩)

theorem four_mul_length_le (nodes : List Endpoint) :
    4 * nodes.length ≤ (nodes.map fun node => 4 + node.host.length).sum := by
  induction nodes with
  | nil => simp
  | cons node nodes ih =>
      rw [List.length_cons, List.map_cons, List.sum_cons]
      omega

/-- A list is read back exactly when its two layouts agree. -/
theorem listed_discoveryPayload_iff {nodes : List Endpoint} (id : Uuid)
    (small : (ResponseCall.discovery id nodes).size ≤ 65535) :
    Handlers.listed (discoveryPayload nodes) = nodes ↔ LayoutsAgree nodes := by
  rw [ResponseCall.size] at small
  have counted : (UInt32.ofNat nodes.length).toNat = nodes.length := by
    have few := four_mul_length_le nodes
    have within : nodes.length ≤ 65535 := by omega
    exact UInt32.toNat_ofNat_of_lt' (Nat.lt_of_le_of_lt within (by decide))
  have countRead : readU32 (discoveryPayload nodes) 0 = .ok (UInt32.ofNat nodes.length) :=
    readU32_append [] _ _ rfl
  have dropped : (discoveryPayload nodes).drop 4 =
      nodes.flatMap Endpoint.record ++ nodes.flatMap Endpoint.host :=
    List.drop_left' (le32_length _)
  rw [Handlers.listed, countRead]
  simp only
  rw [counted]
  constructor
  · intro read
    have found := Handlers.readEndpoints_sound read rfl
    rw [dropped] at found
    exact (found.eq_of_length (by rw [interleaved_length, payload_length])).symm
  · intro agree
    have short : ∀ node ∈ nodes, node.host.length ≤ 65535 := by
      intro node member
      have within := four_le_of_mem member
      omega
    have read := Handlers.readEndpoints_interleaved (le32 (UInt32.ofNat nodes.length)) []
      (le32_length _).symm short
    rwa [List.append_nil, ← agree] at read

/-- The layouts agree when no host but the last has any bytes. -/
theorem layoutsAgree_of_empty {nodes : List Endpoint} (last : Endpoint)
    (empty : ∀ node ∈ nodes, node.host = []) : LayoutsAgree (nodes ++ [last]) := by
  have noHosts : nodes.flatMap Endpoint.host = [] := by
    rw [List.flatMap_eq_nil_iff]
    exact empty
  have onlyRecords : interleaved nodes = nodes.flatMap Endpoint.record := by
    rw [interleaved, List.flatMap_def, List.flatMap_def]
    congr 1
    apply List.map_congr_left
    intro node member
    rw [empty node member, List.append_nil]
  rw [LayoutsAgree, interleaved, List.flatMap_append, List.flatMap_append, List.flatMap_append,
    noHosts, ← interleaved, onlyRecords]
  simp

/-- Whatever list a discovery response of at most 65535 bytes is built from,
its payload makes the handler visit a list of endpoints, and that is the same
list exactly when the two layouts agree. -/
theorem addDiscovery_read_back_iff (builder : ResponseBuilder) (id : Uuid)
    (nodes : List Endpoint)
    (small : (ResponseCall.discovery id nodes).size ≤ 65535) :
    ∃ message : Submessage,
      (builder.addDiscovery id nodes).buffers = builder.buffers ++ [message.bytes] ∧
        message.opcode = OpCode.discovery.byte ∧ message.type = .response ∧
        message.transactionId = id ∧
        (∀ (env : Environment) (session : Ref) (reply : ResponseBuilder) (state : State),
          Handlers.discovery env session message.type reply id message.payload state =
            (Handlers.visitAll env (Handlers.listed message.payload) state).map
              fun next => (reply, next)) ∧
        (Handlers.listed message.payload = nodes ↔ LayoutsAgree nodes) := by
  refine ⟨⟨OpCode.discovery.byte, .response, id, discoveryPayload nodes⟩, ?_, rfl, rfl, rfl, ?_,
    listed_discoveryPayload_iff id small⟩
  · rw [addDiscovery_buffers, heading_append]
  · intro env session reply state
    exact Handlers.discovery_response_eq env session reply id _ state

/-- Two nodes on the local host. -/
def localPair : List Endpoint :=
  [⟨State.localHost, 7000⟩, ⟨State.localHost, 7001⟩]

theorem addDiscovery_read_back_localPair :
    ∃ message : Submessage,
      (({} : ResponseBuilder).addDiscovery Uuid.nil localPair).buffers = [message.bytes] ∧
        (Handlers.listed message.payload = localPair ↔ LayoutsAgree localPair) := by
  obtain ⟨message, queued, _, _, _, _, characterized⟩ :=
    addDiscovery_read_back_iff {} Uuid.nil localPair (by decide)
  exact ⟨message, queued, characterized⟩

/-- A response that lists two nodes is read back as another list. -/
theorem localPair_not_read_back :
    (ResponseCall.discovery Uuid.nil localPair).size ≤ 65535 ∧
      Handlers.listed (discoveryPayload localPair) ≠ localPair := by
  refine ⟨by decide, ?_⟩
  rw [ne_eq, listed_discoveryPayload_iff Uuid.nil (by decide)]
  decide

end Aurum.Node
