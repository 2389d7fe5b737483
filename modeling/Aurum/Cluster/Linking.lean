import Aurum.Cluster.Handshakes
import Mathlib.Data.List.Perm.Basic

/-!
# The links of two nodes

Whatever the order of the dials, accepts and frames, each of them touches one
session of one node and moves one link on by one stage.
-/

namespace Aurum.Cluster

open Aurum.Protocol
open Aurum.Container
open Aurum.Node

/-! ## Steps touch one session -/

/-- A node has gone on and touched one session only. -/
structure Touches (peer : Uuid) (touched : Ref) (before after : State) : Prop where
  keeps : Keeps peer before after
  formed : WellFormed after
  others : ∀ entry ∈ after.sessions, entry.elem ≠ touched →
    entry ∈ before.sessions ∧ after.memory entry.elem = before.memory entry.elem

namespace Touches

variable {peer : Uuid} {env : Environment} {state next : State}

/-- A new session is registered. -/
theorem registers {session : Session}
    (wellFormed : WellFormed state) (formed : WellFormed next)
    (free : ∀ entry ∈ state.sessions, entry.key.id ≠ session.id)
    (nodeId : next.nodeId = state.nodeId) (tcpPort : next.tcpPort = state.tcpPort)
    (memory : next.memory = (state.install env session).memory)
    (allocated : next.allocated = (state.install env session).allocated)
    (sessions : next.sessions = (state.install env session).sessions) :
    Touches peer state.allocated state next where
  keeps := (Keeps.install free).trans (.quiet nodeId tcpPort memory allocated sessions)
  formed := formed
  others := by
    intro entry member older
    rw [sessions] at member
    rcases (State.mem_install_iff env free entry).mp member with rfl | old
    · exact absurd rfl older
    · refine ⟨old, ?_⟩
      rw [memory]
      exact State.install_memory_of_lt env session (wellFormed.allocated entry old)

/-- A session is given the node id of the peer. -/
theorem describes {ref : Ref} {port : UInt16} {host : Bytes} {posted : List Endpoint}
    (formed : WellFormed next) (nodeId : next.nodeId = state.nodeId)
    (tcpPort : next.tcpPort = state.tcpPort)
    (memory : next.memory = (state.retag ref peer port host posted).memory)
    (allocated : next.allocated = state.allocated) (sessions : next.sessions = state.sessions) :
    Touches peer ref state next where
  keeps := (Keeps.retag ref port host posted state).trans
    (.quiet nodeId tcpPort memory allocated sessions)
  formed := formed
  others := by
    intro entry member differs
    rw [sessions] at member
    rw [memory]
    exact ⟨member, retag_memory_of_ne differs⟩

/-- What a step that touches one node keeps of both. -/
theorem keeps_update {node : Side → State} {side : Side} {touched : Ref}
    (touches : Touches (node side.other).nodeId touched (node side) next) (other : Side) :
    Keeps (node other.other).nodeId (node other) (Function.update node side next other) := by
  by_cases same : other = side
  · subst same
    rw [Function.update_self]
    exact touches.keeps
  · rw [Function.update_of_ne same]
    exact .refl _

end Touches

/-- The session just registered is up. -/
theorem up_install {env : Environment} {session : Session} {state : State}
    (tcp : session.type = .tcp) (free : ∀ entry ∈ state.sessions, entry.key.id ≠ session.id) :
    Up (state.install env session) state.allocated := by
  refine ⟨⟨_, (State.mem_install_iff env free _).mpr (Or.inl rfl), rfl⟩, ?_⟩
  rw [State.install_memory_self]
  exact tcp

/-- The links and the two nodes agree: every link is at one of its stages, no
session is an end of two links, and no other session of one node carries the
node id of the other. -/
structure Linking (connectionsPerNode : Side → UInt16) (peers : Peers) : Prop where
  formed : ∀ side, WellFormed (peers.node side)
  stages : ∀ link ∈ peers.links, Stage peers.node (connectionsPerNode link.dialer) link
  distinct : ∀ side, (peers.ends side).Nodup
  only : ∀ side, ∀ ref ∈ peers.sessionsWith side, ref ∈ peers.ends side

theorem mem_sessionsWith {peers : Peers} {side : Side} {ref : Ref} :
    ref ∈ peers.sessionsWith side ↔ ∃ entry ∈ (peers.node side).sessions, entry.elem = ref ∧
      ((peers.node side).memory ref).type = .tcp ∧
        ((peers.node side).memory ref).nodeId = (peers.node side.other).nodeId := by
  rw [Peers.sessionsWith, List.mem_map]
  constructor
  · rintro ⟨entry, member, rfl⟩
    rw [List.mem_filter, decide_eq_true_eq] at member
    exact ⟨entry, member.1, rfl, member.2⟩
  · rintro ⟨entry, member, rfl, facts⟩
    refine ⟨entry, ?_, rfl⟩
    rw [List.mem_filter, decide_eq_true_eq]
    exact ⟨member, facts⟩

theorem mem_ends {peers : Peers} {side : Side} {ref : Ref} :
    ref ∈ peers.ends side ↔ ∃ link ∈ peers.links, link.endAt side = some ref := by
  rw [Peers.ends, List.mem_filterMap]

theorem endAt_dialed {side other : Side} {before after : State} {ref : Ref} :
    (Peers.dialed side before after).endAt other = some ref ↔
      other = side ∧ ref = before.allocated := by
  rw [Link.endAt, Peers.dialed]
  simp only [Option.ite_none_right_eq_some, Option.some.injEq]
  exact and_congr eq_comm eq_comm

namespace Linking

variable {connectionsPerNode : Side → UInt16} {peers : Peers}

theorem end_up (linking : Linking connectionsPerNode peers) {side : Side} {ref : Ref}
    (isEnd : ref ∈ peers.ends side) : Up (peers.node side) ref := by
  rcases mem_ends.mp isEnd with ⟨link, member, here⟩
  exact (linking.stages link member).end_up here

section Update

variable {side : Side} {next : State} {touched : Ref} {old others links : List Link} {link : Link}

/-- A step that touches an end of a link, a new one or one that was up. -/
theorem update (linking : Linking connectionsPerNode peers)
    (touches : Touches (peers.node side.other).nodeId touched (peers.node side) next)
    (before : peers.links.Perm (old ++ others)) (after : links.Perm (link :: others))
    (stage : Stage (Function.update peers.node side next) (connectionsPerNode link.dialer) link)
    (isEnd : link.endAt side = some touched)
    (kept : ∀ former ∈ old, ∀ other ref, former.endAt other = some ref →
      link.endAt other = some ref)
    (new : ∀ other ref, link.endAt other = some ref →
      (∃ former ∈ old, former.endAt other = some ref) ∨
        other = side ∧ ref = (peers.node side).allocated) :
    Linking connectionsPerNode ⟨Function.update peers.node side next, links⟩ := by
  have keeps := touches.keeps_update
  have formed : ∀ other, WellFormed (Function.update peers.node side next other) := by
    intro other
    by_cases same : other = side
    · subst same
      rw [Function.update_self]
      exact touches.formed
    · rw [Function.update_of_ne same]
      exact linking.formed other
  have endsBefore : ∀ other, (peers.ends other).Perm
      (old.filterMap (Link.endAt other) ++ others.filterMap (Link.endAt other)) := by
    intro other
    rw [← List.filterMap_append]
    exact before.filterMap _
  refine ⟨formed, ?_, ?_, ?_⟩
  · intro some member
    rcases List.mem_cons.mp (after.mem_iff.mp member) with rfl | member
    · exact stage
    · apply Stage.keep linking.formed keeps
      exact linking.stages some (before.mem_iff.mpr (List.mem_append_right old member))
  · intro other
    have wasDistinct := (endsBefore other).nodup_iff.mp (linking.distinct other)
    rw [Peers.ends, (after.filterMap _).nodup_iff]
    cases here : link.endAt other with
    | none =>
        rw [List.filterMap_cons_none here]
        exact (List.nodup_append.mp wasDistinct).2.1
    | some ref =>
        rw [List.filterMap_cons_some here, List.nodup_cons]
        refine ⟨?_, (List.nodup_append.mp wasDistinct).2.1⟩
        intro elsewhere
        rcases new other ref here with ⟨former, member, was⟩ | ⟨rfl, rfl⟩
        · have early := List.mem_filterMap.mpr ⟨former, member, was⟩
          exact (List.nodup_append.mp wasDistinct).2.2 ref early ref elsewhere rfl
        · have up := linking.end_up ((endsBefore other).mem_iff.mpr
            (List.mem_append_right _ elsewhere))
          exact absurd (up.allocated (linking.formed other)) (Nat.lt_irrefl _)
  · intro other ref carries
    rcases mem_sessionsWith.mp carries with ⟨entry, member, rfl, tcp, tagged⟩
    have stillEnd : entry.elem ∈ peers.ends other →
        entry.elem ∈ Peers.ends ⟨Function.update peers.node side next, links⟩ other := by
      intro wasEnd
      rcases mem_ends.mp wasEnd with ⟨former, within, was⟩
      rcases List.mem_append.mp (before.mem_iff.mp within) with within | within
      · exact mem_ends.mpr ⟨link, after.mem_iff.mpr List.mem_cons_self,
          kept former within other entry.elem was⟩
      · exact mem_ends.mpr ⟨former, after.mem_iff.mpr (List.mem_cons_of_mem link within), was⟩
    have peerSame : (Function.update peers.node side next other.other).nodeId =
        (peers.node other.other).nodeId := (keeps other.other).nodeId
    simp only [peerSame] at member tcp tagged
    by_cases same : other = side
    · subst same
      rw [Function.update_self] at member tcp tagged
      by_cases isTouched : entry.elem = touched
      · rw [isTouched]
        exact mem_ends.mpr ⟨link, after.mem_iff.mpr List.mem_cons_self, isEnd⟩
      · rcases touches.others entry member isTouched with ⟨registered, memory⟩
        rw [memory] at tcp tagged
        exact stillEnd (linking.only other _
          (mem_sessionsWith.mpr ⟨entry, registered, rfl, tcp, tagged⟩))
    · rw [Function.update_of_ne same] at member tcp tagged
      exact stillEnd (linking.only other _
        (mem_sessionsWith.mpr ⟨entry, member, rfl, tcp, tagged⟩))

end Update

/-! ## The steps -/

section Steps

variable {around : Surroundings} {side : Side} {link : Link} {links others : List Link}

/-- A node has dialed the other one. -/
theorem connect (linking : Linking connectionsPerNode peers) {target : Endpoint}
    {posted : List Endpoint} {connected : Bool} {next : State}
    (reaches : around.Reaches side target (peers.node side))
    (step : State.connect (around.env side) target.host target.port false
        (connectionsPerNode side) { peers.node side with posted := posted } =
      .ok (connected, next)) :
    Linking connectionsPerNode ⟨Function.update peers.node side next,
        peers.links ++ [Peers.dialed side (peers.node side) next]⟩ ∧
      next.tcpPort = (peers.node side).tcpPort ∧
      next.dialed = (peers.node side).dialed ++ [target] ∧ next.posted = posted ∧
        (Peers.dialed side (peers.node side) next).forth ≠ [] := by
  have wellFormed := linking.formed side
  have base : WellFormed { peers.node side with posted := posted } :=
    (closed_wellFormed (around.env side)).quiet wellFormed rfl rfl rfl rfl
  have formed : WellFormed next := (closed_wellFormed (around.env side)).connect step base
  have reachesBase : around.Reaches side target { peers.node side with posted := posted } :=
    reaches
  obtain ⟨data, transactionId, nonempty, behind, result⟩ :=
    connect_of_reaches base reachesBase step
  have free : ∀ entry ∈ (peers.node side).sessions, entry.key.id ≠
      (tcpSession ((peers.node side).nextUuid (around.env side)) .dialed).id :=
    wellFormed.free_of_fresh reaches.2.2
  have memory : next.memory = ((peers.node side).install (around.env side)
      (tcpSession ((peers.node side).nextUuid (around.env side)) .dialed)).memory := by
    rw [result]
    rfl
  have sessions : next.sessions = ((peers.node side).install (around.env side)
      (tcpSession ((peers.node side).nextUuid (around.env side)) .dialed)).sessions := by
    rw [result]
    rfl
  have sent : next.sent = (peers.node side).sent ++ [((peers.node side).allocated, data)] := by
    rw [result]
    rfl
  have forth : carried (peers.node side) next (peers.node side).allocated = [data] := by
    rw [Pair.carried_of_append sent]
    simp [nonempty]
  have touches : Touches (peers.node side.other).nodeId (peers.node side).allocated
      (peers.node side) next := by
    apply Touches.registers wellFormed formed free _ _ memory _ sessions
    · rw [result]
      rfl
    · rw [result]
      rfl
    · rw [result]
      rfl
  have up : Up next (peers.node side).allocated := by
    rw [Up, sessions, memory]
    exact up_install rfl free
  have asks : Asks next (connectionsPerNode side) data := by
    rw [Asks, touches.keeps.nodeId, touches.keeps.tcpPort]
    exact ⟨transactionId, behind⟩
  refine ⟨?_, touches.keeps.tcpPort, by rw [result]; rfl, by rw [result]; rfl, ?_⟩
  · have before : peers.links.Perm ([] ++ peers.links) := List.Perm.refl _
    apply linking.update touches before (List.perm_append_singleton _ _)
    · apply Stage.dialed data _ rfl forth rfl
      · show Asks (Function.update peers.node side next side) _ _
        rw [Function.update_self]
        exact asks
      · show Up (Function.update peers.node side next side) _
        rw [Function.update_self]
        exact up
    · exact if_pos rfl
    · intro former member
      cases member
    · intro other ref isEnd
      exact Or.inr (endAt_dialed.mp isEnd)
  · rw [Peers.dialed, forth]
    exact List.cons_ne_nil _ _

/-- A connection has been accepted. -/
theorem accept (linking : Linking connectionsPerNode peers)
    (before : peers.links.Perm ([link] ++ others)) (waits : link.far = none)
    (fresh : Fresh ((peers.node link.dialer.other).nextUuid (around.env link.dialer.other))
      (peers.node link.dialer.other))
    (after : links.Perm (link.accept (peers.node link.dialer.other).allocated :: others)) :
    Linking connectionsPerNode
      ⟨Function.update peers.node link.dialer.other
        ((peers.node link.dialer.other).acceptTcp (around.env link.dialer.other)), links⟩ := by
  have wellFormed := linking.formed link.dialer.other
  have free : ∀ entry ∈ (peers.node link.dialer.other).sessions, entry.key.id ≠
      (tcpSession ((peers.node link.dialer.other).nextUuid (around.env link.dialer.other))
        .accepted).id :=
    wellFormed.free_of_fresh fresh
  have touches : Touches (peers.node link.dialer.other.other).nodeId
      (peers.node link.dialer.other).allocated (peers.node link.dialer.other)
      ((peers.node link.dialer.other).acceptTcp (around.env link.dialer.other)) := by
    apply Touches.registers wellFormed _ free
    · rw [State.acceptTcp_eq]
      rfl
    · rw [State.acceptTcp_eq]
      rfl
    · rw [State.acceptTcp_eq]
      rfl
    · rw [State.acceptTcp_eq]
      rfl
    · rw [State.acceptTcp_eq]
      rfl
    · exact (closed_wellFormed (around.env link.dialer.other)).acceptTcp wellFormed
  have stage := (linking.stages link (before.mem_iff.mpr List.mem_cons_self)).keep
    linking.formed touches.keeps_update
  have farUp : Up (Function.update peers.node link.dialer.other
      ((peers.node link.dialer.other).acceptTcp (around.env link.dialer.other))
        link.dialer.other) (peers.node link.dialer.other).allocated := by
    rw [Function.update_self, State.acceptTcp_eq]
    exact up_install rfl free
  apply linking.update touches before after (stage.accept waits farUp)
  · exact Link.endAt_accept_other _ link
  · intro former member other ref isEnd
    rw [List.mem_singleton.mp member] at isEnd
    rcases Side.eq_or_eq_other other link.dialer with rfl | rfl
    · rw [Link.endAt_dialer] at isEnd
      rw [Link.endAt_accept_dialer]
      exact isEnd
    · rw [Link.endAt_other, waits] at isEnd
      cases isEnd
  · intro other ref isEnd
    rcases Side.eq_or_eq_other other link.dialer with rfl | rfl
    · rw [Link.endAt_accept_dialer] at isEnd
      refine Or.inl ⟨link, List.mem_cons_self, ?_⟩
      rw [Link.endAt_dialer]
      exact isEnd
    · rw [Link.endAt_accept_other] at isEnd
      cases isEnd
      exact Or.inr ⟨rfl, rfl⟩

/-- A frame of a link has been read. -/
theorem read (linking : Linking connectionsPerNode peers) {touched : Ref} {next : State}
    {moved : Link} (before : peers.links.Perm ([link] ++ others))
    (after : links.Perm (moved :: others))
    (sameEnds : ∀ other, moved.endAt other = link.endAt other)
    (isEnd : link.endAt side = some touched)
    (touches : Touches (peers.node side.other).nodeId touched (peers.node side) next)
    (stage : Stage (Function.update peers.node side next) (connectionsPerNode moved.dialer) moved) :
    Linking connectionsPerNode ⟨Function.update peers.node side next, links⟩ := by
  apply linking.update touches before after stage ((sameEnds side).trans isEnd)
  · intro former member other ref wasEnd
    rw [List.mem_singleton.mp member] at wasEnd
    exact (sameEnds other).trans wasEnd
  · intro other ref here
    exact Or.inl ⟨link, List.mem_cons_self, (sameEnds other).symm.trans here⟩

/-- The request of a link has been read. -/
theorem readForth (around : Surroundings) (linking : Linking connectionsPerNode peers)
    {far : Ref} {frame : Bytes} {rest : List Bytes} {next : State}
    (before : peers.links.Perm ([link] ++ others))
    (linked : link.far = some far) (forth : link.forth = frame :: rest)
    (received : next = (peers.node link.dialer.other).receive (around.env link.dialer.other) far
      (frame.drop 4))
    (after : links.Perm (link.readForth rest
      (carried (peers.node link.dialer.other) next far) :: others)) :
    Linking connectionsPerNode ⟨Function.update peers.node link.dialer.other next, links⟩ ∧
      rest = [] ∧ next.tcpPort = (peers.node link.dialer.other).tcpPort ∧
      next.dialed = (peers.node link.dialer.other).dialed ∧
      next.posted = (peers.node link.dialer.other).posted ++
        if 1 < (connectionsPerNode link.dialer).toNat ∧ (peers.node link.dialer).tcpPort ≠ 0 then
          List.replicate ((connectionsPerNode link.dialer).toNat - 1)
            ⟨State.localHost, (peers.node link.dialer).tcpPort⟩
        else [] := by
  have stage := linking.stages link (before.mem_iff.mpr List.mem_cons_self)
  rcases stage.of_request linked forth with ⟨nothing, back, transactionId, asks⟩
  have tcp := (stage.far_up linked).2
  obtain ⟨reply, nonempty, behind, form⟩ := receive_identifyRequest
    (around.env link.dialer.other) tcp (peers.node link.dialer).nodeId
    (connectionsPerNode link.dialer) (peers.node link.dialer).tcpPort transactionId
  rw [← asks, ← received] at form
  have formed : WellFormed next := by
    rw [received]
    exact (closed_wellFormed (around.env link.dialer.other)).receive
      (fun _ _ called id _ => called.setNodeId far id) (linking.formed link.dialer.other)
  have nodeId : next.nodeId = (peers.node link.dialer.other).nodeId := by
    rw [form]
    rfl
  have memory : next.memory =
      (State.retag far (peers.node link.dialer).nodeId (peers.node link.dialer).tcpPort
        State.localHost [] (peers.node link.dialer.other)).memory := by
    rw [form]
    rfl
  have sent : next.sent = (peers.node link.dialer.other).sent ++ [(far, reply)] := by
    rw [form]
    rfl
  have touches : Touches (peers.node link.dialer.other.other).nodeId far
      (peers.node link.dialer.other) next := by
    rw [Side.other_other]
    apply Touches.describes formed nodeId _ memory
    · rw [form]
      rfl
    · rw [form]
      rfl
    · rw [form]
      rfl
  have kept := stage.keep linking.formed touches.keeps_update
  have answered : carried (peers.node link.dialer.other) next far = [reply] := by
    rw [Pair.carried_of_append sent]
    simp [nonempty]
  have moved : Stage (Function.update peers.node link.dialer.other next)
      (connectionsPerNode link.dialer)
      (link.readForth rest (carried (peers.node link.dialer.other) next far)) := by
    rw [Link.readForth, nothing, back, answered, List.nil_append]
    apply kept.answer linked
    · rw [Function.update_self, Function.update_of_ne (Side.other_ne link.dialer).symm, memory,
        retag_memory_self]
    · rw [Function.update_self, Tells, nodeId]
      exact ⟨transactionId, behind⟩
  refine ⟨?_, nothing, touches.keeps.tcpPort, ?_, ?_⟩
  · exact linking.read before after (fun _ => rfl) ((Link.endAt_other link).trans linked) touches
      moved
  · rw [form]
    rfl
  · rw [form]
    rfl

/-- The answer to the request of a link has been read. -/
theorem readBack (around : Surroundings) (linking : Linking connectionsPerNode peers)
    {frame : Bytes} {rest : List Bytes} {next : State}
    (before : peers.links.Perm ([link] ++ others))
    (back : link.back = frame :: rest)
    (received : next = (peers.node link.dialer).receive (around.env link.dialer) link.near
      (frame.drop 4))
    (after : links.Perm (link.readBack rest
      (carried (peers.node link.dialer) next link.near) :: others)) :
    Linking connectionsPerNode ⟨Function.update peers.node link.dialer next, links⟩ ∧
      link.forth = [] ∧ carried (peers.node link.dialer) next link.near = [] ∧
      next.tcpPort = (peers.node link.dialer).tcpPort ∧
      next.dialed = (peers.node link.dialer).dialed ∧
      next.posted = (peers.node link.dialer).posted := by
  have stage := linking.stages link (before.mem_iff.mpr List.mem_cons_self)
  rcases stage.of_response back with ⟨far, nothing, forth, linked, farKnows, transactionId, tells⟩
  have tcp := stage.near_up.2
  have form := receive_identifyResponse (around.env link.dialer) tcp
    (peers.node link.dialer.other).nodeId transactionId
  rw [← tells, ← received] at form
  have formed : WellFormed next := by
    rw [received]
    exact (closed_wellFormed (around.env link.dialer)).receive
      (fun _ _ called id _ => called.setNodeId link.near id) (linking.formed link.dialer)
  have nodeId : next.nodeId = (peers.node link.dialer).nodeId := by
    rw [form]
    rfl
  have memory : next.memory = (State.retag link.near (peers.node link.dialer.other).nodeId
      ((peers.node link.dialer).memory link.near).port
      ((peers.node link.dialer).memory link.near).host [] (peers.node link.dialer)).memory := by
    rw [form, State.setNodeId_eq_retag]
    rfl
  have sent : next.sent = (peers.node link.dialer).sent ++ [(link.near, [])] := by
    rw [form]
    rfl
  have silent : carried (peers.node link.dialer) next link.near = [] := by
    rw [Pair.carried_of_append sent]
    simp
  have touches : Touches (peers.node link.dialer.other).nodeId link.near
      (peers.node link.dialer) next := by
    apply Touches.describes formed nodeId _ memory
    · rw [form]
      rfl
    · rw [form]
      rfl
    · rw [form]
      rfl
  have kept := stage.keep linking.formed touches.keeps_update
  have moved : Stage (Function.update peers.node link.dialer next)
      (connectionsPerNode link.dialer)
      (link.readBack rest (carried (peers.node link.dialer) next link.near)) := by
    rw [Link.readBack, nothing, forth, silent, List.nil_append]
    apply kept.identify linked
    · rw [Function.update_self, Function.update_of_ne (Side.other_ne link.dialer), nodeId]
      exact farKnows
    · rw [Function.update_self, Function.update_of_ne (Side.other_ne link.dialer), memory,
        retag_memory_self]
  refine ⟨?_, forth, silent, touches.keeps.tcpPort, ?_, ?_⟩
  · exact linking.read before after (fun _ => rfl) (Link.endAt_dialer link) touches moved
  · rw [form]
    rfl
  · rw [form]
    rfl

end Steps

end Linking

end Aurum.Cluster
