import Aurum.Cluster.Linking
import Mathlib.Algebra.BigOperators.Group.List.Basic

/-!
# As many links as asked for

The links, the connects that B has posted, and those that it will post once it
has read the request of A add up to the number of connections asked for.
-/

namespace Aurum.Cluster

open Aurum.Protocol
open Aurum.Container
open Aurum.Node
open Aurum.Transition

/-- The number of connections that the requests of a node ask for. -/
def asked (connectionsPerNode : UInt16) : Side → UInt16
  | .a => connectionsPerNode
  | .b => 0

/-- How many connects B will post when it reads the request of a link. -/
def promised (connectionsPerNode : UInt16) (link : Link) : Nat :=
  if link.dialer = .a ∧ link.forth ≠ [] then connectionsPerNode.toNat - 1 else 0

/-- The links there are, with those that their requests will lead to. -/
def total (connectionsPerNode : UInt16) (links : List Link) : Nat :=
  links.length + (links.map (promised connectionsPerNode)).sum

/-- Where B dials back to. -/
def advertised (node : Side → State) : Endpoint :=
  ⟨State.localHost, (node .a).tcpPort⟩

section Total

variable {connectionsPerNode : UInt16} {links others : List Link} {link : Link}

theorem total_of_perm (perm : links.Perm (link :: others)) :
    total connectionsPerNode links =
      1 + promised connectionsPerNode link + total connectionsPerNode others := by
  rw [total, total, perm.length_eq, (perm.map _).sum_eq, List.length_cons, List.map_cons,
    List.sum_cons]
  omega

end Total

/-- What the nodes have done since A called `connect`. -/
structure Counted (node : Side → State) (target : Endpoint) (connectionsPerNode : UInt16)
    (peers : Peers) : Prop where
  linking : Linking (asked connectionsPerNode) peers
  tcpPort : (peers.node .a).tcpPort = (node .a).tcpPort
  postedA : (peers.node .a).posted = []
  postedB : ∀ endpoint ∈ (peers.node .b).posted, endpoint = advertised node
  counted : total connectionsPerNode peers.links + (peers.node .b).posted.length =
    max connectionsPerNode.toNat 1
  dialedA : (peers.node .a).dialed = (node .a).dialed ++ [target]
  dialedB : ∃ others, peers.links.length = others + 1 ∧
    (peers.node .b).dialed = (node .b).dialed ++ List.replicate others (advertised node)

section Update

variable {node : Side → State} {side other : Side} {next : State} {links : List Link}

theorem node_self : (Peers.mk (Function.update node side next) links).node side = next :=
  Function.update_self side next node

theorem node_of_ne (differs : other ≠ side) :
    (Peers.mk (Function.update node side next) links).node other = node other :=
  Function.update_of_ne differs next node

end Update

namespace Counted

variable {node : Side → State} {target : Endpoint} {connectionsPerNode : UInt16} {peers : Peers}

/-- A step of a link, which may make B post connects. -/
theorem move (counted : Counted node target connectionsPerNode peers) {side : Side}
    {next : State} {links : List Link} {extra : List Endpoint}
    (linking : Linking (asked connectionsPerNode) ⟨Function.update peers.node side next, links⟩)
    (length : links.length = peers.links.length)
    (tcpPort : next.tcpPort = (peers.node side).tcpPort)
    (dialed : next.dialed = (peers.node side).dialed)
    (posted : next.posted = (peers.node side).posted ++ extra)
    (onlyB : side = .a → extra = []) (alike : ∀ endpoint ∈ extra, endpoint = advertised node)
    (balance : total connectionsPerNode links + extra.length =
      total connectionsPerNode peers.links) :
    Counted node target connectionsPerNode ⟨Function.update peers.node side next, links⟩ := by
  have sum := counted.counted
  cases side with
  | a =>
      have notB : Side.b ≠ Side.a := Side.noConfusion
      rw [onlyB rfl] at posted balance
      constructor
      · exact linking
      · rw [node_self, tcpPort]
        exact counted.tcpPort
      · rw [node_self, posted, counted.postedA]
        rfl
      · rw [node_of_ne notB]
        exact counted.postedB
      · rw [node_of_ne notB]
        exact (congrArg (· + (peers.node .b).posted.length) balance).trans sum
      · rw [node_self, dialed]
        exact counted.dialedA
      · rw [node_of_ne notB, length]
        exact counted.dialedB
  | b =>
      have notA : Side.a ≠ Side.b := Side.noConfusion
      constructor
      · exact linking
      · rw [node_of_ne notA]
        exact counted.tcpPort
      · rw [node_of_ne notA]
        exact counted.postedA
      · rw [node_self, posted]
        intro endpoint member
        rcases List.mem_append.mp member with member | member
        · exact counted.postedB endpoint member
        · exact alike endpoint member
      · change total connectionsPerNode links + _ = _
        rw [node_self, posted, List.length_append]
        omega
      · rw [node_of_ne notA]
        exact counted.dialedA
      · rw [node_self, dialed, length]
        exact counted.dialedB

/-- A node runs a connect it has posted: it is B, which dials back to A. -/
theorem dial (counted : Counted node target connectionsPerNode peers) {around : Surroundings}
    {side : Side} {position : Nat} {endpoint : Endpoint} {next : State}
    (posted : (peers.node side).posted[position]? = some endpoint)
    (reaches : around.Reaches side endpoint (peers.node side))
    (ran : State.runPosted (around.env side) { peers.node side with
      posted := endpoint :: (peers.node side).posted.eraseIdx position } = .ok next) :
    Counted node target connectionsPerNode ⟨Function.update peers.node side next,
      peers.links ++ [Peers.dialed side (peers.node side) next]⟩ := by
  rcases Result.bind_eq_ok_iff.mp ran with ⟨⟨connected, dialed⟩, connect, result⟩
  cases result
  have notA : Side.a ≠ Side.b := Side.noConfusion
  cases side with
  | a =>
      rw [counted.postedA] at posted
      cases posted
  | b =>
      rcases counted.linking.connect reaches connect with ⟨linking, tcpPort, dials, left, requested⟩
      rcases counted.dialedB with ⟨others, length, dialedB⟩
      have toA : endpoint = advertised node :=
        counted.postedB endpoint (List.mem_of_getElem? posted)
      have inside : position < (peers.node .b).posted.length :=
        (List.getElem?_eq_some_iff.mp posted).1
      constructor
      · exact linking
      · rw [node_of_ne notA]
        exact counted.tcpPort
      · rw [node_of_ne notA]
        exact counted.postedA
      · rw [node_self, left]
        intro other member
        exact counted.postedB other (List.mem_of_mem_eraseIdx member)
      · have sum := counted.counted
        have grown : total connectionsPerNode
            (peers.links ++ [Peers.dialed .b (peers.node .b) next]) = _ :=
          total_of_perm (List.perm_append_singleton _ _)
        have nothing : promised connectionsPerNode
            (Peers.dialed .b (peers.node .b) next) = 0 := by
          apply if_neg
          exact fun promises => Side.noConfusion promises.1
        change total connectionsPerNode (peers.links ++ _) + _ = _
        rw [node_self, left, List.length_eraseIdx_of_lt inside]
        omega
      · rw [node_of_ne notA]
        exact counted.dialedA
      · refine ⟨others + 1, by rw [List.length_append, length]; rfl, ?_⟩
        rw [node_self, dials, dialedB, toA, List.append_assoc, List.replicate_succ']

/-- What the request of a link makes its reader post. -/
theorem posts (counted : Counted node target connectionsPerNode peers)
    (nonzero : (node .a).tcpPort ≠ 0) {link : Link} (unread : link.forth ≠ []) :
    (if 1 < (asked connectionsPerNode link.dialer).toNat ∧ (peers.node link.dialer).tcpPort ≠ 0 then
        List.replicate ((asked connectionsPerNode link.dialer).toNat - 1)
          (⟨State.localHost, (peers.node link.dialer).tcpPort⟩ : Endpoint)
      else []) = List.replicate (promised connectionsPerNode link) (advertised node) := by
  cases isDialer : link.dialer with
  | a =>
      have promises : promised connectionsPerNode link = connectionsPerNode.toNat - 1 :=
        if_pos ⟨isDialer, unread⟩
      rw [promises, counted.tcpPort, asked, advertised]
      by_cases more : 1 < connectionsPerNode.toNat
      · rw [if_pos ⟨more, nonzero⟩]
      · have none : connectionsPerNode.toNat - 1 = 0 := by omega
        rw [if_neg fun both => more both.1, none]
        rfl
  | b =>
      have promises : promised connectionsPerNode link = 0 := by
        apply if_neg
        rw [isDialer]
        exact fun promises => Side.noConfusion promises.1
      rw [promises, asked, if_neg fun both => absurd both.1 (by decide)]
      rfl

section Read

variable (around : Surroundings) {link : Link} {links others : List Link} {frame : Bytes}
  {rest : List Bytes} {next : State}

/-- The request of a link has been read.  If it is that of A, B has posted the
connects it asks for. -/
theorem readForth (counted : Counted node target connectionsPerNode peers)
    (nonzero : (node .a).tcpPort ≠ 0) {far : Ref} (before : peers.links.Perm ([link] ++ others))
    (linked : link.far = some far) (forth : link.forth = frame :: rest)
    (received : next = (peers.node link.dialer.other).receive (around.env link.dialer.other) far
      (frame.drop 4))
    (after : links.Perm (link.readForth rest
      (carried (peers.node link.dialer.other) next far) :: others))
    (length : links.length = peers.links.length) :
    Counted node target connectionsPerNode
      ⟨Function.update peers.node link.dialer.other next, links⟩ := by
  obtain ⟨linking, nothing, tcpPort, dialed, posted⟩ :=
    counted.linking.readForth around before linked forth received after
  have fulfilled : promised connectionsPerNode (link.readForth rest
      (carried (peers.node link.dialer.other) next far)) = 0 := by
    apply if_neg
    rw [Link.readForth, nothing]
    exact fun promises => promises.2 rfl
  rw [counted.posts nonzero (forth.trans_ne (List.cons_ne_nil frame rest))] at posted
  apply counted.move linking length tcpPort dialed posted
  · intro isA
    have dialerB : link.dialer ≠ .a := by
      intro dialerA
      rw [dialerA] at isA
      exact Side.noConfusion isA
    rw [promised, if_neg fun promises => dialerB promises.1]
    rfl
  · exact fun endpoint member => List.eq_of_mem_replicate member
  · have was : peers.links.Perm (link :: others) := before
    rw [total_of_perm was, total_of_perm after, fulfilled, List.length_replicate]
    omega

/-- The answer to the request of a link has been read. -/
theorem readBack (counted : Counted node target connectionsPerNode peers)
    (before : peers.links.Perm ([link] ++ others)) (back : link.back = frame :: rest)
    (received : next = (peers.node link.dialer).receive (around.env link.dialer) link.near
      (frame.drop 4))
    (after : links.Perm (link.readBack rest
      (carried (peers.node link.dialer) next link.near) :: others))
    (length : links.length = peers.links.length) :
    Counted node target connectionsPerNode
      ⟨Function.update peers.node link.dialer next, links⟩ := by
  obtain ⟨linking, forth, silent, tcpPort, dialed, posted⟩ :=
    counted.linking.readBack around before back received after
  have same : promised connectionsPerNode (link.readBack rest
      (carried (peers.node link.dialer) next link.near)) = promised connectionsPerNode link := by
    rw [silent, promised, promised, Link.readBack, List.append_nil]
  apply counted.move linking length tcpPort dialed (posted.trans (List.append_nil _).symm)
    (fun _ => rfl)
  · simp
  · rw [total_of_perm before, total_of_perm after, same]
    rfl

end Read

/-- What a step does to the list of links. -/
theorem exists_others {links : List Link} {index : Nat} {link : Link}
    (found : links[index]? = some link) :
    ∃ others, links.Perm ([link] ++ others) ∧
      ∀ moved, (links.set index moved).Perm (moved :: others) := by
  rcases List.getElem?_eq_some_iff.mp found with ⟨inside, rfl⟩
  exact ⟨links.eraseIdx index, (List.getElem_cons_eraseIdx_perm inside).symm,
    fun moved => List.set_perm_cons_eraseIdx inside moved⟩

theorem step (counted : Counted node target connectionsPerNode peers) {around : Surroundings}
    (nonzero : (node .a).tcpPort ≠ 0) {event : Peers.Event} {next : Peers}
    (step : peers.perform around event = some next) :
    Counted node target connectionsPerNode next := by
  cases event with
  | dial side position =>
      simp only [Peers.perform] at step
      split at step
      · cases step
      rename_i endpoint posted
      split at step
      · rename_i reaches
        split at step
        · cases step
        · rename_i after ran
          cases step
          exact counted.dial posted reaches ran
      · cases step
  | accept index =>
      simp only [Peers.perform] at step
      split at step
      · cases step
      rename_i link found
      rcases exists_others found with ⟨others, before, after⟩
      split at step
      · rename_i waits
        cases step
        have moved := after (link.accept (peers.node link.dialer.other).allocated)
        apply counted.move (counted.linking.accept before waits.1 waits.2 moved)
          (List.length_set ..) _ _ (List.append_nil _).symm (fun _ => rfl)
        · simp
        · rw [total_of_perm before, total_of_perm moved]
          rfl
        · rw [State.acceptTcp_eq]
          rfl
        · rw [State.acceptTcp_eq]
          rfl
      · cases step
  | readForth index =>
      simp only [Peers.perform] at step
      split at step
      · cases step
      rename_i link found
      rcases exists_others found with ⟨others, before, after⟩
      split at step
      · rename_i far frame rest linked forth
        cases step
        exact counted.readForth around nonzero before linked forth rfl (after _)
          (List.length_set ..)
      · cases step
  | readBack index =>
      simp only [Peers.perform] at step
      split at step
      · cases step
      rename_i link found
      rcases exists_others found with ⟨others, before, after⟩
      split at step
      · rename_i frame rest back
        cases step
        exact counted.readBack around before back rfl (after _) (List.length_set ..)
      · cases step

end Counted

/-- After the call of `connect` one link is dialed, and all others are promised. -/
theorem counted_of_called {around : Surroundings} {node : Side → State} {target : Endpoint}
    {connectionsPerNode : UInt16} {peers : Peers} (strangers : Peers.Strangers around node)
    (called : Peers.Called around node target connectionsPerNode peers) :
    Counted node target connectionsPerNode peers := by
  rcases called with ⟨reaches, connected, next, connect, rfl⟩
  have start : Linking (asked connectionsPerNode) ⟨node, []⟩ := by
    refine ⟨fun side => wellFormed_of_reachable (strangers.reachable side), ?_,
      fun _ => List.nodup_nil, ?_⟩
    · intro link member
      cases member
    · intro side ref carries
      rcases mem_sessionsWith.mp carries with ⟨entry, member, rfl, tcp, tagged⟩
      exact absurd tagged (strangers.apart side entry member tcp)
  have idle : { node .a with posted := [] } = node .a := by
    rw [← strangers.idle .a]
  rw [← idle] at connect
  rcases start.connect reaches connect with ⟨linking, tcpPort, dialed, posted, requested⟩
  have notA : Side.b ≠ Side.a := Side.noConfusion
  constructor
  · exact linking
  · rw [node_self]
    exact tcpPort
  · rw [node_self]
    exact posted
  · rw [node_of_ne notA, strangers.idle .b]
    intro endpoint member
    cases member
  · change total connectionsPerNode [Peers.dialed .a (node .a) next] + _ = _
    have promises : promised connectionsPerNode (Peers.dialed .a (node .a) next) =
        connectionsPerNode.toNat - 1 := if_pos ⟨rfl, requested⟩
    have nothing : total connectionsPerNode [] = 0 := rfl
    rw [node_of_ne notA, strangers.idle .b, total_of_perm (List.Perm.refl _), promises, nothing,
      List.length_nil]
    omega
  · rw [node_self]
    exact dialed
  · refine ⟨0, rfl, ?_⟩
    rw [node_of_ne notA]
    exact (List.append_nil _).symm

theorem counted_of_reachable {around : Surroundings} {node : Side → State} {target : Endpoint}
    {connectionsPerNode : UInt16} {peers : Peers} (strangers : Peers.Strangers around node)
    (nonzero : (node .a).tcpPort ≠ 0)
    (reachable : (Peers.machine around node target connectionsPerNode).Reachable peers) :
    Counted node target connectionsPerNode peers := by
  apply reachable.invariant
  · intro start called
    exact counted_of_called strangers called
  · intro before event after _ counted step
    exact counted.step nonzero step

/-- As long as something is in flight something happens, if dials succeed and
no identifier is drawn twice. -/
theorem Counted.exists_step {node : Side → State} {target : Endpoint}
    {connectionsPerNode : UInt16} {peers : Peers} {around : Surroundings}
    (counted : Counted node target connectionsPerNode peers)
    (dialable : around.listener (advertised node) = some .a)
    (connects : ∀ attempt, (around.env .b).connects attempt = true)
    (fresh : ∀ side, Fresh ((peers.node side).nextUuid (around.env side)) (peers.node side))
    (busy : ¬peers.Quiet) : ∃ event, (peers.perform around event).isSome := by
  cases posted : (peers.node .b).posted with
  | cons endpoint rest =>
      have toA : endpoint = advertised node :=
        counted.postedB endpoint (posted ▸ List.mem_cons_self)
      have reaches : around.Reaches .b endpoint (peers.node .b) := by
        refine ⟨?_, connects _, fresh .b⟩
        rw [toA]
        exact dialable
      obtain ⟨next, ran⟩ := State.runPosted_ok (around.env .b)
        { peers.node .b with posted := endpoint :: rest }
      refine ⟨.dial .b 0, ?_⟩
      simp only [Peers.perform, posted, List.getElem?_cons_zero, if_pos reaches,
        List.eraseIdx_cons_zero, ran, Option.isSome_some]
  | nil =>
      have waiting : ∃ link ∈ peers.links,
          ¬(link.far.isSome ∧ link.forth = [] ∧ link.back = []) := by
        by_contra settled
        apply busy
        constructor
        · intro link member
          by_contra unsettled
          exact settled ⟨link, member, unsettled⟩
        · intro side
          cases side
          · exact counted.postedA
          · exact posted
      rcases waiting with ⟨link, member, unsettled⟩
      rcases List.mem_iff_getElem?.mp member with ⟨index, found⟩
      cases far : link.far with
      | none =>
          refine ⟨.accept index, ?_⟩
          simp only [Peers.perform, found, if_pos (And.intro far (fresh link.dialer.other))]
          rfl
      | some ref =>
          cases forth : link.forth with
          | cons frame rest =>
              refine ⟨.readForth index, ?_⟩
              simp only [Peers.perform, found, far, forth]
              rfl
          | nil =>
              cases back : link.back with
              | cons frame rest =>
                  refine ⟨.readBack index, ?_⟩
                  simp only [Peers.perform, found, back]
                  rfl
              | nil =>
                  apply absurd _ unsettled
                  rw [far]
                  exact ⟨rfl, forth, back⟩

/-! ## Nothing in flight -/

namespace Peers.Quiet

variable {peers : Peers}

/-- Nothing happens any more. -/
theorem perform_eq_none (quiet : peers.Quiet) (around : Surroundings) (event : Event) :
    peers.perform around event = none := by
  cases event with
  | dial side position =>
      have none : (peers.node side).posted[position]? = none := by
        rw [quiet.run side]
        rfl
      simp only [perform, none]
  | accept index =>
      simp only [perform]
      split
      · rfl
      · rename_i link found
        rcases quiet.read link (List.mem_of_getElem? found) with ⟨accepted, _⟩
        rw [if_neg]
        rintro ⟨waits, _⟩
        rw [waits] at accepted
        cases accepted
  | readForth index =>
      simp only [perform]
      split
      · rfl
      · rename_i link found
        rcases quiet.read link (List.mem_of_getElem? found) with ⟨_, forth, _⟩
        simp only [forth]
        split
        · rename_i impossible
          cases impossible
        · rfl
  | readBack index =>
      simp only [perform]
      split
      · rfl
      · rename_i link found
        rcases quiet.read link (List.mem_of_getElem? found) with ⟨_, _, back⟩
        simp only [back]

/-- Every link has an end at each node. -/
theorem ends_length (quiet : peers.Quiet) (side : Side) :
    (peers.ends side).length = peers.links.length := by
  rw [ends, List.length_filterMap_eq_countP, List.countP_eq_length]
  intro link member
  rcases Side.eq_or_eq_other side link.dialer with rfl | rfl
  · rw [Link.endAt_dialer]
    rfl
  · rw [Link.endAt_other]
    exact (quiet.read link member).1

end Peers.Quiet

namespace Counted

variable {node : Side → State} {target : Endpoint} {connectionsPerNode : UInt16} {peers : Peers}
  (counted : Counted node target connectionsPerNode peers) (quiet : peers.Quiet)

include counted quiet

theorem links_length : peers.links.length = max connectionsPerNode.toNat 1 := by
  have sum := counted.counted
  have fulfilled : (peers.links.map (promised connectionsPerNode)).sum = 0 := by
    apply List.sum_eq_zero
    intro count member
    rcases List.mem_map.mp member with ⟨link, within, rfl⟩
    rcases quiet.read link within with ⟨_, forth, _⟩
    exact if_neg fun promises => promises.2 forth
  rw [total, fulfilled, quiet.run .b, List.length_nil] at sum
  exact sum

/-- Both ends of every link are registered and carry the node id of the peer. -/
theorem links_identified {link : Link} (member : link ∈ peers.links) :
    ∃ far, link.far = some far ∧
      Up (peers.node link.dialer) link.near ∧ Up (peers.node link.dialer.other) far ∧
      ((peers.node link.dialer).memory link.near).nodeId = (peers.node link.dialer.other).nodeId ∧
      ((peers.node link.dialer.other).memory far).nodeId = (peers.node link.dialer).nodeId := by
  have stage := counted.linking.stages link member
  rcases quiet.read link member with ⟨_, forth, back⟩
  rcases stage.of_quiet forth back with ⟨far, linked, farKnows, nearKnows⟩
  exact ⟨far, linked, stage.near_up, stage.far_up linked, nearKnows, farKnows⟩

/-- The TCP sessions that carry the node id of the peer are the ends of the
links. -/
theorem sessionsWith_perm (side : Side) :
    (peers.sessionsWith side).Perm (peers.ends side) := by
  have formed := counted.linking.formed side
  have ids : ((peers.node side).sessions.map Filed.elem).map
      (fun ref => ((peers.node side).memory ref).id) =
        (peers.node side).sessions.map fun entry => entry.key.id := by
    rw [List.map_map]
    apply List.map_congr_left
    intro entry member
    exact (formed.filed entry member).1.symm
  have registered : ((peers.node side).sessions.map Filed.elem).Nodup := by
    apply List.Nodup.of_map
    rw [ids]
    exact formed.distinct
  have distinct : (peers.sessionsWith side).Nodup :=
    registered.sublist (List.filter_sublist.map _)
  rw [List.perm_ext_iff_of_nodup distinct (counted.linking.distinct side)]
  intro ref
  constructor
  · exact counted.linking.only side ref
  · intro isEnd
    rcases mem_ends.mp isEnd with ⟨link, member, here⟩
    obtain ⟨far, linked, nearUp, farUp, nearKnows, farKnows⟩ :=
      counted.links_identified quiet member
    rcases Side.eq_or_eq_other side link.dialer with rfl | rfl
    · rw [Link.endAt_dialer] at here
      cases here
      rcases nearUp with ⟨⟨entry, within, isNear⟩, tcp⟩
      exact mem_sessionsWith.mpr ⟨entry, within, isNear, tcp, nearKnows⟩
    · rw [Link.endAt_other, linked] at here
      cases here
      rcases farUp with ⟨⟨entry, within, isFar⟩, tcp⟩
      refine mem_sessionsWith.mpr ⟨entry, within, isFar, tcp, ?_⟩
      rw [Side.other_other]
      exact farKnows

end Counted

/-- However the dials, accepts and frames are interleaved: once nothing is in
flight the two nodes are linked as often as A has asked for, once at least, both
know each other at every link, and neither dials any more. -/
theorem connectionsPerNode_links {around : Surroundings} {node : Side → State}
    (strangers : Peers.Strangers around node)
    (dialable : around.listener (advertised node) = some .a) {target : Endpoint}
    {connectionsPerNode : UInt16} {peers : Peers}
    (reachable : (Peers.machine around node target connectionsPerNode).Reachable peers)
    (quiet : peers.Quiet) :
    (∀ side, (peers.sessionsWith side).length = max connectionsPerNode.toNat 1 ∧
        (peers.sessionsWith side).Perm (peers.ends side)) ∧
      peers.links.length = max connectionsPerNode.toNat 1 ∧
      (∀ link ∈ peers.links, ∃ far, link.far = some far ∧
        Up (peers.node link.dialer) link.near ∧ Up (peers.node link.dialer.other) far ∧
        ((peers.node link.dialer).memory link.near).nodeId =
          (peers.node link.dialer.other).nodeId ∧
        ((peers.node link.dialer.other).memory far).nodeId = (peers.node link.dialer).nodeId) ∧
      (peers.node .a).dialed = (node .a).dialed ++ [target] ∧
      (peers.node .b).dialed = (node .b).dialed ++
        List.replicate (max connectionsPerNode.toNat 1 - 1) (advertised node) ∧
      ∀ event, peers.perform around event = none := by
  have nonzero : (node .a).tcpPort ≠ 0 := by
    intro zero
    rw [advertised, zero, around.unbound] at dialable
    cases dialable
  have counted := counted_of_reachable strangers nonzero reachable
  have length := counted.links_length quiet
  refine ⟨?_, length, fun link => counted.links_identified quiet, counted.dialedA, ?_,
    quiet.perform_eq_none around⟩
  · intro side
    have perm := counted.sessionsWith_perm quiet side
    rw [perm.length_eq, quiet.ends_length, length]
    exact ⟨rfl, perm⟩
  · rcases counted.dialedB with ⟨others, count, dialed⟩
    have many : others = max connectionsPerNode.toNat 1 - 1 := by omega
    rw [dialed, many]

/-- All dials connect, to a node A that listens on port 7000 or a node B that
listens on port 7001. -/
def openSurroundings : Surroundings where
  env _ := .plain (fun drawn => Uuid.filled (UInt8.ofNat (drawn + 3))) fun _ => true
  listener endpoint :=
    if endpoint.port = 7000 then some .a else if endpoint.port = 7001 then some .b else none
  unbound _ := rfl

def newNodes : Side → State
  | .a => State.initial (Uuid.filled 1) 7000
  | .b => State.initial (Uuid.filled 2) 7001

theorem newNodes_strangers : Peers.Strangers openSurroundings newNodes where
  reachable := by
    intro side
    cases side
    · exact .start ⟨Uuid.filled 1, 7000, rfl⟩
    · exact .start ⟨Uuid.filled 2, 7001, rfl⟩
  distinct := by decide
  apart := by
    intro side entry member
    cases side
    · cases member
    · cases member
  idle := by
    intro side
    cases side
    · rfl
    · rfl

/-- The events of three links, of which B dials the last two before A accepts
either. -/
def threeHandshakes : List Peers.Event :=
  [.accept 0, .readForth 0, .dial .b 1, .readBack 0, .dial .b 0, .accept 2, .readForth 2,
    .accept 1, .readBack 2, .readForth 1, .readBack 1]

theorem connectionsPerNode_links_three :
    ∃ peers ∈ Peers.run openSurroundings newNodes ⟨State.localHost, 7001⟩ 3 threeHandshakes,
      peers.links.length = 3 ∧ (∀ side, (peers.sessionsWith side).length = 3) ∧
        ∀ event, peers.perform openSurroundings event = none := by
  have ran : ∃ peers ∈ Peers.run openSurroundings newNodes ⟨State.localHost, 7001⟩ 3
      threeHandshakes, peers.Quiet := by
    decide +kernel
  rcases ran with ⟨peers, ran, quiet⟩
  obtain ⟨sessions, links, _, _, _, ended⟩ := connectionsPerNode_links newNodes_strangers rfl
    (Peers.reachable_of_run ran) quiet
  exact ⟨peers, ran, links, fun side => (sessions side).1, ended⟩

end Aurum.Cluster
