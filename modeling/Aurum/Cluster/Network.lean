import Aurum.Node.Outgoing

/-!
# Networks of nodes

Any number of nodes, and what is under way between them: frames, connections
that a listener is about to accept, and the connects each node has posted.

Where a message goes is left open.  It may be read on any session of any node,
after any time, or never, as if it had left the network or its link had failed;
this covers all ways the nodes can be linked.  A reply that is read is read as
it was queued.
-/

namespace Aurum.Cluster

open Aurum.Protocol
open Aurum.Node

universe u

/-- A frame on its way to a session of a node, without the bytes of its
length. -/
structure Frame (ι : Type u) where
  node : ι
  session : Ref
  bytes : Bytes

structure Network (ι : Type u) where
  nodes : ι → State
  frames : List (Frame ι)
  /-- The nodes to which a connection has been made that is not yet accepted. -/
  arriving : List ι

namespace Network

variable {ι : Type u}

/-- What other nodes notice of the connects a node makes between two states: of
the messages sent meanwhile, some are read, and each call makes a connection at
most. -/
structure Noticed (before after : State) (opened : List (Frame ι)) (arriving : List ι) : Prop where
  opened : (opened.map Frame.bytes).Sublist
    ((after.sent.drop before.sent.length).map fun sent => sent.2.drop 4)
  arriving : arriving.length ≤ after.dialed.length - before.dialed.length

/-- What is read of the reply to a frame. -/
inductive Replied (env : Environment) (frame : Frame ι) (state : State) : List (Frame ι) → Prop
  | none : Replied env frame state []
  | read (reply : Frame ι) (buffer : Bytes)
      (returned : (handle env frame.bytes frame.session state).outcome = .replied buffer)
      (nonempty : buffer ≠ [])
      (behind : reply.bytes = buffer.drop 4)
      (asQueued : (Kernel.dispatched reply.bytes).map Submessage.bytes =
        queuedReplies env frame.session frame.bytes state) :
      Replied env frame state [reply]

variable [DecidableEq ι]

/-- One step of a network whose nodes are left to themselves. -/
inductive Step (env : ι → Environment) (network : Network ι) : Network ι → Prop
  /-- A frame is handled. -/
  | deliver (before after : List (Frame ι)) (frame : Frame ι) (opened replies : List (Frame ι))
      (arriving : List ι)
      (inFlight : network.frames = before ++ frame :: after)
      (noticed : Noticed (network.nodes frame.node)
        (handle (env frame.node) frame.bytes frame.session (network.nodes frame.node)).state
        opened arriving)
      (replied : Replied (env frame.node) frame (network.nodes frame.node) replies) :
      Step env network
        { nodes := Function.update network.nodes frame.node
            ((network.nodes frame.node).receive (env frame.node) frame.session frame.bytes)
          frames := before ++ after ++ (opened ++ replies)
          arriving := network.arriving ++ arriving }
  /-- A connect is run that was posted, and is not necessarily the oldest. -/
  | dial (node : ι) (before after : List Endpoint) (endpoint : Endpoint) (next : State)
      (opened : List (Frame ι)) (arriving : List ι)
      (posted : (network.nodes node).posted = before ++ endpoint :: after)
      (ran : State.runPosted (env node)
        { network.nodes node with posted := endpoint :: (before ++ after) } = .ok next)
      (noticed : Noticed (network.nodes node) next opened arriving) :
      Step env network
        { nodes := Function.update network.nodes node next
          frames := network.frames ++ opened
          arriving := network.arriving ++ arriving }
  /-- A connection is accepted. -/
  | accept (before after : List ι) (node : ι)
      (arrives : network.arriving = before ++ node :: after) :
      Step env network
        { nodes := Function.update network.nodes node
            ((network.nodes node).acceptTcp (env node))
          frames := network.frames
          arriving := before ++ after }

/-- Nothing is under way. -/
structure Quiet (network : Network ι) : Prop where
  frames : network.frames = []
  posted : ∀ node, (network.nodes node).posted = []
  arriving : network.arriving = []

/-- As long as something is under way, a step can be taken. -/
theorem exists_step (env : ι → Environment) {network : Network ι} (busy : ¬network.Quiet) :
    ∃ next, Step env network next := by
  by_cases frames : network.frames = []
  · by_cases posted : ∀ node, (network.nodes node).posted = []
    · have arriving : network.arriving ≠ [] := fun none => busy ⟨frames, posted, none⟩
      rcases List.exists_cons_of_ne_nil arriving with ⟨node, rest, arrives⟩
      exact ⟨_, .accept [] rest node arrives⟩
    · rcases not_forall.mp posted with ⟨node, nonempty⟩
      rcases List.exists_cons_of_ne_nil nonempty with ⟨endpoint, rest, first⟩
      obtain ⟨next, ran⟩ := State.runPosted_ok (env node)
        { network.nodes node with posted := endpoint :: ([] ++ rest) }
      exact ⟨_, .dial node [] rest endpoint next [] [] first ran
        ⟨List.nil_sublist _, Nat.zero_le _⟩⟩
  · rcases List.exists_cons_of_ne_nil frames with ⟨frame, rest, first⟩
    exact ⟨_, .deliver [] rest frame [] [] [] first ⟨List.nil_sublist _, Nat.zero_le _⟩ .none⟩

end Network

end Aurum.Cluster
