import Aurum.Cluster.Network
import Aurum.Transition.Termination
import Mathlib.Algebra.Order.BigOperators.Group.Finset
import Mathlib.Tactic.Abel

/-!
# Cascades end

What is under way in a network is ranked.  A frame that may ask for connections
comes highest, then responses that list endpoints, posted connects, opening
requests, and last responses of other kinds and connections to accept.  Every
step uses up one of these and sets off only what ranks lower.
-/

namespace Aurum.Cluster

open Aurum.Protocol
open Aurum.Node
open Aurum.Transition

universe u

/-- The rank of a frame that carries the given sub-messages. -/
def rankOf (messages : List Submessage) : ℕ :=
  if ∀ message ∈ messages, message.type = .response ∧ message.opcode ≠ OpCode.discovery.byte then 0
  else if messages.length = 1 ∧ ∀ message ∈ messages, Opening message then 1
  else if ∀ message ∈ messages, message.type = .response then 3
  else 4

section Ranks

variable {messages : List Submessage}

theorem rankOf_opening {message : Submessage} (opening : Opening message) :
    rankOf [message] ≤ 1 := by
  unfold rankOf
  split
  · exact Nat.zero_le 1
  · rw [if_pos]
    exact ⟨rfl, by simpa using opening⟩

theorem rankOf_responses (responses : ∀ message ∈ messages, message.type = .response) :
    rankOf messages ≤ 3 := by
  unfold rankOf
  split
  · exact Nat.zero_le 3
  split
  · exact (by decide : 1 ≤ 3)
  · exact Nat.le_refl 3

/-- What may dial ranks above opening requests. -/
theorem three_le_rankOf (dials : ¬∀ message ∈ messages, DialsNothing message) :
    3 ≤ rankOf messages := by
  unfold rankOf
  split
  · rename_i silent
    exact absurd (fun message member => Or.inl (silent message member)) dials
  split
  · rename_i openings
    exact absurd (fun message member => Or.inr (openings.2 message member)) dials
  split
  · exact Nat.le_refl 3
  · exact Nat.le_succ 3

/-- What may post connects ranks highest. -/
theorem rankOf_of_posts (posts : ¬∀ message ∈ messages, PostsNothing message) :
    rankOf messages = 4 := by
  unfold rankOf
  split
  · rename_i silent
    exact absurd (fun message member => Or.inl (silent message member).1) posts
  split
  · rename_i openings
    exact absurd (fun message member => Or.inr (openings.2 message member)) posts
  split
  · rename_i responses
    exact absurd (fun message member => Or.inl (responses message member)) posts
  · rfl

/-- What is not made of responses is an opening request or ranks highest. -/
theorem rankOf_of_requests (requests : ¬∀ message ∈ messages, message.type = .response) :
    (∃ message, messages = [message] ∧ Opening message ∧ rankOf messages = 1) ∨
      rankOf messages = 4 := by
  unfold rankOf
  split
  · rename_i silent
    exact absurd (fun message member => (silent message member).1) requests
  split
  · rename_i openings
    rcases List.length_eq_one_iff.mp openings.1 with ⟨message, rfl⟩
    exact Or.inl ⟨message, rfl, openings.2 message List.mem_cons_self, rfl⟩
  · exact Or.inr rfl

end Ranks

namespace Network

variable {ι : Type u}

/-- The rank of a frame. -/
def rank (frame : Frame ι) : ℕ :=
  rankOf (Kernel.dispatched frame.bytes)

/-! ## What a step sets off -/

section Step

variable {before after : State} {opened : List (Frame ι)} {arriving : List ι}

theorem Noticed.opened_eq_nil (noticed : Noticed before after opened arriving)
    (sent : after.sent = before.sent) : opened = [] := by
  have nothing := noticed.opened
  rw [sent, List.drop_length, List.map_nil] at nothing
  exact List.map_eq_nil_iff.mp (List.sublist_nil.mp nothing)

theorem Noticed.arriving_eq_nil (noticed : Noticed before after opened arriving)
    (dialed : after.dialed = before.dialed) : arriving = [] := by
  have nothing := noticed.arriving
  rw [dialed, Nat.sub_self] at nothing
  exact List.eq_nil_of_length_eq_zero (Nat.le_zero.mp nothing)

/-- When only opening requests are sent, opening requests are read. -/
theorem Noticed.rank_opened (noticed : Noticed before after opened arriving)
    (sent : SendsOpenings before after) : ∀ frame ∈ opened, rank frame ≤ 1 := by
  rcases sent with ⟨dials, appended, opens⟩
  intro frame member
  have read := noticed.opened.subset (List.mem_map_of_mem member)
  rw [appended, List.drop_left] at read
  rcases List.mem_map.mp read with ⟨dial, within, behind⟩
  rcases opens dial within with ⟨message, only, opening⟩
  rw [rank, ← behind, only]
  exact rankOf_opening opening

end Step

section Deliver

variable {env : Environment} {frame : Frame ι} {state : State} {opened replies : List (Frame ι)}
  {arriving : List ι}

theorem opened_lt
    (noticed : Noticed state (handle env frame.bytes frame.session state).state opened arriving) :
    ∀ other ∈ opened, rank other < rank frame := by
  intro other member
  by_cases silent : ∀ message ∈ Kernel.dispatched frame.bytes, DialsNothing message
  · rw [noticed.opened_eq_nil (handle_dialed env frame.session state silent).1] at member
    cases member
  · have low := noticed.rank_opened (handle_sent env frame.session state frame.bytes) other member
    have high : 3 ≤ rank frame := three_le_rankOf silent
    exact Nat.lt_of_le_of_lt low (Nat.lt_of_lt_of_le (by decide) high)

theorem arriving_lt
    (noticed : Noticed state (handle env frame.bytes frame.session state).state opened arriving) :
    arriving ≠ [] → 0 < rank frame := by
  intro connects
  by_cases silent : ∀ message ∈ Kernel.dispatched frame.bytes, DialsNothing message
  · exact absurd (noticed.arriving_eq_nil (handle_dialed env frame.session state silent).2) connects
  · have high : 3 ≤ rank frame := three_le_rankOf silent
    exact Nat.lt_of_lt_of_le (by decide) high

theorem posted_lt {extra : List Endpoint}
    (posts : state.posted ++ extra = (handle env frame.bytes frame.session state).state.posted) :
    extra ≠ [] → 2 < rank frame := by
  intro some
  by_cases silent : ∀ message ∈ Kernel.dispatched frame.bytes, PostsNothing message
  · rw [handle_posted env frame.session state silent, List.append_right_eq_self] at posts
    exact absurd posts some
  · have highest : rank frame = 4 := rankOf_of_posts silent
    rw [highest]
    exact (by decide : 2 < 4)

/-- A reply is read only if something was queued for it. -/
theorem Replied.queued (replied : Replied env frame state replies) :
    ∀ reply ∈ replies, queuedReplies env frame.session frame.bytes state ≠ [] := by
  intro reply member
  cases replied with
  | none => cases member
  | read reply buffer returned nonempty behind asQueued =>
      cases complete : Kernel.completes frame.bytes with
      | false =>
          rw [(handle_rejected_iff env frame.bytes frame.session state).mpr complete] at returned
          cases returned
      | true =>
          intro silent
          rw [handle_outcome_eq env frame.session state complete, silent] at returned
          cases returned
          exact nonempty rfl

/-- The sub-messages read in a reply are those queued. -/
theorem Replied.dispatched_eq (replied : Replied env frame state replies)
    {queued : List ResponseCall}
    (queue : queuedReplies env frame.session frame.bytes state =
      (queued.map ResponseCall.message).map Submessage.bytes) :
    ∀ reply ∈ replies, Kernel.dispatched reply.bytes = queued.map ResponseCall.message := by
  intro reply member
  cases replied with
  | none => cases member
  | read other buffer returned nonempty behind asQueued =>
      rw [List.mem_singleton.mp member]
      apply List.map_injective_iff.mpr Submessage.bytes_injective
      rw [asQueued, queue]

theorem replies_lt (replied : Replied env frame state replies) :
    ∀ reply ∈ replies, rank reply < rank frame := by
  intro reply member
  by_cases responses : ∀ message ∈ Kernel.dispatched frame.bytes, message.type = .response
  · exact absurd (queuedReplies_of_responses env frame.session state responses)
      (replied.queued reply member)
  rcases rankOf_of_requests responses with ⟨message, only, opening, rankEq⟩ | rankEq
  · rcases queuedReplies_of_opening env frame.session state only opening with
      silent | ⟨nodeId, queue⟩
    · exact absurd silent (replied.queued reply member)
    · have read : Kernel.dispatched reply.bytes =
          [ResponseCall.identify message.transactionId nodeId].map ResponseCall.message :=
        replied.dispatched_eq queue reply member
      rw [rank, rank, rankEq, read]
      exact (by decide : 0 < 1)
  · rcases exists_queuedReplies env frame.bytes frame.session state with ⟨queued, queue, _⟩
    have read := replied.dispatched_eq queue reply member
    have low : rank reply ≤ 3 := by
      apply rankOf_responses
      rw [read]
      simp
    rw [rank, rank, rankEq]
    exact Nat.lt_succ_of_le low

end Deliver

/-! ## The game -/

def ranksOf (frames : List (Frame ι)) : Multiset ℕ :=
  (frames.map rank : List ℕ)

theorem ranksOf_append (first second : List (Frame ι)) :
    ranksOf (first ++ second) = ranksOf first + ranksOf second := by
  rw [ranksOf, List.map_append, ← Multiset.coe_add]
  rfl

theorem ranksOf_cons (frame : Frame ι) (frames : List (Frame ι)) :
    ranksOf (frame :: frames) = {rank frame} + ranksOf frames := by
  rw [ranksOf, List.map_cons, ← Multiset.cons_coe, Multiset.singleton_add]
  rfl

theorem mem_ranksOf {frames : List (Frame ι)} {value : ℕ} :
    value ∈ ranksOf frames ↔ ∃ frame ∈ frames, rank frame = value := by
  rw [ranksOf, Multiset.mem_coe, List.mem_map]

variable [Fintype ι]

/-- How many connects are posted. -/
def posted (nodes : ι → State) : ℕ :=
  ∑ node, (nodes node).posted.length

/-- The ranks of all that is under way. -/
def ranks (network : Network ι) : Multiset ℕ :=
  ranksOf network.frames + Multiset.replicate (posted network.nodes) 2 +
    Multiset.replicate network.arriving.length 0

variable [DecidableEq ι]

theorem posted_update (nodes : ι → State) (node : ι) (next : State) :
    posted (Function.update nodes node next) + (nodes node).posted.length =
      posted nodes + next.posted.length := by
  have others : ∑ other ∈ Finset.univ.erase node,
      (Function.update nodes node next other).posted.length =
        ∑ other ∈ Finset.univ.erase node, (nodes other).posted.length := by
    apply Finset.sum_congr rfl
    intro other member
    rw [Function.update_of_ne (Finset.ne_of_mem_erase member)]
  have first := Finset.add_sum_erase Finset.univ
    (fun other => (Function.update nodes node next other).posted.length) (Finset.mem_univ node)
  have second := Finset.add_sum_erase Finset.univ
    (fun other => (nodes other).posted.length) (Finset.mem_univ node)
  simp only [Function.update_self] at first
  rw [posted, posted, ← first, ← second, others]
  ring

/-- A step that uses up a frame. -/
theorem cutExpand_deliver {network : Network ι} {before after opened replies : List (Frame ι)}
    {frame : Frame ι} {arriving : List ι} {next : State} {extra : List Endpoint}
    (inFlight : network.frames = before ++ frame :: after)
    (posts : (network.nodes frame.node).posted ++ extra = next.posted)
    (openedLower : ∀ other ∈ opened, rank other < rank frame)
    (repliesLower : ∀ other ∈ replies, rank other < rank frame)
    (postedLower : extra ≠ [] → 2 < rank frame)
    (arrivingLower : arriving ≠ [] → 0 < rank frame) :
    Relation.CutExpand (· < ·)
      (ranks
        { nodes := Function.update network.nodes frame.node next
          frames := before ++ after ++ (opened ++ replies)
          arriving := network.arriving ++ arriving })
      (ranks network) := by
  have counted : posted (Function.update network.nodes frame.node next) =
      posted network.nodes + extra.length := by
    have balance := posted_update network.nodes frame.node next
    rw [← posts, List.length_append] at balance
    omega
  refine ⟨ranksOf opened + ranksOf replies + Multiset.replicate extra.length 2 +
    Multiset.replicate arriving.length 0, rank frame, ?_, ?_⟩
  · intro value member
    rcases Multiset.mem_add.mp member with member | member
    · rcases Multiset.mem_add.mp member with member | member
      · rcases Multiset.mem_add.mp member with member | member
        · rcases mem_ranksOf.mp member with ⟨other, within, rfl⟩
          exact openedLower other within
        · rcases mem_ranksOf.mp member with ⟨other, within, rfl⟩
          exact repliesLower other within
      · rcases Multiset.mem_replicate.mp member with ⟨some, rfl⟩
        exact postedLower fun none => some (by rw [none, List.length_nil])
    · rcases Multiset.mem_replicate.mp member with ⟨some, rfl⟩
      exact arrivingLower fun none => some (by rw [none, List.length_nil])
  · rw [ranks, ranks, inFlight, counted]
    simp only [ranksOf_append, ranksOf_cons, List.length_append, Multiset.replicate_add]
    abel

/-- A step that uses up a posted connect. -/
theorem cutExpand_dial {network : Network ι} {node : ι} {before after : List Endpoint}
    {endpoint : Endpoint} {next : State} {opened : List (Frame ι)} {arriving : List ι}
    (posts : (network.nodes node).posted = before ++ endpoint :: after)
    (left : next.posted = before ++ after) (openedLower : ∀ other ∈ opened, rank other < 2) :
    Relation.CutExpand (· < ·)
      (ranks
        { nodes := Function.update network.nodes node next
          frames := network.frames ++ opened
          arriving := network.arriving ++ arriving })
      (ranks network) := by
  have counted : posted network.nodes = posted (Function.update network.nodes node next) + 1 := by
    have balance := posted_update network.nodes node next
    rw [posts, left, List.length_append, List.length_append, List.length_cons] at balance
    omega
  refine ⟨ranksOf opened + Multiset.replicate arriving.length 0, 2, ?_, ?_⟩
  · intro value member
    rcases Multiset.mem_add.mp member with member | member
    · rcases mem_ranksOf.mp member with ⟨other, within, rfl⟩
      exact openedLower other within
    · rcases Multiset.mem_replicate.mp member with ⟨_, rfl⟩
      exact (by decide : 0 < 2)
  · rw [ranks, ranks, counted]
    simp only [ranksOf_append, List.length_append, Multiset.replicate_add,
      Multiset.replicate_one]
    abel

/-- A step that uses up a connection to accept. -/
theorem cutExpand_accept {network : Network ι} {before after : List ι} {node : ι} {next : State}
    (arrives : network.arriving = before ++ node :: after)
    (posts : next.posted = (network.nodes node).posted) :
    Relation.CutExpand (· < ·)
      (ranks
        { nodes := Function.update network.nodes node next
          frames := network.frames
          arriving := before ++ after })
      (ranks network) := by
  have counted : posted (Function.update network.nodes node next) = posted network.nodes := by
    have balance := posted_update network.nodes node next
    rw [posts] at balance
    omega
  have length : network.arriving.length = (before ++ after).length + 1 := by
    rw [arrives, List.length_append, List.length_append, List.length_cons]
    omega
  refine ⟨0, 0, fun value member => absurd member (Multiset.notMem_zero value), ?_⟩
  rw [ranks, ranks, counted, length]
  simp only [Multiset.replicate_add, Multiset.replicate_one]
  abel

theorem ranks_descend (env : ι → Environment) {network next : Network ι}
    (step : Step env network next) :
    Relation.CutExpand (· < ·) (ranks next) (ranks network) := by
  cases step with
  | deliver before after frame opened replies arriving inFlight noticed replied =>
      obtain ⟨sent, received⟩ := exists_receive_eq (env frame.node) frame.session frame.bytes
        (network.nodes frame.node)
      obtain ⟨extra, posts⟩ := handle_posts (env frame.node) frame.session
        (network.nodes frame.node) frame.bytes
      have added : (network.nodes frame.node).posted ++ extra = (State.receive (env frame.node)
          frame.session frame.bytes (network.nodes frame.node)).posted := by
        rw [received]
        exact posts
      exact cutExpand_deliver inFlight added (opened_lt noticed) (replies_lt replied)
        (posted_lt posts) (arriving_lt noticed)
  | dial node before after endpoint next opened arriving posted ran noticed =>
      rcases Result.bind_eq_ok_iff.mp ran with ⟨⟨connected, dialed⟩, dial, result⟩
      cases result
      have dials := Dials.connect dial
      apply cutExpand_dial posted dials.posted
      intro other member
      exact Nat.lt_succ_of_le (noticed.rank_opened dials.sent other member)
  | accept before after node arrives => exact cutExpand_accept arrives rfl

/-- A network left to itself comes to rest, in whatever order and with whatever
result its steps are taken: replies are not replied to, and the requests that
handlers and posted connects open links with set off no further connects. -/
theorem cascades_end (env : ι → Environment) :
    (∀ run : ℕ → Network ι,
        (∀ k, ¬(run k).Quiet → Step env (run k) (run (k + 1))) → ∃ k, (run k).Quiet) ∧
      (∀ network : Network ι, ¬network.Quiet → ∃ next, Step env network next) ∧
      (∀ (env : Environment) (frame reply : Bytes) (session : Ref) (state : State),
        (Kernel.dispatched reply).map Submessage.bytes = queuedReplies env session frame state →
          ∀ (env : Environment) (session : Ref) (state : State),
            queuedReplies env session reply state = []) ∧
      (∀ (env : Environment) (state next : State),
        (∃ frame session, next = (handle env frame session state).state) ∨
            state.runPosted env = .ok next →
          ∀ sent ∈ next.sent.drop state.sent.length,
            ∀ (env : Environment) (session : Ref) (state : State),
              (handle env (sent.2.drop 4) session state).state.dialed = state.dialed ∧
                (handle env (sent.2.drop 4) session state).state.posted = state.posted) := by
  refine ⟨?_, fun network => exists_step env, ?_, ?_⟩
  · intro run goes
    exact exists_rest (wellFounded_of_cutExpand ranks fun _ _ => ranks_descend env) goes
  · intro env frame reply session state asQueued env' session' state'
    rcases exists_queuedReplies env frame session state with ⟨queued, queue, _⟩
    have read : Kernel.dispatched reply = queued.map ResponseCall.message := by
      apply List.map_injective_iff.mpr Submessage.bytes_injective
      rw [asQueued, queue]
    apply queuedReplies_of_responses
    rw [read]
    simp
  · intro env state next opens sent member env' session' state'
    have appended : SendsOpenings state next := by
      rcases opens with ⟨frame, session, rfl⟩ | ran
      · exact handle_sent env session state frame
      · exact runPosted_sent ran
    rcases appended with ⟨dials, sentEq, opens⟩
    rw [sentEq, List.drop_left] at member
    rcases opens sent member with ⟨message, only, opening⟩
    have silent : ∀ other ∈ Kernel.dispatched (sent.2.drop 4), DialsNothing other := by
      intro other within
      rw [only] at within
      rw [List.mem_singleton.mp within]
      exact Or.inr opening
    constructor
    · exact (handle_dialed env' session' state' silent).2
    · exact handle_posted env' session' state' fun other within =>
        .of_dialsNothing (silent other within)

end Network

end Aurum.Cluster
