import Aurum.Node.Closing
import Aurum.Node.Descent
import Aurum.Node.Identify
import Aurum.Transition.Path

/-!
# Who can be described anew

Host and port of a session object change in the identify handler only, and that
handler passes over websocket sessions.  A websocket session therefore keeps
what it was built with in every run, while the peer of any TCP session can have
it show another host at any time.
-/

namespace Aurum.Node

open Aurum.Protocol
open Aurum.Container
open Aurum.Transition
open Identify

/-! ## Changes of session objects -/

/-- A property that every change of session objects keeps.  What a node builds
itself has neither host nor port, and only TCP sessions are described. -/
structure Objects (holds : State → Prop) : Prop where
  /-- Registry and messages are not looked at. -/
  quiet : ∀ {state next : State}, holds state → next.memory = state.memory →
    next.allocated = state.allocated → holds next
  opens : ∀ {state next : State}, holds state → OnlyOpenness state next →
    state.allocated ≤ next.allocated → holds next
  builds : ∀ {state : State} (session : Session),
    (session.origin ≠ .external → session.host = [] ∧ session.port = 0) →
    holds state → holds (state.allocate session)
  describes : ∀ {state : State} (ref : Ref) (id : Uuid) (port : UInt16) (host : Bytes)
    (posted : List Endpoint), WellFormed state → (state.memory ref).type = .tcp →
    holds state → holds (state.retag ref id port host posted)

/-- Whatever exists stays. -/
theorem closed_older (env : Environment) (size : Nat) :
    Closed env fun state => size ≤ state.allocated where
  quiet := fun older _ _ allocated _ => allocated ▸ older
  update := fun _ _ _ older => older
  allocate := fun _ _ older => Nat.le_succ_of_le older
  addSession := fun _ _ older => older
  erase := fun _ _ older => older

namespace Objects

variable {holds : State → Prop} (objects : Objects holds) {env : Environment} {state next : State}

include objects

theorem installs (session : Session)
    (blank : session.origin ≠ .external → session.host = [] ∧ session.port = 0)
    (kept : holds state) : holds (state.install env session) :=
  objects.quiet (objects.builds session blank kept) rfl rfl

theorem links (links : Links env state next) (kept : holds state) : holds next := by
  induction links with
  | quiet memory allocated sessions disconnected => exact objects.quiet kept memory allocated
  | install state id origin isLink => exact objects.installs _ (fun _ => ⟨rfl, rfl⟩) kept
  | trans first second firstKept secondKept => exact secondKept (firstKept kept)

theorem effect {session : Ref} {message : Submessage}
    (effect : Effect env session message state next) (wellFormed : WellFormed state)
    (kept : holds state) : holds next := by
  cases effect with
  | none => exact kept
  | identified id port host posted opcode tcp named =>
      exact objects.describes session id port host posted wellFormed tcp kept
  | discovered next opcode response visited => exact objects.links (.visitAll visited) kept
  | joined id opcode request tcp named => exact objects.installs _ (fun _ => ⟨rfl, rfl⟩) kept
  | left id opcode request tcp named => exact objects.quiet kept rfl rfl

theorem receive (wellFormed : WellFormed state) (session : Ref) (frame : Bytes)
    (kept : holds state) : holds (state.receive env session frame) := by
  have handled : holds (Node.handle env frame session state).state := by
    apply handle_keeps holds _ kept
    intro call member before
    rcases Kernel.mem_calls member with ⟨_, builder, result, invoked⟩
    have formed := (wellFormed.calls frame session call member).1
    exact objects.effect (invoke_effect invoked) formed before
  rcases exists_receive_eq env session frame state with ⟨sent, received⟩
  rw [received]
  exact objects.quiet handled rfl rfl

theorem perform {event : Event} (enabled : event.Enabled state)
    (step : state.perform env event = .ok next) (wellFormed : WellFormed state)
    (kept : holds state) : holds next := by
  have older : state.allocated ≤ next.allocated :=
    (closed_older env state.allocated).perform enabled step (fun _ _ _ _ _ before _ _ => before)
      le_rfl
  have removed : ∀ {ids : List Uuid}, state.removeSessions env ids = .ok next → holds next :=
    fun removal => objects.opens kept (.removeSessions removal) older
  cases event with
  | acceptTcp =>
      cases step
      exact objects.links (.acceptTcp env state) kept
  | acceptWebsocket =>
      cases step
      rw [State.acceptWebsocket_eq]
      have drawn : holds state.draw := objects.quiet kept rfl rfl
      exact objects.installs _ (fun _ => ⟨rfl, rfl⟩) drawn
  | handshake ref failed => exact objects.opens kept (.onAccept step) older
  | connect host port withDiscovery connectionsPerNode =>
      rcases Result.bind_eq_ok_iff.mp step with ⟨⟨connected, dialed⟩, dial, result⟩
      cases result
      exact objects.links (.connect dial) kept
  | runPosted => exact objects.links (.runPosted step) kept
  | create session =>
      cases step
      have external : session.origin = .external := enabled
      exact objects.builds session (fun own => absurd external own) kept
  | addSession ref =>
      cases step
      exact objects.quiet kept rfl rfl
  | removeSession id =>
      have single : state.removeSessions env [id] = .ok next := step
      exact removed single
  | disconnect node => exact removed step
  | disconnectAll => exact removed step
  | sendToNode node message =>
      cases step
      exact objects.links (.sendToNode env node message state) kept
  | frame ref bytes =>
      cases step
      exact objects.receive wellFormed ref bytes kept

/-- In every run. -/
theorem path {steps : List (Event × State)} (path : (machine env).Path state steps)
    (wellFormed : WellFormed state) (kept : holds state) : holds (Machine.finish state steps) := by
  induction path with
  | nil state => exact kept
  | cons taken rest ih =>
      rcases taken with ⟨enabled, step⟩
      have formed := (closed_wellFormed env).perform enabled step
        (fun session _ _ _ _ called id _ => called.setNodeId session id) wellFormed
      exact ih formed (objects.perform enabled step wellFormed kept)

end Objects

/-! ## Websocket sessions -/

/-- An object exists and differs from a given session at most in whether it is
open. -/
structure Keeps (ref : Ref) (session : Session) (state : State) : Prop where
  created : ref < state.allocated
  object : ∃ isOpen, state.memory ref = { session with isOpen := isOpen }

/-- Nothing describes a websocket session. -/
theorem Keeps.objects {ref : Ref} {session : Session} (websocket : session.type = .websocket) :
    Objects (Keeps ref session) where
  quiet := by
    intro state next keeps memory allocated
    refine ⟨keeps.created.trans_le allocated.ge, ?_⟩
    rw [memory]
    exact keeps.object
  opens := by
    intro state next keeps changed older
    rcases keeps.object with ⟨isOpen, object⟩
    refine ⟨keeps.created.trans_le older, (next.memory ref).isOpen, ?_⟩
    rw [changed.memory ref, object]
  builds := by
    intro state other _ keeps
    refine ⟨Nat.lt_succ_of_lt keeps.created, ?_⟩
    rw [State.allocate_memory_of_ne other (Nat.ne_of_lt keeps.created)]
    exact keeps.object
  describes := by
    intro state target id port host posted _ tcp keeps
    refine ⟨keeps.created, ?_⟩
    have differs : ref ≠ target := by
      rintro rfl
      rcases keeps.object with ⟨isOpen, object⟩
      rw [object, websocket] at tcp
      cases tcp
    have untouched : (state.retag target id port host posted).memory ref = state.memory ref :=
      Function.update_of_ne differs _ _
    rw [untouched]
    exact keeps.object

/-! ## Messages to a session -/

/-- An identify message that fits into a frame. -/
structure Introduces (message : Submessage) : Prop where
  opcode : message.opcode = OpCode.identify.byte
  small : message.bytes.length ≤ 65535

section Introduces

variable (env : Environment)

/-- A frame with one identify message describes its session, if that is a TCP
session, and does nothing to registry and objects else. -/
theorem receive_identify {message : Submessage} (introduces : Introduces message) (session : Ref)
    (state : State) :
    (state.receive env session (frameOf [message])).sessions = state.sessions ∧
      (state.receive env session (frameOf [message])).allocated = state.allocated ∧
      (state.receive env session (frameOf [message])).memory =
        if (state.memory session).type = .tcp then
          Function.update state.memory session (describe (state.memory session) message)
        else
          state.memory := by
  have isFrame : IsFrame (frameOf [message]) [message] [] :=
    isFrame_frameOf (by simp) (by simpa using introduces.small)
  have invoked : Kernel.invoke (handlers env session) message {} state =
      Handlers.identify session message.type {} message.transactionId message.payload state := by
    rw [Kernel.invoke, handlers, introduces.opcode]
    rfl
  rcases exists_receive_eq env session (frameOf [message]) state with ⟨sent, received⟩
  rw [received, handle_state, (Kernel.dispatched_of_isFrame isFrame).1, Kernel.run, invoked]
  by_cases tcp : (state.memory session).type = .tcp
  · rw [if_pos tcp, Handlers.identify_eq tcp]
    exact ⟨rfl, rfl, rfl⟩
  · have websocket : (state.memory session).type = .websocket := by
      cases isType : (state.memory session).type with
      | tcp => exact absurd isType tcp
      | websocket => rfl
    rw [if_neg tcp, Handlers.identify, if_pos websocket]
    exact ⟨rfl, rfl, rfl⟩

/-- The steps in which some sessions read a message each, one after another. -/
def introductions (messages : Ref → Submessage) : List Ref → State → List (Event × State)
  | [], _ => []
  | ref :: refs, state =>
      (.frame ref (frameOf [messages ref]), state.receive env ref (frameOf [messages ref])) ::
        introductions messages refs (state.receive env ref (frameOf [messages ref]))

variable {env} {messages : Ref → Submessage} {refs : List Ref} {state : State}

theorem introductions_path (created : ∀ ref ∈ refs, ref < state.allocated) :
    (machine env).Path state (introductions env messages refs state) := by
  induction refs generalizing state with
  | nil => exact .nil state
  | cons first refs ih =>
      have enabled : (Event.frame first (frameOf [messages first])).Enabled state :=
        created first List.mem_cons_self
      refine .cons ⟨enabled, rfl⟩ (ih fun ref member => ?_)
      exact (created ref (List.mem_cons_of_mem first member)).trans_le
        (Descends.receive env first _ state).older

theorem mem_introductions {ref : Ref} (member : ref ∈ refs) :
    ∃ next, (Event.frame ref (frameOf [messages ref]), next) ∈
      introductions env messages refs state := by
  induction refs generalizing state with
  | nil => cases member
  | cons first refs ih =>
      rcases List.mem_cons.mp member with rfl | later
      · exact ⟨_, List.mem_cons_self⟩
      · rcases ih later with ⟨next, found⟩
        exact ⟨next, List.mem_cons_of_mem _ found⟩

variable (env refs state)

/-- Every TCP session is described as often as it is told. -/
theorem introductions_finish (introduces : ∀ ref, Introduces (messages ref)) :
    (Machine.finish state (introductions env messages refs state)).sessions = state.sessions ∧
      (Machine.finish state (introductions env messages refs state)).allocated =
        state.allocated ∧
      ∀ ref, (Machine.finish state (introductions env messages refs state)).memory ref =
        if (state.memory ref).type = .tcp then
          (List.replicate (refs.count ref) (messages ref)).foldl describe (state.memory ref)
        else
          state.memory ref := by
  induction refs generalizing state with
  | nil => exact ⟨rfl, rfl, fun ref => (ite_self _).symm⟩
  | cons first refs ih =>
      rcases receive_identify env (introduces first) first state with
        ⟨sessions, allocated, memory⟩
      rcases ih (state.receive env first (frameOf [messages first])) with
        ⟨laterSessions, laterAllocated, laterMemory⟩
      refine ⟨laterSessions.trans sessions, laterAllocated.trans allocated, fun ref => ?_⟩
      rw [introductions, Machine.finish, laterMemory ref, memory]
      by_cases tcp : (state.memory first).type = .tcp
      · rw [if_pos tcp]
        by_cases same : ref = first
        · subst same
          have stays : (describe (state.memory ref) (messages ref)).type = .tcp := tcp
          rw [Function.update_self, if_pos stays, if_pos tcp, List.count_cons_self]
          rfl
        · rw [Function.update_of_ne same, List.count_cons_of_ne (Ne.symm same)]
      · rw [if_neg tcp]
        by_cases same : ref = first
        · subst same
          rw [if_neg tcp, if_neg tcp]
        · rw [List.count_cons_of_ne (Ne.symm same)]

/-! ### What the sessions show then -/

variable (introduces : ∀ ref, Introduces (messages ref))

include introduces

/-- Messages without port and host leave both alone. -/
theorem introductions_undescribed (unported : ∀ ref, ported (messages ref) = false)
    (unhosted : ∀ ref, hosted (messages ref) = false) (ref : Ref) :
    ((Machine.finish state (introductions env messages refs state)).memory ref).host =
        (state.memory ref).host ∧
      ((Machine.finish state (introductions env messages refs state)).memory ref).port =
        (state.memory ref).port := by
  rw [(introductions_finish env refs state introduces).2.2 ref]
  split
  · rw [foldl_describe]
    constructor
    · apply latest_of_agree
      intro message member hosted
      rw [List.eq_of_mem_replicate member, unhosted] at hosted
      cases hosted
    · apply latest_of_agree
      intro message member ported
      rw [List.eq_of_mem_replicate member, unported] at ported
      cases ported
  · exact ⟨rfl, rfl⟩

/-- A TCP session that is told a host shows it. -/
theorem introductions_described (hosted : ∀ ref, hosted (messages ref) = true) {ref : Ref}
    (tcp : (state.memory ref).type = .tcp) (member : ref ∈ refs) :
    ((Machine.finish state (introductions env messages refs state)).memory ref).host =
      Identify.host (messages ref) := by
  obtain ⟨before, counted⟩ := Nat.exists_eq_succ_of_ne_zero
    (Nat.ne_of_gt (List.count_pos_iff.mpr member))
  rw [(introductions_finish env refs state introduces).2.2 ref, if_pos tcp, counted,
    List.replicate_succ, List.foldl_cons, foldl_describe]
  have first : (describe (state.memory ref) (messages ref)).host =
      Identify.host (messages ref) := if_pos (hosted ref)
  rw [first]
  apply latest_of_agree
  intro message repeated _
  rw [List.eq_of_mem_replicate repeated]

theorem introductions_type (ref : Ref) :
    ((Machine.finish state (introductions env messages refs state)).memory ref).type =
      (state.memory ref).type := by
  rw [(introductions_finish env refs state introduces).2.2 ref]
  split
  · rw [foldl_describe]
  · rfl

/-- Websocket sessions are told nothing. -/
theorem introductions_websocket {ref : Ref} (websocket : (state.memory ref).type = .websocket) :
    (Machine.finish state (introductions env messages refs state)).memory ref =
      state.memory ref := by
  rw [(introductions_finish env refs state introduces).2.2 ref, if_neg (by simp [websocket])]

end Introduces

end Aurum.Node
