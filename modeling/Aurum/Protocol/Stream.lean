import Aurum.Protocol.RoundTrip

/-!
# Frames on a stream

The `read_header` / `read_body` loop of `tcp_session` and `tcp_client::read`,
over the bytes a peer has put on the stream.  A read of `k` bytes completes
when `k` bytes have arrived and returns the next `k`; on a closed stream that
is shorter it fails.
-/

namespace Aurum.Protocol

open Aurum.Wire
open Aurum.Wire.LittleEndian

/-- The read a TCP session has outstanding; `removed` follows a failed one. -/
inductive Reading
  | header
  | body (headerLength : UInt32)
  | removed
  deriving DecidableEq

/-- The receiving side of a TCP session, with `session_kernel::handle` acting
on `σ`. -/
structure Receiver (σ : Type) where
  reading : Reading
  /-- The bytes that have arrived and are not yet read. -/
  stream : Bytes
  /-- The bodies passed to `handle`. -/
  handled : List Bytes
  /-- The responses passed to `send`. -/
  sent : List Bytes
  state : σ

namespace Receiver

variable {σ : Type}

/-- A session that has just been started. -/
def start (stream : Bytes) (state : σ) : Receiver σ :=
  { reading := .header, stream := stream, handled := [], sent := [], state := state }

/-- The completion of `read_header`. -/
def readHeader (receiver : Receiver σ) : Receiver σ :=
  { receiver with
    reading := .body (ofLe32 (receiver.stream.take 4))
    stream := receiver.stream.drop 4 }

/-- The completion of `read_body`; the kernel answers with `none` for
`nullptr`. -/
def readBody (kernel : Bytes → σ → Option Bytes × σ) (headerLength : UInt32)
    (receiver : Receiver σ) : Receiver σ :=
  let body := receiver.stream.take headerLength.toNat
  let (response, state) := kernel body receiver.state
  { reading := .header
    stream := receiver.stream.drop headerLength.toNat
    handled := receiver.handled ++ [body]
    sent := receiver.sent ++ response.toList
    state := state }

/-- The failure of a read removes the session. -/
def remove (receiver : Receiver σ) : Receiver σ :=
  { receiver with reading := .removed }

/-- The completion of the outstanding read; `none` while it is waiting. -/
def step (kernel : Bytes → σ → Option Bytes × σ) (closed : Bool) (receiver : Receiver σ) :
    Option (Receiver σ) :=
  match receiver.reading with
  | .header =>
      if 4 ≤ receiver.stream.length then some receiver.readHeader
      else if closed then some receiver.remove
      else none
  | .body headerLength =>
      if headerLength.toNat ≤ receiver.stream.length then
        some (receiver.readBody kernel headerLength)
      else if closed then some receiver.remove
      else none
  | .removed => none

/-- The first `steps` completions. -/
def run (kernel : Bytes → σ → Option Bytes × σ) (closed : Bool) :
    Nat → Receiver σ → Receiver σ
  | 0, receiver => receiver
  | steps + 1, receiver =>
      match receiver.step kernel closed with
      | none => receiver
      | some next => run kernel closed steps next

end Receiver

/-- `tcp_client::read`: one length and that many bytes, returned together. -/
def clientRead (stream : Bytes) : Result (Bytes × Bytes) := do
  let header ← readBytes stream 0 4
  let body ← readBytes stream 4 (ofLe32 header).toNat
  return (le32 (ofLe32 header) ++ body, stream.drop (4 + (ofLe32 header).toNat))

/-- Repeated calls of `tcp_client::read`. -/
def clientReads : Nat → Bytes → Result (List Bytes × Bytes)
  | 0, stream => .ok ([], stream)
  | calls + 1, stream => do
      let (output, rest) ← clientRead stream
      let (outputs, rest) ← clientReads calls rest
      return (output :: outputs, rest)

/-! ## The header of a frame -/

/-- A body behind a header that announces its length. -/
def Headed (output body : Bytes) : Prop :=
  ∃ header : UInt32, header.toNat = body.length ∧ output = le32 header ++ body

theorem sum_flatMap_le16 (buffers : List Bytes) :
    (buffers.flatMap fun buffer => le16 (UInt16.ofNat buffer.length)).length =
      2 * buffers.length := by
  induction buffers with
  | nil => rfl
  | cons buffer buffers ih =>
      rw [List.flatMap_cons, List.length_append, ih, le16_length, List.length_cons]
      omega

/-- The size that the header announces is the length of what follows it. -/
theorem frame_length (buffers : List Bytes) :
    (checksummed (frameBody buffers)).length =
      2 + buffers.length * 2 + (buffers.map List.length).sum + 2 := by
  rw [checksummed, frameBody, List.length_append, List.length_append, List.length_append,
    le16_length, le16_length, sum_flatMap_le16, List.length_flatten]
  omega

/-- The guards keep the size below 2³², so narrowing it changes nothing. -/
theorem BaseBuilder.getData_headed {builder : BaseBuilder} (queued : builder.buffers ≠ [])
    {output : Bytes} (serialized : builder.getData true = .ok output) :
    ∃ body, builder.getData false = .ok body ∧ Headed output body := by
  by_cases fits : builder.Fits
  · rw [getData_of_fits queued fits] at serialized
    cases serialized
    refine ⟨_, getData_of_fits queued fits false, _, ?_, rfl⟩
    have small : 2 + builder.buffers.length * 2 + (builder.buffers.map List.length).sum + 2 <
        2 ^ 32 := by
      have count := fits.1
      have size := fits.2
      rw [maxRequestsPerFrame] at count
      rw [maxFramePayloadSize] at size
      omega
    rw [UInt32.toNat_ofNat_of_lt' small]
    exact (frame_length builder.buffers).symm
  · obtain ⟨what, thrown⟩ := getData_of_not_fits queued fits true
    rw [thrown] at serialized
    contradiction

/-! ## Reading headed bodies -/

namespace Receiver

variable {σ : Type}

/-- Hand bodies to the kernel one after the other. -/
def feed (kernel : Bytes → σ → Option Bytes × σ) :
    List Bytes → List Bytes → σ → List Bytes × σ
  | [], sent, state => (sent, state)
  | body :: bodies, sent, state =>
      let (response, state) := kernel body state
      feed kernel bodies (sent ++ response.toList) state

theorem run_zero_of_le (kernel : Bytes → σ → Option Bytes × σ) (closed : Bool)
    {receiver : Receiver σ} (waiting : receiver.step kernel closed = none) (steps : Nat) :
    receiver.run kernel closed steps = receiver := by
  cases steps with
  | zero => rfl
  | succ steps => rw [run, waiting]

theorem run_succ_of_step (kernel : Bytes → σ → Option Bytes × σ) (closed : Bool)
    {receiver next : Receiver σ} (step : receiver.step kernel closed = some next)
    (steps : Nat) : receiver.run kernel closed (steps + 1) = next.run kernel closed steps := by
  rw [run, step]

/-- Two completions read one headed body off the front of the stream. -/
theorem run_headed (kernel : Bytes → σ → Option Bytes × σ) (closed : Bool)
    {output body : Bytes} (headed : Headed output body) (rest : Bytes) (handled sent : List Bytes)
    (state : σ) (steps : Nat) :
    (⟨.header, output ++ rest, handled, sent, state⟩ : Receiver σ).run kernel closed (steps + 2) =
      (⟨.header, rest, handled ++ [body], sent ++ (kernel body state).1.toList,
        (kernel body state).2⟩ : Receiver σ).run kernel closed steps := by
  rcases headed with ⟨header, announced, rfl⟩
  rw [List.append_assoc]
  have headerStep : (⟨.header, le32 header ++ (body ++ rest), handled, sent, state⟩ :
      Receiver σ).step kernel closed =
        some ⟨.body header, body ++ rest, handled, sent, state⟩ := by
    have arrived : 4 ≤ (le32 header ++ (body ++ rest)).length := by simp
    rw [step]
    simp only
    rw [if_pos arrived, readHeader]
    simp only
    rw [List.take_left' (le32_length header), List.drop_left' (le32_length header),
      ofLe32_le32]
  have bodyStep : (⟨.body header, body ++ rest, handled, sent, state⟩ :
      Receiver σ).step kernel closed =
        some ⟨.header, rest, handled ++ [body], sent ++ (kernel body state).1.toList,
          (kernel body state).2⟩ := by
    have arrived : header.toNat ≤ (body ++ rest).length := by
      rw [announced, List.length_append]
      exact Nat.le_add_right _ _
    rw [step]
    simp only
    rw [if_pos arrived, readBody]
    simp only
    rw [List.take_left' announced.symm, List.drop_left' announced.symm]
  rw [run_succ_of_step kernel closed headerStep, run_succ_of_step kernel closed bodyStep]

/-- The loop cuts a concatenation of headed bodies into exactly the bodies. -/
theorem run_headed_all (kernel : Bytes → σ → Option Bytes × σ) (closed : Bool)
    {outputs bodies : List Bytes} (headed : List.Forall₂ Headed outputs bodies)
    (handled sent : List Bytes) (state : σ) (steps : Nat) :
    (⟨.header, outputs.flatten, handled, sent, state⟩ : Receiver σ).run kernel closed
        (2 * bodies.length + steps) =
      (⟨.header, [], handled ++ bodies, (feed kernel bodies sent state).1,
        (feed kernel bodies sent state).2⟩ : Receiver σ).run kernel closed steps := by
  induction headed generalizing handled sent state with
  | nil => simp [feed]
  | @cons output body outputs bodies first rest ih =>
      have split : 2 * (body :: bodies).length + steps = 2 * bodies.length + steps + 2 := by
        rw [List.length_cons]
        omega
      rw [split, List.flatten_cons, run_headed kernel closed first, ih, List.append_assoc,
        List.singleton_append, feed]

end Receiver

/-- A client reads a headed body with its header. -/
theorem clientRead_headed {output body : Bytes} (headed : Headed output body) (rest : Bytes) :
    clientRead (output ++ rest) = .ok (output, rest) := by
  rcases headed with ⟨header, announced, rfl⟩
  have headerRead : readBytes (le32 header ++ (body ++ rest)) 0 4 = .ok (le32 header) :=
    readBytes_append [] _ _ rfl (le32_length header).symm
  have bodyRead : readBytes (le32 header ++ (body ++ rest)) 4 header.toNat = .ok body :=
    readBytes_append _ _ _ (le32_length header).symm announced
  have remaining : (le32 header ++ (body ++ rest)).drop (4 + header.toNat) = rest := by
    rw [← List.append_assoc]
    exact List.drop_left' (by rw [List.length_append, le32_length, announced])
  rw [List.append_assoc, clientRead, headerRead]
  simp only [bind, Except.bind, ofLe32_le32, bodyRead, remaining, pure, Except.pure]

theorem clientReads_headed {outputs bodies : List Bytes}
    (headed : List.Forall₂ Headed outputs bodies) :
    clientReads outputs.length outputs.flatten = .ok (outputs, []) := by
  induction headed with
  | nil => rfl
  | @cons output body outputs bodies first rest ih =>
      rw [List.length_cons, clientReads, List.flatten_cons, clientRead_headed first]
      simp only [bind, Except.bind, ih, pure, Except.pure]

/-! ## Serialized queues on a stream -/

theorem Headed.ne_nil {output body : Bytes} (headed : Headed output body) : output ≠ [] := by
  rcases headed with ⟨header, _, rfl⟩
  intro empty
  have length := congrArg List.length empty
  simp at length

/-- The outputs of non-empty queues are headed bodies; empty queues put
nothing on the stream. -/
theorem serialized_headed {builders : List BaseBuilder} {outputs : List Bytes}
    (serialized : List.Forall₂ (fun builder output => builder.getData true = .ok output)
      builders outputs) :
    ∃ bodies,
      List.Forall₂ (fun builder body => builder.getData false = .ok body)
          (builders.filter fun builder => builder.buffers ≠ []) bodies ∧
        List.Forall₂ Headed (outputs.filter fun output => output ≠ []) bodies ∧
        outputs.flatten = (outputs.filter fun output => output ≠ []).flatten := by
  induction serialized with
  | nil => exact ⟨[], .nil, .nil, rfl⟩
  | @cons builder output builders outputs first rest ih =>
      rcases ih with ⟨bodies, bodiesEq, headed, flattenEq⟩
      by_cases queued : builder.buffers = []
      · rw [BaseBuilder.getData_nil queued] at first
        cases first
        refine ⟨bodies, ?_, ?_, ?_⟩
        · rw [List.filter_cons_of_neg (by simpa using queued)]
          exact bodiesEq
        · rw [List.filter_cons_of_neg (by simp)]
          exact headed
        · rw [List.flatten_cons, List.nil_append, flattenEq, List.filter_cons_of_neg (by simp)]
      · obtain ⟨body, bodyEq, firstHeaded⟩ := BaseBuilder.getData_headed queued first
        refine ⟨body :: bodies, ?_, ?_, ?_⟩
        · rw [List.filter_cons_of_pos (by simpa using queued)]
          exact .cons bodyEq bodiesEq
        · rw [List.filter_cons_of_pos (by simpa using firstHeaded.ne_nil)]
          exact .cons firstHeaded headed
        · rw [List.filter_cons_of_pos (by simpa using firstHeaded.ne_nil), List.flatten_cons,
            List.flatten_cons, flattenEq]

/-- The stream has been read to its end and nothing but `removed` can follow. -/
theorem Receiver.run_drained {σ : Type} (kernel : Bytes → σ → Option Bytes × σ) (closed : Bool)
    (handled sent : List Bytes) (state : σ) (steps : Nat) :
    ∃ reading, (reading = .header ∨ closed = true ∧ reading = .removed) ∧
      (⟨.header, [], handled, sent, state⟩ : Receiver σ).run kernel closed steps =
        ⟨reading, [], handled, sent, state⟩ := by
  cases steps with
  | zero => exact ⟨.header, Or.inl rfl, rfl⟩
  | succ steps =>
      cases closed with
      | false =>
          exact ⟨.header, Or.inl rfl, run_zero_of_le kernel false rfl _⟩
      | true =>
          refine ⟨.removed, Or.inr ⟨rfl, rfl⟩, ?_⟩
          rw [run_succ_of_step kernel true rfl steps]
          exact run_zero_of_le kernel true rfl steps

/-- The stream of any queues that `get_data` serializes is cut, by the session
and by the client, into what was put on it: the header always is the length of
the body behind it, the session hands the kernel exactly the bodies, whatever
the kernel answers, and the client returns exactly the outputs. -/
theorem stream_read_back {builders : List BaseBuilder} {outputs : List Bytes}
    (serialized : List.Forall₂ (fun builder output => builder.getData true = .ok output)
      builders outputs) :
    ∃ bodies,
      List.Forall₂ (fun builder body => builder.getData false = .ok body)
          (builders.filter fun builder => builder.buffers ≠ []) bodies ∧
        List.Forall₂ Headed (outputs.filter fun output => output ≠ []) bodies ∧
        (∀ {σ : Type} (kernel : Bytes → σ → Option Bytes × σ) (closed : Bool) (state : σ)
            (steps : Nat), ∃ reading,
          (reading = .header ∨ closed = true ∧ reading = .removed) ∧
            (Receiver.start outputs.flatten state).run kernel closed
                (2 * bodies.length + steps) =
              ⟨reading, [], bodies, (Receiver.feed kernel bodies [] state).1,
                (Receiver.feed kernel bodies [] state).2⟩) ∧
        clientReads (outputs.filter fun output => output ≠ []).length outputs.flatten =
          .ok (outputs.filter fun output => output ≠ [], []) := by
  obtain ⟨bodies, bodiesEq, headed, flattenEq⟩ := serialized_headed serialized
  refine ⟨bodies, bodiesEq, headed, ?_, ?_⟩
  · intro σ kernel closed state steps
    rw [flattenEq, Receiver.start, Receiver.run_headed_all kernel closed headed,
      List.nil_append]
    exact Receiver.run_drained kernel closed _ _ _ steps
  · rw [flattenEq]
    exact clientReads_headed headed

/-- A queue of one ping request between two empty ones. -/
theorem stream_read_back_ping :
    ∃ output, (({} : RequestBuilder).addPing Uuid.nil).getData true = .ok output ∧
      clientReads 1 ([[], output, []] : List Bytes).flatten = .ok ([output], []) := by
  have fits : (({} : RequestBuilder).addPing Uuid.nil).Fits := by decide
  have queued : (({} : RequestBuilder).addPing Uuid.nil).buffers ≠ [] := by decide
  have serialized := BaseBuilder.getData_of_fits queued fits true
  refine ⟨_, serialized, ?_⟩
  obtain ⟨_, _, _, _, returned⟩ := stream_read_back
    (.cons (BaseBuilder.getData_nil (rfl : ({} : BaseBuilder).buffers = []) true)
      (.cons serialized
        (.cons (BaseBuilder.getData_nil (rfl : ({} : BaseBuilder).buffers = []) true) .nil)))
  exact returned

end Aurum.Protocol
