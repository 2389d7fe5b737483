import Aurum.Protocol.Core
import Aurum.Wire.Crc

/-!
# Frame builders

`base_builder`, `request_builder` and `response_builder`: a queue of
sub-message buffers, the byte counter kept beside it, and the serialization of
the whole queue into one frame.  Reserving capacity has no observable effect
and is left out; the lock around each operation makes it one step.
-/

namespace Aurum.Protocol

open Aurum.Wire
open Aurum.Wire.LittleEndian

/-- `base_builder`. -/
structure BaseBuilder where
  buffers : List Bytes := []
  totalPayloadSize : Nat := 0
  deriving DecidableEq

/-- `_max_requests_per_frame`. -/
def maxRequestsPerFrame : Nat := 65535

/-- `_max_frame_payload_size`. -/
def maxFramePayloadSize : Nat := 4294967295 - 131078

/-- Append the little-endian checksum of a byte string to it. -/
def checksummed (body : Bytes) : Bytes :=
  body ++ le16 (Crc.ccitt body)

/-- The count, the table of lengths and the queued buffers: what the checksum
of a frame covers.  Count and lengths are narrowed to 16 bits. -/
def frameBody (buffers : List Bytes) : Bytes :=
  le16 (UInt16.ofNat buffers.length) ++
    (buffers.flatMap (fun buffer => le16 (UInt16.ofNat buffer.length)) ++ buffers.flatten)

namespace BaseBuilder

/-- Queue a finished buffer and count its announced size. -/
def push (builder : BaseBuilder) (buffer : Bytes) (size : Nat) : BaseBuilder :=
  { buffers := builder.buffers ++ [buffer]
    totalPayloadSize := builder.totalPayloadSize + size }

/-- `flush`. -/
def flush (_ : BaseBuilder) : BaseBuilder :=
  { buffers := [], totalPayloadSize := 0 }

/-- `get_data`. -/
def getData (builder : BaseBuilder) (withHeader : Bool) : Result Bytes :=
  if builder.buffers.isEmpty then
    .ok []
  else if builder.buffers.length > maxRequestsPerFrame then
    .error (.overflowError "Exceeded maximum number of requests for a single frame.")
  else
    let framePayloadSize := (builder.buffers.map List.length).sum
    if framePayloadSize > maxFramePayloadSize then
      .error (.overflowError "Exceeded maximum payload byte size for a single frame.")
    else
      -- The size is computed in `std::size_t` and narrowed to 32 bits.
      let headerSize := UInt32.ofNat (2 + builder.buffers.length * 2 + framePayloadSize + 2)
      let header := if withHeader then le32 headerSize else []
      .ok (header ++ checksummed (frameBody builder.buffers))

/-- `get_buffers`. -/
def getBuffers (builder : BaseBuilder) (withHeader : Bool) : Result Bytes :=
  builder.getData withHeader

@[simp]
theorem push_buffers (builder : BaseBuilder) (buffer : Bytes) (size : Nat) :
    (builder.push buffer size).buffers = builder.buffers ++ [buffer] :=
  rfl

end BaseBuilder

/-- Opcode, type and transaction id, with which every sub-message starts. -/
def heading (opcode : UInt8) (type : MessageType) (id : Uuid) : Bytes :=
  opcode :: type.byte :: id.data

@[simp]
theorem heading_length (opcode : UInt8) (type : MessageType) (id : Uuid) :
    (heading opcode type id).length = 18 := by
  simp [heading]

theorem heading_append (opcode : UInt8) (type : MessageType) (id : Uuid) (payload : Bytes) :
    heading opcode type id ++ payload =
      (⟨opcode, type, id, payload⟩ : Submessage).bytes := by
  simp [heading, Submessage.bytes]

/-! ## Requests -/

/-- `request_builder`. -/
structure RequestBuilder extends BaseBuilder where
  deriving DecidableEq

namespace RequestBuilder

def addPing (builder : RequestBuilder) (id : Uuid) : RequestBuilder :=
  ⟨builder.push (heading OpCode.ping.byte .request id) 18⟩

/-- Port and host are written only when one of them is given. -/
def addIdentify (builder : RequestBuilder) (nodeId : Uuid) (connectionsPerNode : UInt16)
    (id : Uuid) (port : UInt16) (host : Bytes) : RequestBuilder :=
  let expectedSize := if port ≠ 0 ∨ host ≠ [] then 36 + (2 + host.length) else 36
  let endpoint := if port ≠ 0 ∨ host ≠ [] then le16 port ++ host else []
  ⟨builder.push
    (heading OpCode.identify.byte .request id ++
      (nodeId.data ++ (le16 connectionsPerNode ++ endpoint)))
    expectedSize⟩

def addDiscovery (builder : RequestBuilder) (id : Uuid) : RequestBuilder :=
  ⟨builder.push (heading OpCode.discovery.byte .request id) 18⟩

def addJoin (builder : RequestBuilder) (websocketId id : Uuid) : RequestBuilder :=
  ⟨builder.push (heading OpCode.join.byte .request id ++ websocketId.data) 34⟩

def addLeave (builder : RequestBuilder) (websocketId id : Uuid) : RequestBuilder :=
  ⟨builder.push (heading OpCode.leave.byte .request id ++ websocketId.data) 34⟩

def addWhoami (builder : RequestBuilder) (id : Uuid) : RequestBuilder :=
  ⟨builder.push (heading OpCode.whoami.byte .request id) 18⟩

end RequestBuilder

/-! ## Responses -/

/-- A `(host, port)` pair of a discovery response. -/
structure Endpoint where
  host : Bytes
  port : UInt16
  deriving DecidableEq

/-- The port and the narrowed host length of an endpoint. -/
def Endpoint.record (endpoint : Endpoint) : Bytes :=
  le16 endpoint.port ++ le16 (UInt16.ofNat endpoint.host.length)

@[simp]
theorem Endpoint.record_length (endpoint : Endpoint) : endpoint.record.length = 4 := by
  simp [Endpoint.record]

/-- `response_builder`. -/
structure ResponseBuilder extends BaseBuilder where
  deriving DecidableEq

namespace ResponseBuilder

def addPing (builder : ResponseBuilder) (id : Uuid) (exitCode : UInt8) : ResponseBuilder :=
  ⟨builder.push (heading OpCode.ping.byte .response id ++ [exitCode]) 19⟩

def addIdentify (builder : ResponseBuilder) (id nodeId : Uuid) : ResponseBuilder :=
  ⟨builder.push (heading OpCode.identify.byte .response id ++ nodeId.data) 34⟩

def addNonImplemented (builder : ResponseBuilder) (op : UInt8) (id : Uuid) : ResponseBuilder :=
  ⟨builder.push (heading op .response id ++ [ExitCode.nonImplemented.byte]) 19⟩

/-- The first pass writes every port and host length, the second every host. -/
def addDiscovery (builder : ResponseBuilder) (id : Uuid) (nodes : List Endpoint) :
    ResponseBuilder :=
  let expectedSize := nodes.foldl (fun size node => size + (2 + 2 + node.host.length)) (18 + 4)
  ⟨builder.push
    (heading OpCode.discovery.byte .response id ++
      (le32 (UInt32.ofNat nodes.length) ++
        (nodes.flatMap Endpoint.record ++ nodes.flatMap Endpoint.host)))
    expectedSize⟩

def addJoin (builder : ResponseBuilder) (id : Uuid) (count : UInt64) : ResponseBuilder :=
  ⟨builder.push (heading OpCode.join.byte .response id ++ le64 count) 26⟩

def addLeave (builder : ResponseBuilder) (id : Uuid) (count : UInt64) : ResponseBuilder :=
  ⟨builder.push (heading OpCode.leave.byte .response id ++ le64 count) 26⟩

def addWhoami (builder : ResponseBuilder) (id sessionId nodeId : Uuid) (type : SessionType) :
    ResponseBuilder :=
  ⟨builder.push
    (heading OpCode.whoami.byte .response id ++ (sessionId.data ++ (nodeId.data ++ [type.byte])))
    51⟩

end ResponseBuilder

/-! ## Sequences of builder calls -/

/-- One `add_*` call on a request builder. -/
inductive RequestCall
  | ping (id : Uuid)
  | identify (nodeId : Uuid) (connectionsPerNode : UInt16) (id : Uuid) (port : UInt16)
      (host : Bytes)
  | discovery (id : Uuid)
  | join (websocketId id : Uuid)
  | leave (websocketId id : Uuid)
  | whoami (id : Uuid)

/-- One `add_*` call on a response builder. -/
inductive ResponseCall
  | ping (id : Uuid) (exitCode : UInt8)
  | identify (id nodeId : Uuid)
  | nonImplemented (op : UInt8) (id : Uuid)
  | discovery (id : Uuid) (nodes : List Endpoint)
  | join (id : Uuid) (count : UInt64)
  | leave (id : Uuid) (count : UInt64)
  | whoami (id sessionId nodeId : Uuid) (type : SessionType)

def RequestBuilder.call (builder : RequestBuilder) : RequestCall → RequestBuilder
  | .ping id => builder.addPing id
  | .identify nodeId connectionsPerNode id port host =>
      builder.addIdentify nodeId connectionsPerNode id port host
  | .discovery id => builder.addDiscovery id
  | .join websocketId id => builder.addJoin websocketId id
  | .leave websocketId id => builder.addLeave websocketId id
  | .whoami id => builder.addWhoami id

def ResponseBuilder.call (builder : ResponseBuilder) : ResponseCall → ResponseBuilder
  | .ping id exitCode => builder.addPing id exitCode
  | .identify id nodeId => builder.addIdentify id nodeId
  | .nonImplemented op id => builder.addNonImplemented op id
  | .discovery id nodes => builder.addDiscovery id nodes
  | .join id count => builder.addJoin id count
  | .leave id count => builder.addLeave id count
  | .whoami id sessionId nodeId type => builder.addWhoami id sessionId nodeId type

/-- Every request call queues the wire form of one request. -/
theorem RequestBuilder.call_buffers (builder : RequestBuilder) (call : RequestCall) :
    ∃ message : Submessage, message.type = .request ∧
      (builder.call call).buffers = builder.buffers ++ [message.bytes] := by
  cases call with
  | ping id =>
      exact ⟨⟨OpCode.ping.byte, .request, id, []⟩, rfl, by
        simp [RequestBuilder.call, addPing, ← heading_append]⟩
  | identify nodeId connectionsPerNode id port host =>
      exact ⟨⟨OpCode.identify.byte, .request, id, _⟩, rfl, by
        rw [← heading_append]
        rfl⟩
  | discovery id =>
      exact ⟨⟨OpCode.discovery.byte, .request, id, []⟩, rfl, by
        simp [RequestBuilder.call, addDiscovery, ← heading_append]⟩
  | join websocketId id =>
      exact ⟨⟨OpCode.join.byte, .request, id, _⟩, rfl, by
        rw [← heading_append]
        rfl⟩
  | leave websocketId id =>
      exact ⟨⟨OpCode.leave.byte, .request, id, _⟩, rfl, by
        rw [← heading_append]
        rfl⟩
  | whoami id =>
      exact ⟨⟨OpCode.whoami.byte, .request, id, []⟩, rfl, by
        simp [RequestBuilder.call, addWhoami, ← heading_append]⟩

/-- Every response call queues the wire form of one response. -/
theorem ResponseBuilder.call_buffers (builder : ResponseBuilder) (call : ResponseCall) :
    ∃ message : Submessage, message.type = .response ∧
      (builder.call call).buffers = builder.buffers ++ [message.bytes] := by
  cases call with
  | ping id exitCode =>
      exact ⟨⟨OpCode.ping.byte, .response, id, _⟩, rfl, by
        rw [← heading_append]
        rfl⟩
  | identify id nodeId =>
      exact ⟨⟨OpCode.identify.byte, .response, id, _⟩, rfl, by
        rw [← heading_append]
        rfl⟩
  | nonImplemented op id =>
      exact ⟨⟨op, .response, id, _⟩, rfl, by
        rw [← heading_append]
        rfl⟩
  | discovery id nodes =>
      exact ⟨⟨OpCode.discovery.byte, .response, id, _⟩, rfl, by
        rw [← heading_append]
        rfl⟩
  | join id count =>
      exact ⟨⟨OpCode.join.byte, .response, id, _⟩, rfl, by
        rw [← heading_append]
        rfl⟩
  | leave id count =>
      exact ⟨⟨OpCode.leave.byte, .response, id, _⟩, rfl, by
        rw [← heading_append]
        rfl⟩
  | whoami id sessionId nodeId type =>
      exact ⟨⟨OpCode.whoami.byte, .response, id, _⟩, rfl, by
        rw [← heading_append]
        rfl⟩

/-! ## Serialized frames -/

namespace BaseBuilder

/-- Neither guard of `get_data` fires on the queue. -/
def Fits (builder : BaseBuilder) : Prop :=
  builder.buffers.length ≤ maxRequestsPerFrame ∧
    (builder.buffers.map List.length).sum ≤ maxFramePayloadSize

instance (builder : BaseBuilder) : Decidable builder.Fits :=
  inferInstanceAs (Decidable (_ ∧ _))

theorem getData_nil {builder : BaseBuilder} (empty : builder.buffers = [])
    (withHeader : Bool) : builder.getData withHeader = .ok [] := by
  simp [getData, empty]

theorem getData_of_fits {builder : BaseBuilder} (queued : builder.buffers ≠ [])
    (fits : builder.Fits) (withHeader : Bool) :
    builder.getData withHeader =
      .ok ((if withHeader then
          le32 (UInt32.ofNat
            (2 + builder.buffers.length * 2 + (builder.buffers.map List.length).sum + 2))
        else []) ++ checksummed (frameBody builder.buffers)) := by
  have nonempty : builder.buffers.isEmpty = false := by simpa using queued
  simp [getData, nonempty, Nat.not_lt.mpr fits.1, Nat.not_lt.mpr fits.2]

/-- On a queue that a guard rejects, `get_data` throws. -/
theorem getData_of_not_fits {builder : BaseBuilder} (queued : builder.buffers ≠ [])
    (misfit : ¬builder.Fits) (withHeader : Bool) :
    ∃ what, builder.getData withHeader = .error (.overflowError what) := by
  have nonempty : builder.buffers.isEmpty = false := by simpa using queued
  by_cases tooMany : builder.buffers.length > maxRequestsPerFrame
  · refine ⟨"Exceeded maximum number of requests for a single frame.", ?_⟩
    simp [getData, nonempty, tooMany]
  · have tooLarge : (builder.buffers.map List.length).sum > maxFramePayloadSize := by
      by_contra small
      exact misfit ⟨Nat.not_lt.mp tooMany, Nat.not_lt.mp small⟩
    refine ⟨"Exceeded maximum payload byte size for a single frame.", ?_⟩
    simp [getData, nonempty, tooMany, tooLarge]

end BaseBuilder

end Aurum.Protocol
