import Aurum.Wire.LittleEndian
import Aurum.Wire.Slice

/-!
# Protocol vocabulary

The enumerations of the wire protocol, 16-byte identifiers, the two ways a
C++ step can leave its ordinary course, and the bounded reads that every
parser is written with.  A `std::memcpy` or pointer read that would leave its
buffer is undefined behaviour; it appears here as the failure `outOfBounds`,
so that staying inside the buffer is something to be proved.
-/

namespace Aurum.Protocol

open Aurum.Wire
open Aurum.Wire.LittleEndian

/-- The bytes of a frame, a payload or a `std::string`. -/
abbrev Bytes := List UInt8

/-- `op_code`. -/
inductive OpCode
  | opNonImplemented
  | ping
  | identify
  | discovery
  | join
  | leave
  | whoami
  deriving DecidableEq

/-- The enumerator values of `op_code`. -/
def OpCode.byte : OpCode → UInt8
  | .opNonImplemented => 0
  | .ping => 1
  | .identify => 2
  | .discovery => 3
  | .join => 4
  | .leave => 5
  | .whoami => 6

/-- `message_type`, an enumeration over a fixed 8-bit type: a cast from the
wire can produce any of the 256 values, of which two are named. -/
structure MessageType where
  byte : UInt8
  deriving DecidableEq

def MessageType.request : MessageType := ⟨0⟩

def MessageType.response : MessageType := ⟨1⟩

/-- `session_type`. -/
inductive SessionType
  | tcp
  | websocket
  deriving DecidableEq

/-- The enumerator values of `session_type`. -/
def SessionType.byte : SessionType → UInt8
  | .tcp => 0
  | .websocket => 1

theorem SessionType.eq_tcp {type : SessionType} (notWebsocket : type ≠ .websocket) :
    type = .tcp := by
  cases type with
  | tcp => rfl
  | websocket => exact absurd rfl notWebsocket

/-- `exit_code`. -/
inductive ExitCode
  | nonImplemented
  | success
  deriving DecidableEq

/-- The enumerator values of `exit_code`. -/
def ExitCode.byte : ExitCode → UInt8
  | .nonImplemented => 0
  | .success => 200

/-- `boost::uuids::uuid`: exactly sixteen bytes. -/
structure Uuid where
  data : Bytes
  size : data.length = 16
  deriving DecidableEq

namespace Uuid

attribute [simp] Uuid.size

/-- The identifier that repeats one byte. -/
def filled (byte : UInt8) : Uuid :=
  ⟨List.replicate 16 byte, List.length_replicate⟩

/-- `boost::uuids::nil_uuid()`. -/
def nil : Uuid :=
  filled 0

theorem ext_data {first second : Uuid} (equal : first.data = second.data) :
    first = second := by
  cases first
  cases second
  simp_all

/-- The identifier with the given sixteen bytes; shorter or longer strings are
not identifiers. -/
def ofBytes (bytes : Bytes) : Option Uuid :=
  if width : bytes.length = 16 then some ⟨bytes, width⟩ else none

@[simp]
theorem ofBytes_data (id : Uuid) : ofBytes id.data = some id :=
  dif_pos id.size

end Uuid

/-- How a C++ step can end other than by returning. -/
inductive Failure
  /-- A read outside the buffer it reads from. -/
  | outOfBounds
  /-- A thrown `std::overflow_error`. -/
  | overflowError (what : String)
  deriving DecidableEq

abbrev Result (α : Type) := Except Failure α

/-- A sequence of two steps returns exactly when both do. -/
theorem Result.bind_eq_ok_iff {α β : Type} {first : Result α} {next : α → Result β} {value : β} :
    (first >>= next) = .ok value ↔ ∃ middle, first = .ok middle ∧ next middle = .ok value := by
  cases first with
  | error failure => simp [bind, Except.bind]
  | ok middle => simp [bind, Except.bind]

theorem Result.map_eq_ok_iff {α β : Type} {first : Result α} {change : α → β} {value : β} :
    first.map change = .ok value ↔ ∃ middle, first = .ok middle ∧ change middle = value := by
  cases first with
  | error failure => simp [Except.map]
  | ok middle => simp [Except.map]

theorem Result.toOption_eq_some_iff {α : Type} {result : Result α} {value : α} :
    result.toOption = some value ↔ result = .ok value := by
  cases result with
  | error failure => simp [Except.toOption]
  | ok found => simp [Except.toOption]

/-! ## Bounded reads -/

/-- Copy `count` bytes at `offset` out of a buffer. -/
def readBytes (buffer : Bytes) (offset count : Nat) : Result Bytes :=
  match slice buffer offset count with
  | some piece => .ok piece
  | none => .error .outOfBounds

/-- Copy one byte. -/
def readU8 (buffer : Bytes) (offset : Nat) : Result UInt8 :=
  match buffer[offset]? with
  | some byte => .ok byte
  | none => .error .outOfBounds

/-- Copy a 16-bit value and convert it from little endian. -/
def readU16 (buffer : Bytes) (offset : Nat) : Result UInt16 :=
  (readBytes buffer offset 2).map ofLe16

/-- Copy a 32-bit value and convert it from little endian. -/
def readU32 (buffer : Bytes) (offset : Nat) : Result UInt32 :=
  (readBytes buffer offset 4).map ofLe32

/-- Copy a 16-byte identifier. -/
def readUuid (buffer : Bytes) (offset : Nat) : Result Uuid :=
  match (slice buffer offset 16).bind Uuid.ofBytes with
  | some id => .ok id
  | none => .error .outOfBounds

theorem readBytes_of_le {buffer : Bytes} {offset count : Nat}
    (inside : offset + count ≤ buffer.length) :
    readBytes buffer offset count = .ok ((buffer.drop offset).take count) := by
  rw [readBytes, slice_of_le inside]

theorem readBytes_append (front middle back : Bytes) {offset count : Nat}
    (offsetEq : offset = front.length) (countEq : count = middle.length) :
    readBytes (front ++ (middle ++ back)) offset count = .ok middle := by
  rw [readBytes, slice_append offsetEq countEq]

theorem readU8_append (front back : Bytes) (byte : UInt8) {offset : Nat}
    (offsetEq : offset = front.length) :
    readU8 (front ++ byte :: back) offset = .ok byte := by
  subst offsetEq
  simp [readU8]

theorem readU16_append (front back : Bytes) (value : UInt16) {offset : Nat}
    (offsetEq : offset = front.length) :
    readU16 (front ++ (le16 value ++ back)) offset = .ok value := by
  rw [readU16, readBytes_append _ _ _ offsetEq (le16_length value).symm]
  simp [Except.map]

theorem readU32_append (front back : Bytes) (value : UInt32) {offset : Nat}
    (offsetEq : offset = front.length) :
    readU32 (front ++ (le32 value ++ back)) offset = .ok value := by
  rw [readU32, readBytes_append _ _ _ offsetEq (le32_length value).symm]
  simp [Except.map]

theorem readUuid_append (front back : Bytes) (id : Uuid) {offset : Nat}
    (offsetEq : offset = front.length) :
    readUuid (front ++ (id.data ++ back)) offset = .ok id := by
  rw [readUuid, slice_append offsetEq id.size.symm]
  simp

/-- A read of an identifier is defined exactly when its sixteen bytes are in
the buffer, and returns them. -/
theorem readUuid_of_le {buffer : Bytes} {offset : Nat} (inside : offset + 16 ≤ buffer.length) :
    ∃ id : Uuid, readUuid buffer offset = .ok id ∧ id.data = (buffer.drop offset).take 16 := by
  have width : ((buffer.drop offset).take 16).length = 16 := by
    simp only [List.length_take, List.length_drop]
    omega
  refine ⟨⟨_, width⟩, ?_, rfl⟩
  rw [readUuid, slice_of_le inside]
  simp [Uuid.ofBytes, width]

theorem le_of_readUuid {buffer : Bytes} {offset : Nat} {id : Uuid}
    (read : readUuid buffer offset = .ok id) : offset + 16 ≤ buffer.length := by
  by_contra outside
  rw [readUuid, slice, if_neg outside] at read
  cases read

theorem readU16_of_le {buffer : Bytes} {offset : Nat} (inside : offset + 2 ≤ buffer.length) :
    readU16 buffer offset = .ok (ofLe16 ((buffer.drop offset).take 2)) := by
  rw [readU16, readBytes_of_le inside]
  rfl

theorem readU32_of_le {buffer : Bytes} {offset : Nat} (inside : offset + 4 ≤ buffer.length) :
    readU32 buffer offset = .ok (ofLe32 ((buffer.drop offset).take 4)) := by
  rw [readU32, readBytes_of_le inside]
  rfl

/-! ## Sub-messages -/

/-- What the parser hands to an operation handler. -/
structure Submessage where
  opcode : UInt8
  type : MessageType
  transactionId : Uuid
  payload : Bytes
  deriving DecidableEq

namespace Submessage

/-- The wire form: opcode, type, transaction id, payload. -/
def bytes (message : Submessage) : Bytes :=
  message.opcode :: message.type.byte :: (message.transactionId.data ++ message.payload)

theorem bytes_length (message : Submessage) :
    message.bytes.length = 18 + message.payload.length := by
  simp only [bytes, List.length_cons, List.length_append, Uuid.size]
  omega

theorem least_bytes (message : Submessage) : 18 ≤ message.bytes.length := by
  rw [bytes_length]
  omega

theorem bytes_injective : Function.Injective bytes := by
  rintro ⟨firstOpcode, ⟨firstType⟩, firstId, firstPayload⟩
    ⟨secondOpcode, ⟨secondType⟩, secondId, secondPayload⟩ equal
  simp only [bytes, List.cons.injEq] at equal
  rcases equal with ⟨rfl, rfl, tailEq⟩
  obtain ⟨idEq, rfl⟩ := List.append_inj tailEq (by simp)
  rw [Uuid.ext_data idEq]

/-- Every string of at least eighteen bytes is the wire form of a sub-message. -/
theorem exists_bytes_eq {buffer : Bytes} (longEnough : 18 ≤ buffer.length) :
    ∃ message : Submessage, message.bytes = buffer := by
  match buffer, longEnough with
  | opcode :: type :: rest, longEnough =>
      have width : (rest.take 16).length = 16 := by
        simp only [List.length_cons] at longEnough
        rw [List.length_take]
        omega
      exact ⟨⟨opcode, ⟨type⟩, ⟨rest.take 16, width⟩, rest.drop 16⟩, by simp [bytes]⟩

end Submessage

end Aurum.Protocol
