import Aurum.Cluster.Links

/-!
# The websocket clients of B

What B has registered of a client, and whether its stream is open, follows
from how far B is with it.
-/

namespace Aurum.Cluster

open Aurum.Protocol
open Aurum.Container
open Aurum.Node

/-- What the session of a client is at a phase. -/
inductive Status
  | absent
  | connecting
  | connected
  | closed
  deriving DecidableEq

def Phase.status : Phase → Status
  | .absent => .absent
  | .connecting => .connecting
  | .joining | .joinChosen _ _ | .joined => .connected
  | .leaving | .leaveChosen _ _ | .gone => .closed

/-- The client is registered. -/
def Status.Listed (status : Status) : Prop :=
  status = .connecting ∨ status = .connected

theorem Status.Listed.ne_absent {status : Status} (listed : status.Listed) :
    status ≠ .absent := by
  rcases listed with rfl | rfl <;> decide

/-- Session objects and registry entries of clients, by their status. -/
structure Clients (status : Uuid → Status) (object : Uuid → Ref) (b : State) : Prop where
  created : ∀ id, status id ≠ .absent → object id < b.allocated ∧
    (b.memory (object id)).id = id ∧ (b.memory (object id)).type = .websocket ∧
      (b.memory (object id)).origin = .client
  listed : ∀ id, (status id).Listed → ∃ entry ∈ b.sessions, entry.elem = object id
  own : ∀ entry ∈ b.sessions, (b.memory entry.elem).origin = .client →
    (status (b.memory entry.elem).id).Listed ∧ entry.elem = object (b.memory entry.elem).id
  shut : ∀ id, status id = .connecting → (b.memory (object id)).isOpen = false
  opened : ∀ id, status id = .connected → (b.memory (object id)).isOpen = true

namespace Clients

variable {status : Uuid → Status} {object : Uuid → Ref} {b next : State}

/-- An identifier that no session object carries belongs to no client. -/
theorem absent_of_fresh (clients : Clients status object b) {id : Uuid} (fresh : Fresh id b) :
    status id = .absent := by
  by_contra known
  obtain ⟨older, named, _⟩ := clients.created id known
  exact fresh (object id) older named

theorem object_injective (clients : Clients status object b) {id other : Uuid}
    (known : status id ≠ .absent) (otherKnown : status other ≠ .absent)
    (same : object id = object other) : id = other := by
  rw [← (clients.created id known).2.1, ← (clients.created other otherKnown).2.1, same]

/-- Clients are the same when sessions are only added, and none of a client. -/
theorem grow (clients : Clients status object b) (wellFormed : WellFormed b)
    (grows : b.allocated ≤ next.allocated)
    (same : ∀ ref < b.allocated, next.memory ref = b.memory ref)
    (kept : ∀ entry ∈ b.sessions, entry ∈ next.sessions)
    (added : ∀ entry ∈ next.sessions, entry ∈ b.sessions ∨
      (next.memory entry.elem).origin ≠ .client) : Clients status object next where
  created := by
    intro id known
    obtain ⟨older, facts⟩ := clients.created id known
    rw [same _ older]
    exact ⟨Nat.lt_of_lt_of_le older grows, facts⟩
  listed := by
    intro id listed
    obtain ⟨entry, member, isObject⟩ := clients.listed id listed
    exact ⟨entry, kept entry member, isObject⟩
  own := by
    intro entry member isClient
    rcases added entry member with old | other
    · rw [same _ (wellFormed.allocated entry old)] at isClient ⊢
      exact clients.own entry old isClient
    · exact absurd isClient other
  shut := by
    intro id connecting
    have known : status id ≠ .absent := by simp [connecting]
    rw [same _ (clients.created id known).1]
    exact clients.shut id connecting
  opened := by
    intro id connected
    have known : status id ≠ .absent := by simp [connected]
    rw [same _ (clients.created id known).1]
    exact clients.opened id connected

theorem quiet (clients : Clients status object b) (memory : next.memory = b.memory)
    (allocated : next.allocated = b.allocated) (sessions : next.sessions = b.sessions) :
    Clients status object next := by
  rcases clients with ⟨created, listed, own, shut, opened⟩
  constructor
  · rwa [memory, allocated]
  · rwa [sessions]
  · rwa [sessions, memory]
  · rwa [memory]
  · rwa [memory]

/-- A client connects. -/
theorem connects (clients : Clients status object b) (wellFormed : WellFormed b)
    {env : Environment} (fresh : Fresh (b.nextUuid env) b) :
    Clients (Function.update status (b.nextUuid env) .connecting)
      (Function.update object (b.nextUuid env) b.allocated) (b.acceptWebsocket env) := by
  have absent := clients.absent_of_fresh fresh
  have registered := State.mem_acceptWebsocket_iff env (wellFormed.free_of_fresh fresh)
  have grows := (Extends.acceptWebsocket env b).grows
  constructor
  · intro other known
    by_cases same : other = b.nextUuid env
    · subst same
      rw [Function.update_self, State.acceptWebsocket_memory_self, State.acceptWebsocket_eq]
      exact ⟨Nat.lt_succ_self _, rfl, rfl, rfl⟩
    · rw [Function.update_of_ne same] at known ⊢
      obtain ⟨older, facts⟩ := clients.created other known
      rw [State.acceptWebsocket_memory_of_lt env older]
      exact ⟨Nat.lt_of_lt_of_le older grows, facts⟩
  · intro other listed
    by_cases same : other = b.nextUuid env
    · subst same
      rw [Function.update_self]
      exact ⟨_, (registered _).mpr (Or.inl rfl), rfl⟩
    · rw [Function.update_of_ne same] at listed ⊢
      obtain ⟨entry, member, isObject⟩ := clients.listed other listed
      exact ⟨entry, (registered entry).mpr (Or.inr member), isObject⟩
  · intro entry member isClient
    rcases (registered entry).mp member with rfl | old
    · have named : ((b.acceptWebsocket env).memory b.allocated).id = b.nextUuid env := by
        rw [State.acceptWebsocket_memory_self]
        rfl
      rw [named, Function.update_self, Function.update_self]
      exact ⟨Or.inl rfl, rfl⟩
    · rw [State.acceptWebsocket_memory_of_lt env (wellFormed.allocated entry old)] at isClient ⊢
      obtain ⟨listed, isObject⟩ := clients.own entry old isClient
      have differs : (b.memory entry.elem).id ≠ b.nextUuid env := by
        intro same
        rw [same, absent] at listed
        exact listed.ne_absent rfl
      rw [Function.update_of_ne differs, Function.update_of_ne differs]
      exact ⟨listed, isObject⟩
  · intro other connecting
    by_cases same : other = b.nextUuid env
    · subst same
      rw [Function.update_self, State.acceptWebsocket_memory_self]
      rfl
    · rw [Function.update_of_ne same] at connecting ⊢
      have known : status other ≠ .absent := by simp [connecting]
      rw [State.acceptWebsocket_memory_of_lt env (clients.created other known).1]
      exact clients.shut other connecting
  · intro other connected
    have differs : other ≠ b.nextUuid env := by
      rintro rfl
      rw [Function.update_self] at connected
      cases connected
    rw [Function.update_of_ne differs] at connected ⊢
    have known : status other ≠ .absent := by simp [connected]
    rw [State.acceptWebsocket_memory_of_lt env (clients.created other known).1]
    exact clients.opened other connected

/-- One client goes on, and nothing happens to the sessions of the others. -/
theorem advance (clients : Clients status object b) (wellFormed : WellFormed b)
    (extends_ : Extends b next) {id : Uuid} {changed : Status} (known : status id ≠ .absent)
    (others : ∀ ref, ref ≠ object id → next.memory ref = b.memory ref)
    (kept : ∀ entry ∈ b.sessions, entry.elem ≠ object id → entry ∈ next.sessions)
    (erased : ∀ entry ∈ next.sessions, entry ∈ b.sessions)
    (still : changed.Listed ↔ ∃ entry ∈ next.sessions, entry.elem = object id)
    (notConnecting : changed ≠ .connecting)
    (isOpen : changed = .connected → (next.memory (object id)).isOpen = true) :
    Clients (Function.update status id changed) object next where
  created := by
    intro other otherKnown
    have wasKnown : status other ≠ .absent := by
      by_cases same : other = id
      · rw [same]
        exact known
      · rwa [Function.update_of_ne same] at otherKnown
    obtain ⟨older, named, websocket, isClient⟩ := clients.created other wasKnown
    rw [extends_.id_eq older, extends_.type_eq older, (extends_.same _ older).2]
    exact ⟨Nat.lt_of_lt_of_le older extends_.grows, named, websocket, isClient⟩
  listed := by
    intro other listed
    by_cases same : other = id
    · subst same
      rw [Function.update_self] at listed
      exact still.mp listed
    · rw [Function.update_of_ne same] at listed
      obtain ⟨entry, member, isObject⟩ := clients.listed other listed
      have apart : entry.elem ≠ object id := by
        rw [isObject]
        exact fun equal => same (clients.object_injective listed.ne_absent known equal)
      exact ⟨entry, kept entry member apart, isObject⟩
  own := by
    intro entry member isClient
    have old := erased entry member
    have older := wellFormed.allocated entry old
    rw [(extends_.same _ older).2] at isClient
    obtain ⟨listed, isObject⟩ := clients.own entry old isClient
    rw [extends_.id_eq older]
    refine ⟨?_, isObject⟩
    by_cases same : (b.memory entry.elem).id = id
    · rw [same, Function.update_self]
      exact still.mpr ⟨entry, member, by rw [isObject, same]⟩
    · rwa [Function.update_of_ne same]
  shut := by
    intro other connecting
    have differs : other ≠ id := by
      rintro rfl
      rw [Function.update_self] at connecting
      exact notConnecting connecting
    rw [Function.update_of_ne differs] at connecting
    have otherKnown : status other ≠ .absent := by simp [connecting]
    rw [others _ fun equal => differs (clients.object_injective otherKnown known equal)]
    exact clients.shut other connecting
  opened := by
    intro other connected
    by_cases same : other = id
    · subst same
      rw [Function.update_self] at connected
      exact isOpen connected
    · rw [Function.update_of_ne same] at connected
      have otherKnown : status other ≠ .absent := by simp [connected]
      rw [others _ fun equal => same (clients.object_injective otherKnown known equal)]
      exact clients.opened other connected

/-- The handshake of a client is completed. -/
theorem opens (clients : Clients status object b) (wellFormed : WellFormed b) {id : Uuid}
    (connecting : status id = .connecting) :
    Clients (Function.update status id .connected) object (b.setOpen (object id) true) := by
  have known : status id ≠ .absent := by simp [connecting]
  refine clients.advance wellFormed (.setOpen (object id) true b) known ?_ ?_ ?_ ?_ ?_ ?_
  · exact fun ref apart => State.update_memory_of_ne apart _ b
  · exact fun entry member _ => member
  · exact fun entry member => member
  · exact ⟨fun _ => clients.listed id (Or.inl connecting), fun _ => Or.inr rfl⟩
  · decide
  · intro _
    rw [State.setOpen, State.update_memory_self]

/-- The registered session of a client is found under its identifier. -/
theorem find (clients : Clients status object b) (wellFormed : WellFormed b) {id : Uuid}
    (listed : (status id).Listed) :
    ∃ entry, b.sessions.findById id = some entry ∧ entry.elem = object id := by
  obtain ⟨entry, member, isObject⟩ := clients.listed id listed
  have keyEq : entry.key.id = id := by
    rw [(wellFormed.filed entry member).1, isObject]
    exact (clients.created id listed.ne_absent).2.1
  have found := wellFormed.distinct.findUnique_of_mem member
  rw [keyEq] at found
  exact ⟨entry, found, isObject⟩

/-- A client is unregistered and its stream closed. -/
theorem closes (clients : Clients status object b) (wellFormed : WellFormed b) {id : Uuid}
    (listed : (status id).Listed) :
    Clients (Function.update status id .closed) object
      (State.closeStream (object id) { b with sessions := b.sessions.eraseById id }) := by
  let erased : State := { b with sessions := b.sessions.eraseById id }
  have remaining : ∀ entry, entry ∈ (erased.closeStream (object id)).sessions ↔
      entry ∈ b.sessions ∧ entry.key.id ≠ id := by
    intro entry
    rw [State.closeStream_sessions]
    exact wellFormed.distinct.mem_eraseUnique_iff id entry
  obtain ⟨found, foundEq, isObject⟩ := clients.find wellFormed listed
  obtain ⟨foundMember, foundKey⟩ := mem_of_findUnique foundEq
  have closedExtends := Extends.closeStream (object id) erased
  have extends_ : Extends b (erased.closeStream (object id)) :=
    ⟨closedExtends.nodeId, closedExtends.grows, closedExtends.same⟩
  refine clients.advance wellFormed extends_ listed.ne_absent ?_ ?_ ?_ ?_ (by decide) ?_
  · exact fun ref apart => State.closeStream_memory_of_ne apart erased
  · intro entry member apart
    refine (remaining entry).mpr ⟨member, ?_⟩
    intro keyEq
    have same := wellFormed.distinct.findUnique_of_mem member
    rw [keyEq] at same
    change b.sessions.findById id = some entry at same
    rw [foundEq] at same
    cases same
    exact apart isObject
  · exact fun entry member => ((remaining entry).mp member).1
  · constructor
    · rintro (impossible | impossible) <;> cases impossible
    · rintro ⟨entry, member, isClosed⟩
      obtain ⟨old, differs⟩ := (remaining entry).mp member
      rw [(wellFormed.filed entry old).1, isClosed] at differs
      exact absurd (clients.created id listed.ne_absent).2.1 differs
  · intro impossible
    cases impossible

/-- B serves exactly the clients that are connected. -/
theorem serves_iff (clients : Clients status object b) (id : Uuid) :
    (∃ entry ∈ b.sessions, (b.memory entry.elem).origin = .client ∧
      (b.memory entry.elem).isOpen = true ∧ (b.memory entry.elem).id = id) ↔
        status id = .connected := by
  constructor
  · rintro ⟨entry, member, isClient, isOpen, rfl⟩
    obtain ⟨connecting | connected, isObject⟩ := clients.own entry member isClient
    · have shut := clients.shut _ connecting
      rw [← isObject, isOpen] at shut
      cases shut
    · exact connected
  · intro connected
    obtain ⟨entry, member, isObject⟩ := clients.listed id (Or.inr connected)
    have known : status id ≠ .absent := by simp [connected]
    obtain ⟨_, named, _, isClient⟩ := clients.created id known
    rw [← isObject] at named isClient
    refine ⟨entry, member, isClient, ?_, named⟩
    rw [isObject]
    exact clients.opened id connected

end Clients

end Aurum.Cluster
