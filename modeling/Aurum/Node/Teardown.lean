import Aurum.Node.Descent
import Aurum.Node.Sections

/-!
# Tearing registrations down

Every insertion of a session is ended by one task at most: by a
`remove_session`, which then calls `disconnect()` of the session once, or by a
leave, which only counts it.  `remove_session` erases what it finds under one
identifier in the section that finds it, so that no other task can find it.
-/

namespace Aurum.Node.Pool

open Aurum.Protocol
open Aurum.Container
open Aurum.Transition

/-- The insertions that a task has ended, in order. -/
def endedBy (pool : Pool) (t : Nat) : List Nat :=
  (pool.ledger.ended.filter fun pair => pair.2 = t).map Prod.fst

/-- The insertions for which a task has called `disconnect()`, in order. -/
def tornBy (pool : Pool) (t : Nat) : List Nat :=
  (pool.torn.filter fun pair => pair.2 = t).map Prod.fst

/-- The `disconnect()` calls recorded are those of the node. -/
def Logged (pool : Pool) : Prop :=
  List.Forall₂ (fun ref (pair : Nat × Nat) => pool.ledger.inserted[pair.1]? = some ref)
    pool.node.disconnected pool.torn

/-! ## Single sections -/

/-- `add_session` refuses a taken identifier and registers under a free one. -/
theorem addSession_cases (env : Environment) (ref : Ref) (node : State) :
    node.addSession env ref = (false, node) ∨
      (∀ entry ∈ node.sessions, entry.key.id ≠ (node.memory ref).id) ∧
        node.addSession env ref = (true, { node with
          sessions := env.placement.place node.sessions ⟨ref, (node.memory ref).key⟩ }) := by
  unfold State.addSession
  simp only
  rcases insertUnique_cases Key.id env.placement node.sessions ⟨ref, (node.memory ref).key⟩ with
    ⟨_, result⟩ | ⟨free, result⟩
  · rw [result]
    exact Or.inl rfl
  · rw [result]
    exact Or.inr ⟨free, rfl⟩

/-- What holds of the registry and its ledger between two sections. -/
structure Kept (node : State) (ledger : Ledger Ref Uuid Nat) : Prop where
  tracks : ledger.Tracks Key.id node.sessions
  filed : ∀ entry ∈ node.sessions, entry.key.id = (node.memory entry.elem).id
  created : ∀ ref ∈ ledger.inserted, ref < node.allocated

namespace Kept

variable {node next : State} {ledger : Ledger Ref Uuid Nat} (kept : Kept node ledger)

include kept

theorem elem_lt {entry : Entry} (member : entry ∈ node.sessions) : entry.elem < node.allocated := by
  rcases List.getElem?_eq_some_iff.mp (kept.tracks.filed entry member) with ⟨below, elemEq⟩
  rw [← elemEq]
  exact kept.created _ (List.getElem_mem below)

/-- Nothing is registered or removed and no identifier changes. -/
theorem congr (sessions : next.sessions = node.sessions)
    (older : node.allocated ≤ next.allocated)
    (same : ∀ ref < node.allocated, (next.memory ref).id = (node.memory ref).id) :
    Kept next ledger where
  tracks := by
    rw [sessions]
    exact kept.tracks
  filed := by
    intro entry member
    rw [sessions] at member
    rw [same entry.elem (kept.elem_lt member)]
    exact kept.filed entry member
  created := fun ref member => (kept.created ref member).trans_le older

/-- The locked section of `add_session`. -/
theorem addSession (env : Environment) {ref : Ref} (exists_ : ref < node.allocated) :
    Kept (node.addSession env ref).2
      (if (node.addSession env ref).1 then ledger.insert (node.memory ref).id ref else ledger) := by
  rcases addSession_cases env ref node with refused | ⟨free, added⟩
  · rw [refused]
    exact kept
  · rw [added]
    constructor
    · exact kept.tracks.insert env.placement free
    · intro entry member
      rcases (env.placement.mem_place_iff _ _ _).mp member with rfl | member
      · rfl
      · exact kept.filed entry member
    · intro other member
      rcases List.mem_append.mp member with older | new
      · exact kept.created other older
      · rw [List.mem_singleton.mp new]
        exact exists_

/-- The locked section of `remove_session`. -/
theorem eraseById {id : Uuid} {entry : Entry} (found : node.sessions.findById id = some entry)
    (t : Nat) : Kept { node with sessions := node.sessions.eraseById id } (ledger.close id t) where
  tracks := kept.tracks.close found t
  filed := fun other member =>
    kept.filed other ((eraseUnique_sublist Key.id id node.sessions).subset member)
  created := kept.created

omit kept

/-- The loop of the leave handler erases one session at most. -/
theorem takeOutAll_eq (distinct : UniqueKeys Key.id node.sessions) (id : Uuid) :
    node.takeOutAll id =
      if (node.sessions.findById id).isSome then
        (1, { node with sessions := node.sessions.eraseById id })
      else (0, node) := by
  unfold State.takeOutAll
  rw [Handlers.eraseFound]
  cases found : node.sessions.findById id with
  | none => rfl
  | some entry =>
      have gone : (node.sessions.eraseById id).findById id = none := by
        apply (findUnique_eq_none_iff Key.id id _).mpr
        intro other member
        exact ((distinct.mem_eraseUnique_iff id other).mp member).2
      have positive := List.length_pos_of_mem (mem_of_findUnique found).1
      rcases Nat.exists_eq_add_one.mpr positive with ⟨fuel, fuelEq⟩
      simp only
      rw [fuelEq, Handlers.eraseFound, gone]
      rfl

end Kept

/-- What one section does to registry, ledger and `disconnect()` calls. -/
inductive Move (env : Environment) (t : Nat) (pool : Pool) : Pool → Prop
  | quiet (node : State) (sessions : node.sessions = pool.node.sessions)
      (older : pool.node.allocated ≤ node.allocated)
      (same : ∀ ref < pool.node.allocated, (node.memory ref).id = (pool.node.memory ref).id)
      (disconnected : node.disconnected = pool.node.disconnected) :
      Move env t pool { pool with node := node }
  | register (ref : Ref) (exists_ : ref < pool.node.allocated) :
      Move env t pool (pool.register env ref).2
  | close (id : Uuid) (entry : Entry) (found : pool.node.sessions.findById id = some entry) :
      Move env t pool
        (pool.close t id { pool.node with sessions := pool.node.sessions.eraseById id })
  | tear (number : Nat) (ref : Ref) (filed : pool.ledger.inserted[number]? = some ref)
      (node : State) (closed : pool.node.disconnectSession env ref = .ok node) :
      Move env t pool { pool with node := node, torn := pool.torn ++ [(number, t)] }

/-- What a section leaves to the other tasks. -/
structure Grows (t : Nat) (pool next : Pool) : Prop where
  older : pool.node.allocated ≤ next.node.allocated
  same : ∀ ref < pool.node.allocated, (next.node.memory ref).id = (pool.node.memory ref).id
  inserted : ∀ (number : Nat) (ref : Ref), pool.ledger.inserted[number]? = some ref →
    next.ledger.inserted[number]? = some ref
  ended : ∀ number, pool.ledger.Ended number → next.ledger.Ended number
  endedBy : ∀ other ≠ t, next.endedBy other = pool.endedBy other
  tornBy : ∀ other ≠ t, next.tornBy other = pool.tornBy other

variable {env : Environment} {t : Nat} {pool next : Pool}

theorem endedBy_close (id : Uuid) (node : State) (pool : Pool) (other : Nat) :
    (pool.close t id node).endedBy other =
      pool.endedBy other ++ if t = other then [pool.ledger.latest id] else [] := by
  simp only [endedBy, close, Ledger.close, List.filter_append, List.map_append]
  by_cases own : t = other
  · simp [own]
  · simp [own]

theorem tornBy_append (node : State) (number : Nat) (pool : Pool) (other : Nat) :
    tornBy { pool with node := node, torn := pool.torn ++ [(number, t)] } other =
      pool.tornBy other ++ if t = other then [number] else [] := by
  simp only [tornBy, List.filter_append, List.map_append]
  by_cases own : t = other
  · simp [own]
  · simp [own]

theorem register_ledger (env : Environment) (ref : Ref) (pool : Pool) :
    (pool.register env ref).2.ledger = pool.ledger ∨
      (pool.register env ref).2.ledger =
        pool.ledger.insert (pool.node.memory ref).id ref := by
  unfold register
  simp only
  split
  · exact Or.inr rfl
  · exact Or.inl rfl

namespace Move

variable (move : Move env t pool next)

include move

theorem grows : Grows t pool next := by
  cases move with
  | quiet node _ older same _ =>
      exact ⟨older, same, fun _ _ => id, fun _ => id, fun _ _ => rfl, fun _ _ => rfl⟩
  | register ref _ =>
      have endedEq : (pool.register env ref).2.ledger.ended = pool.ledger.ended := by
        rcases register_ledger env ref pool with unchanged | inserted
        · rw [unchanged]
        · rw [inserted, Ledger.insert_ended]
      constructor
      · exact Nat.le_refl _
      · exact fun _ _ => rfl
      · intro number other found
        rcases register_ledger env ref pool with unchanged | inserted
        · rw [unchanged]
          exact found
        · rw [inserted]
          exact Ledger.insert_inserted_of_some found
      · intro number ended
        unfold Ledger.Ended
        rw [endedEq]
        exact ended
      · intro other _
        unfold endedBy
        rw [endedEq]
      · exact fun _ _ => rfl
  | close id entry _ =>
      refine ⟨Nat.le_refl _, fun _ _ => rfl, fun _ _ found => found, ?_, ?_, fun _ _ => rfl⟩
      · rintro number ⟨who, ended⟩
        exact ⟨who, (Ledger.mem_close_iff _ _ _ _).mpr (Or.inl ended)⟩
      · intro other differs
        rw [endedBy_close, if_neg (Ne.symm differs), List.append_nil]
  | tear number ref _ node closed =>
      rcases Removes.disconnectSession closed with ⟨allocatedEq, same, _, _⟩
      refine ⟨allocatedEq.ge, fun other below => (same other below).1, fun _ _ => id, fun _ => id,
        fun _ _ => rfl, ?_⟩
      intro other differs
      rw [tornBy_append, if_neg (Ne.symm differs), List.append_nil]

theorem kept (before : Kept pool.node pool.ledger) : Kept next.node next.ledger := by
  cases move with
  | quiet node sessions older same _ => exact before.congr sessions older same
  | register ref exists_ => exact before.addSession env exists_
  | close id entry found => exact before.eraseById found t
  | tear number ref _ node closed =>
      rcases Removes.disconnectSession closed with ⟨allocatedEq, same, _, sessionsEq⟩
      exact before.congr sessionsEq allocatedEq.ge fun other below => (same other below).1

theorem tasks : next.tasks = pool.tasks := by
  cases move <;> rfl

theorem logged (before : pool.Logged) : next.Logged := by
  have later : List.Forall₂ (fun ref (pair : Nat × Nat) =>
      next.ledger.inserted[pair.1]? = some ref) pool.node.disconnected pool.torn :=
    List.Forall₂.imp (fun _ _ found => move.grows.inserted _ _ found) before
  unfold Logged
  cases move with
  | quiet node _ _ _ disconnected =>
      rw [← disconnected] at later
      exact later
  | register ref _ => exact later
  | close id entry _ => exact later
  | tear number ref filed node closed =>
      rcases Removes.disconnectSession closed with ⟨_, _, disconnectedEq, _⟩
      simp only
      rw [disconnectedEq]
      exact List.rel_append later (.cons filed .nil)

end Move

/-! ## Single tasks -/

/-- The identifiers for which `remove_session` is still due. -/
def due : Phase → List Uuid
  | .removing ids _ | .closing _ _ ids => ids
  | _ => []

/-- Where a call is when it has ended some insertions and called
`disconnect()` for others. -/
inductive Progress : Call → Phase → List Nat → List Nat → Prop
  | called (call : Call) : Progress call .called [] []
  | filed (ref : Ref) (inserted : Bool) :
      Progress (.addSession ref) (.returned (.flag inserted)) [] []
  | built (session : Ref) (type : MessageType) (payload : Bytes) (ref : Ref) (id : Uuid) :
      Progress (.join session type payload) (.built ref id) [] []
  | added (session : Ref) (type : MessageType) (payload : Bytes) (id : Uuid) :
      Progress (.join session type payload) (.added id) [] []
  | joined (session : Ref) (type : MessageType) (payload : Bytes) (answer : Answer) :
      Progress (.join session type payload) (.returned answer) [] []
  | ignored (session : Ref) (type : MessageType) (payload : Bytes) :
      Progress (.leave session type payload) (.returned .nothing) [] []
  | left (session : Ref) (type : MessageType) (payload : Bytes) (count : UInt64)
      (ended : List Nat) (counted : ended.length = count.toNat) :
      Progress (.leave session type payload) (.returned (.count count)) ended []
  | asked (id : Uuid) : Progress (.removeSession id) (.removing [id] false) [] []
  | erased (id : Uuid) (number : Nat) (ref : Ref) :
      Progress (.removeSession id) (.closing number ref []) [number] []
  | removed (id : Uuid) (ended : List Nat) (found : Bool) (counted : ended.length = found.toNat) :
      Progress (.removeSession id) (.removing [] found) ended ended
  | answered (id : Uuid) (ended : List Nat) (found : Bool)
      (counted : ended.length = found.toNat) :
      Progress (.removeSession id) (.returned (.flag found)) ended ended
  | draining (call : Call) (bulk : call.Bulk) (ids : List Uuid) (found : Bool)
      (ended : List Nat) : Progress call (.removing ids found) ended ended
  | closing (call : Call) (bulk : call.Bulk) (ids : List Uuid) (number : Nat) (ref : Ref)
      (ended : List Nat) : Progress call (.closing number ref ids) (ended ++ [number]) ended
  | drained (call : Call) (bulk : call.Bulk) (ended : List Nat) :
      Progress call (.returned .nothing) ended ended

namespace Progress

variable {call : Call} {id : Uuid} {ids : List Uuid} {ended torn : List Nat}

theorem of_called (progress : Progress call .called ended torn) : ended = [] ∧ torn = [] := by
  cases progress
  exact ⟨rfl, rfl⟩

/-- `remove_session` finds nothing. -/
theorem notFound {removed : Bool}
    (progress : Progress call (.removing (id :: ids) removed) ended torn) :
    Progress call (.removing ids false) ended torn := by
  cases progress with
  | asked => exact .removed id [] false rfl
  | draining _ bulk => exact .draining call bulk ids false ended

/-- `remove_session` has erased a session. -/
theorem found {removed : Bool}
    (progress : Progress call (.removing (id :: ids) removed) ended torn) (number : Nat)
    (ref : Ref) : Progress call (.closing number ref ids) (ended ++ [number]) torn := by
  cases progress with
  | asked => exact .erased id number ref
  | draining _ bulk => exact .closing call bulk ids number ref ended

/-- `remove_session` has called `disconnect()`. -/
theorem tear {number : Nat} {ref : Ref}
    (progress : Progress call (.closing number ref ids) ended torn) :
    Progress call (.removing ids true) ended (torn ++ [number]) := by
  cases progress with
  | erased id => exact .removed id [number] true rfl
  | closing _ bulk => exact .draining call bulk ids true (torn ++ [number])

/-- Every call of `remove_session` has returned. -/
theorem answer {removed : Bool} (progress : Progress call (.removing [] removed) ended torn) :
    Progress call (.returned (call.answer removed)) ended torn := by
  cases progress with
  | removed id _ _ counted => exact .answered id ended removed counted
  | draining _ bulk =>
      have nothing : call.answer removed = .nothing := by
        cases call <;> first | rfl | exact bulk.elim
      rw [nothing]
      exact .drained call bulk ended

/-- A session that a join handler built is filed. -/
theorem add {ref : Ref} (progress : Progress call (.built ref id) ended torn) :
    Progress call (.added id) ended torn := by
  cases progress with
  | built session type payload => exact .added session type payload id

theorem reply (progress : Progress call (.added id) ended torn) (count : UInt64) :
    Progress call (.returned (.count count)) ended torn := by
  cases progress with
  | added session type payload => exact .joined session type payload (.count count)

end Progress

/-- What holds of a task between two sections. -/
structure TaskSound (pool : Pool) (t : Nat) (task : Task) : Prop where
  progress : Progress task.call task.phase (pool.endedBy t) (pool.tornBy t)
  /-- A task ends insertions of sessions with identifiers that it names. -/
  named : ∀ number ∈ pool.endedBy t, ∃ ref, pool.ledger.inserted[number]? = some ref ∧
    ref < pool.node.allocated ∧ task.Names (pool.node.memory ref).id
  due : ∀ id ∈ due task.phase, task.Names id
  closing : ∀ number ref ids, task.phase = .closing number ref ids →
    pool.ledger.inserted[number]? = some ref
  filing : ∀ ref, task.call = .addSession ref ∨ (∃ id, task.phase = .built ref id) →
    ref < pool.node.allocated
  /-- What was registered at the snapshot and still is will be removed. -/
  snapshot : ∀ number ∈ task.snapshot, pool.ledger.Ended number ∨
    ∃ ref, pool.ledger.inserted[number]? = some ref ∧ ref < pool.node.allocated ∧
      (pool.node.memory ref).id ∈ Pool.due task.phase

namespace TaskSound

variable {task : Task}

/-- The sections of other tasks do not concern a task. -/
theorem grow {other : Nat} (sound : TaskSound pool other task) (differs : other ≠ t)
    (grows : Grows t pool next) : TaskSound next other task where
  progress := by
    rw [grows.endedBy other differs, grows.tornBy other differs]
    exact sound.progress
  named := by
    intro number member
    rw [grows.endedBy other differs] at member
    rcases sound.named number member with ⟨ref, found, created, names⟩
    refine ⟨ref, grows.inserted number ref found, created.trans_le grows.older, ?_⟩
    rw [grows.same ref created]
    exact names
  due := sound.due
  closing := fun number ref ids phase =>
    grows.inserted number ref (sound.closing number ref ids phase)
  filing := fun ref files => (sound.filing ref files).trans_le grows.older
  snapshot := by
    intro number member
    rcases sound.snapshot number member with ended | ⟨ref, found, created, isDue⟩
    · exact Or.inl (grows.ended number ended)
    · refine Or.inr ⟨ref, grows.inserted number ref found, created.trans_le grows.older, ?_⟩
      rw [grows.same ref created]
      exact isDue

/-- A section of the task itself, when the task names and has collected what it
had before. -/
theorem advance {phase : Phase} (sound : TaskSound pool t task) (grows : Grows t pool next)
    (progress : Progress task.call phase (next.endedBy t) (next.tornBy t))
    (named : ∀ number ∈ next.endedBy t, number ∈ pool.endedBy t ∨
      ∃ ref, next.ledger.inserted[number]? = some ref ∧ ref < next.node.allocated ∧
        task.Names (next.node.memory ref).id)
    (due : ∀ id ∈ Pool.due phase, task.Names id)
    (closing : ∀ number ref ids, phase = .closing number ref ids →
      next.ledger.inserted[number]? = some ref)
    (filing : ∀ ref id, phase = .built ref id → ref < next.node.allocated)
    (dropped : ∀ (number : Nat) (ref : Ref), pool.ledger.inserted[number]? = some ref →
      (pool.node.memory ref).id ∈ Pool.due task.phase →
      (pool.node.memory ref).id ∉ Pool.due phase → next.ledger.Ended number) :
    TaskSound next t (task.goto phase) where
  progress := progress
  named := by
    intro number member
    rcases named number member with before | now
    · rcases sound.named number before with ⟨ref, found, created, names⟩
      refine ⟨ref, grows.inserted number ref found, created.trans_le grows.older, ?_⟩
      rw [grows.same ref created]
      exact names
    · exact now
  due := due
  closing := closing
  filing := by
    rintro ref (called | ⟨id, built⟩)
    · exact (sound.filing ref (Or.inl called)).trans_le grows.older
    · exact filing ref id built
  snapshot := by
    intro number member
    rcases sound.snapshot number member with ended | ⟨ref, found, created, wasDue⟩
    · exact Or.inl (grows.ended number ended)
    · by_cases stillDue : (pool.node.memory ref).id ∈ Pool.due phase
      · refine Or.inr ⟨ref, grows.inserted number ref found, created.trans_le grows.older, ?_⟩
        rw [grows.same ref created]
        exact stillDue
      · exact Or.inl (dropped number ref found wasDue stillDue)

end TaskSound

/-- Leaving the pool as it is. -/
theorem Move.none (env : Environment) (t : Nat) (pool : Pool) : Move env t pool pool :=
  .quiet pool.node rfl (Nat.le_refl _) (fun _ _ => rfl) rfl

/-- A section that ends nothing and has nothing less due. -/
theorem TaskSound.quiet {task : Task} {phase : Phase} (sound : TaskSound pool t task)
    (move : Move env t pool next) (ended : next.endedBy t = pool.endedBy t)
    (progress : Progress task.call phase (next.endedBy t) (next.tornBy t))
    (due : ∀ id ∈ Pool.due phase, task.Names id)
    (kept : ∀ id ∈ Pool.due task.phase, id ∈ Pool.due phase)
    (closing : ∀ number ref ids, phase ≠ .closing number ref ids)
    (filing : ∀ ref id, phase = .built ref id → ref < next.node.allocated) :
    TaskSound next t (task.goto phase) := by
  apply sound.advance move.grows progress
  · intro number member
    rw [ended] at member
    exact Or.inl member
  · exact due
  · exact fun number ref ids isClosing => absurd isClosing (closing number ref ids)
  · exact filing
  · exact fun number ref _ wasDue dropped => absurd (kept _ wasDue) dropped

theorem endedBy_register (env : Environment) (ref : Ref) (pool : Pool) (t : Nat) :
    (pool.register env ref).2.endedBy t = pool.endedBy t := by
  unfold endedBy
  rcases register_ledger env ref pool with unchanged | inserted
  · rw [unchanged]
  · rw [inserted, Ledger.insert_ended]

/-- What a section of a task does, and that the task stays sound. -/
def Carried (env : Environment) (t : Nat) (pool : Pool) (task : Task) (next : Pool) : Prop :=
  Move env t pool next ∧ TaskSound next t task

/-- A task with nothing more due returns and touches nothing. -/
theorem carried_return {task : Task} {answer : Answer} (sound : TaskSound pool t task)
    (nothing : due task.phase = [])
    (progress : Progress task.call (.returned answer) (pool.endedBy t) (pool.tornBy t)) :
    Carried env t pool (task.goto (.returned answer)) pool := by
  have move := Move.none env t pool
  refine ⟨move, sound.quiet move rfl progress ?_ ?_ ?_ ?_⟩
  · exact fun other member => absurd member List.not_mem_nil
  · rw [nothing]
    exact fun other member => absurd member List.not_mem_nil
  · exact fun number ref ids => Phase.noConfusion
  · exact fun ref other => Phase.noConfusion

/-- The first section of a bulk removal collects what is registered. -/
theorem carried_collect {task : Task} {call : Call} (kept : Kept pool.node pool.ledger)
    (sound : TaskSound pool t task) (called : task.phase = .called) (isCall : task.call = call)
    (bulk : call.Bulk) (test : Key → Bool) (ids : List Uuid)
    (collects : ∀ entry ∈ pool.node.sessions, test entry.key → entry.key.id ∈ ids) :
    Carried env t pool
      { call := call, phase := .removing ids false, collected := ids,
        snapshot := pool.numbers test } pool := by
  have progress := sound.progress
  rw [called] at progress
  rcases progress.of_called with ⟨noneEnded, noneTorn⟩
  refine ⟨.none env t pool, ?_⟩
  constructor
  · rw [noneEnded, noneTorn]
    exact .draining call bulk ids false []
  · intro number member
    rw [noneEnded] at member
    exact absurd member List.not_mem_nil
  · intro id member
    cases call with
    | disconnect node => exact member
    | disconnectAll => exact member
    | _ => exact bulk.elim
  · intro number ref others isClosing
    cases isClosing
  · rintro ref (isAdd | ⟨id, built⟩)
    · exact sound.filing ref (Or.inl (isCall.trans isAdd))
    · cases built
  · intro number member
    rcases List.mem_map.mp member with ⟨entry, passes, rfl⟩
    rcases List.mem_filter.mp passes with ⟨registered, tested⟩
    refine Or.inr ⟨entry.elem, kept.tracks.filed entry registered, kept.elem_lt registered, ?_⟩
    rw [← kept.filed entry registered]
    exact collects entry registered tested

section Removal

variable {task : Task} (kept : Kept pool.node pool.ledger)

include kept

/-- What a task has just ended carries the identifier it was found under. -/
theorem named_of_close {id : Uuid} {entry : Entry} (names : task.Names id)
    (found : pool.node.sessions.findById id = some entry) (node : State)
    (same : node.memory = pool.node.memory) (older : node.allocated = pool.node.allocated) :
    ∀ number ∈ (pool.close t id node).endedBy t, number ∈ pool.endedBy t ∨
      ∃ ref, (pool.close t id node).ledger.inserted[number]? = some ref ∧
        ref < (pool.close t id node).node.allocated ∧
        task.Names ((pool.close t id node).node.memory ref).id := by
  rcases mem_of_findUnique found with ⟨member, rfl⟩
  intro number ended
  rw [endedBy_close, if_pos rfl] at ended
  rcases List.mem_append.mp ended with before | now
  · exact Or.inl before
  · rw [List.mem_singleton.mp now]
    refine Or.inr ⟨entry.elem, kept.tracks.filed entry member, ?_, ?_⟩
    · exact (kept.elem_lt member).trans_eq older.symm
    · have idEq : (node.memory entry.elem).id = entry.key.id := by
        rw [same]
        exact (kept.filed entry member).symm
      exact idEq ▸ names

/-- What is still registered under an identifier is what is found under it. -/
theorem ended_of_notFound {id : Uuid} (missing : pool.node.sessions.findById id = none)
    {number : Nat} {ref : Ref} (inserted : pool.ledger.inserted[number]? = some ref)
    (named : (pool.node.memory ref).id = id) : pool.ledger.Ended number := by
  rcases kept.tracks.covered number (List.getElem?_eq_some_iff.mp inserted).1 with
    ended | ⟨entry, member, _, elem⟩
  · exact ended
  · rw [inserted] at elem
    have keyEq : entry.key.id = id := by
      rw [kept.filed entry member, ← Option.some.inj elem, named]
    exact absurd keyEq ((findUnique_eq_none_iff Key.id id _).mp missing entry member)

theorem ended_of_close {id : Uuid} (node : State) {number : Nat} {ref : Ref}
    (inserted : pool.ledger.inserted[number]? = some ref)
    (named : (pool.node.memory ref).id = id) :
    (pool.close t id node).ledger.Ended number := by
  rcases kept.tracks.covered number (List.getElem?_eq_some_iff.mp inserted).1 with
    ⟨who, ended⟩ | ⟨entry, member, latest, elem⟩
  · exact ⟨who, (Ledger.mem_close_iff _ _ _ _).mpr (Or.inl ended)⟩
  · rw [inserted] at elem
    have keyEq : entry.key.id = id := by
      rw [kept.filed entry member, ← Option.some.inj elem, named]
    rw [keyEq] at latest
    exact ⟨t, (Ledger.mem_close_iff _ _ _ _).mpr (Or.inr (by rw [latest]))⟩

/-- The locked section of `remove_session`. -/
theorem carried_takeOut {id : Uuid} {ids : List Uuid} {removed : Bool} {after : Task}
    (sound : TaskSound pool t task)
    (phase : task.phase = .removing (id :: ids) removed)
    (step : pool.proceed env t task = some (after, next)) : Carried env t pool after next := by
  have progress := sound.progress
  have names := sound.due
  rw [phase] at progress names
  have others : ∀ other ∈ ids, task.Names other :=
    fun other member => names other (List.mem_cons_of_mem id member)
  unfold proceed at step
  rw [phase] at step
  simp only [State.takeOut] at step
  cases found : pool.node.sessions.findById id with
  | none =>
      rw [found] at step
      cases step
      have move := Move.none env t pool
      refine ⟨move, sound.advance move.grows ?_ (fun _ => Or.inl) others ?_ ?_ ?_⟩
      · exact progress.notFound
      · intro number ref rest isClosing
        cases isClosing
      · intro ref other built
        cases built
      · intro number ref inserted wasDue dropped
        rw [phase] at wasDue
        rcases List.mem_cons.mp wasDue with isId | late
        · exact ended_of_notFound kept found inserted isId
        · exact absurd late dropped
  | some entry =>
      rw [found] at step
      cases step
      have move : Move env t pool (pool.close t id
          { pool.node with sessions := pool.node.sessions.eraseById id }) :=
        .close id entry found
      rcases mem_of_findUnique found with ⟨member, keyEq⟩
      refine ⟨move, sound.advance move.grows ?_ ?_ others ?_ ?_ ?_⟩
      · rw [endedBy_close, if_pos rfl]
        exact progress.found _ entry.elem
      · exact named_of_close kept (names id List.mem_cons_self) found _ rfl rfl
      · intro number ref rest isClosing
        cases isClosing
        rw [← keyEq]
        exact kept.tracks.filed entry member
      · intro ref other built
        cases built
      · intro number ref inserted wasDue dropped
        rw [phase] at wasDue
        rcases List.mem_cons.mp wasDue with isId | late
        · exact ended_of_close kept _ inserted isId
        · exact absurd late dropped

/-- The locked section of the leave handler. -/
theorem carried_leave {session : Ref} {type : MessageType} {payload : Bytes} {id : Uuid}
    (sound : TaskSound pool t task) (called : task.phase = .called)
    (isLeave : task.call = .leave session type payload) (reads : readUuid payload 0 = .ok id) :
    Carried env t pool (task.goto (.returned (.count (pool.node.takeOutAll id).1)))
      (if (pool.node.sessions.findById id).isSome then
        pool.close t id (pool.node.takeOutAll id).2
      else { pool with node := (pool.node.takeOutAll id).2 }) := by
  have progress := sound.progress
  rw [called] at progress
  rcases progress.of_called with ⟨noneEnded, noneTorn⟩
  have names : task.Names id := by
    unfold Task.Names
    rw [isLeave]
    exact reads
  rw [Kept.takeOutAll_eq kept.tracks.distinct]
  cases found : pool.node.sessions.findById id with
  | none =>
      simp only [Option.isSome_none, Bool.false_eq_true, ↓reduceIte]
      apply carried_return sound
      · rw [called]
        rfl
      · rw [isLeave, noneEnded, noneTorn]
        exact .left session type payload 0 [] rfl
  | some entry =>
      simp only [Option.isSome_some, ↓reduceIte]
      have move : Move env t pool (pool.close t id
          { pool.node with sessions := pool.node.sessions.eraseById id }) :=
        .close id entry found
      refine ⟨move, sound.advance move.grows ?_ ?_ ?_ ?_ ?_ ?_⟩
      · have one : (pool.close t id { pool.node with
            sessions := pool.node.sessions.eraseById id }).endedBy t =
              [pool.ledger.latest id] := by
          rw [endedBy_close, if_pos rfl, noneEnded]
          rfl
        have untorn : (pool.close t id { pool.node with
            sessions := pool.node.sessions.eraseById id }).tornBy t = [] := noneTorn
        rw [isLeave]
        exact one ▸ untorn ▸ .left session type payload 1 [pool.ledger.latest id] rfl
      · exact named_of_close kept names found _ rfl rfl
      · exact fun other member => absurd member List.not_mem_nil
      · exact fun number ref ids => Phase.noConfusion
      · exact fun ref other => Phase.noConfusion
      · intro number ref _ wasDue
        rw [called] at wasDue
        exact absurd wasDue List.not_mem_nil

end Removal

/-- `disconnect()` of an erased session. -/
theorem carried_close {task : Task} {number : Nat} {ref : Ref} {ids : List Uuid} {node : State}
    (sound : TaskSound pool t task) (closing : task.phase = .closing number ref ids)
    (closed : pool.node.disconnectSession env ref = .ok node) :
    Carried env t pool (task.goto (.removing ids true))
      { pool with node := node, torn := pool.torn ++ [(number, t)] } := by
  have progress := sound.progress
  have names := sound.due
  rw [closing] at progress names
  have move : Move env t pool { pool with node := node, torn := pool.torn ++ [(number, t)] } :=
    .tear number ref (sound.closing number ref ids closing) node closed
  refine ⟨move, sound.quiet move rfl ?_ names ?_ ?_ ?_⟩
  · rw [tornBy_append, if_pos rfl]
    exact progress.tear
  · rw [closing]
    exact fun id member => member
  · exact fun number ref ids => Phase.noConfusion
  · exact fun ref other => Phase.noConfusion

theorem carried_ignore {task : Task} (sound : TaskSound pool t task)
    (called : task.phase = .called)
    (progress : Progress task.call (.returned .nothing) [] []) :
    Carried env t pool (task.goto (.returned .nothing)) pool := by
  have before := sound.progress
  rw [called] at before
  rcases before.of_called with ⟨noneEnded, noneTorn⟩
  apply carried_return sound
  · rw [called]
    rfl
  · rw [noneEnded, noneTorn]
    exact progress

/-- The locked section of `add_session`, in either of its callers. -/
theorem carried_register {task : Task} {phase : Phase} (sound : TaskSound pool t task)
    (ref : Ref) (exists_ : ref < pool.node.allocated) (nothing : due task.phase = [])
    (progress : Progress task.call phase (pool.endedBy t) (pool.tornBy t))
    (after : due phase = []) (closing : ∀ number ref ids, phase ≠ .closing number ref ids)
    (built : ∀ ref id, phase ≠ .built ref id) :
    Carried env t pool (task.goto phase) (pool.register env ref).2 := by
  have move : Move env t pool (pool.register env ref).2 := .register ref exists_
  have ended := endedBy_register env ref pool t
  refine ⟨move, sound.quiet move ended ?_ ?_ ?_ closing ?_⟩
  · rw [ended]
    exact progress
  · rw [after]
    exact fun other member => absurd member List.not_mem_nil
  · rw [nothing]
    exact fun other member => absurd member List.not_mem_nil
  · exact fun other id isBuilt => absurd isBuilt (built other id)

/-- The join handler builds its session object. -/
theorem carried_build {task : Task} {session : Ref} {type : MessageType} {payload : Bytes}
    {id : Uuid} (sound : TaskSound pool t task) (called : task.phase = .called)
    (isJoin : task.call = .join session type payload) :
    Carried env t pool (task.goto (.built pool.node.allocated id))
      { pool with node := pool.node.buildPlaceholder session id } := by
  have before := sound.progress
  rw [called] at before
  rcases before.of_called with ⟨noneEnded, noneTorn⟩
  have move : Move env t pool { pool with node := pool.node.buildPlaceholder session id } := by
    apply Move.quiet
    · rfl
    · exact Nat.le_succ _
    · intro ref created
      unfold State.buildPlaceholder State.setNodeId
      rw [State.update_memory_of_ne (Nat.ne_of_lt created),
        State.allocate_memory_of_ne _ (Nat.ne_of_lt created)]
    · rfl
  refine ⟨move, sound.quiet move rfl ?_ ?_ ?_ ?_ ?_⟩
  · have built := Progress.built session type payload pool.node.allocated id
    rw [isJoin]
    exact noneEnded ▸ noneTorn ▸ built
  · exact fun other member => absurd member List.not_mem_nil
  · rw [called]
    exact fun other member => member
  · exact fun number ref ids => Phase.noConfusion
  · intro ref other isBuilt
    cases isBuilt
    exact Nat.lt_succ_self _

/-- Every section of a sound task is one of the moves, and leaves it sound. -/
theorem carried_of_proceed {task after : Task} (kept : Kept pool.node pool.ledger)
    (sound : TaskSound pool t task) (step : pool.proceed env t task = some (after, next)) :
    Carried env t pool after next := by
  have progress := sound.progress
  cases phase : task.phase with
  | called =>
      rw [phase] at progress
      rcases progress.of_called with ⟨noneEnded, noneTorn⟩
      have nothing : due task.phase = [] := by rw [phase]; rfl
      unfold proceed at step
      rw [phase] at step
      cases call : task.call with
      | addSession ref =>
          rw [call] at step
          cases step
          refine carried_register sound ref (sound.filing ref (Or.inl call)) nothing ?_ rfl
            (fun _ _ _ => Phase.noConfusion) (fun _ _ => Phase.noConfusion)
          rw [call, noneEnded, noneTorn]
          exact .filed ref _
      | removeSession id =>
          rw [call] at step
          cases step
          have move := Move.none env t pool
          refine ⟨move, sound.quiet move rfl ?_ ?_ ?_ ?_ ?_⟩
          · rw [call, noneEnded, noneTorn]
            exact .asked id
          · intro other member
            unfold Task.Names
            rw [call]
            exact List.mem_singleton.mp member
          · rw [nothing]
            exact fun other member => absurd member List.not_mem_nil
          · exact fun number ref ids => Phase.noConfusion
          · exact fun ref other => Phase.noConfusion
      | disconnect node =>
          rw [call] at step
          cases step
          apply carried_collect kept sound phase call trivial
          intro entry member tested
          rw [kept.filed entry member]
          apply List.mem_map_of_mem
          apply (env.order_perm _).mem_iff.mpr
          apply (mem_lookup_iff _ _ _).mpr
          exact ⟨entry, member, tested, rfl⟩
      | disconnectAll =>
          rw [call] at step
          cases step
          apply carried_collect kept sound phase call trivial
          intro entry member _
          rw [kept.filed entry member]
          exact List.mem_map_of_mem (List.mem_map_of_mem member)
      | join session type payload =>
          rw [call] at step
          simp only at step
          split at step
          · cases step
            apply carried_ignore sound phase
            rw [call]
            exact .joined session type payload .nothing
          · cases reads : readUuid payload 0 with
            | error failure =>
                rw [reads] at step
                cases step
            | ok id =>
                rw [reads] at step
                cases step
                exact carried_build sound phase call
      | leave session type payload =>
          rw [call] at step
          simp only at step
          split at step
          · cases step
            apply carried_ignore sound phase
            rw [call]
            exact .ignored session type payload
          · cases reads : readUuid payload 0 with
            | error failure =>
                rw [reads] at step
                cases step
            | ok id =>
                rw [reads] at step
                cases step
                exact carried_leave kept sound phase call reads
  | removing ids removed =>
      cases ids with
      | cons id ids => exact carried_takeOut kept sound phase step
      | nil =>
          unfold proceed at step
          rw [phase] at step progress
          cases step
          exact carried_return sound (by rw [phase]; rfl) progress.answer
  | closing number ref ids =>
      unfold proceed at step
      rw [phase] at step
      simp only at step
      cases closed : pool.node.disconnectSession env ref with
      | error failure =>
          rw [closed] at step
          cases step
      | ok node =>
          rw [closed] at step
          cases step
          exact carried_close sound phase closed
  | built ref id =>
      unfold proceed at step
      rw [phase] at step progress
      cases step
      exact carried_register sound ref (sound.filing ref (Or.inr ⟨id, phase⟩)) (by rw [phase]; rfl)
        progress.add rfl (fun _ _ _ => Phase.noConfusion) (fun _ _ => Phase.noConfusion)
  | added id =>
      unfold proceed at step
      rw [phase] at step progress
      cases step
      exact carried_return sound (by rw [phase]; rfl) (progress.reply _)
  | returned answer =>
      unfold proceed at step
      rw [phase] at step
      cases step

/-! ## All tasks -/

/-- What holds between two sections of any tasks. -/
structure Sound (pool : Pool) : Prop where
  kept : Kept pool.node pool.ledger
  tasks : ∀ t task, pool.tasks t = some task → TaskSound pool t task
  idle : ∀ t, pool.tasks t = none → pool.endedBy t = [] ∧ pool.tornBy t = []
  logged : pool.Logged

theorem sound_initial (nodeId : Uuid) (tcpPort : UInt16) : Sound (initial nodeId tcpPort) where
  kept := {
    tracks := .empty Key.id
    filed := fun _ member => absurd member List.not_mem_nil
    created := fun _ member => absurd member List.not_mem_nil }
  tasks := fun _ _ found => nomatch found
  idle := fun _ _ => ⟨rfl, rfl⟩
  logged := .nil

theorem TaskSound.put {task : Task} (sound : TaskSound pool t task) (other : Nat) (now : Task) :
    TaskSound (pool.put other now) t task :=
  ⟨sound.progress, sound.named, sound.due, sound.closing, sound.filing, sound.snapshot⟩

namespace Sound

variable (sound : Sound pool)

include sound

/-- A change of session objects outside the tasks. -/
theorem outside (env : Environment) {node : State}
    (move : ∀ t, Move env t pool { pool with node := node }) :
    Sound { pool with node := node } where
  kept := (move 0).kept sound.kept
  tasks := by
    intro t task found
    have differs : t ≠ t + 1 := Nat.ne_of_lt (Nat.lt_succ_self t)
    exact (sound.tasks t task found).grow differs (move (t + 1)).grows
  idle := sound.idle
  logged := (move 0).logged sound.logged

/-- A call is made. -/
theorem call {called : Call} (free : pool.tasks t = none)
    (enabled : Event.Enabled pool (.call t called)) : Sound (pool.put t (.start called)) where
  kept := sound.kept
  tasks := by
    intro other task found
    by_cases own : other = t
    · subst own
      rw [put_tasks_self] at found
      cases found
      rcases sound.idle other free with ⟨noneEnded, noneTorn⟩
      have ended : (pool.put other (.start called)).endedBy other = [] := noneEnded
      have torn : (pool.put other (.start called)).tornBy other = [] := noneTorn
      constructor
      · rw [ended, torn]
        exact .called called
      · rw [ended]
        exact fun number member => absurd member List.not_mem_nil
      · exact fun id member => absurd member List.not_mem_nil
      · exact fun number ref ids => Phase.noConfusion
      · rintro ref (isAdd | ⟨id, built⟩)
        · cases isAdd
          exact enabled
        · cases built
      · exact fun number member => absurd member List.not_mem_nil
    · rw [put_tasks_of_ne own] at found
      exact (sound.tasks other task found).put t _
  idle := by
    intro other idle
    by_cases own : other = t
    · subst own
      exact sound.idle other free
    · rw [put_tasks_of_ne own] at idle
      exact sound.idle other idle
  logged := sound.logged

/-- A task takes its next section. -/
theorem proceed {task after : Task} (found : pool.tasks t = some task)
    (step : pool.proceed env t task = some (after, next)) : Sound (next.put t after) := by
  rcases carried_of_proceed sound.kept (sound.tasks t task found) step with ⟨move, own⟩
  constructor
  · exact move.kept sound.kept
  · intro other task' running
    by_cases isOwn : other = t
    · subst isOwn
      rw [put_tasks_self] at running
      cases running
      exact own.put other _
    · rw [put_tasks_of_ne isOwn, move.tasks] at running
      exact ((sound.tasks other task' running).grow isOwn move.grows).put t _
  · intro other idle
    by_cases isOwn : other = t
    · subst isOwn
      rw [put_tasks_self] at idle
      cases idle
    · rw [put_tasks_of_ne isOwn, move.tasks] at idle
      rcases sound.idle other idle with ⟨noneEnded, noneTorn⟩
      exact ⟨(move.grows.endedBy other isOwn).trans noneEnded,
        (move.grows.tornBy other isOwn).trans noneTorn⟩
  · exact move.logged sound.logged

theorem perform {event : Event} (enabled : event.Enabled pool)
    (step : pool.perform env event = some next) : Sound next := by
  cases event with
  | create session =>
      cases step
      apply sound.outside env
      intro t
      apply Move.quiet
      · rfl
      · exact Nat.le_succ _
      · intro ref created
        rw [State.allocate_memory_of_ne _ (Nat.ne_of_lt created)]
      · rfl
  | setNodeId ref nodeId =>
      cases step
      apply sound.outside env
      intro t
      apply Move.quiet
      · rfl
      · exact Nat.le_refl _
      · intro other _
        unfold State.setNodeId
        by_cases own : other = ref
        · rw [own, State.update_memory_self]
        · rw [State.update_memory_of_ne own]
      · rfl
  | call t called =>
      unfold Pool.perform at step
      simp only at step
      split at step
      · rename_i free
        cases step
        exact sound.call (Option.isNone_iff_eq_none.mp free) enabled
      · cases step
  | proceed t =>
      rcases Option.bind_eq_some_iff.mp step with ⟨task, found, step⟩
      rcases Option.bind_eq_some_iff.mp step with ⟨⟨after, middle⟩, proceeds, result⟩
      cases result
      exact sound.proceed found proceeds

end Sound

theorem sound_of_reachable (reachable : (machine env).Reachable pool) : Sound pool := by
  apply reachable.invariant
  · rintro start ⟨nodeId, tcpPort, rfl⟩
    exact sound_initial nodeId tcpPort
  · rintro before event next _ sound ⟨enabled, step⟩
    exact sound.perform enabled step

/-! ## What becomes of an insertion -/

/-- The insertion is not registered any more and exactly one task has ended it. -/
structure EndedBy (pool : Pool) (number t : Nat) : Prop where
  unregistered : ¬pool.Registered number
  once : (pool.ledger.ended.filter fun pair => pair.1 = number) = [(number, t)]

/-- What can have become of the insertion of a session. -/
inductive Fate (pool : Pool) (number : Nat) (ref : Ref) : Prop
  | registered (registered : pool.Registered number)
      (unended : ∀ t, (number, t) ∉ pool.ledger.ended)
      (untorn : ∀ t, (number, t) ∉ pool.torn)
  /-- A leave that names the session has ended it and counted it. -/
  | left (t : Nat) (task : Task) (running : pool.tasks t = some task) (session : Ref)
      (type : MessageType) (payload : Bytes) (leave : task.call = .leave session type payload)
      (named : task.Names (pool.node.memory ref).id) (ended : pool.EndedBy number t)
      (count : UInt64) (returned : task.phase = .returned (.count count))
      (counted : (pool.endedBy t).length = count.toNat) (untorn : ∀ t, (number, t) ∉ pool.torn)
  /-- A `remove_session` of its identifier has ended it and calls
  `disconnect()` next. -/
  | closing (t : Nat) (task : Task) (running : pool.tasks t = some task)
      (removes : task.call.Removes) (named : task.Names (pool.node.memory ref).id)
      (ended : pool.EndedBy number t) (ids : List Uuid)
      (next : task.phase = .closing number ref ids) (untorn : ∀ t, (number, t) ∉ pool.torn)
  /-- A `remove_session` of its identifier has ended it and called
  `disconnect()` once. -/
  | removed (t : Nat) (task : Task) (running : pool.tasks t = some task)
      (removes : task.call.Removes) (named : task.Names (pool.node.memory ref).id)
      (ended : pool.EndedBy number t)
      (torn : (pool.torn.filter fun pair => pair.1 = number) = [(number, t)])

/-- Registrations are torn down once. -/
structure TornDownOnce (pool : Pool) : Prop where
  fate : ∀ (number : Nat) (ref : Ref), pool.ledger.inserted[number]? = some ref →
    Fate pool number ref
  /-- No two registered sessions share an identifier. -/
  distinct : (pool.node.sessions.refs.map fun ref => (pool.node.memory ref).id).Nodup
  /-- The `disconnect()` calls are those of the sessions whose insertions were
  torn down. -/
  logged : pool.Logged
  /-- `remove_session` returns whether it has ended an insertion, and has called
  `disconnect()` for the one it ended. -/
  answered : ∀ t task id found, pool.tasks t = some task → task.call = .removeSession id →
    task.phase = .returned (.flag found) →
      (pool.endedBy t).length = found.toNat ∧ pool.tornBy t = pool.endedBy t
  /-- The snapshot of `disconnect_all` is what is registered. -/
  snapshot : ∀ number, (number ∈ pool.numbers fun _ => true) ↔ pool.Registered number
  /-- When `disconnect_all` returns, nothing in its snapshot is registered. -/
  drained : ∀ t task answer, pool.tasks t = some task → task.call = .disconnectAll →
    task.phase = .returned answer → ∀ number ∈ task.snapshot, ¬pool.Registered number

theorem mem_endedBy_iff (number t : Nat) :
    number ∈ pool.endedBy t ↔ (number, t) ∈ pool.ledger.ended := by
  simp [endedBy]

theorem mem_tornBy_iff (number t : Nat) : number ∈ pool.tornBy t ↔ (number, t) ∈ pool.torn := by
  simp [tornBy]

/-- Where a first component occurs once, the pairs with it are one pair. -/
theorem filter_fst_eq_singleton {pairs : List (Nat × Nat)} (once : (pairs.map Prod.fst).Nodup)
    {number t : Nat} (member : (number, t) ∈ pairs) :
    (pairs.filter fun pair => pair.1 = number) = [(number, t)] := by
  induction pairs with
  | nil => cases member
  | cons first pairs ih =>
      rw [List.map_cons, List.nodup_cons] at once
      rcases List.mem_cons.mp member with rfl | later
      · have others : (pairs.filter fun pair => pair.1 = number) = [] := by
          apply List.filter_eq_nil_iff.mpr
          intro pair isLater same
          exact once.1 (List.mem_map.mpr ⟨pair, isLater, of_decide_eq_true same⟩)
        rw [List.filter_cons_of_pos (by simp), others]
      · have differs : first.1 ≠ number := by
          intro same
          exact once.1 (List.mem_map.mpr ⟨(number, t), later, same.symm⟩)
        rw [List.filter_cons_of_neg (by simpa using differs)]
        exact ih once.2 later

/-- Where every first component has one second component and occurs once
with it, it occurs once. -/
theorem nodup_fst {pairs : List (Nat × Nat)}
    (owner : ∀ number t other, (number, t) ∈ pairs → (number, other) ∈ pairs → t = other)
    (parts : ∀ t, ((pairs.filter fun pair => pair.2 = t).map Prod.fst).Nodup) :
    (pairs.map Prod.fst).Nodup := by
  induction pairs with
  | nil => exact List.nodup_nil
  | cons first pairs ih =>
      rcases first with ⟨number, t⟩
      rw [List.map_cons, List.nodup_cons]
      constructor
      · intro again
        rcases List.mem_map.mp again with ⟨⟨_, other⟩, later, rfl⟩
        have same := owner _ t other List.mem_cons_self (List.mem_cons_of_mem _ later)
        subst same
        have part := parts t
        rw [List.filter_cons_of_pos (by simp), List.map_cons, List.nodup_cons] at part
        apply part.1
        exact List.mem_map.mpr ⟨_, List.mem_filter.mpr ⟨later, by simp⟩, rfl⟩
      · apply ih
        · intro other first second isFirst isSecond
          exact owner other first second (List.mem_cons_of_mem _ isFirst)
            (List.mem_cons_of_mem _ isSecond)
        · intro who
          have part := parts who
          have sublist : (pairs.filter fun pair => pair.2 = who).Sublist
              (((number, t) :: pairs).filter fun pair => pair.2 = who) :=
            (List.sublist_cons_self _ _).filter _
          exact (sublist.map Prod.fst).nodup part

namespace Progress

variable {call : Call} {phase : Phase} {ended torn : List Nat}

/-- `disconnect()` is called in the order of the erasures. -/
theorem torn_prefix (progress : Progress call phase ended torn) : torn <+: ended := by
  cases progress with
  | closing _ _ _ number => exact List.prefix_append _ _
  | _ => first | exact List.prefix_refl _ | exact List.nil_prefix

theorem answered_eq {id : Uuid} {found : Bool}
    (progress : Progress (.removeSession id) (.returned (.flag found)) ended torn) :
    ended.length = found.toNat ∧ torn = ended := by
  cases progress with
  | answered _ _ _ counted => exact ⟨counted, rfl⟩

/-- What is to be closed has not been. -/
theorem untorn {number : Nat} {ref : Ref} {ids : List Uuid}
    (progress : Progress call (.closing number ref ids) ended torn) (once : ended.Nodup) :
    number ∉ torn := by
  cases progress with
  | erased => exact List.not_mem_nil
  | closing =>
      intro member
      exact (List.nodup_append.mp once).2.2 number member number (List.mem_singleton_self _) rfl

/-- What a task does about an insertion that it has ended. -/
theorem fate (progress : Progress call phase ended torn) {number : Nat} (member : number ∈ ended) :
    (∃ session type payload count, call = .leave session type payload ∧
        phase = .returned (.count count) ∧ ended.length = count.toNat ∧ torn = []) ∨
      call.Removes ∧ (number ∈ torn ∨ ∃ ref ids, phase = .closing number ref ids) := by
  cases progress with
  | left session type payload count _ counted =>
      exact Or.inl ⟨session, type, payload, count, rfl, rfl, counted, rfl⟩
  | erased id _ ref =>
      rw [List.mem_singleton.mp member]
      exact Or.inr ⟨trivial, Or.inr ⟨ref, [], rfl⟩⟩
  | removed | answered => exact Or.inr ⟨trivial, Or.inl member⟩
  | draining _ bulk | drained _ bulk => exact Or.inr ⟨bulk.removes, Or.inl member⟩
  | closing _ bulk ids last ref =>
      refine Or.inr ⟨bulk.removes, ?_⟩
      rcases List.mem_append.mp member with before | isLast
      · exact Or.inl before
      · rw [List.mem_singleton.mp isLast]
        exact Or.inr ⟨ref, ids, rfl⟩
  | _ => exact absurd member List.not_mem_nil

end Progress

namespace Sound

variable (sound : Sound pool)

include sound

/-- `disconnect()` is called for insertions that the same task has ended. -/
theorem ended_of_torn {number t : Nat} (torn : (number, t) ∈ pool.torn) :
    (number, t) ∈ pool.ledger.ended := by
  have member := (mem_tornBy_iff number t).mpr torn
  cases running : pool.tasks t with
  | none =>
      rw [(sound.idle t running).2] at member
      exact absurd member List.not_mem_nil
  | some task =>
      have prefix_ := (sound.tasks t task running).progress.torn_prefix
      exact (mem_endedBy_iff number t).mp (prefix_.subset member)

theorem exists_task {number t : Nat} (ended : (number, t) ∈ pool.ledger.ended) :
    ∃ task, pool.tasks t = some task := by
  cases running : pool.tasks t with
  | none =>
      have member := (mem_endedBy_iff number t).mpr ended
      rw [(sound.idle t running).1] at member
      exact absurd member List.not_mem_nil
  | some task => exact ⟨task, rfl⟩

theorem ended_owner {number t other : Nat} (first : (number, t) ∈ pool.ledger.ended)
    (second : (number, other) ∈ pool.ledger.ended) : t = other := by
  have single := filter_fst_eq_singleton sound.kept.tracks.once first
  have member : (number, other) ∈ pool.ledger.ended.filter fun pair => pair.1 = number :=
    List.mem_filter.mpr ⟨second, by simp⟩
  rw [single] at member
  exact (congrArg Prod.snd (List.mem_singleton.mp member)).symm

theorem endedBy_nodup (t : Nat) : (pool.endedBy t).Nodup :=
  (List.filter_sublist.map Prod.fst).nodup sound.kept.tracks.once

theorem tornBy_nodup (t : Nat) : (pool.tornBy t).Nodup := by
  cases running : pool.tasks t with
  | none =>
      rw [(sound.idle t running).2]
      exact List.nodup_nil
  | some task =>
      have prefix_ := (sound.tasks t task running).progress.torn_prefix
      exact prefix_.sublist.nodup (sound.endedBy_nodup t)

theorem torn_once : (pool.torn.map Prod.fst).Nodup := by
  apply nodup_fst
  · intro number t other first second
    exact sound.ended_owner (sound.ended_of_torn first) (sound.ended_of_torn second)
  · exact sound.tornBy_nodup

/-- A task that has an insertion to close has not closed it. -/
theorem untorn_of_closing {t number : Nat} {task : Task} {ref : Ref} {ids : List Uuid}
    (running : pool.tasks t = some task) (closing : task.phase = .closing number ref ids) :
    number ∉ pool.tornBy t := by
  have progress := (sound.tasks t task running).progress
  rw [closing] at progress
  exact progress.untorn (sound.endedBy_nodup t)

theorem fate {number : Nat} {ref : Ref} (inserted : pool.ledger.inserted[number]? = some ref) :
    Fate pool number ref := by
  have below := (List.getElem?_eq_some_iff.mp inserted).1
  by_cases registered : pool.Registered number
  · have unended := ((sound.kept.tracks.open_iff number).mp registered).2
    apply Fate.registered registered
    · exact fun t ended => unended ⟨t, ended⟩
    · exact fun t torn => unended ⟨t, sound.ended_of_torn torn⟩
  · rcases (sound.kept.tracks.covered number below).resolve_right registered with ⟨t, ended⟩
    rcases sound.exists_task ended with ⟨task, running⟩
    have taskSound := sound.tasks t task running
    have member := (mem_endedBy_iff number t).mpr ended
    have once : pool.EndedBy number t :=
      ⟨registered, filter_fst_eq_singleton sound.kept.tracks.once ended⟩
    rcases taskSound.named number member with ⟨other, isOther, _, named⟩
    rw [inserted] at isOther
    cases isOther
    -- Only the task that ended the insertion can have torn it down.
    have untorn : number ∉ pool.tornBy t → ∀ who, (number, who) ∉ pool.torn := by
      intro notTorn who torn
      have same := sound.ended_owner ended (sound.ended_of_torn torn)
      subst same
      exact notTorn ((mem_tornBy_iff number t).mpr torn)
    rcases taskSound.progress.fate member with
      ⟨session, type, payload, count, leave, returned, counted, nothing⟩ |
      ⟨removes, torn | ⟨found, ids, closing⟩⟩
    · exact .left t task running session type payload leave named once count returned counted
        (untorn (by rw [nothing]; exact List.not_mem_nil))
    · exact .removed t task running removes named once
        (filter_fst_eq_singleton sound.torn_once ((mem_tornBy_iff number t).mp torn))
    · have filed := taskSound.closing number found ids closing
      rw [inserted] at filed
      cases filed
      exact .closing t task running removes named once ids closing
        (untorn (sound.untorn_of_closing running closing))

end Sound

/-- For every interleaving of the critical sections, each insertion is ended by
one removal or one leave at most, and torn down once by the removal. -/
theorem registrations_torn_down_once (reachable : (machine env).Reachable pool) :
    TornDownOnce pool := by
  have sound := sound_of_reachable reachable
  constructor
  · exact fun number ref inserted => sound.fate inserted
  · have ids : (pool.node.sessions.refs.map fun ref => (pool.node.memory ref).id) =
        pool.node.sessions.map fun entry => entry.key.id := by
      rw [Registry.refs, List.map_map]
      apply List.map_congr_left
      exact fun entry member => (sound.kept.filed entry member).symm
    rw [ids]
    exact sound.kept.tracks.distinct
  · exact sound.logged
  · intro t task id found running call returned
    have progress := (sound.tasks t task running).progress
    rw [call, returned] at progress
    exact progress.answered_eq
  · intro number
    unfold numbers Registered
    rw [List.mem_map]
    constructor
    · rintro ⟨entry, member, rfl⟩
      have registered := (List.mem_filter.mp member).1
      exact ⟨entry, registered, rfl, sound.kept.tracks.filed entry registered⟩
    · rintro ⟨entry, registered, rfl, _⟩
      exact ⟨entry, List.mem_filter.mpr ⟨registered, rfl⟩, rfl⟩
  · intro t task answer running call returned number member registered
    have unended := ((sound.kept.tracks.open_iff number).mp registered).2
    rcases (sound.tasks t task running).snapshot number member with ended | ⟨ref, _, _, isDue⟩
    · exact unended ended
    · rw [returned] at isDue
      exact absurd isDue List.not_mem_nil

/-! ## A race -/

/-- A `remove_session` and a `disconnect_all` race for one session, which is
registered again before the `disconnect_all` returns. -/
def race : List Event :=
  [.create (tcpSession (Uuid.filled 5) .external), .call 0 (.addSession 0), .proceed 0,
    .call 1 (.removeSession (Uuid.filled 5)), .call 2 .disconnectAll, .proceed 1, .proceed 2,
    .proceed 1, .proceed 2, .call 3 (.addSession 0), .proceed 1, .proceed 3, .proceed 1,
    .proceed 2]

/-- The pool after some events, if each was possible. -/
def run (events : List Event) : Option Pool :=
  events.foldlM (Machine.carry (fun pool event => event.Enabled pool) (perform stillEnvironment))
    (initial (Uuid.filled 1) 0)

theorem registrations_torn_down_once_race :
    ∃ pool ∈ run race,
      pool.ledger.inserted = [0, 0] ∧ pool.ledger.ended = [(0, 1)] ∧ pool.torn = [(0, 1)] ∧
        TornDownOnce pool := by
  have ran : ∃ pool ∈ run race,
      pool.ledger.inserted = [0, 0] ∧ pool.ledger.ended = [(0, 1)] ∧
        pool.torn = [(0, 1)] := by
    decide +kernel
  rcases ran with ⟨pool, ran, inserted, ended, torn⟩
  have reachable : (machine stillEnvironment).Reachable pool :=
    .foldlM (fun _ _ _ => Machine.carry_eq_some_iff.mp) (.start ⟨Uuid.filled 1, 0, rfl⟩) ran
  exact ⟨pool, ran, inserted, ended, torn, registrations_torn_down_once reachable⟩

end Aurum.Node.Pool
