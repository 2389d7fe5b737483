import Aurum.Transition.Machine
import Mathlib.Data.List.Basic
import Mathlib.Data.Set.Insert
import Mathlib.Logic.Function.Basic

/-!
# Replicating a set over several channels

A source announces that an item is there and later that it is withdrawn, each
time on some of several channels.  A replica takes the announcements from the
channels and adds or removes items.  A channel keeps its order; nothing orders
two channels.

An item is announced at most once and withdrawn at most once, but on different
channels the withdrawal can overtake the announcement, and the replica then
holds the item for good.  When no withdrawal is delivered while the
announcement of its item waits on another channel, the replica ends up with
exactly the items announced and not withdrawn.
-/

namespace Aurum.Replication

open Aurum.Transition

/-- What travels on a channel. -/
inductive Op (ι : Type)
  | join (item : ι)
  | leave (item : ι)
  deriving DecidableEq

/-- The item an operation is about. -/
def Op.item {ι : Type} : Op ι → ι
  | .join item | .leave item => item

/-- How far the source is with an item. -/
inductive Stage
  | fresh
  | announced
  /-- To be withdrawn, with the withdrawal not yet sent. -/
  | withdrawing
  | withdrawn
  deriving DecidableEq

/-- Channels, the source's stages and the items the replica holds. -/
@[ext]
structure Replica (χ ι : Type) where
  queue : χ → List (Op ι)
  stage : ι → Stage
  held : Set ι

variable {χ ι : Type}

namespace Replica

section Queues

variable [DecidableEq χ]

/-- Send an operation on each of the given channels. -/
def push (channels : List χ) (op : Op ι) (queue : χ → List (Op ι)) : χ → List (Op ι) :=
  fun channel => queue channel ++ (channels.filter fun other => other = channel).map fun _ => op

theorem mem_push_iff {channels : List χ} {op other : Op ι} {queue : χ → List (Op ι)}
    {channel : χ} :
    other ∈ push channels op queue channel ↔
      other ∈ queue channel ∨ (channel ∈ channels ∧ other = op) := by
  simp only [push, List.mem_append, List.mem_map, List.mem_filter, decide_eq_true_eq]
  constructor
  · rintro (old | ⟨target, ⟨member, rfl⟩, rfl⟩)
    · exact Or.inl old
    · exact Or.inr ⟨member, rfl⟩
  · rintro (old | ⟨member, rfl⟩)
    · exact Or.inl old
    · exact Or.inr ⟨channel, ⟨member, rfl⟩, rfl⟩

/-- On one channel the withdrawal of an item comes after its announcement. -/
def Sorted (queue : List (Op ι)) : Prop :=
  queue.Pairwise fun first second => ∀ item, ¬(first = .leave item ∧ second = .join item)

theorem Sorted.push_join {channels : List χ} {item : ι} {queue : χ → List (Op ι)}
    {channel : χ} (sorted : Sorted (queue channel)) (absent : .leave item ∉ queue channel) :
    Sorted (push channels (.join item) queue channel) := by
  refine List.pairwise_append.mpr ⟨sorted, ?_, ?_⟩
  · rw [List.pairwise_map]
    exact List.Pairwise.imp (fun _ item clash => nomatch clash.1)
      (List.pairwise_of_forall fun _ _ => trivial)
  · intro first member second pushed other clash
    obtain ⟨target, _, rfl⟩ := List.mem_map.mp pushed
    rcases clash with ⟨rfl, same⟩
    cases same
    exact absent member

theorem Sorted.push_leave {channels : List χ} {item : ι} {queue : χ → List (Op ι)}
    {channel : χ} (sorted : Sorted (queue channel)) :
    Sorted (push channels (.leave item) queue channel) := by
  refine List.pairwise_append.mpr ⟨sorted, ?_, ?_⟩
  · rw [List.pairwise_map]
    exact List.Pairwise.imp (fun _ item clash => nomatch clash.2)
      (List.pairwise_of_forall fun _ _ => trivial)
  · intro first member second pushed other clash
    obtain ⟨target, _, rfl⟩ := List.mem_map.mp pushed
    cases clash.2

end Queues

/-- The items held once an operation has been carried out. -/
def apply (held : Set ι) : Op ι → Set ι
  | .join item => insert item held
  | .leave item => held \ {item}

variable [DecidableEq χ] [DecidableEq ι]

/-- The source's steps with an item and the deliveries. -/
inductive Event (χ ι : Type)
  | announce (item : ι) (channels : List χ)
  | retire (item : ι)
  | withdraw (item : ι) (channels : List χ)
  | deliver (channel : χ)

/-- One step.  An operation is sent on one channel at least. -/
inductive Step (replica : Replica χ ι) : Event χ ι → Replica χ ι → Prop
  | announce (item : ι) (channels : List χ) (some : channels ≠ [])
      (fresh : replica.stage item = .fresh) :
      Step replica (.announce item channels)
        { replica with
          queue := push channels (.join item) replica.queue
          stage := Function.update replica.stage item .announced }
  | retire (item : ι)
      (active : replica.stage item = .fresh ∨ replica.stage item = .announced) :
      Step replica (.retire item)
        { replica with stage := Function.update replica.stage item .withdrawing }
  | withdraw (item : ι) (channels : List χ) (some : channels ≠ [])
      (withdrawing : replica.stage item = .withdrawing) :
      Step replica (.withdraw item channels)
        { replica with
          queue := push channels (.leave item) replica.queue
          stage := Function.update replica.stage item .withdrawn }
  | deliver (channel : χ) (op : Op ι) (rest : List (Op ι))
      (next : replica.queue channel = op :: rest) :
      Step replica (.deliver channel)
        { replica with
          queue := Function.update replica.queue channel rest
          held := apply replica.held op }

/-- A source that starts with no item and a replica that holds none. -/
def machine : Machine (Replica χ ι) (Event χ ι) where
  start replica := (∀ channel, replica.queue channel = []) ∧
    (∀ item, replica.stage item = .fresh) ∧ replica.held = ∅
  step := Step

/-- No withdrawal is delivered while the announcement of its item waits on
another channel. -/
def InOrder (replica : Replica χ ι) : Event χ ι → Prop
  | .deliver channel => ∀ item rest, replica.queue channel = .leave item :: rest →
      ∀ other, other ≠ channel → .join item ∉ replica.queue other
  | _ => True

/-- An operation is on its way. -/
def Pending (replica : Replica χ ι) (op : Op ι) : Prop :=
  ∃ channel, op ∈ replica.queue channel

/-! ## What the replica holds -/

/-- What is on its way and what is held, by the stage of each item. -/
structure Tracked (replica : Replica χ ι) : Prop where
  sorted : ∀ channel, Sorted (replica.queue channel)
  fresh : ∀ item, replica.stage item = .fresh →
    ¬Pending replica (.join item) ∧ ¬Pending replica (.leave item) ∧ item ∉ replica.held
  announced : ∀ item, replica.stage item = .announced →
    ¬Pending replica (.leave item) ∧ (item ∈ replica.held ∨ Pending replica (.join item))
  withdrawn : ∀ item, replica.stage item = .withdrawn →
    Pending replica (.leave item) ∨ (item ∉ replica.held ∧ ¬Pending replica (.join item))

namespace Tracked

variable {replica : Replica χ ι}

/-- An item at another stage than the one just set is another item. -/
theorem stage_of_update {stages : ι → Stage} {item other : ι} {set stage : Stage}
    (differs : stage ≠ set) (isStage : Function.update stages item set other = stage) :
    other ≠ item ∧ stages other = stage := by
  by_cases same : other = item
  · subst same
    rw [Function.update_self] at isStage
    exact absurd isStage.symm differs
  · rw [Function.update_of_ne same] at isStage
    exact ⟨same, isStage⟩

omit [DecidableEq ι] in
theorem pending_push_iff {channels : List χ} (some : channels ≠ []) {op other : Op ι}
    {stage : ι → Stage} {held : Set ι} :
    Pending ⟨push channels op replica.queue, stage, held⟩ other ↔
      Pending replica other ∨ other = op := by
  constructor
  · rintro ⟨channel, member⟩
    rcases mem_push_iff.mp member with old | ⟨_, isNew⟩
    · exact Or.inl ⟨channel, old⟩
    · exact Or.inr isNew
  · rintro (⟨channel, old⟩ | isNew)
    · exact ⟨channel, mem_push_iff.mpr (Or.inl old)⟩
    · obtain ⟨channel, member⟩ := List.exists_mem_of_ne_nil channels some
      exact ⟨channel, mem_push_iff.mpr (Or.inr ⟨member, isNew⟩)⟩

theorem announce (tracked : Tracked replica) {item : ι} {channels : List χ}
    (some : channels ≠ []) (fresh : replica.stage item = .fresh) :
    Tracked { replica with
      queue := push channels (.join item) replica.queue
      stage := Function.update replica.stage item .announced } := by
  obtain ⟨noJoin, noLeave, notHeld⟩ := tracked.fresh item fresh
  constructor
  · intro channel
    exact (tracked.sorted channel).push_join fun member => noLeave ⟨channel, member⟩
  · intro other isFresh
    obtain ⟨differs, isFresh⟩ := stage_of_update (by decide) isFresh
    rw [pending_push_iff some, pending_push_iff some]
    obtain ⟨otherJoin, otherLeave, otherHeld⟩ := tracked.fresh other isFresh
    simp [otherJoin, otherLeave, otherHeld, differs]
  · intro other isAnnounced
    rw [pending_push_iff some, pending_push_iff some]
    by_cases same : other = item
    · subst same
      simp [noLeave]
    · have isAnnounced := (Function.update_of_ne same _ _).symm.trans isAnnounced
      obtain ⟨otherLeave, otherHeld⟩ := tracked.announced other isAnnounced
      refine ⟨by simp [otherLeave], ?_⟩
      exact otherHeld.imp_right Or.inl
  · intro other isWithdrawn
    obtain ⟨differs, isWithdrawn⟩ := stage_of_update (by decide) isWithdrawn
    rw [pending_push_iff some, pending_push_iff some]
    have before := tracked.withdrawn other isWithdrawn
    simpa [differs] using before

omit [DecidableEq χ] in
theorem retire (tracked : Tracked replica) (item : ι) :
    Tracked { replica with stage := Function.update replica.stage item .withdrawing } := by
  constructor
  · exact tracked.sorted
  · exact fun other isStage => tracked.fresh other (stage_of_update (by decide) isStage).2
  · exact fun other isStage => tracked.announced other (stage_of_update (by decide) isStage).2
  · exact fun other isStage => tracked.withdrawn other (stage_of_update (by decide) isStage).2

theorem withdraw (tracked : Tracked replica) {item : ι} {channels : List χ}
    (some : channels ≠ []) :
    Tracked { replica with
      queue := push channels (.leave item) replica.queue
      stage := Function.update replica.stage item .withdrawn } := by
  constructor
  · exact fun channel => (tracked.sorted channel).push_leave
  · intro other isStage
    obtain ⟨differs, isFresh⟩ := stage_of_update (by decide) isStage
    rw [pending_push_iff some, pending_push_iff some]
    have before := tracked.fresh other isFresh
    simpa [differs] using before
  · intro other isStage
    obtain ⟨differs, isAnnounced⟩ := stage_of_update (by decide) isStage
    rw [pending_push_iff some, pending_push_iff some]
    have before := tracked.announced other isAnnounced
    simpa [differs] using before
  · intro other isStage
    rw [pending_push_iff some, pending_push_iff some]
    by_cases same : other = item
    · exact Or.inl (Or.inr (by rw [same]))
    · have before := tracked.withdrawn other ((Function.update_of_ne same _ _).symm.trans isStage)
      simpa [same] using before

omit [DecidableEq ι] in
/-- Delivering takes one operation off the channels. -/
theorem pending_of_deliver {channel : χ} {op other : Op ι} {rest : List (Op ι)}
    {held : Set ι} (next : replica.queue channel = op :: rest)
    (pending : Pending ⟨Function.update replica.queue channel rest, replica.stage, held⟩ other) :
    Pending replica other := by
  rcases pending with ⟨source, member⟩
  by_cases same : source = channel
  · subst same
    simp only [Function.update_self] at member
    exact ⟨source, by rw [next]; exact List.mem_cons_of_mem op member⟩
  · simp only [Function.update_of_ne same] at member
    exact ⟨source, member⟩

omit [DecidableEq ι] in
theorem pending_or_delivered {channel : χ} {op other : Op ι} {rest : List (Op ι)}
    {held : Set ι} (next : replica.queue channel = op :: rest)
    (pending : Pending replica other) :
    other = op ∨
      Pending ⟨Function.update replica.queue channel rest, replica.stage, held⟩ other := by
  rcases pending with ⟨source, member⟩
  by_cases same : source = channel
  · subst same
    rw [next] at member
    rcases List.mem_cons.mp member with isOp | later
    · exact Or.inl isOp
    · exact Or.inr ⟨source, by simpa using later⟩
  · exact Or.inr ⟨source, by simpa [Function.update_of_ne same] using member⟩

theorem deliver (tracked : Tracked replica) {channel : χ} {op : Op ι} {rest : List (Op ι)}
    (next : replica.queue channel = op :: rest)
    (inOrder : InOrder replica (.deliver channel)) :
    Tracked { replica with
      queue := Function.update replica.queue channel rest
      held := apply replica.held op } := by
  have delivered : Pending replica op := ⟨channel, by rw [next]; exact List.mem_cons_self⟩
  have sortedHere := tracked.sorted channel
  rw [next, Sorted, List.pairwise_cons] at sortedHere
  constructor
  · intro source
    by_cases same : source = channel
    · subst same
      simpa only [Function.update_self, Sorted] using sortedHere.2
    · simpa only [Function.update_of_ne same] using tracked.sorted source
  · intro item isFresh
    obtain ⟨noJoin, noLeave, notHeld⟩ := tracked.fresh item isFresh
    refine ⟨fun pending => noJoin (pending_of_deliver next pending),
      fun pending => noLeave (pending_of_deliver next pending), ?_⟩
    cases op with
    | join other =>
        have differs : item ≠ other := by
          rintro rfl
          exact noJoin delivered
        simp [apply, differs, notHeld]
    | leave other => simp [apply, notHeld]
  · intro item isAnnounced
    obtain ⟨noLeave, reaches⟩ := tracked.announced item isAnnounced
    refine ⟨fun pending => noLeave (pending_of_deliver next pending), ?_⟩
    cases op with
    | join other =>
        rcases reaches with held | pending
        · exact Or.inl (Or.inr held)
        · rcases pending_or_delivered next pending with isOp | later
          · cases isOp
            exact Or.inl (Or.inl rfl)
          · exact Or.inr later
    | leave other =>
        have differs : item ≠ other := by
          rintro rfl
          exact noLeave delivered
        rcases reaches with held | pending
        · exact Or.inl ⟨held, differs⟩
        · rcases pending_or_delivered next pending with isOp | later
          · cases isOp
          · exact Or.inr later
  · intro item isWithdrawn
    cases op with
    | join other =>
        rcases tracked.withdrawn item isWithdrawn with pending | ⟨notHeld, noJoin⟩
        · rcases pending_or_delivered next pending with isOp | later
          · cases isOp
          · exact Or.inl later
        · have differs : item ≠ other := by
            rintro rfl
            exact noJoin delivered
          refine Or.inr ⟨by simp [apply, differs, notHeld], ?_⟩
          exact fun pending => noJoin (pending_of_deliver next pending)
    | leave other =>
        by_cases same : item = other
        · -- Behind the withdrawal the channel is sorted, and the others are clear.
          subst same
          refine Or.inr ⟨fun held => held.2 rfl, ?_⟩
          rintro ⟨source, member⟩
          by_cases here : source = channel
          · subst here
            simp only [Function.update_self] at member
            exact sortedHere.1 _ member item ⟨rfl, rfl⟩
          · simp only [Function.update_of_ne here] at member
            exact inOrder item rest next source here member
        · rcases tracked.withdrawn item isWithdrawn with pending | ⟨notHeld, noJoin⟩
          · rcases pending_or_delivered next pending with isOp | later
            · cases isOp
              exact absurd rfl same
            · exact Or.inl later
          · refine Or.inr ⟨fun held => notHeld held.1, ?_⟩
            exact fun pending => noJoin (pending_of_deliver next pending)

/-- Every step that delivers in order keeps track of the items. -/
theorem step {next : Replica χ ι} {event : Event χ ι} (tracked : Tracked replica)
    (inOrder : InOrder replica event) (taken : Step replica event next) : Tracked next := by
  cases taken with
  | announce item channels some fresh => exact tracked.announce some fresh
  | retire item active => exact tracked.retire item
  | withdraw item channels some withdrawing => exact tracked.withdraw some
  | deliver channel op rest next => exact tracked.deliver next inOrder

end Tracked

theorem tracked_of_reachable {replica : Replica χ ι}
    (reachable : (machine.under InOrder).Reachable replica) : Tracked replica := by
  refine reachable.invariant ?_ ?_
  · rintro start ⟨empty, allFresh, noneHeld⟩
    have nonePending : ∀ op, ¬Pending start op := by
      rintro op ⟨channel, member⟩
      rw [empty channel] at member
      cases member
    constructor
    · intro channel
      rw [empty channel]
      exact List.Pairwise.nil
    · intro item _
      exact ⟨nonePending _, nonePending _, by rw [noneHeld]; exact Set.notMem_empty item⟩
    · intro item isAnnounced
      rw [allFresh item] at isAnnounced
      cases isAnnounced
    · intro item isWithdrawn
      rw [allFresh item] at isWithdrawn
      cases isWithdrawn
  · rintro before event next _ tracked ⟨inOrder, taken⟩
    exact tracked.step inOrder taken

/-- Once nothing is on its way, a replica that was delivered to in order holds
exactly the items announced and not withdrawn. -/
theorem converged {replica : Replica χ ι}
    (reachable : (machine.under InOrder).Reachable replica)
    (empty : ∀ channel, replica.queue channel = [])
    (settled : ∀ item, replica.stage item ≠ .withdrawing) (item : ι) :
    item ∈ replica.held ↔ replica.stage item = .announced := by
  have tracked := tracked_of_reachable reachable
  have nonePending : ∀ op, ¬Pending replica op := by
    rintro op ⟨channel, member⟩
    rw [empty channel] at member
    cases member
  cases stage : replica.stage item with
  | fresh => simpa using (tracked.fresh item stage).2.2
  | announced =>
      have held := (tracked.announced item stage).2.resolve_right (nonePending _)
      simpa using held
  | withdrawing => exact absurd stage (settled item)
  | withdrawn =>
      have gone := (tracked.withdrawn item stage).resolve_left (nonePending _)
      simpa using gone.1

end Replica

end Aurum.Replication
