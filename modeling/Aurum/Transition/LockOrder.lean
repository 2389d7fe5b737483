import Aurum.Transition.Machine
import Aurum.Transition.Program
import Aurum.Transition.Termination
import Mathlib.Data.Fintype.Basic
import Mathlib.Order.WellFounded

/-!
# Threads that take locks in order

Threads run programs on one object, one step at a time in any interleaving.  A
lock is granted alone when nobody holds it and shared when nobody holds it
alone; an implementation may refuse to share it while somebody waits to hold it
alone.

When all programs are disciplined, no thread accesses what a lock protects
while another one changes it, some thread can always go on, and the threads
come to an end in every interleaving.
-/

namespace Aurum.Transition

universe u v w

/-- Threads in the middle of their programs. -/
structure Threads (ι : Type u) (κ : Type v) (σ : Type w) where
  object : σ
  program : ι → Program κ σ Unit
  held : ι → List (κ × Mode)

namespace Threads

variable {ι : Type u} {κ : Type v} {σ : Type w}

/-- Some thread waits to hold a lock alone. -/
def WriterWaits (threads : Threads ι κ σ) (lock : κ) : Prop :=
  ∃ thread rest, threads.program thread = .acquire lock .exclusive rest

/-- Whether a lock can be taken; `refuses` tells when it is not shared although
it could be. -/
def Grants (refuses : Threads ι κ σ → κ → Prop) (threads : Threads ι κ σ) (lock : κ) :
    Mode → Prop
  | .exclusive => ∀ thread mode, (lock, mode) ∉ threads.held thread
  | .shared => (∀ thread, (lock, Mode.exclusive) ∉ threads.held thread) ∧ ¬refuses threads lock

variable [DecidableEq ι] [DecidableEq κ]

/-- One step of one thread. -/
inductive Step (refuses : Threads ι κ σ → κ → Prop) (threads : Threads ι κ σ) :
    ι → Threads ι κ σ → Prop
  | acquire (thread : ι) (lock : κ) (mode : Mode) (rest : Program κ σ Unit)
      (next : threads.program thread = .acquire lock mode rest)
      (granted : Grants refuses threads lock mode) :
      Step refuses threads thread
        { threads with
          program := Function.update threads.program thread rest
          held := Function.update threads.held thread ((lock, mode) :: threads.held thread) }
  | release (thread : ι) (lock : κ) (mode : Mode) (rest : Program κ σ Unit)
      (next : threads.program thread = .release lock mode rest) :
      Step refuses threads thread
        { threads with
          program := Function.update threads.program thread rest
          held := Function.update threads.held thread
            ((threads.held thread).erase (lock, mode)) }
  | act (thread : ι) (change : σ → σ) (rest : σ → Program κ σ Unit)
      (next : threads.program thread = .act change rest) :
      Step refuses threads thread
        { threads with
          object := change threads.object
          program := Function.update threads.program thread (rest threads.object) }

/-- Threads that start their programs without a lock. -/
def machine (refuses : Threads ι κ σ → κ → Prop) (programs : ι → Program κ σ Unit) (object : σ) :
    Machine (Threads ι κ σ) ι where
  start threads := threads = ⟨object, programs, fun _ => []⟩
  step := Step refuses

/-- All threads have come to an end and hold nothing. -/
def Finished (threads : Threads ι κ σ) : Prop :=
  ∀ thread, threads.program thread = .done () ∧ threads.held thread = []

/-! ## Who holds what -/

variable {ρ : Type*} [Preorder ρ] {rank : κ → ρ} {guards : Program.Guards κ σ}

/-- Every thread goes by the rules, and nobody holds what another one holds
alone. -/
structure Orderly (rank : κ → ρ) (guards : Program.Guards κ σ) (threads : Threads ι κ σ) :
    Prop where
  disciplined : ∀ thread,
    Program.Disciplined rank guards [] (threads.held thread) (threads.program thread)
  alone : ∀ thread other lock mode, (lock, Mode.exclusive) ∈ threads.held thread →
    (lock, mode) ∈ threads.held other → other = thread

variable {refuses : Threads ι κ σ → κ → Prop} {programs : ι → Program κ σ Unit} {object : σ}
  {threads next : Threads ι κ σ} {thread : ι}

omit [DecidableEq κ] in
/-- Whoever holds a lock already held it or has just taken it. -/
theorem held_of_update {held : ι → List (κ × Mode)} {thread other : ι}
    {locks : List (κ × Mode)} {entry : κ × Mode}
    (holds : entry ∈ Function.update held thread locks other) :
    (other = thread ∧ entry ∈ locks) ∨ (other ≠ thread ∧ entry ∈ held other) := by
  by_cases same : other = thread
  · subst same
    rw [Function.update_self] at holds
    exact Or.inl ⟨rfl, holds⟩
  · rw [Function.update_of_ne same] at holds
    exact Or.inr ⟨same, holds⟩

/-- A thread that goes on by the rules leaves the others where they are. -/
theorem Orderly.disciplined_update (orderly : Orderly rank guards threads) (thread : ι)
    {locks : List (κ × Mode)} {rest : Program κ σ Unit}
    (behind : Program.Disciplined rank guards [] locks rest)
    (other : ι) :
    Program.Disciplined rank guards [] (Function.update threads.held thread locks other)
      (Function.update threads.program thread rest other) := by
  by_cases same : other = thread
  · subst same
    rw [Function.update_self, Function.update_self]
    exact behind
  · rw [Function.update_of_ne same, Function.update_of_ne same]
    exact orderly.disciplined other

theorem Orderly.step (orderly : Orderly rank guards threads)
    (taken : Step refuses threads thread next) : Orderly rank guards next := by
  have known := orderly.disciplined thread
  cases taken with
  | acquire lock mode rest program granted =>
      rw [program] at known
      refine ⟨orderly.disciplined_update thread known.of_acquire.2, ?_⟩
      intro first second other otherMode alone holds
      rcases held_of_update alone with ⟨rfl, mine⟩ | ⟨_, older⟩
      · rcases held_of_update holds with ⟨same, _⟩ | ⟨_, others⟩
        · exact same
        · rcases List.mem_cons.mp mine with new | old
          · cases new
            exact absurd others (granted second otherMode)
          · exact orderly.alone first second other otherMode old others
      · rcases held_of_update holds with ⟨rfl, mine⟩ | ⟨_, others⟩
        · rcases List.mem_cons.mp mine with new | old
          · cases new
            cases mode with
            | shared => exact absurd older (granted.1 first)
            | exclusive => exact absurd older (granted first .exclusive)
          · exact orderly.alone first second other otherMode older old
        · exact orderly.alone first second other otherMode older others
  | release lock mode rest program =>
      rw [program] at known
      refine ⟨orderly.disciplined_update thread known.of_release.2, ?_⟩
      have fewer : ∀ other entry, entry ∈ Function.update threads.held thread
          ((threads.held thread).erase (lock, mode)) other → entry ∈ threads.held other := by
        intro other entry member
        rcases held_of_update member with ⟨rfl, kept⟩ | ⟨_, kept⟩
        · exact List.mem_of_mem_erase kept
        · exact kept
      intro first second other otherMode alone holds
      exact orderly.alone first second other otherMode (fewer _ _ alone) (fewer _ _ holds)
  | act change rest program =>
      rw [program] at known
      have goesOn := orderly.disciplined_update thread (known.of_act.2.2 threads.object)
      simp only [Function.update_eq_self] at goesOn
      exact ⟨goesOn, orderly.alone⟩

theorem orderly_of_reachable
    (disciplined : ∀ thread, Program.Disciplined rank guards [] [] (programs thread))
    (reachable : (machine refuses programs object).Reachable threads) :
    Orderly rank guards threads := by
  apply reachable.invariant
  · rintro start rfl
    refine ⟨disciplined, ?_⟩
    intro first second lock mode alone
    cases alone
  · intro before thread after _ orderly taken
    exact orderly.step taken

/-! ## No races -/

/-- When one thread is about to change what a lock protects, no other thread is
about to look at it or to change it. -/
theorem blind_of_changes
    (disciplined : ∀ thread, Program.Disciplined rank guards [] [] (programs thread))
    (reachable : (machine refuses programs object).Reachable threads) {writer other : ι}
    (differs : other ≠ writer) {change others : σ → σ} {rest behind : σ → Program κ σ Unit}
    (writes : threads.program writer = .act change rest)
    (acts : threads.program other = .act others behind) {lock : κ}
    (changes : ¬Program.Keeps guards lock change) :
    Program.Blind guards lock others behind := by
  have orderly := orderly_of_reachable disciplined reachable
  have alone : (lock, Mode.exclusive) ∈ threads.held writer := by
    have known := orderly.disciplined writer
    rw [writes] at known
    by_contra unheld
    exact changes (known.of_act.1 lock unheld)
  have known := orderly.disciplined other
  rw [acts] at known
  apply known.of_act.2.1 lock
  intro mode holds
  exact differs (orderly.alone writer other lock mode alone holds)

/-- What a lock protects stays as it is while a thread holds the lock, whatever
other threads do. -/
theorem same_of_held (unchanged : ∀ lock object, guards.same lock object object)
    (disciplined : ∀ thread, Program.Disciplined rank guards [] [] (programs thread))
    (reachable : (machine refuses programs object).Reachable threads) {holder other : ι}
    {lock : κ} {mode : Mode} (holds : (lock, mode) ∈ threads.held holder)
    (differs : other ≠ holder) (taken : Step refuses threads other next) :
    guards.same lock threads.object next.object := by
  have orderly := orderly_of_reachable disciplined reachable
  cases taken with
  | acquire lock mode rest program granted => exact unchanged _ _
  | release lock mode rest program => exact unchanged _ _
  | act change rest program =>
      have known := orderly.disciplined other
      rw [program] at known
      apply known.of_act.1 lock
      intro alone
      exact differs (orderly.alone other holder lock mode alone holds).symm

/-! ## No deadlock -/

/-- When nobody can go on, somebody holds a lock that is waited for. -/
theorem exists_holder_of_waits
    (policy : ∀ lock, refuses threads lock → threads.WriterWaits lock) {lock : κ} {mode : Mode}
    {rest : Program κ σ Unit}
    (waits : threads.program thread = .acquire lock mode rest)
    (stuck : ¬∃ other next, Step refuses threads other next) :
    ∃ holder held, (lock, held) ∈ threads.held holder := by
  by_contra free
  have unheld : ∀ other mode, (lock, mode) ∉ threads.held other := by
    intro other mode holds
    exact free ⟨other, mode, holds⟩
  cases mode with
  | exclusive => exact stuck ⟨_, _, .acquire thread lock .exclusive rest waits unheld⟩
  | shared =>
      by_cases refused : refuses threads lock
      · rcases policy lock refused with ⟨writer, behind, alone⟩
        exact stuck ⟨_, _, .acquire writer lock .exclusive behind alone unheld⟩
      · exact stuck ⟨_, _, .acquire thread lock .shared rest waits
          ⟨fun other => unheld other .exclusive, refused⟩⟩

/-- When nobody can go on, a thread that is not at its end waits for a lock. -/
theorem exists_waits (unfinished : threads.program thread ≠ .done ())
    (stuck : ¬∃ other next, Step refuses threads other next) :
    ∃ lock mode rest, threads.program thread = .acquire lock mode rest := by
  cases program : threads.program thread with
  | done result => exact absurd program unfinished
  | acquire lock mode rest => exact ⟨lock, mode, rest, rfl⟩
  | release lock mode rest => exact absurd ⟨_, _, .release thread lock mode rest program⟩ stuck
  | act change rest => exact absurd ⟨_, _, .act thread change rest program⟩ stuck

section Progress

variable (orderly : Orderly rank guards threads)
  (policy : ∀ lock, refuses threads lock → threads.WriterWaits lock)

include orderly policy

/-- Nobody holds a lock for ever: its holder waits, if at all, for a lock of
higher rank. -/
theorem not_held_of_stuck [WellFoundedGT ρ]
    (stuck : ¬∃ other next, Step refuses threads other next) (lock : κ) :
    ¬∃ holder mode, (lock, mode) ∈ threads.held holder := by
  have ranks : WellFounded fun first second : κ => rank second < rank first :=
    InvImage.wf rank wellFounded_gt
  induction lock using ranks.induction with
  | _ lock ih =>
      rintro ⟨holder, mode, holds⟩
      have known := orderly.disciplined holder
      have unfinished : threads.program holder ≠ .done () := by
        intro finished
        rw [finished] at known
        rw [known.of_done] at holds
        cases holds
      rcases exists_waits unfinished stuck with ⟨wanted, how, rest, waits⟩
      rw [waits] at known
      have higher := known.of_acquire.1 _ holds
      exact ih wanted higher (exists_holder_of_waits policy waits stuck)

/-- Unless all threads have come to an end, one of them can go on. -/
theorem exists_step [WellFoundedGT ρ] (unfinished : ¬threads.Finished) :
    ∃ thread next, Step refuses threads thread next := by
  by_contra stuck
  apply unfinished
  intro thread
  have known := orderly.disciplined thread
  have finished : threads.program thread = .done () := by
    by_contra going
    rcases exists_waits going stuck with ⟨lock, mode, rest, waits⟩
    exact not_held_of_stuck orderly policy stuck lock
      (exists_holder_of_waits policy waits stuck)
  rw [finished] at known
  exact ⟨finished, known.of_done⟩

end Progress

/-! ## No run without an end -/

/-- A step of one thread leaves what it goes on with. -/
theorem Step.behind (taken : Step refuses threads thread next) :
    ∃ rest, next.program = Function.update threads.program thread rest ∧
      Program.Behind rest (threads.program thread) := by
  cases taken with
  | acquire lock mode rest program granted =>
      rw [program]
      exact ⟨rest, rfl, .acquire lock mode rest⟩
  | release lock mode rest program =>
      rw [program]
      exact ⟨rest, rfl, .release lock mode rest⟩
  | act change rest program =>
      rw [program]
      exact ⟨_, rfl, .act change rest threads.object⟩

/-- The programs left to the threads. -/
def left [Fintype ι] (threads : Threads ι κ σ) : Multiset (Program κ σ Unit) :=
  Finset.univ.val.map threads.program

theorem cutExpand_left [Fintype ι] (taken : Step refuses threads thread next) :
    Relation.CutExpand Program.Behind next.left threads.left := by
  rcases taken.behind with ⟨rest, nextEq, behind⟩
  refine ⟨{rest}, threads.program thread, ?_, ?_⟩
  · intro other member
    rw [Multiset.mem_singleton.mp member]
    exact behind
  · have others : (Finset.univ : Finset ι).val = thread ::ₘ (Finset.univ.erase thread).val := by
      rw [Finset.erase_val, Multiset.cons_erase (Finset.mem_univ thread)]
    have same : ((Finset.univ.erase thread).val.map next.program) =
        (Finset.univ.erase thread).val.map threads.program := by
      apply Multiset.map_congr rfl
      intro other member
      rw [nextEq, Function.update_of_ne (Finset.ne_of_mem_erase member)]
    have mine : next.program thread = rest := by
      rw [nextEq, Function.update_self]
    rw [left, left, others, Multiset.map_cons, Multiset.map_cons, same, mine, Multiset.add_comm,
      Multiset.singleton_add, Multiset.add_comm, Multiset.singleton_add, Multiset.cons_swap]

/-- However the threads are scheduled, they all come to an end, and hold no lock
then. -/
theorem finishes [Fintype ι] [WellFoundedGT ρ]
    (disciplined : ∀ thread, Program.Disciplined rank guards [] [] (programs thread))
    (policy : ∀ threads lock, refuses threads lock → threads.WriterWaits lock)
    {run : ℕ → Threads ι κ σ} (starts : run 0 = ⟨object, programs, fun _ => []⟩)
    (goes : ∀ k, (∃ next thread, Step refuses (run k) thread next) →
      ∃ thread, Step refuses (run k) thread (run (k + 1))) :
    ∃ k, (run k).Finished := by
  let reached : Threads ι κ σ → Prop := (machine refuses programs object).Reachable
  have terminates : WellFounded (flip fun threads next =>
      reached threads ∧ ∃ thread, Step refuses threads thread next) := by
    apply Subrelation.wf _ (InvImage.wf left Program.wellFounded_behind.cutExpand)
    rintro next threads ⟨_, thread, taken⟩
    exact cutExpand_left taken
  have kept : ∀ threads next, reached threads → (∃ thread, Step refuses threads thread next) →
      reached next := by
    rintro threads next before ⟨thread, taken⟩
    exact .step before taken
  rcases exists_rest_keeping terminates kept (.start starts) goes with ⟨k, reachable, rests⟩
  refine ⟨k, ?_⟩
  by_contra unfinished
  rcases exists_step (orderly_of_reachable disciplined reachable) (policy (run k)) unfinished with
    ⟨thread, next, taken⟩
  exact rests ⟨next, thread, taken⟩

end Threads

end Aurum.Transition
