import Mathlib.Data.List.Basic
import Mathlib.Order.Defs.PartialOrder

/-!
# Programs that take locks

A program acts on a shared object one step at a time, between taking locks and
giving them back; how it goes on may depend on the object as it was before a
step.  A lock may be shared by several threads or held by one alone.

`Disciplined` is what the programs of this development have in common: they
take locks in increasing rank, give back all they took, change what a lock
protects only while holding it alone, and look at it only while holding it.
-/

namespace Aurum.Transition

universe u v w x

/-- How a lock is held. -/
inductive Mode
  | shared
  | exclusive
  deriving DecidableEq

inductive Program (κ : Type u) (σ : Type v) (α : Type w)
  | done (result : α)
  | acquire (lock : κ) (mode : Mode) (rest : Program κ σ α)
  | release (lock : κ) (mode : Mode) (rest : Program κ σ α)
  /-- Change the object; the rest knows it as it was before. -/
  | act (change : σ → σ) (rest : σ → Program κ σ α)

namespace Program

variable {κ : Type u} {σ : Type v} {α : Type w} {β : Type x}

/-- Go on with the result of a program. -/
def bind : Program κ σ α → (α → Program κ σ β) → Program κ σ β
  | done result, next => next result
  | acquire lock mode rest, next => acquire lock mode (rest.bind next)
  | release lock mode rest, next => release lock mode (rest.bind next)
  | act change rest, next => act change fun object => (rest object).bind next

instance : Monad (Program.{u, v, w} κ σ) where
  pure := done
  bind := bind

/-- What a program does when nothing else runs. -/
def run : Program κ σ α → σ → α × σ
  | done result, object => (result, object)
  | acquire _ _ rest, object => rest.run object
  | release _ _ rest, object => rest.run object
  | act change rest, object => (rest object).run (change object)

/-- Change the object. -/
def change (change : σ → σ) : Program κ σ Unit :=
  act change fun _ => done ()

/-- Look at the object. -/
def read (look : σ → α) : Program κ σ α :=
  act id fun object => done (look object)

/-- Change the object and return something of it. -/
def modify (step : σ → α × σ) : Program κ σ α :=
  act (fun object => (step object).2) fun object => done (step object).1

/-- A scope that holds a lock. -/
def locked (lock : κ) (mode : Mode) (body : Program κ σ α) : Program κ σ α :=
  acquire lock mode (body.bind fun result => release lock mode (done result))

@[simp]
theorem run_bind (program : Program κ σ α) (next : α → Program κ σ β) (object : σ) :
    (program.bind next).run object = (next (program.run object).1).run (program.run object).2 := by
  induction program generalizing object with
  | done result => rfl
  | acquire lock mode rest ih => exact ih object
  | release lock mode rest ih => exact ih object
  | act change rest ih => exact ih object (change object)

@[simp]
theorem run_pure (result : α) (object : σ) :
    (pure result : Program κ σ α).run object = (result, object) :=
  rfl

@[simp]
theorem run_done (result : α) (object : σ) :
    (done result : Program κ σ α).run object = (result, object) :=
  rfl

@[simp]
theorem run_change (step : σ → σ) (object : σ) :
    (change step : Program κ σ Unit).run object = ((), step object) :=
  rfl

@[simp]
theorem run_read (look : σ → α) (object : σ) :
    (read look : Program κ σ α).run object = (look object, object) :=
  rfl

@[simp]
theorem run_modify (step : σ → α × σ) (object : σ) :
    (modify step : Program κ σ α).run object = step object :=
  rfl

@[simp]
theorem run_locked (lock : κ) (mode : Mode) (body : Program κ σ α) (object : σ) :
    (locked lock mode body).run object = body.run object := by
  rw [locked, run, run_bind, run]
  rfl

/-- One program is what another one goes on with. -/
inductive Behind : Program κ σ α → Program κ σ α → Prop
  | acquire (lock : κ) (mode : Mode) (rest : Program κ σ α) : Behind rest (acquire lock mode rest)
  | release (lock : κ) (mode : Mode) (rest : Program κ σ α) : Behind rest (release lock mode rest)
  | act (change : σ → σ) (rest : σ → Program κ σ α) (object : σ) :
      Behind (rest object) (act change rest)

/-- Every program comes to an end. -/
theorem wellFounded_behind : WellFounded (Behind : Program κ σ α → Program κ σ α → Prop) := by
  constructor
  intro program
  induction program with
  | done result =>
      constructor
      intro rest behind
      cases behind
  | acquire lock mode rest ih =>
      constructor
      intro other behind
      cases behind
      exact ih
  | release lock mode rest ih =>
      constructor
      intro other behind
      cases behind
      exact ih
  | act change rest ih =>
      constructor
      intro other behind
      cases behind with
      | act change rest object => exact ih object

/-! ## Discipline -/

/-- What locks protect. -/
structure Guards (κ : Type u) (σ : Type v) where
  /-- Two objects agree on what a lock protects. -/
  same : κ → σ → σ → Prop
  /-- Two objects agree on everything else. -/
  apart : κ → σ → σ → Prop

/-- A step does not look at what a lock protects. -/
def Blind (guards : Guards κ σ) (lock : κ) (change : σ → σ) (rest : σ → Program κ σ α) : Prop :=
  ∀ first second, guards.apart lock first second →
    rest first = rest second ∧ guards.apart lock (change first) (change second)

/-- A step does not change what a lock protects. -/
def Keeps (guards : Guards κ σ) (lock : κ) (change : σ → σ) : Prop :=
  ∀ object, guards.same lock object (change object)

variable {ρ : Type*} [Preorder ρ] [DecidableEq κ]

/-- The program goes by the rules when it starts with the locks `held`, and
ends with the locks `left`. -/
inductive Disciplined (rank : κ → ρ) (guards : Guards κ σ) (left : List (κ × Mode)) :
    List (κ × Mode) → Program κ σ α → Prop
  | done (result : α) : Disciplined rank guards left left (done result)
  | acquire {held : List (κ × Mode)} {lock : κ} {mode : Mode} {rest : Program κ σ α}
      (above : ∀ other ∈ held, rank other.1 < rank lock)
      (behind : Disciplined rank guards left ((lock, mode) :: held) rest) :
      Disciplined rank guards left held (acquire lock mode rest)
  | release {held : List (κ × Mode)} {lock : κ} {mode : Mode} {rest : Program κ σ α}
      (holds : (lock, mode) ∈ held)
      (behind : Disciplined rank guards left (held.erase (lock, mode)) rest) :
      Disciplined rank guards left held (release lock mode rest)
  | act {held : List (κ × Mode)} {change : σ → σ} {rest : σ → Program κ σ α}
      (keeps : ∀ lock, (lock, Mode.exclusive) ∉ held → Keeps guards lock change)
      (blind : ∀ lock, (∀ mode, (lock, mode) ∉ held) → Blind guards lock change rest)
      (behind : ∀ object, Disciplined rank guards left held (rest object)) :
      Disciplined rank guards left held (act change rest)

namespace Disciplined

variable {rank : κ → ρ} {guards : Guards κ σ} {held middle left : List (κ × Mode)}

theorem of_acquire {lock : κ} {mode : Mode} {rest : Program κ σ α}
    (disciplined : Disciplined rank guards left held (Program.acquire lock mode rest)) :
    (∀ other ∈ held, rank other.1 < rank lock) ∧
      Disciplined rank guards left ((lock, mode) :: held) rest := by
  cases disciplined with
  | acquire above behind => exact ⟨above, behind⟩

theorem of_release {lock : κ} {mode : Mode} {rest : Program κ σ α}
    (disciplined : Disciplined rank guards left held (Program.release lock mode rest)) :
    (lock, mode) ∈ held ∧ Disciplined rank guards left (held.erase (lock, mode)) rest := by
  cases disciplined with
  | release holds behind => exact ⟨holds, behind⟩

theorem of_act {change : σ → σ} {rest : σ → Program κ σ α}
    (disciplined : Disciplined rank guards left held (Program.act change rest)) :
    (∀ lock, (lock, Mode.exclusive) ∉ held → Keeps guards lock change) ∧
      (∀ lock, (∀ mode, (lock, mode) ∉ held) → Blind guards lock change rest) ∧
        ∀ object, Disciplined rank guards left held (rest object) := by
  cases disciplined with
  | act keeps blind behind => exact ⟨keeps, blind, behind⟩

theorem of_done {result : α}
    (disciplined : Disciplined rank guards left held (Program.done result)) :
    held = left := by
  cases disciplined with
  | done result => rfl

theorem bind {program : Program κ σ α} {next : α → Program κ σ β}
    (first : Disciplined rank guards middle held program)
    (second : ∀ result, Disciplined rank guards left middle (next result)) :
    Disciplined rank guards left held (program.bind next) := by
  induction first with
  | done result => exact second result
  | acquire above behind ih => exact .acquire above ih
  | release holds behind ih => exact .release holds ih
  | @act held change rest keeps blind behind ih =>
      refine .act keeps ?_ ih
      intro lock unheld first second apart
      rcases blind lock unheld first second apart with ⟨same, after⟩
      exact ⟨congrArg (fun program => Program.bind program next) same, after⟩

/-- A scope takes a lock above those held and gives it back. -/
theorem locked {lock : κ} {mode : Mode} {body : Program κ σ α}
    (above : ∀ other ∈ held, rank other.1 < rank lock)
    (inside : Disciplined rank guards ((lock, mode) :: held) ((lock, mode) :: held) body) :
    Disciplined rank guards held held (Program.locked lock mode body) := by
  refine .acquire above (inside.bind fun result => .release List.mem_cons_self ?_)
  rw [List.erase_cons_head]
  exact .done result

end Disciplined

end Program

end Aurum.Transition
