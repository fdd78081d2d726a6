import MDK.ResourceLog
import Mathlib.Tactic.Simps.Basic

/-!
# One slot for many threads

An owner creates threads, keeps one of them in a slot, and joins and frees what
the slot holds.  The block of a thread is allocated before the thread is
created, and freed at once where that fails.  A thread whose place in the slot
is taken by another is never joined.
-/

open ResourceLog

/-- A block, of a thread or of an attempt to create one. -/
inductive ThreadBlock where
  | worker (thread : ℕ)
  | failed (attempt : ℕ)
  deriving DecidableEq, Repr

inductive ThreadCall where
  | malloc (block : ThreadBlock)
  | create (thread : ℕ)
  | join (thread : ℕ)
  | free (block : ThreadBlock)
  deriving DecidableEq, Repr

def ThreadCall.joins : ThreadCall → Option ℕ
  | .join thread => some thread
  | _ => none

def ThreadCall.frees : ThreadCall → Option ThreadBlock
  | .free block => some block
  | _ => none

/-- `storing` is a thread that was created and is about to be stored;
`releasing` says that the stored thread has been joined. -/
structure ThreadSlot where
  stored : Option ℕ
  storing : Option ℕ
  releasing : Bool
  created : ℕ
  attempts : ℕ
  calls : List ThreadCall

/-- Each thread that was created is joined once, and each block that was
allocated is freed once; nothing else is. -/
structure EachJoinedOnce (calls : List ThreadCall) : Prop where
  joined : ∀ thread, releaseCount ThreadCall.joins calls thread =
    if .create thread ∈ calls then 1 else 0
  freed : ∀ block, releaseCount ThreadCall.frees calls block =
    if .malloc block ∈ calls then 1 else 0

namespace ThreadSlot

def empty : ThreadSlot := ⟨none, none, false, 0, 0, []⟩

def joinCount (slot : ThreadSlot) (thread : ℕ) : ℕ :=
  releaseCount ThreadCall.joins slot.calls thread

def freeCount (slot : ThreadSlot) (block : ThreadBlock) : ℕ :=
  releaseCount ThreadCall.frees slot.calls block

@[simps] def attempt (slot : ThreadSlot) : ThreadSlot :=
  { slot with
    attempts := slot.attempts + 1
    calls := slot.calls ++
      [.malloc (.failed slot.attempts), .free (.failed slot.attempts)] }

@[simps] def create (slot : ThreadSlot) : ThreadSlot :=
  { slot with
    storing := some slot.created
    created := slot.created + 1
    calls := slot.calls ++ [.malloc (.worker slot.created), .create slot.created] }

@[simps] def store (slot : ThreadSlot) (thread : ℕ) : ThreadSlot :=
  { slot with stored := some thread, storing := none }

@[simps] def join (slot : ThreadSlot) (thread : ℕ) : ThreadSlot :=
  { slot with releasing := true, calls := slot.calls ++ [.join thread] }

@[simps] def release (slot : ThreadSlot) (thread : ℕ) : ThreadSlot :=
  { slot with
    stored := none
    releasing := false
    calls := slot.calls ++ [.free (.worker thread)] }

/-- The steps that create no thread. -/
inductive Step (slot : ThreadSlot) : ThreadSlot → Prop where
  | keep : Step slot slot
  | attempt : Step slot slot.attempt
  | store {thread : ℕ} (hstoring : slot.storing = some thread) :
      Step slot (slot.store thread)
  | join {thread : ℕ} (hstored : slot.stored = some thread)
      (hstoring : slot.storing = none) (hreleasing : slot.releasing = false) :
      Step slot (slot.join thread)
  | release {thread : ℕ} (hstored : slot.stored = some thread)
      (hstoring : slot.storing = none) (hreleasing : slot.releasing = true) :
      Step slot (slot.release thread)

def IsAllocated (slot : ThreadSlot) : ThreadBlock → Prop
  | .worker thread => thread < slot.created
  | .failed attempt => attempt < slot.attempts

/-! ## Counts after a step -/

@[simp] theorem joinCount_attempt (slot : ThreadSlot) (thread : ℕ) :
    slot.attempt.joinCount thread = slot.joinCount thread := by
  simp [joinCount, releaseCount, ThreadCall.joins]

@[simp] theorem joinCount_create (slot : ThreadSlot) (thread : ℕ) :
    slot.create.joinCount thread = slot.joinCount thread := by
  simp [joinCount, releaseCount, ThreadCall.joins]

@[simp] theorem joinCount_store (slot : ThreadSlot) (stored thread : ℕ) :
    (slot.store stored).joinCount thread = slot.joinCount thread := rfl

@[simp] theorem joinCount_join (slot : ThreadSlot) (joined thread : ℕ) :
    (slot.join joined).joinCount thread =
      slot.joinCount thread + if joined = thread then 1 else 0 := by
  simp [joinCount, releaseCount_append, releaseCount_singleton,
    ThreadCall.joins]

@[simp] theorem joinCount_release (slot : ThreadSlot) (released thread : ℕ) :
    (slot.release released).joinCount thread = slot.joinCount thread := by
  simp [joinCount, releaseCount, ThreadCall.joins]

@[simp] theorem freeCount_attempt (slot : ThreadSlot) (block : ThreadBlock) :
    slot.attempt.freeCount block =
      slot.freeCount block + if .failed slot.attempts = block then 1 else 0 := by
  simp [freeCount, releaseCount, ThreadCall.frees, List.countP_append,
    List.countP_cons]

@[simp] theorem freeCount_create (slot : ThreadSlot) (block : ThreadBlock) :
    slot.create.freeCount block = slot.freeCount block := by
  simp [freeCount, releaseCount, ThreadCall.frees]

@[simp] theorem freeCount_store
    (slot : ThreadSlot) (stored : ℕ) (block : ThreadBlock) :
    (slot.store stored).freeCount block = slot.freeCount block := rfl

@[simp] theorem freeCount_join
    (slot : ThreadSlot) (joined : ℕ) (block : ThreadBlock) :
    (slot.join joined).freeCount block = slot.freeCount block := by
  simp [freeCount, releaseCount, ThreadCall.frees]

@[simp] theorem freeCount_release
    (slot : ThreadSlot) (released : ℕ) (block : ThreadBlock) :
    (slot.release released).freeCount block =
      slot.freeCount block + if .worker released = block then 1 else 0 := by
  simp [freeCount, releaseCount_append, releaseCount_singleton,
    ThreadCall.frees]

/-! ## The books -/

/-- What the log says of each thread and each block, whatever was lost. -/
structure Accounted (slot : ThreadSlot) : Prop where
  created : ∀ thread, .create thread ∈ slot.calls ↔ thread < slot.created
  allocated : ∀ block, .malloc block ∈ slot.calls ↔ slot.IsAllocated block
  failed : ∀ attempt, slot.freeCount (.failed attempt) =
    if attempt < slot.attempts then 1 else 0
  freed : ∀ thread, slot.freeCount (.worker thread) +
    (if slot.releasing = true ∧ slot.stored = some thread then 1 else 0) =
      slot.joinCount thread
  joined : ∀ thread, slot.joinCount thread ≤ 1
  unborn : ∀ thread, slot.created ≤ thread → slot.joinCount thread = 0
  stored : ∀ thread, slot.stored = some thread → thread < slot.created ∧
    slot.joinCount thread = if slot.releasing then 1 else 0
  storing : ∀ thread, slot.storing = some thread → thread < slot.created ∧
    slot.joinCount thread = 0 ∧ slot.stored ≠ some thread ∧
    slot.releasing = false

/-- Every thread has been joined or still can be. -/
structure NoneLost (slot : ThreadSlot) : Prop where
  held : ∀ thread < slot.created, slot.joinCount thread = 1 ∨
    slot.stored = some thread ∨ slot.storing = some thread
  room : ∀ thread, slot.storing = some thread → slot.stored = none

theorem empty_accounted : empty.Accounted where
  created thread := by simp [empty]
  allocated block := by
    cases block with
    | worker thread => simp [empty, IsAllocated]
    | failed attempt => simp [empty, IsAllocated]
  failed attempt := by simp [empty, freeCount]
  freed thread := by simp [empty, freeCount, joinCount]
  joined thread := by simp [empty, joinCount]
  unborn thread _ := by simp [empty, joinCount]
  stored thread hstored := by contradiction
  storing thread hstoring := by contradiction

theorem empty_noneLost : empty.NoneLost where
  held thread hlt := absurd hlt (Nat.not_lt_zero thread)
  room thread hstoring := by contradiction

theorem Accounted.attempt
    {slot : ThreadSlot} (hbooks : slot.Accounted) : slot.attempt.Accounted where
  created thread := by simpa using hbooks.created thread
  allocated block := by
    have hbefore := hbooks.allocated block
    cases block with
    | worker thread =>
        simpa [IsAllocated] using hbefore
    | failed number =>
        simp only [attempt_calls, List.mem_append, hbefore, IsAllocated]
        simp
        omega
  failed number := by
    have hbefore := hbooks.failed number
    rw [freeCount_attempt, hbefore, attempt_attempts]
    simp only [ThreadBlock.failed.injEq]
    split_ifs <;> omega
  freed thread := by simpa using hbooks.freed thread
  joined thread := by simpa using hbooks.joined thread
  unborn thread hthread := by simpa using hbooks.unborn thread hthread
  stored thread hstored := by simpa using hbooks.stored thread hstored
  storing thread hstoring := by simpa using hbooks.storing thread hstoring

theorem Accounted.create
    {slot : ThreadSlot} (hbooks : slot.Accounted)
    (hreleasing : slot.releasing = false) : slot.create.Accounted where
  created thread := by
    have hbefore := hbooks.created thread
    simp only [create_calls, List.mem_append, hbefore]
    simp
    omega
  allocated block := by
    have hbefore := hbooks.allocated block
    cases block with
    | worker thread =>
        simp only [create_calls, List.mem_append, hbefore, IsAllocated]
        simp
        omega
    | failed number =>
        simpa [IsAllocated] using hbefore
  failed number := by simpa using hbooks.failed number
  freed thread := by simpa using hbooks.freed thread
  joined thread := by simpa using hbooks.joined thread
  unborn thread hthread := by
    rw [joinCount_create]
    exact hbooks.unborn thread (Nat.le_of_succ_le hthread)
  stored thread hstored := by
    obtain ⟨hlt, hcount⟩ := hbooks.stored thread hstored
    rw [joinCount_create]
    exact ⟨Nat.lt_succ_of_lt hlt, hcount⟩
  storing thread hstoring := by
    cases hstoring
    rw [joinCount_create]
    refine ⟨Nat.lt_succ_self _, hbooks.unborn _ (Nat.le_refl _), ?_, hreleasing⟩
    intro hstored
    exact absurd (hbooks.stored _ hstored).1 (Nat.lt_irrefl _)

theorem Accounted.store
    {slot : ThreadSlot} (hbooks : slot.Accounted) {thread : ℕ}
    (hstoring : slot.storing = some thread) : (slot.store thread).Accounted := by
  obtain ⟨hlt, hcount, _, hreleasing⟩ := hbooks.storing thread hstoring
  have hfreed := hbooks.freed
  simp only [hreleasing, Bool.false_eq_true, false_and, if_false] at hfreed
  constructor
  · exact hbooks.created
  · exact hbooks.allocated
  · exact hbooks.failed
  · intro other
    simpa [hreleasing] using hfreed other
  · exact hbooks.joined
  · exact hbooks.unborn
  · intro other hother
    cases hother
    exact ⟨hlt, by simpa [hreleasing] using hcount⟩
  · intro other hother
    contradiction

theorem Accounted.join
    {slot : ThreadSlot} (hbooks : slot.Accounted) {thread : ℕ}
    (hstored : slot.stored = some thread) (hstoring : slot.storing = none)
    (hreleasing : slot.releasing = false) : (slot.join thread).Accounted := by
  obtain ⟨hlt, hcount⟩ := hbooks.stored thread hstored
  rw [hreleasing] at hcount
  have hfreed := hbooks.freed
  simp only [hreleasing, Bool.false_eq_true, false_and, if_false] at hfreed
  constructor
  · intro other
    simpa using hbooks.created other
  · intro block
    simpa [IsAllocated] using hbooks.allocated block
  · intro number
    simpa using hbooks.failed number
  · intro other
    rw [freeCount_join, joinCount_join, ← hfreed other]
    simp [hstored]
  · intro other
    rw [joinCount_join]
    have hother := hbooks.joined other
    split_ifs with heq
    · subst heq
      simp [hcount]
    · exact hother
  · intro other hother
    have hne : thread ≠ other := by
      have hborn : slot.created ≤ other := hother
      omega
    rw [joinCount_join, if_neg hne]
    exact hbooks.unborn other hother
  · intro other hother
    have heq : thread = other := by
      have hsame : slot.stored = some other := hother
      rw [hstored] at hsame
      exact Option.some.inj hsame
    subst heq
    exact ⟨hlt, by simp [hcount]⟩
  · intro other hother
    have hnone : slot.storing = some other := hother
    rw [hstoring] at hnone
    contradiction

theorem Accounted.release
    {slot : ThreadSlot} (hbooks : slot.Accounted) {thread : ℕ}
    (hstored : slot.stored = some thread) (hstoring : slot.storing = none)
    (hreleasing : slot.releasing = true) : (slot.release thread).Accounted := by
  constructor
  · intro other
    simpa using hbooks.created other
  · intro block
    simpa [IsAllocated] using hbooks.allocated block
  · intro number
    simpa using hbooks.failed number
  · intro other
    rw [freeCount_release, joinCount_release, ← hbooks.freed other, hstored,
      hreleasing]
    simp
  · intro other
    simpa using hbooks.joined other
  · intro other hother
    simpa using hbooks.unborn other hother
  · intro other hother
    contradiction
  · intro other hother
    have hnone : slot.storing = some other := hother
    rw [hstoring] at hnone
    contradiction

theorem Step.accounted
    {slot next : ThreadSlot} (hstep : slot.Step next)
    (hbooks : slot.Accounted) : next.Accounted := by
  cases hstep with
  | keep => exact hbooks
  | attempt => exact hbooks.attempt
  | store hstoring => exact hbooks.store hstoring
  | join hstored hstoring hreleasing =>
      exact hbooks.join hstored hstoring hreleasing
  | release hstored hstoring hreleasing =>
      exact hbooks.release hstored hstoring hreleasing

/-! ## What is lost -/

/-- Storing a thread over another one loses that other one. -/
theorem Accounted.noneLost_store_iff
    {slot : ThreadSlot} (hbooks : slot.Accounted) {thread : ℕ}
    (hstoring : slot.storing = some thread) :
    (slot.store thread).NoneLost ↔ slot.NoneLost := by
  obtain ⟨_, _, hne, hreleasing⟩ := hbooks.storing thread hstoring
  constructor
  · intro hnone
    have hempty : slot.stored = none := by
      cases hstored : slot.stored with
      | none => rfl
      | some old =>
          obtain ⟨hlt, hcount⟩ := hbooks.stored old hstored
          rw [hreleasing] at hcount
          have hheld := hnone.held old hlt
          rw [joinCount_store, hcount] at hheld
          have hold : thread = old := by
            simpa using hheld
          exact absurd (hold ▸ hstored) hne
    constructor
    · intro other hlt
      have hheld := hnone.held other hlt
      simpa [hstoring, hempty] using hheld
    · intro _ _
      exact hempty
  · intro hnone
    have hempty := hnone.room thread hstoring
    constructor
    · intro other hlt
      have hheld := hnone.held other hlt
      simpa [hstoring, hempty] using hheld
    · intro other hother
      contradiction

theorem noneLost_join_iff
    {slot : ThreadSlot} {thread : ℕ} (hstored : slot.stored = some thread) :
    (slot.join thread).NoneLost ↔ slot.NoneLost := by
  have hheld : ∀ other, ((slot.join thread).joinCount other = 1 ∨
      slot.stored = some other ∨ slot.storing = some other) ↔
      (slot.joinCount other = 1 ∨
        slot.stored = some other ∨ slot.storing = some other) := by
    intro other
    rw [joinCount_join, hstored]
    by_cases heq : thread = other
    · simp [heq]
    · simp [heq]
  constructor
  · intro hnone
    exact ⟨fun other hlt => (hheld other).mp (hnone.held other hlt), hnone.room⟩
  · intro hnone
    exact ⟨fun other hlt => (hheld other).mpr (hnone.held other hlt), hnone.room⟩

theorem Accounted.noneLost_release_iff
    {slot : ThreadSlot} (hbooks : slot.Accounted) {thread : ℕ}
    (hstored : slot.stored = some thread) (hstoring : slot.storing = none)
    (hreleasing : slot.releasing = true) :
    (slot.release thread).NoneLost ↔ slot.NoneLost := by
  obtain ⟨_, hcount⟩ := hbooks.stored thread hstored
  rw [hreleasing, if_pos rfl] at hcount
  have hheld : ∀ other, ((slot.release thread).joinCount other = 1 ∨
      (slot.release thread).stored = some other ∨
        (slot.release thread).storing = some other) ↔
      (slot.joinCount other = 1 ∨
        slot.stored = some other ∨ slot.storing = some other) := by
    intro other
    rw [joinCount_release, hstored, hstoring]
    by_cases heq : thread = other
    · subst heq
      simp [hcount]
    · simp [heq, hstoring]
  constructor
  · intro hnone
    refine ⟨fun other hlt => (hheld other).mp (hnone.held other hlt), ?_⟩
    simp [hstoring]
  · intro hnone
    refine ⟨fun other hlt => (hheld other).mpr (hnone.held other hlt), ?_⟩
    simp

/-- The steps that create no thread neither lose one nor find one again. -/
theorem Step.noneLost_iff
    {slot next : ThreadSlot} (hstep : slot.Step next)
    (hbooks : slot.Accounted) : next.NoneLost ↔ slot.NoneLost := by
  cases hstep with
  | keep => exact Iff.rfl
  | attempt =>
      constructor
      · intro hnone
        exact ⟨by simpa using hnone.held, hnone.room⟩
      · intro hnone
        exact ⟨by simpa using hnone.held, hnone.room⟩
  | store hstoring => exact hbooks.noneLost_store_iff hstoring
  | join hstored _ _ => exact noneLost_join_iff hstored
  | release hstored hstoring hreleasing =>
      exact hbooks.noneLost_release_iff hstored hstoring hreleasing

/-- A new thread needs an empty slot. -/
theorem noneLost_create_iff
    {slot : ThreadSlot} (hstoring : slot.storing = none) :
    slot.create.NoneLost ↔ slot.NoneLost ∧ slot.stored = none := by
  constructor
  · intro hnone
    have hempty : slot.stored = none := hnone.room slot.created rfl
    refine ⟨⟨?_, by simp [hstoring]⟩, hempty⟩
    intro thread hlt
    have hheld := hnone.held thread (Nat.lt_succ_of_lt hlt)
    have hne : slot.created ≠ thread := by omega
    simpa [hne, hstoring] using hheld
  · rintro ⟨hnone, hempty⟩
    refine ⟨?_, fun _ _ => hempty⟩
    intro thread hlt
    rw [joinCount_create]
    by_cases heq : slot.created = thread
    · exact Or.inr (Or.inr (congrArg some heq))
    · have hbefore : thread < slot.created := by
        have hle : thread < slot.created + 1 := hlt
        omega
      have hheld := hnone.held thread hbefore
      left
      simpa [hstoring, hempty] using hheld

/-- Once the slot is empty, each thread was joined once exactly if none was
lost. -/
theorem Accounted.eachJoinedOnce_iff_noneLost
    {slot : ThreadSlot} (hbooks : slot.Accounted) (hstored : slot.stored = none)
    (hstoring : slot.storing = none) :
    EachJoinedOnce slot.calls ↔ slot.NoneLost := by
  constructor
  · intro honce
    refine ⟨?_, by simp [hstoring]⟩
    intro thread hlt
    left
    have hcount := honce.joined thread
    rwa [if_pos ((hbooks.created thread).mpr hlt)] at hcount
  · intro hnone
    have hjoined : ∀ thread, slot.joinCount thread =
        if thread < slot.created then 1 else 0 := by
      intro thread
      split_ifs with hlt
      · simpa [hstored, hstoring] using hnone.held thread hlt
      · exact hbooks.unborn thread (Nat.le_of_not_lt hlt)
    constructor
    · intro thread
      simp only [hbooks.created thread]
      exact hjoined thread
    · intro block
      cases block with
      | worker thread =>
          have hallocated : .malloc (.worker thread) ∈ slot.calls ↔
              thread < slot.created := hbooks.allocated (.worker thread)
          have hfreed := hbooks.freed thread
          rw [hstored, hjoined] at hfreed
          have hcount : slot.freeCount (.worker thread) =
              if thread < slot.created then 1 else 0 := by simpa using hfreed
          simp only [hallocated]
          exact hcount
      | failed number =>
          have hallocated : .malloc (.failed number) ∈ slot.calls ↔
              number < slot.attempts := hbooks.allocated (.failed number)
          simp only [hallocated]
          exact hbooks.failed number

end ThreadSlot
