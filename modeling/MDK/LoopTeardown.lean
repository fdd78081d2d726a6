import MDK.ServerLifetime
import MDK.WhileLoop

/-!
# The end of the event loop

`~CTemplateSocket` calls `uv_loop_close` as long as it does not return
`UV_EBUSY`, and then frees the loop.  A loop with nothing left is closed over
and over; a loop with something left is freed at once.
-/

namespace MDK

open WhileLoop

/-- libuv as far as the destructor uses it.  `uv_loop_close` also yields the
loop that it leaves. -/
structure LoopLibrary (Loop : Type) where
  uvEbusy : ℤ
  uvLoopClose : Loop → ℤ × Loop
  Busy : Loop → Prop

variable {Loop : Type}

/-- What is documented: a loop with a handle or a request is refused, any other
one is closed, and a closed loop has none again. -/
structure LoopLibrary.Documented (libuv : LoopLibrary Loop) : Prop where
  error : libuv.uvEbusy ≠ 0
  busy : ∀ loop, libuv.Busy loop →
    (libuv.uvLoopClose loop).1 = libuv.uvEbusy
  closes : ∀ loop, ¬ libuv.Busy loop →
    (libuv.uvLoopClose loop).1 = 0 ∧ ¬ libuv.Busy (libuv.uvLoopClose loop).2

/-- The results of `uv_loop_close` so far, and whether the memory of the loop is
freed. -/
structure Teardown (Loop : Type) where
  loop : Loop
  results : List ℤ
  freed : Bool

namespace Teardown

def new (loop : Loop) : Teardown Loop := ⟨loop, [], false⟩

/-- One more call of `uv_loop_close`. -/
def uvLoopClose (libuv : LoopLibrary Loop) (teardown : Teardown Loop) :
    Teardown Loop :=
  let closed := libuv.uvLoopClose teardown.loop
  { teardown with
    loop := closed.2
    results := teardown.results ++ [closed.1] }

/-- `while (uv_loop_close(real_loop) != UV_EBUSY);` -/
def closeLoop (libuv : LoopLibrary Loop) (teardown : Teardown Loop) :
    Except Empty (Iteration (Teardown Loop)) :=
  let next := teardown.uvLoopClose libuv
  if (libuv.uvLoopClose teardown.loop).1 ≠ libuv.uvEbusy then
    .ok (.continues next)
  else .ok (.ends next)

def free (teardown : Teardown Loop) : Teardown Loop :=
  { teardown with freed := true }

end Teardown

/-- The destructor from the loop on. -/
def destroyLoop (libuv : LoopLibrary Loop) (loop : Loop) (fuel : ℕ) :
    Option (Except Empty (Teardown Loop)) :=
  (run (Teardown.closeLoop libuv) fuel (.new loop)).map fun outcome =>
    outcome.map Teardown.free

def DestructorTerminates (libuv : LoopLibrary Loop) (loop : Loop) : Prop :=
  ∃ outcome, Returns (destroyLoop libuv loop) outcome

/-- No call of `uv_loop_close` follows one that has closed the loop. -/
def ClosesLoopOnce (libuv : LoopLibrary Loop) (loop : Loop) : Prop :=
  ∀ reached, Passes (Teardown.closeLoop libuv) (.new loop) reached →
    reached.results.Pairwise fun earlier _ => earlier ≠ 0

def FreesClosedLoop (libuv : LoopLibrary Loop) (loop : Loop) : Prop :=
  ∀ final, Returns (destroyLoop libuv loop) (.ok final) →
    final.freed = true → 0 ∈ final.results

structure TearsDown (libuv : LoopLibrary Loop) (loop : Loop) : Prop where
  terminates : DestructorTerminates libuv loop
  closesOnce : ClosesLoopOnce libuv loop
  freesClosed : FreesClosedLoop libuv loop

/-! ## The loop of a server -/

/-- An open loop has a number of handles and of requests. -/
inductive EventLoop where
  | opened (handles requests : ℕ)
  | closed
  deriving DecidableEq, Repr

namespace EventLoop

def isBusy : EventLoop → Bool
  | .opened handles requests => 0 < handles || 0 < requests
  | .closed => false

def uvLoopClose (loop : EventLoop) : ℤ × EventLoop :=
  if loop.isBusy then (-16, loop) else (0, .closed)

def libuv : LoopLibrary EventLoop where
  uvEbusy := -16
  uvLoopClose := uvLoopClose
  Busy loop := loop.isBusy = true

theorem libuv_documented : libuv.Documented where
  error := by decide
  busy loop hbusy := by
    have hclosed : uvLoopClose loop = (-16, loop) := if_pos hbusy
    exact congrArg Prod.fst hclosed
  closes loop hidle := by
    have hclosed : uvLoopClose loop = (0, .closed) := if_neg hidle
    change (uvLoopClose loop).1 = 0 ∧ ¬ (uvLoopClose loop).2.isBusy = true
    rw [hclosed]
    exact ⟨rfl, Bool.false_ne_true⟩

end EventLoop

/-- The loop of the object while so many requests are pending.  It still lists
a handle whose memory the destructor has freed. -/
def ServerLife.eventLoop (life : ServerLife) (requests : ℕ) : EventLoop :=
  .opened (life.world.handles.objects.countP (·.status.isRegistered)) requests

theorem ServerLife.eventLoop_busy_iff (life : ServerLife) (requests : ℕ) :
    EventLoop.libuv.Busy (life.eventLoop requests) ↔
      (∃ name, life.isRegistered name = true) ∨ 0 < requests := by
  change EventLoop.isBusy (.opened _ requests) = true ↔ _
  rw [EventLoop.isBusy, Bool.or_eq_true, decide_eq_true_iff,
    decide_eq_true_iff, List.countP_pos_iff]
  refine or_congr_left ?_
  constructor
  · rintro ⟨handle, hmem, hregistered⟩
    obtain ⟨name, hname⟩ := List.mem_iff_getElem?.mp hmem
    have hget : life.world.handles.get? name = some handle := hname
    refine ⟨name, ?_⟩
    rw [ServerLife.isRegistered, hget]
    exact hregistered
  · rintro ⟨name, hname⟩
    obtain ⟨handle, hget, hregistered⟩ := (Option.any_eq_true _ _).mp hname
    exact ⟨handle, List.mem_of_getElem? hget, hregistered⟩

/-! ## What one call does -/

section

variable {libuv : LoopLibrary Loop} (hlibuv : libuv.Documented)
include hlibuv

theorem closeLoop_of_busy
    {teardown : Teardown Loop} (hbusy : libuv.Busy teardown.loop) :
    teardown.closeLoop libuv = .ok (.ends (teardown.uvLoopClose libuv)) := by
  rw [Teardown.closeLoop, if_neg (not_not.mpr (hlibuv.busy _ hbusy))]

theorem closeLoop_of_not_busy
    {teardown : Teardown Loop} (hidle : ¬ libuv.Busy teardown.loop) :
    teardown.closeLoop libuv =
      .ok (.continues (teardown.uvLoopClose libuv)) := by
  have hne : (libuv.uvLoopClose teardown.loop).1 ≠ libuv.uvEbusy := by
    rw [(hlibuv.closes _ hidle).1]
    exact hlibuv.error.symm
  rw [Teardown.closeLoop, if_pos hne]

theorem uvLoopClose_results_of_busy
    {teardown : Teardown Loop} (hbusy : libuv.Busy teardown.loop) :
    (teardown.uvLoopClose libuv).results =
      teardown.results ++ [libuv.uvEbusy] := by
  rw [Teardown.uvLoopClose, hlibuv.busy _ hbusy]

theorem uvLoopClose_results_of_not_busy
    {teardown : Teardown Loop} (hidle : ¬ libuv.Busy teardown.loop) :
    (teardown.uvLoopClose libuv).results = teardown.results ++ [0] := by
  rw [Teardown.uvLoopClose, (hlibuv.closes _ hidle).1]

/-! ## A busy loop is freed at once -/

theorem destroyLoop_returns_of_busy
    {loop : Loop} (hbusy : libuv.Busy loop) :
    Returns (destroyLoop libuv loop)
      (.ok (Teardown.uvLoopClose libuv (.new loop)).free) := by
  have hends : Teardown.closeLoop libuv (.new loop) = .ok (.ends _) :=
    closeLoop_of_busy hlibuv hbusy
  exact (returns_of_ends hends).map rfl

theorem closesLoopOnce_of_busy
    {loop : Loop} (hbusy : libuv.Busy loop) : ClosesLoopOnce libuv loop := by
  have hends : Teardown.closeLoop libuv (.new loop) = .ok (.ends _) :=
    closeLoop_of_busy hlibuv hbusy
  intro reached hpasses
  cases hpasses with
  | start => exact List.Pairwise.nil
  | continues hcontinues _ =>
      have hsame := hends.symm.trans hcontinues
      simp at hsame
  | ends hfinal =>
      cases hends.symm.trans hfinal
      rw [uvLoopClose_results_of_busy hlibuv hbusy]
      exact List.pairwise_singleton _ _

theorem not_freesClosedLoop_of_busy
    {loop : Loop} (hbusy : libuv.Busy loop) :
    ¬ FreesClosedLoop libuv loop := by
  intro hfrees
  have hzero := hfrees _ (destroyLoop_returns_of_busy hlibuv hbusy) rfl
  change 0 ∈ (Teardown.uvLoopClose libuv (.new loop)).results at hzero
  rw [uvLoopClose_results_of_busy hlibuv hbusy] at hzero
  exact hlibuv.error (List.mem_singleton.mp hzero).symm

/-! ## An idle loop is closed for ever -/

theorem destroyLoop_diverges_of_not_busy
    {loop : Loop} (hidle : ¬ libuv.Busy loop) :
    Diverges (destroyLoop libuv loop) := by
  have hiterate : ∀ teardown : Teardown Loop, ¬ libuv.Busy teardown.loop →
      ∃ next, teardown.closeLoop libuv = .ok (.continues next) ∧
        ¬ libuv.Busy next.loop := by
    intro teardown hteardown
    exact ⟨_, closeLoop_of_not_busy hlibuv hteardown,
      (hlibuv.closes _ hteardown).2⟩
  have hnew : ¬ libuv.Busy (Teardown.new loop).loop := hidle
  intro fuel
  exact congrArg (Option.map (Except.map Teardown.free))
    (diverges_of_continues hiterate hnew fuel)

theorem not_closesLoopOnce_of_not_busy
    {loop : Loop} (hidle : ¬ libuv.Busy loop) : ¬ ClosesLoopOnce libuv loop := by
  intro hcloses
  have hagain := (hlibuv.closes loop hidle).2
  have hfirst : Teardown.closeLoop libuv (.new loop) = .ok (.continues _) :=
    closeLoop_of_not_busy hlibuv hidle
  have hsecond :
      Teardown.closeLoop libuv (Teardown.uvLoopClose libuv (.new loop)) =
        .ok (.continues _) :=
    closeLoop_of_not_busy hlibuv hagain
  have hresults := hcloses _ (.continues hfirst (.continues hsecond (.start _)))
  rw [uvLoopClose_results_of_not_busy hlibuv hagain,
    uvLoopClose_results_of_not_busy hlibuv hidle] at hresults
  have htwice : List.Pairwise (fun earlier _ => earlier ≠ 0) [(0 : ℤ), 0] :=
    hresults
  exact List.rel_of_pairwise_cons htwice (List.mem_singleton.mpr rfl) rfl

/-! ## No loop is torn down -/

theorem destructorTerminates_iff (loop : Loop) :
    DestructorTerminates libuv loop ↔ libuv.Busy loop := by
  constructor
  · rintro ⟨outcome, hreturns⟩
    by_contra hidle
    exact hreturns.not_diverges (destroyLoop_diverges_of_not_busy hlibuv hidle)
  · intro hbusy
    exact ⟨_, destroyLoop_returns_of_busy hlibuv hbusy⟩

theorem closesLoopOnce_iff (loop : Loop) :
    ClosesLoopOnce libuv loop ↔ libuv.Busy loop := by
  constructor
  · intro hcloses
    by_contra hidle
    exact not_closesLoopOnce_of_not_busy hlibuv hidle hcloses
  · exact closesLoopOnce_of_busy hlibuv

theorem freesClosedLoop_iff (loop : Loop) :
    FreesClosedLoop libuv loop ↔ ¬ libuv.Busy loop := by
  constructor
  · intro hfrees hbusy
    exact not_freesClosedLoop_of_busy hlibuv hbusy hfrees
  · intro hidle final hreturns
    have hdiverges := destroyLoop_diverges_of_not_busy hlibuv hidle
    exact absurd hdiverges hreturns.not_diverges

end

/-- The destructor only returns while the loop still lists a handle, or has a
request. -/
theorem ServerLife.destructorTerminates_iff
    (life : ServerLife) (requests : ℕ) :
    DestructorTerminates EventLoop.libuv (life.eventLoop requests) ↔
      (∃ name, life.isRegistered name = true) ∨ 0 < requests := by
  rw [MDK.destructorTerminates_iff EventLoop.libuv_documented,
    ServerLife.eventLoop_busy_iff]

/-- The condition of the loop is the wrong way round: it ends on a busy loop
only, which must not be freed. -/
theorem destructor_never_tears_down
    {libuv : LoopLibrary Loop} (hlibuv : libuv.Documented) (loop : Loop) :
    (DestructorTerminates libuv loop ↔ libuv.Busy loop) ∧
      (ClosesLoopOnce libuv loop ↔ libuv.Busy loop) ∧
      (FreesClosedLoop libuv loop ↔ ¬ libuv.Busy loop) ∧
      ¬ TearsDown libuv loop := by
  refine ⟨destructorTerminates_iff hlibuv loop, closesLoopOnce_iff hlibuv loop,
    freesClosedLoop_iff hlibuv loop, ?_⟩
  intro htears
  have hbusy := (destructorTerminates_iff hlibuv loop).mp htears.terminates
  exact (freesClosedLoop_iff hlibuv loop).mp htears.freesClosed hbusy

theorem destructor_never_tears_down_opened :
    ¬ TearsDown EventLoop.libuv (.opened 1 0) :=
  (destructor_never_tears_down EventLoop.libuv_documented (.opened 1 0)).2.2.2

/-- The destructor of a fresh object. -/
theorem fresh_loop_not_torn_down :
    ¬ TearsDown EventLoop.libuv (ServerLife.new.eventLoop 0) := by
  intro htears
  have hbusy := (ServerLife.destructorTerminates_iff .new 0).mp htears.terminates
  obtain ⟨name, hregistered⟩ | hrequests := hbusy
  · simp [ServerLife.isRegistered, ServerLife.new, World.construct,
      World.empty] at hregistered
  · exact Nat.lt_irrefl 0 hrequests

end MDK
