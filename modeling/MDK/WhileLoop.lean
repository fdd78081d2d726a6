import Mathlib.Data.Nat.Notation

/-!
# Loops that may fail or never end

A program that may run forever is given a number of iterations, its fuel, and
has no outcome when they do not suffice.  What it returns and whether it
diverges is then independent of the fuel.  A loop that counts up to a bound
ends there; an invariant under which no iteration is the last makes a loop
diverge.
-/

namespace WhileLoop

variable {State Fault Result Outcome : Type*}

/-! ## Returning and diverging -/

/-- From some fuel on, the outcome is this one. -/
def Returns (program : ℕ → Option Result) (result : Result) : Prop :=
  ∃ enough, ∀ fuel, enough ≤ fuel → program fuel = some result

def Diverges (program : ℕ → Option Result) : Prop :=
  ∀ fuel, program fuel = none

theorem Returns.unique
    {program : ℕ → Option Result} {first second : Result}
    (hfirst : Returns program first) (hsecond : Returns program second) :
    first = second := by
  obtain ⟨enough, hfirst⟩ := hfirst
  obtain ⟨other, hsecond⟩ := hsecond
  have hboth := (hfirst (max enough other) (Nat.le_max_left _ _)).symm.trans
    (hsecond (max enough other) (Nat.le_max_right _ _))
  exact Option.some.inj hboth

theorem Returns.not_diverges
    {program : ℕ → Option Result} {result : Result}
    (hreturns : Returns program result) : ¬ Diverges program := by
  intro hdiverges
  obtain ⟨enough, hreturns⟩ := hreturns
  have hsome := hreturns enough (Nat.le_refl _)
  rw [hdiverges enough] at hsome
  contradiction

/-- What a program does with the outcome of another one. -/
theorem Returns.map
    {program : ℕ → Option Result} {result : Result}
    (hreturns : Returns program result) {finish : Result → Outcome}
    {outcome : Outcome} (hfinish : finish result = outcome) :
    Returns (fun fuel => (program fuel).map finish) outcome := by
  obtain ⟨enough, hreturns⟩ := hreturns
  refine ⟨enough, ?_⟩
  intro fuel hfuel
  rw [← hfinish]
  exact congrArg (Option.map finish) (hreturns fuel hfuel)

/-! ## Loops -/

inductive Iteration (State : Type*) where
  | ends (state : State)
  | continues (state : State)

def run (iterate : State → Except Fault (Iteration State)) :
    ℕ → State → Option (Except Fault State)
  | 0, _ => none
  | fuel + 1, state =>
      match iterate state with
      | .error fault => some (.error fault)
      | .ok (.ends final) => some (.ok final)
      | .ok (.continues next) => run iterate fuel next

/-- One iteration of `for (; test; …)` or `while (test)`. -/
def guarded (test : State → Bool) (body : State → Except Fault State)
    (state : State) : Except Fault (Iteration State) :=
  if test state then
    match body state with
    | .error fault => .error fault
    | .ok next => .ok (.continues next)
  else .ok (.ends state)

variable {iterate : State → Except Fault (Iteration State)}

theorem run_succ_of_ends
    {state final : State} (hends : iterate state = .ok (.ends final))
    (fuel : ℕ) : run iterate (fuel + 1) state = some (.ok final) := by
  rw [run, hends]

theorem run_succ_of_continues
    {state next : State} (hcontinues : iterate state = .ok (.continues next))
    (fuel : ℕ) : run iterate (fuel + 1) state = run iterate fuel next := by
  rw [run, hcontinues]

theorem run_succ_of_error
    {state : State} {fault : Fault} (herror : iterate state = .error fault)
    (fuel : ℕ) : run iterate (fuel + 1) state = some (.error fault) := by
  rw [run, herror]

theorem returns_of_ends
    {state final : State} (hends : iterate state = .ok (.ends final)) :
    Returns (fun fuel => run iterate fuel state) (.ok final) := by
  refine ⟨1, ?_⟩
  intro fuel hfuel
  obtain ⟨less, rfl⟩ := Nat.exists_eq_add_of_le' hfuel
  exact run_succ_of_ends hends less

theorem returns_of_error
    {state : State} {fault : Fault} (herror : iterate state = .error fault) :
    Returns (fun fuel => run iterate fuel state) (.error fault) := by
  refine ⟨1, ?_⟩
  intro fuel hfuel
  obtain ⟨less, rfl⟩ := Nat.exists_eq_add_of_le' hfuel
  exact run_succ_of_error herror less

theorem Returns.of_continues
    {state next : State} {outcome : Except Fault State}
    (hreturns : Returns (fun fuel => run iterate fuel next) outcome)
    (hcontinues : iterate state = .ok (.continues next)) :
    Returns (fun fuel => run iterate fuel state) outcome := by
  obtain ⟨enough, hreturns⟩ := hreturns
  refine ⟨enough + 1, ?_⟩
  intro fuel hfuel
  obtain ⟨less, rfl⟩ := Nat.exists_eq_add_of_le' (Nat.le_of_add_left_le hfuel)
  have hrun : run iterate (less + 1) state = run iterate less next :=
    run_succ_of_continues hcontinues less
  exact hrun.trans (hreturns less (Nat.le_of_add_le_add_right hfuel))

theorem guarded_of_false
    {test : State → Bool} {state : State} (htest : test state = false)
    (body : State → Except Fault State) :
    guarded test body state = .ok (.ends state) := by
  rw [guarded, htest]
  rfl

theorem guarded_of_ok
    {test : State → Bool} {body : State → Except Fault State}
    {state next : State} (htest : test state = true)
    (hbody : body state = .ok next) :
    guarded test body state = .ok (.continues next) := by
  rw [guarded, if_pos htest, hbody]

theorem guarded_of_error
    {test : State → Bool} {body : State → Except Fault State}
    {state : State} {fault : Fault} (htest : test state = true)
    (hbody : body state = .error fault) :
    guarded test body state = .error fault := by
  rw [guarded, if_pos htest, hbody]

/-- A loop that counts passes the states `after` its counts, the last of which
fails the test. -/
theorem returns_counted
    {test : State → Bool} {body : State → Except Fault State}
    (after : ℕ → State) {bound : ℕ}
    (hbody : ∀ count, count < bound → test (after count) = true ∧
      body (after count) = .ok (after (count + 1)))
    (hend : test (after bound) = false) :
    Returns (fun fuel => run (guarded test body) fuel (after 0))
      (.ok (after bound)) := by
  have hleft : ∀ left count, count + left = bound →
      Returns (fun fuel => run (guarded test body) fuel (after count))
        (.ok (after bound)) := by
    intro left
    induction left with
    | zero =>
        intro count hcount
        have hlast : count = bound := hcount
        rw [hlast]
        exact returns_of_ends (guarded_of_false hend body)
    | succ left ih =>
        intro count hcount
        obtain ⟨htest, hnext⟩ := hbody count (by omega)
        exact (ih (count + 1) (by omega)).of_continues
          (guarded_of_ok htest hnext)
  exact hleft bound 0 (Nat.zero_add bound)

/-- No iteration from a state of the invariant is the last. -/
theorem diverges_of_continues
    {Inv : State → Prop}
    (hiterate : ∀ state, Inv state →
      ∃ next, iterate state = .ok (.continues next) ∧ Inv next)
    {state : State} (hinit : Inv state) :
    Diverges fun fuel => run iterate fuel state := by
  intro fuel
  induction fuel generalizing state with
  | zero => rfl
  | succ fuel ih =>
      obtain ⟨next, hcontinues, hnext⟩ := hiterate state hinit
      exact (run_succ_of_continues hcontinues fuel).trans (ih hnext)

/-! ## The states of a loop -/

/-- The states that a loop passes, with the one that it ends in. -/
inductive Passes (iterate : State → Except Fault (Iteration State)) :
    State → State → Prop where
  | start (state : State) : Passes iterate state state
  | continues {state next reached : State}
      (hcontinues : iterate state = .ok (.continues next))
      (hpasses : Passes iterate next reached) : Passes iterate state reached
  | ends {state final : State} (hends : iterate state = .ok (.ends final)) :
      Passes iterate state final

end WhileLoop
