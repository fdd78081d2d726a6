import Mathlib.Data.List.Basic

/-!
# Runs of a fallible step function

A step function takes a state and an event and either yields the next state or
stops with a reason.  `run` executes a list of events and stops at the first
step that stops.  The rules below are the ones a development over such a system
needs: splitting a run, carrying an invariant along it, accumulating what every
step contributes to an observation, and deciding a state property along a whole
run from a condition on its single steps.
-/

namespace StepSystem

variable {State Event Stop : Type*}

def run (step : State → Event → Except Stop State) :
    State → List Event → Except Stop State
  | state, [] => .ok state
  | state, event :: rest =>
      match step state event with
      | .ok next => run step next rest
      | .error stop => .error stop

@[simp] theorem run_nil
    (step : State → Event → Except Stop State) (state : State) :
    run step state [] = .ok state := rfl

theorem run_cons
    (step : State → Event → Except Stop State) (state : State)
    (event : Event) (rest : List Event) :
    run step state (event :: rest) =
      match step state event with
      | .ok next => run step next rest
      | .error stop => .error stop := rfl

theorem run_cons_of_ok
    {step : State → Event → Except Stop State} {state next : State}
    {event : Event} (rest : List Event) (hstep : step state event = .ok next) :
    run step state (event :: rest) = run step next rest := by
  rw [run_cons, hstep]

theorem run_cons_eq_ok_iff
    {step : State → Event → Except Stop State} {state final : State}
    {event : Event} {rest : List Event} :
    run step state (event :: rest) = .ok final ↔
      ∃ next, step state event = .ok next ∧ run step next rest = .ok final := by
  rw [run_cons]
  cases hstep : step state event with
  | ok next => simp
  | error stop => simp

theorem run_append_eq_ok_iff
    {step : State → Event → Except Stop State} {state final : State}
    {first second : List Event} :
    run step state (first ++ second) = .ok final ↔
      ∃ middle, run step state first = .ok middle ∧
        run step middle second = .ok final := by
  induction first generalizing state with
  | nil => simp
  | cons event rest ih =>
      rw [List.cons_append, run_cons_eq_ok_iff]
      constructor
      · rintro ⟨next, hstep, hrun⟩
        obtain ⟨middle, hfirst, hsecond⟩ := ih.mp hrun
        exact ⟨middle, run_cons_eq_ok_iff.mpr ⟨next, hstep, hfirst⟩, hsecond⟩
      · rintro ⟨middle, hfirst, hsecond⟩
        obtain ⟨next, hstep, hrest⟩ := run_cons_eq_ok_iff.mp hfirst
        exact ⟨next, hstep, ih.mpr ⟨middle, hrest, hsecond⟩⟩

/-! ## Invariants -/

def Preserves (step : State → Event → Except Stop State)
    (allowed : Event → Prop) (Inv : State → Prop) : Prop :=
  ∀ state event next, Inv state → allowed event →
    step state event = .ok next → Inv next

theorem Preserves.run
    {step : State → Event → Except Stop State} {allowed : Event → Prop}
    {Inv : State → Prop} (hpres : Preserves step allowed Inv)
    {state final : State} {events : List Event} (hinit : Inv state)
    (hallowed : ∀ event ∈ events, allowed event)
    (hrun : StepSystem.run step state events = .ok final) : Inv final := by
  induction events generalizing state with
  | nil =>
      have heq : state = final := by simpa using hrun
      exact heq ▸ hinit
  | cons event rest ih =>
      rcases run_cons_eq_ok_iff.mp hrun with ⟨next, hstep, hrest⟩
      have hnext : Inv next :=
        hpres state event next hinit (hallowed event (by simp)) hstep
      exact ih hnext (fun other hmem => hallowed other (by simp [hmem])) hrest

theorem Preserves.run_ne_error
    {step : State → Event → Except Stop State} {allowed : Event → Prop}
    {Inv : State → Prop} (hpres : Preserves step allowed Inv) {stop : Stop}
    (hsafe : ∀ state event, Inv state → allowed event →
      step state event ≠ .error stop)
    {state : State} {events : List Event} (hinit : Inv state)
    (hallowed : ∀ event ∈ events, allowed event) :
    StepSystem.run step state events ≠ .error stop := by
  induction events generalizing state with
  | nil => simp
  | cons event rest ih =>
      have hevent : allowed event := hallowed event (by simp)
      rw [run_cons]
      cases hstep : step state event with
      | error reason =>
          have hne := hsafe state event hinit hevent
          rw [hstep] at hne
          exact hne
      | ok next =>
          exact ih (hpres state event next hinit hevent hstep)
            (fun other hmem => hallowed other (by simp [hmem]))

/-- An observation that every step extends by what its event contributes has
grown, at the end of a run, by the contributions of all events in order. -/
theorem Preserves.run_observation
    {Output : Type*}
    {step : State → Event → Except Stop State} {allowed : Event → Prop}
    {Inv : State → Prop} (hpres : Preserves step allowed Inv)
    (observe : State → List Output) (contribute : Event → List Output)
    (hobserve : ∀ state event next, Inv state → allowed event →
      step state event = .ok next →
      observe next = observe state ++ contribute event)
    {state final : State} {events : List Event} (hinit : Inv state)
    (hallowed : ∀ event ∈ events, allowed event)
    (hrun : StepSystem.run step state events = .ok final) :
    observe final = observe state ++ events.flatMap contribute := by
  induction events generalizing state with
  | nil =>
      have heq : state = final := by simpa using hrun
      simp [heq]
  | cons event rest ih =>
      rcases run_cons_eq_ok_iff.mp hrun with ⟨next, hstep, hrest⟩
      have hevent : allowed event := hallowed event (by simp)
      have hnext : Inv next := hpres state event next hinit hevent hstep
      calc
        observe final = observe next ++ rest.flatMap contribute :=
          ih hnext (fun other hmem => hallowed other (by simp [hmem])) hrest
        _ = observe state ++ (event :: rest).flatMap contribute := by
          rw [hobserve state event next hinit hevent hstep]
          simp

/-! ## Properties of all states of a run -/

/-- The property holds in every state that a prefix of the events reaches. -/
def HoldsThroughout (step : State → Event → Except Stop State)
    (Good : State → Prop) (state : State) (events : List Event) : Prop :=
  ∀ first, first <+: events → ∀ reached,
    run step state first = .ok reached → Good reached

def StepsMeet (step : State → Event → Except Stop State)
    (Meets : State → Event → Prop) (state : State) (events : List Event) : Prop :=
  ∀ first event, first ++ [event] <+: events → ∀ reached,
    run step state first = .ok reached → Meets reached event

theorem holdsThroughout_nil_iff
    {step : State → Event → Except Stop State} {Good : State → Prop}
    {state : State} : HoldsThroughout step Good state [] ↔ Good state := by
  simp [HoldsThroughout]

theorem holdsThroughout_cons_iff
    {step : State → Event → Except Stop State} {Good : State → Prop}
    {state next : State} {event : Event} {rest : List Event}
    (hstep : step state event = .ok next) :
    HoldsThroughout step Good state (event :: rest) ↔
      Good state ∧ HoldsThroughout step Good next rest := by
  constructor
  · intro hall
    refine ⟨hall [] (by simp) state rfl, ?_⟩
    intro first hfirst reached hreached
    exact hall (event :: first) (by simpa using hfirst) reached
      (by rw [run_cons_of_ok first hstep]; exact hreached)
  · rintro ⟨hgood, hall⟩ first hfirst reached hreached
    cases first with
    | nil =>
        have heq : state = reached := by simpa using hreached
        exact heq ▸ hgood
    | cons head tail =>
        obtain ⟨rfl, htail⟩ := List.cons_prefix_cons.mp hfirst
        rw [run_cons_of_ok tail hstep] at hreached
        exact hall tail htail reached hreached

theorem stepsMeet_nil
    (step : State → Event → Except Stop State) (Meets : State → Event → Prop)
    (state : State) : StepsMeet step Meets state [] := by
  intro first event hfirst
  simp at hfirst

/-- The first step meets the condition, and so do the later ones if it is taken. -/
theorem stepsMeet_cons_iff_forall
    {step : State → Event → Except Stop State} {Meets : State → Event → Prop}
    {state : State} {event : Event} {rest : List Event} :
    StepsMeet step Meets state (event :: rest) ↔
      Meets state event ∧ ∀ next, step state event = .ok next →
        StepsMeet step Meets next rest := by
  constructor
  · intro hall
    refine ⟨hall [] event (by simp) state rfl, ?_⟩
    intro next hstep first other hfirst reached hreached
    exact hall (event :: first) other (by simpa using hfirst) reached
      (by rw [run_cons_of_ok first hstep]; exact hreached)
  · rintro ⟨hmeets, hall⟩ first other hfirst reached hreached
    cases first with
    | nil =>
        have heq : state = reached := by simpa using hreached
        have hother : other = event := by simpa using hfirst
        rw [← heq, hother]
        exact hmeets
    | cons head tail =>
        rw [List.cons_append] at hfirst
        obtain ⟨rfl, htail⟩ := List.cons_prefix_cons.mp hfirst
        obtain ⟨next, hstep, hrest⟩ := run_cons_eq_ok_iff.mp hreached
        exact hall next hstep tail other htail reached hrest

theorem stepsMeet_cons_iff
    {step : State → Event → Except Stop State} {Meets : State → Event → Prop}
    {state next : State} {event : Event} {rest : List Event}
    (hstep : step state event = .ok next) :
    StepsMeet step Meets state (event :: rest) ↔
      Meets state event ∧ StepsMeet step Meets next rest := by
  rw [stepsMeet_cons_iff_forall, hstep]
  simp

theorem StepsMeet.iff_of_forall
    {step : State → Event → Except Stop State}
    {Assumed First Second : State → Event → Prop}
    {state : State} {events : List Event}
    (hassumed : StepsMeet step Assumed state events)
    (hiff : ∀ reached event, Assumed reached event →
      (First reached event ↔ Second reached event)) :
    StepsMeet step First state events ↔ StepsMeet step Second state events := by
  constructor
  · intro hfirst before event hbefore reached hreached
    have hevent := hassumed before event hbefore reached hreached
    exact (hiff reached event hevent).mp (hfirst before event hbefore reached hreached)
  · intro hsecond before event hbefore reached hreached
    have hevent := hassumed before event hbefore reached hreached
    exact (hiff reached event hevent).mpr
      (hsecond before event hbefore reached hreached)

/-- An invariant that the steps keep which meet a condition. -/
theorem StepsMeet.run
    {step : State → Event → Except Stop State} {Meets : State → Event → Prop}
    {Inv : State → Prop}
    (hpres : ∀ state event next, Inv state → Meets state event →
      step state event = .ok next → Inv next)
    {state final : State} {events : List Event}
    (hmeets : StepsMeet step Meets state events) (hinit : Inv state)
    (hrun : StepSystem.run step state events = .ok final) : Inv final := by
  induction events generalizing state with
  | nil =>
      have heq : state = final := by simpa using hrun
      exact heq ▸ hinit
  | cons event rest ih =>
      obtain ⟨next, hstep, hrest⟩ := run_cons_eq_ok_iff.mp hrun
      obtain ⟨hevent, htail⟩ := (stepsMeet_cons_iff hstep).mp hmeets
      exact ih htail (hpres state event next hinit hevent hstep) hrest

/-- Where one step keeps a property exactly when it meets a condition, a run
keeps the property throughout exactly when all its steps meet the condition. -/
theorem Preserves.holdsThroughout_iff_stepsMeet
    {step : State → Event → Except Stop State} {allowed : Event → Prop}
    {Inv Good : State → Prop} {Meets : State → Event → Prop}
    (hpres : Preserves step allowed Inv)
    (hexact : ∀ state event next, Inv state → Good state → allowed event →
      step state event = .ok next → (Good next ↔ Meets state event))
    {state final : State} {events : List Event}
    (hinit : Inv state) (hgood : Good state)
    (hallowed : ∀ event ∈ events, allowed event)
    (hrun : StepSystem.run step state events = .ok final) :
    HoldsThroughout step Good state events ↔
      StepsMeet step Meets state events := by
  induction events generalizing state with
  | nil =>
      rw [holdsThroughout_nil_iff]
      exact iff_of_true hgood (stepsMeet_nil step Meets state)
  | cons event rest ih =>
      rcases run_cons_eq_ok_iff.mp hrun with ⟨next, hstep, hrest⟩
      have hevent : allowed event := hallowed event (by simp)
      have hnextInv : Inv next := hpres state event next hinit hevent hstep
      have hkeeps := hexact state event next hinit hgood hevent hstep
      have htail : ∀ other ∈ rest, allowed other :=
        fun other hmem => hallowed other (by simp [hmem])
      rw [holdsThroughout_cons_iff hstep, stepsMeet_cons_iff hstep]
      constructor
      · rintro ⟨_, hall⟩
        have hnextGood : Good next := hall [] (by simp) next rfl
        exact ⟨hkeeps.mp hnextGood,
          (ih hnextInv hnextGood htail hrest).mp hall⟩
      · rintro ⟨hmeets, hall⟩
        have hnextGood : Good next := hkeeps.mpr hmeets
        exact ⟨hgood, (ih hnextInv hnextGood htail hrest).mpr hall⟩

/-- Where one step keeps a property exactly when its event meets a condition,
and never brings the property back, a run ends with the property exactly when
it began with it and all its events meet the condition. -/
theorem Preserves.run_iff_forall
    {step : State → Event → Except Stop State} {allowed : Event → Prop}
    {Inv : State → Prop} (hpres : Preserves step allowed Inv)
    (Good : State → Prop) (Meets : Event → Prop)
    (hexact : ∀ state event next, Inv state → allowed event →
      step state event = .ok next →
      (Good next ↔ Good state ∧ Meets event))
    {state final : State} {events : List Event} (hinit : Inv state)
    (hallowed : ∀ event ∈ events, allowed event)
    (hrun : StepSystem.run step state events = .ok final) :
    Good final ↔ Good state ∧ ∀ event ∈ events, Meets event := by
  induction events generalizing state with
  | nil =>
      have heq : state = final := by simpa using hrun
      simp [heq]
  | cons event rest ih =>
      rcases run_cons_eq_ok_iff.mp hrun with ⟨next, hstep, hrest⟩
      have hevent : allowed event := hallowed event (by simp)
      have hnext : Inv next := hpres state event next hinit hevent hstep
      have htail : ∀ other ∈ rest, allowed other :=
        fun other hmem => hallowed other (by simp [hmem])
      rw [ih hnext htail hrest, hexact state event next hinit hevent hstep]
      simp [and_assoc]

/-- Where one step keeps a property exactly when it meets a condition, and never
brings the property back, a run ends with the property exactly when it began
with it and all its steps meet the condition. -/
theorem Preserves.run_iff_stepsMeet
    {step : State → Event → Except Stop State} {allowed : Event → Prop}
    {Inv : State → Prop} (hpres : Preserves step allowed Inv)
    (Good : State → Prop) (Meets : State → Event → Prop)
    (hexact : ∀ state event next, Inv state → allowed event →
      step state event = .ok next →
      (Good next ↔ Good state ∧ Meets state event))
    {state final : State} {events : List Event} (hinit : Inv state)
    (hallowed : ∀ event ∈ events, allowed event)
    (hrun : StepSystem.run step state events = .ok final) :
    Good final ↔ Good state ∧ StepsMeet step Meets state events := by
  induction events generalizing state with
  | nil =>
      have heq : state = final := by simpa using hrun
      rw [heq]
      exact (and_iff_left (stepsMeet_nil step Meets final)).symm
  | cons event rest ih =>
      obtain ⟨next, hstep, hrest⟩ := run_cons_eq_ok_iff.mp hrun
      have hevent : allowed event := hallowed event (by simp)
      have hnext : Inv next := hpres state event next hinit hevent hstep
      have htail : ∀ other ∈ rest, allowed other :=
        fun other hmem => hallowed other (by simp [hmem])
      calc
        Good final ↔ Good next ∧ StepsMeet step Meets next rest :=
          ih hnext htail hrest
        _ ↔ (Good state ∧ Meets state event) ∧
            StepsMeet step Meets next rest := by
          rw [hexact state event next hinit hevent hstep]
        _ ↔ Good state ∧ StepsMeet step Meets state (event :: rest) := by
          rw [stepsMeet_cons_iff hstep, and_assoc]

theorem Preserves.holdsThroughout
    {step : State → Event → Except Stop State} {Inv Good : State → Prop}
    (hpres : Preserves step (fun _ => True) Inv)
    (hgood : ∀ state, Inv state → Good state)
    {state : State} (hinit : Inv state) (events : List Event) :
    HoldsThroughout step Good state events := by
  intro first _ reached hreached
  exact hgood reached (hpres.run hinit (fun _ _ => trivial) hreached)

/-! ## Runs that may stop -/

theorem stepsMeet_cons_of_error_iff
    {step : State → Event → Except Stop State} {Meets : State → Event → Prop}
    {state : State} {event : Event} {stop : Stop} (rest : List Event)
    (hstep : step state event = .error stop) :
    StepsMeet step Meets state (event :: rest) ↔ Meets state event := by
  rw [stepsMeet_cons_iff_forall, hstep]
  simp

/-- Where one step avoids the bad stops exactly when it meets a condition, a run
avoids them exactly when all its steps meet the condition. -/
theorem Preserves.run_avoids_iff_stepsMeet
    {step : State → Event → Except Stop State} {allowed : Event → Prop}
    {Inv : State → Prop} (hpres : Preserves step allowed Inv)
    (Bad : Stop → Prop) (Meets : State → Event → Prop)
    (hexact : ∀ state event, Inv state → allowed event →
      ((∀ stop, step state event = .error stop → ¬ Bad stop) ↔
        Meets state event))
    {state : State} {events : List Event} (hinit : Inv state)
    (hallowed : ∀ event ∈ events, allowed event) :
    (∀ stop, StepSystem.run step state events = .error stop → ¬ Bad stop) ↔
      StepsMeet step Meets state events := by
  induction events generalizing state with
  | nil => simp [stepsMeet_nil]
  | cons event rest ih =>
      have hevent : allowed event := hallowed event (by simp)
      have hiff := hexact state event hinit hevent
      cases hstep : step state event with
      | error stop =>
          rw [stepsMeet_cons_of_error_iff rest hstep, ← hiff, run_cons, hstep]
      | ok next =>
          have hnext : Inv next := hpres state event next hinit hevent hstep
          have hmeets : Meets state event := by
            apply hiff.mp
            intro stop hstop
            rw [hstep] at hstop
            contradiction
          rw [run_cons_of_ok rest hstep, stepsMeet_cons_iff hstep,
            ih hnext fun other hmem => hallowed other (by simp [hmem])]
          exact (and_iff_right hmeets).symm

/-! ## Simulation -/

/-- From related states, every step of the first system is a step of the second
one on the same event, again to related states. -/
def Simulates {Other OtherStop : Type*}
    (step : State → Event → Except Stop State)
    (other : Other → Event → Except OtherStop Other)
    (Related : State → Other → Prop) : Prop :=
  ∀ state event next related, Related state related →
    step state event = .ok next →
    ∃ relatedNext, other related event = .ok relatedNext ∧
      Related next relatedNext

theorem Simulates.run
    {Other OtherStop : Type*} {step : State → Event → Except Stop State}
    {other : Other → Event → Except OtherStop Other}
    {Related : State → Other → Prop} (hsimulates : Simulates step other Related)
    {state final : State} {related : Other} {events : List Event}
    (hrelated : Related state related)
    (hrun : StepSystem.run step state events = .ok final) :
    ∃ relatedFinal, StepSystem.run other related events = .ok relatedFinal ∧
      Related final relatedFinal := by
  induction events generalizing state related with
  | nil =>
      have heq : state = final := by simpa using hrun
      exact ⟨related, rfl, heq ▸ hrelated⟩
  | cons event rest ih =>
      obtain ⟨next, hstep, hrest⟩ := run_cons_eq_ok_iff.mp hrun
      obtain ⟨relatedNext, hother, hnext⟩ :=
        hsimulates state event next related hrelated hstep
      obtain ⟨relatedFinal, hrun, hfinal⟩ := ih hnext hrest
      exact ⟨relatedFinal,
        run_cons_eq_ok_iff.mpr ⟨relatedNext, hother, hrun⟩, hfinal⟩

end StepSystem
