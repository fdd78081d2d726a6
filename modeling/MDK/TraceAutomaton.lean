import Mathlib.Data.List.Basic

/-!
# Protocols of the objects in a trace

A trace holds calls on many objects, and each object has a protocol: a state
machine that reads the calls on it and refuses the others.  `stageOf` is the
stage an object has reached, `none` once a call was refused.  The rules below
say what appended calls do to it.
-/

namespace TraceAutomaton

variable {Stage Call Name : Type*} [DecidableEq Name]

/-- The calls in a trace are consumed one after another. -/
def consume (next : Stage → Call → Option Stage) : Option Stage → List Call →
    Option Stage
  | stage, [] => stage
  | stage, call :: rest => consume next (stage.bind fun reached => next reached call)
      rest

def stageOf (next : Stage → Call → Option Stage) (start : Stage)
    (object : Call → Name) (trace : List Call) (name : Name) : Option Stage :=
  consume next (some start) (trace.filter fun call => object call = name)

theorem consume_none (next : Stage → Call → Option Stage) (trace : List Call) :
    consume next none trace = none := by
  induction trace with
  | nil => rfl
  | cons call rest ih => exact ih

theorem consume_append
    (next : Stage → Call → Option Stage) (stage : Option Stage)
    (first second : List Call) :
    consume next stage (first ++ second) =
      consume next (consume next stage first) second := by
  induction first generalizing stage with
  | nil => rfl
  | cons call rest ih => exact ih _

section

variable {next : Stage → Call → Option Stage} {start : Stage}
  {object : Call → Name}

theorem stageOf_append (trace added : List Call) (name : Name) :
    stageOf next start object (trace ++ added) name =
      consume next (stageOf next start object trace name)
        (added.filter fun call => object call = name) := by
  unfold stageOf
  rw [List.filter_append, consume_append]

theorem stageOf_append_of_ne
    {added : List Call} {name : Name} (hother : ∀ call ∈ added, object call ≠ name)
    (trace : List Call) :
    stageOf next start object (trace ++ added) name =
      stageOf next start object trace name := by
  have hnone : (added.filter fun call => object call = name) = [] := by
    rw [List.filter_eq_nil_iff]
    intro call hmem
    simpa using hother call hmem
  rw [stageOf_append, hnone]
  rfl

/-- All appended calls are on the object. -/
theorem stageOf_append_of_eq
    {added : List Call} {name : Name} (hsame : ∀ call ∈ added, object call = name)
    (trace : List Call) :
    stageOf next start object (trace ++ added) name =
      consume next (stageOf next start object trace name) added := by
  have hall : (added.filter fun call => object call = name) = added := by
    rw [List.filter_eq_self]
    intro call hmem
    simpa using hsame call hmem
  rw [stageOf_append, hall]

theorem stageOf_of_absent
    {trace : List Call} {name : Name}
    (habsent : ∀ call ∈ trace, object call ≠ name) :
    stageOf next start object trace name = some start := by
  have happend : stageOf next start object ([] ++ trace) name =
      stageOf next start object [] name := stageOf_append_of_ne habsent []
  exact happend

/-- A refused call is never forgiven. -/
theorem stageOf_ne_none_of_append
    {trace added : List Call} {name : Name}
    (hstage : stageOf next start object (trace ++ added) name ≠ none) :
    stageOf next start object trace name ≠ none := by
  intro hnone
  rw [stageOf_append, hnone, consume_none] at hstage
  exact hstage rfl

end

end TraceAutomaton
