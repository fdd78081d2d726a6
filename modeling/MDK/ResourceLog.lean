import Mathlib.Data.List.Count

/-!
# Resources in a log of calls

A log of calls, some of which release a resource and some of which touch one.
The two questions about a resource are how often the log releases it and
whether a call touches it after its release.
-/

namespace ResourceLog

variable {Call Resource : Type*}

def releaseCount [DecidableEq Resource] (releases : Call → Option Resource)
    (log : List Call) (resource : Resource) : ℕ :=
  log.countP fun call => releases call = some resource

def QuietAfterRelease (touches releases : Call → Option Resource)
    (log : List Call) : Prop :=
  log.Pairwise fun earlier later =>
    ∀ resource, releases earlier = some resource →
      touches later ≠ some resource

variable {touches releases : Call → Option Resource}

section Counting

variable [DecidableEq Resource]

@[simp] theorem releaseCount_nil (resource : Resource) :
    releaseCount releases [] resource = 0 := by
  simp [releaseCount]

theorem releaseCount_append (log added : List Call) (resource : Resource) :
    releaseCount releases (log ++ added) resource =
      releaseCount releases log resource +
        releaseCount releases added resource := by
  unfold releaseCount
  exact List.countP_append

theorem releaseCount_eq_zero_iff {log : List Call} {resource : Resource} :
    releaseCount releases log resource = 0 ↔
      ∀ call ∈ log, releases call ≠ some resource := by
  simp [releaseCount, List.countP_eq_zero]

theorem releaseCount_append_of_forall_ne
    {log added : List Call} {resource : Resource}
    (hadded : ∀ call ∈ added, releases call ≠ some resource) :
    releaseCount releases (log ++ added) resource =
      releaseCount releases log resource := by
  rw [releaseCount_append, releaseCount_eq_zero_iff.mpr hadded, Nat.add_zero]

theorem releaseCount_singleton (call : Call) (resource : Resource) :
    releaseCount releases [call] resource =
      if releases call = some resource then 1 else 0 := by
  unfold releaseCount
  rw [List.countP_singleton]
  simp

end Counting

/-! ## Quiet logs -/

theorem quietAfterRelease_nil : QuietAfterRelease touches releases [] := by
  simp [QuietAfterRelease]

theorem quietAfterRelease_append_singleton_iff
    {log : List Call} {call : Call} :
    QuietAfterRelease touches releases (log ++ [call]) ↔
      QuietAfterRelease touches releases log ∧
        ∀ resource, touches call = some resource →
          ∀ earlier ∈ log, releases earlier ≠ some resource := by
  unfold QuietAfterRelease
  rw [List.pairwise_append]
  constructor
  · rintro ⟨hlog, _, hcross⟩
    refine ⟨hlog, ?_⟩
    intro resource htouches earlier hearlier hreleases
    exact hcross earlier hearlier call (by simp) resource hreleases htouches
  · rintro ⟨hlog, hcall⟩
    refine ⟨hlog, by simp, ?_⟩
    intro earlier hearlier later hlater resource hreleases htouches
    rw [List.mem_singleton] at hlater
    subst hlater
    exact hcall resource htouches earlier hearlier hreleases

/-- Calls that release nothing, and touch only what the log has not released. -/
theorem QuietAfterRelease.append
    {log added : List Call} (hlog : QuietAfterRelease touches releases log)
    (hreleases : ∀ call ∈ added, releases call = none)
    (htouches : ∀ call ∈ added, ∀ resource, touches call = some resource →
      ∀ earlier ∈ log, releases earlier ≠ some resource) :
    QuietAfterRelease touches releases (log ++ added) := by
  unfold QuietAfterRelease
  rw [List.pairwise_append]
  refine ⟨hlog, ?_, ?_⟩
  · apply List.Pairwise.imp_of_mem _ (List.pairwise_of_forall fun _ _ => trivial)
    intro earlier later hearlier _ _ resource hrelease
    rw [hreleases earlier hearlier] at hrelease
    contradiction
  · intro earlier hearlier later hlater resource hrelease htouch
    exact htouches later hlater resource htouch earlier hearlier hrelease

end ResourceLog
