import MDK.DatabaseRuns
import MDK.ResourceLog

/-!
# Closing every handle once

Each handle that a library created for the object is closed once by that library
before the object is gone.  The object has one pointer, so a handle is lost when
the pointer is overwritten, or set to NULL by a `Disconnect` whose type has
another branch or none.
-/

namespace MDK

open ResourceLog StepSystem

namespace DatabaseSession

def closeCount (session : DatabaseSession) (type : EDatabaseType) (name : ℕ) : ℕ :=
  releaseCount DatabaseCall.closes session.calls (type, name)

/-- Every handle was closed exactly once by its own backend, and nothing is
called on a handle after its close. -/
structure ClosedOnce (session : DatabaseSession) : Prop where
  once : ∀ name type, session.backendOf name = some type →
    session.closeCount type name = 1
  quiet : QuietAfterRelease DatabaseCall.touches DatabaseCall.closesName
    session.calls

/-- Only the handle behind the pointer is still to be closed. -/
def Conserves (session : DatabaseSession) : Prop :=
  ∀ name type, session.backendOf name = some type →
    session.closeCount type name =
      if session.db.pointedDb = some name then 0 else 1

end DatabaseSession

/-- SQLite opens a handle only where there is none, and where the object gives
its handle away the branch of the type is the one of the handle's backend. -/
def DatabaseEvent.KeepsHandle (build : Build) (session : DatabaseSession) :
    DatabaseEvent → Prop
  | .connect .sqlite _ _ => build.hasSqlite = true → session.db.pointedDb = none
  | .disconnect => ∀ name, session.db.pointedDb = some name →
      session.db.engine build = session.backendOf name
  | .destroy => ∀ name, session.db.pointedDb = some name →
      session.db.engine build = session.backendOf name
  | _ => True

namespace DatabaseSession

/-! ## Counting closes in one step -/

theorem Valid.closeCount_pointed
    {session : DatabaseSession} (hvalid : session.Valid) {name : ℕ}
    (hpointer : session.db.pointedDb = some name) (type : EDatabaseType) :
    session.closeCount type name = 0 :=
  releaseCount_eq_zero_iff.mpr fun call hmem =>
    hvalid.unclosed name hpointer call hmem type

theorem Valid.closeCount_fresh
    {session : DatabaseSession} (hvalid : session.Valid) (type : EDatabaseType) :
    session.closeCount type session.handles.fresh = 0 := by
  apply releaseCount_eq_zero_iff.mpr
  intro call hmem hcloses
  obtain ⟨created, hcreated⟩ := hvalid.known call hmem type _ hcloses
  rw [backendOf_fresh] at hcreated
  contradiction

theorem closeCount_of_calls
    {session next : DatabaseSession} {added : List DatabaseCall}
    (hcalls : next.calls = session.calls ++ added)
    (hadded : ∀ call ∈ added, call.closes = none) (type : EDatabaseType)
    (name : ℕ) : next.closeCount type name = session.closeCount type name := by
  unfold closeCount
  rw [hcalls]
  apply releaseCount_append_of_forall_ne
  intro call hmem
  simp [hadded call hmem]

theorem Uses.conserves_iff
    {session next : DatabaseSession} {type : EDatabaseType}
    {added : List DatabaseCall} (huses : session.Uses type added next) :
    next.Conserves ↔ session.Conserves := by
  unfold Conserves
  simp only [huses.backendOf, huses.pointedDb,
    closeCount_of_calls huses.calls huses.appliedOnly.closes]

theorem Creates.conserves_iff
    {session next : DatabaseSession} {type : EDatabaseType} {made : Bool}
    {added : List DatabaseCall} (hcreates : session.Creates type made added next)
    (hvalid : session.Valid) :
    next.Conserves ↔ session.Conserves ∧ session.db.pointedDb = none := by
  have hcount := closeCount_of_calls hcreates.calls hcreates.appliedOnly.closes
  have hmoved : ∀ name created, session.backendOf name = some created →
      next.db.pointedDb ≠ some name := by
    intro name created hname hpointer
    rw [hcreates.pointedDb] at hpointer
    split_ifs at hpointer
    rw [← Option.some.inj hpointer, backendOf_fresh] at hname
    contradiction
  constructor
  · intro hnext
    have hnone : session.db.pointedDb = none := by
      by_contra hpointer
      obtain ⟨name, hname⟩ := Option.ne_none_iff_exists'.mp hpointer
      obtain ⟨created, hcreated⟩ := hvalid.pointed name hname
      have hone := hnext name created (hcreates.backendOf_of_known hcreated)
      rw [hcount, hvalid.closeCount_pointed hname,
        if_neg (hmoved name created hcreated)] at hone
      contradiction
    refine ⟨?_, hnone⟩
    intro name created hname
    have hone := hnext name created (hcreates.backendOf_of_known hname)
    rw [hcount, if_neg (hmoved name created hname)] at hone
    rw [hone, hnone]
    simp
  · rintro ⟨hsession, hnone⟩ name created hname
    rw [hcount]
    rw [hcreates.backendOf] at hname
    split_ifs at hname with hfresh
    · rw [hfresh.2, hvalid.closeCount_fresh, hcreates.pointedDb, if_pos hfresh.1,
        if_pos rfl]
    · have hone := hsession name created hname
      rw [hone, hnone, if_neg (hmoved name created hname)]
      simp

theorem Releases.conserves_iff
    {build : Build} {session next : DatabaseSession}
    (hreleases : session.Releases build next) (hvalid : session.Valid) :
    next.Conserves ↔ session.Conserves ∧
      ∀ name, session.db.pointedDb = some name →
        session.db.engine build = session.backendOf name := by
  cases hpointer : session.db.pointedDb with
  | none =>
      have hcalls := hreleases.calls
      rw [closeCalls_of_none build (.inl hpointer)] at hcalls
      unfold Conserves
      simp only [hreleases.backendOf, hreleases.pointedDb, hpointer,
        closeCount_of_calls hcalls (by simp)]
      simp
  | some pointed =>
      obtain ⟨created, hcreated⟩ := hvalid.pointed pointed hpointer
      have hzero := hvalid.closeCount_pointed hpointer
      have hcount : ∀ type name, next.closeCount type name =
          session.closeCount type name +
            if session.db.engine build = some type ∧ name = pointed then 1
            else 0 := by
        intro type name
        unfold closeCount
        rw [hreleases.calls, releaseCount_append]
        cases hengine : session.db.engine build with
        | none =>
            rw [closeCalls_of_none build (.inr hengine), releaseCount_nil]
            simp
        | some engine =>
            obtain ⟨call, hcall, hcloses, _⟩ :=
              closeCalls_of_some hpointer hengine
            rw [hcall, releaseCount_singleton, hcloses]
            simp [Prod.ext_iff, eq_comm]
      constructor
      · intro hnext
        have hengine : session.db.engine build = some created := by
          have hone := hnext pointed created (by rw [hreleases.backendOf, hcreated])
          rw [hcount, hzero, hreleases.pointedDb] at hone
          by_contra hother
          simp [hother] at hone
        constructor
        · intro name type hname
          have hone := hnext name type (by rw [hreleases.backendOf, hname])
          rw [hcount, hreleases.pointedDb] at hone
          by_cases heq : name = pointed
          · rw [heq, hzero, hpointer, if_pos rfl]
          · rw [hpointer, if_neg fun hsome => heq (Option.some.inj hsome).symm]
            simpa [heq] using hone
        · intro name hname
          rw [← Option.some.inj hname, hengine, hcreated]
      · rintro ⟨hsession, hengine⟩ name type hname
        rw [hreleases.backendOf] at hname
        rw [hcount, hreleases.pointedDb]
        by_cases heq : name = pointed
        · rw [heq, hzero, hengine pointed rfl, ← heq, hname]
          simp
        · have hone := hsession name type hname
          rw [hpointer, if_neg fun hsome => heq (Option.some.inj hsome).symm]
            at hone
          rw [hone]
          simp [heq]

theorem Steps.conserves_iff
    {build : Build} {session next : DatabaseSession} {event : DatabaseEvent}
    (hsteps : session.Steps build event next) (hvalid : session.Valid) :
    next.Conserves ↔ session.Conserves ∧ event.KeepsHandle build session := by
  cases hsteps with
  | reconnects _ huses =>
      rw [huses.conserves_iff]
      simp [DatabaseEvent.KeepsHandle]
  | inits hpointer hcreates =>
      rw [hcreates.conserves_iff hvalid]
      simp [DatabaseEvent.KeepsHandle, hpointer]
  | opens hbuild hcreates =>
      rw [hcreates.conserves_iff hvalid]
      simp [DatabaseEvent.KeepsHandle, hbuild]
  | skips hbuild huses =>
      rw [huses.conserves_iff]
      simp [DatabaseEvent.KeepsHandle, hbuild]
  | asks hasks huses _ =>
      rw [huses.conserves_iff, and_iff_left]
      cases event with
      | connect type arguments answers => simp [DatabaseEvent.asks] at hasks
      | disconnect => simp [DatabaseEvent.asks] at hasks
      | destroy => simp [DatabaseEvent.asks] at hasks
      | _ => trivial
  | releases hevent hreleases =>
      rw [hreleases.conserves_iff hvalid]
      cases event with
      | disconnect => rfl
      | destroy => rfl
      | _ => simp [DatabaseEvent.releases] at hevent

/-! ## Nothing is called on a closed handle -/

structure Orderly (session : DatabaseSession) : Prop extends session.Valid where
  quiet : QuietAfterRelease DatabaseCall.touches DatabaseCall.closesName
    session.calls

theorem Orderly.append
    {session : DatabaseSession} (horderly : session.Orderly)
    {next : DatabaseSession} (hnext : next.Valid) {type : EDatabaseType}
    {added : List DatabaseCall} (hcalls : next.calls = session.calls ++ added)
    (hadded : AppliedOnly type next.db.pointedDb added) : next.Orderly where
  toValid := hnext
  quiet := by
    rw [hcalls]
    apply horderly.quiet.append
    · intro call hmem
      simp [DatabaseCall.closesName, hadded.closes call hmem]
    · intro call hmem name htouches earlier hearlier
      obtain ⟨⟨backend, target⟩, happlied, rfl⟩ :=
        Option.bind_eq_some_iff.mp htouches
      have hpointer := (hadded.eq_of_appliedTo hmem happlied).2
      apply hnext.closesName_ne_pointed hpointer
      rw [hcalls]
      exact List.mem_append_left added hearlier

theorem Steps.orderly
    {build : Build} {session next : DatabaseSession} {event : DatabaseEvent}
    (hsteps : session.Steps build event next) (horderly : session.Orderly) :
    next.Orderly := by
  have hvalid := hsteps.valid horderly.toValid
  have huses : ∀ type added, session.Uses type added next → next.Orderly := by
    intro type added huses
    apply horderly.append hvalid huses.calls
    rw [huses.pointedDb]
    exact huses.appliedOnly
  cases hsteps with
  | reconnects _ hstep => exact huses _ _ hstep
  | inits _ hcreates =>
      exact horderly.append hvalid hcreates.calls hcreates.appliedOnly
  | opens _ hcreates =>
      exact horderly.append hvalid hcreates.calls hcreates.appliedOnly
  | skips _ hstep => exact huses _ _ hstep
  | asks _ hstep _ => exact huses _ _ hstep
  | releases _ hreleases =>
      refine ⟨hvalid, ?_⟩
      rw [hreleases.calls]
      by_cases hcalls : session.closeCalls build = []
      · rw [hcalls, List.append_nil]
        exact horderly.quiet
      · obtain ⟨call, hmem⟩ := List.exists_mem_of_ne_nil _ hcalls
        obtain ⟨type, name, hengine, hpointer, _, _⟩ := mem_closeCalls hmem
        obtain ⟨close, hclose, _, happlied⟩ :=
          closeCalls_of_some hpointer hengine
        rw [hclose, quietAfterRelease_append_singleton_iff]
        refine ⟨horderly.quiet, ?_⟩
        intro touched htouches
        rw [DatabaseCall.touches, happlied] at htouches
        have hname : name = touched := by simpa using htouches
        exact horderly.toValid.closesName_ne_pointed (hname ▸ hpointer)

/-! ## Histories -/

theorem new_orderly : new.Orderly where
  toValid := new_valid
  quiet := quietAfterRelease_nil

theorem new_conserves : new.Conserves := by
  intro name type hname
  simp [backendOf, new] at hname

theorem Orderly.closedOnce_iff
    {session : DatabaseSession} (horderly : session.Orderly)
    (hpointer : session.db.pointedDb = none) :
    session.ClosedOnce ↔ session.Conserves := by
  constructor
  · intro hclosed name type hname
    rw [hclosed.once name type hname, hpointer]
    simp
  · intro hconserves
    refine ⟨?_, horderly.quiet⟩
    intro name type hname
    rw [hconserves name type hname, hpointer]
    simp

/-- When the destructor ends, every handle was closed exactly once if and only
if no call of the history lost one. -/
theorem closedOnce_iff_keepsHandle
    (build : Build) (events : List DatabaseEvent) (final : DatabaseSession)
    (hrun : run (step build) new (events ++ [.destroy]) = .ok final) :
    final.ClosedOnce ↔
      StepsMeet (step build) (DatabaseEvent.KeepsHandle build) new
        (events ++ [.destroy]) := by
  have hpres : Preserves (step build) (fun _ => True) Orderly :=
    fun _ _ _ horderly _ hstep => (steps_of_step hstep).orderly horderly
  have horderly : final.Orderly :=
    hpres.run new_orderly (fun _ _ => trivial) hrun
  have hpointer : final.db.pointedDb = none := by
    obtain ⟨last, _, hdestroy⟩ := run_append_eq_ok_iff.mp hrun
    obtain ⟨next, hstep, hnil⟩ := run_cons_eq_ok_iff.mp hdestroy
    cases hnil
    unfold step at hstep
    split_ifs at hstep
    cases hstep
    exact (last.destroy_releases build).pointedDb
  calc
    final.ClosedOnce ↔ final.Conserves := horderly.closedOnce_iff hpointer
    _ ↔ new.Conserves ∧ StepsMeet (step build)
          (DatabaseEvent.KeepsHandle build) new (events ++ [.destroy]) :=
      hpres.run_iff_stepsMeet Conserves (DatabaseEvent.KeepsHandle build)
        (fun _ _ _ horderly _ hstep =>
          (steps_of_step hstep).conserves_iff horderly.toValid)
        new_orderly (fun _ _ => trivial) hrun
    _ ↔ StepsMeet (step build) (DatabaseEvent.KeepsHandle build) new
          (events ++ [.destroy]) := and_iff_right new_conserves

def sqliteTwice (answers : ConnectAnswers) : List DatabaseEvent :=
  [.connect .sqlite ⟨none, 0, none, some [], none⟩ answers,
    .connect .sqlite ⟨none, 0, none, some [], none⟩ answers]

theorem closedOnce_iff_keepsHandle_twice :
    ∃ final, run (step .mariadbSqlite) new
        (sqliteTwice .success ++ [.destroy]) = .ok final ∧
      (final.ClosedOnce ↔
        StepsMeet (step .mariadbSqlite) (DatabaseEvent.KeepsHandle .mariadbSqlite)
          new (sqliteTwice .success ++ [.destroy])) :=
  ⟨_, rfl, closedOnce_iff_keepsHandle .mariadbSqlite (sqliteTwice .success)
    _ rfl⟩

/-- The second `Connect` writes its handle over the first, which stays open. -/
theorem sqlite_handle_lost :
    ∃ final, run (step .mariadbSqlite) new
        (sqliteTwice .success ++ [.destroy]) = .ok final ∧
      final.backendOf 0 = some .sqlite ∧ final.closeCount .sqlite 0 = 0 ∧
      final.closeCount .sqlite 1 = 1 ∧ ¬ final.ClosedOnce := by
  refine ⟨_, rfl, by decide, by decide, by decide, ?_⟩
  intro hclosed
  have honce := hclosed.once 0 .sqlite (by decide)
  revert honce
  decide

end DatabaseSession

end MDK
