import MDK.DatabaseRuns

/-!
# The type names the creator of the handle

`m_eDatabasetype` decides which library is handed the pointer, so it must name
the backend that created the handle there.  `Connect` sets it before it looks at
the pointer.  The MariaDB branch then goes on with whatever handle there is, and
a type without a branch leaves it in place.
-/

namespace MDK

open StepSystem

namespace DatabaseSession

/-- The type names the backend of the handle, and every call on a handle was
made with a function of its own backend. -/
structure Tagged (session : DatabaseSession) : Prop where
  pointed : ∀ name, session.db.pointedDb = some name →
    session.backendOf name = some session.db.databaseType
  applied : ∀ call ∈ session.calls, ∀ type name,
    call.appliedTo = some (type, some name) →
      session.backendOf name = some type

def NeverNull (session : DatabaseSession) : Prop :=
  ∀ call ∈ session.calls, ∀ type, call.appliedTo ≠ some (type, none)

end DatabaseSession

/-- A `Connect` that finds a handle names the type it already has, or opens a
new handle of SQLite over it. -/
def DatabaseEvent.KeepsTag (build : Build) (session : DatabaseSession) :
    DatabaseEvent → Prop
  | .connect type _ _ => session.db.pointedDb ≠ none →
      type = session.db.databaseType ∨
        type = .sqlite ∧ build.hasSqlite = true
  | _ => True

/-- Where a library needs a handle there is one. -/
def DatabaseEvent.HasHandle (build : Build) (session : DatabaseSession) :
    DatabaseEvent → Prop
  | .connect .mariadb _ answers =>
      session.db.pointedDb = none → answers.init = true
  | .connect .sqlite _ answers =>
      build.hasSqlite = true → answers.stored = true
  | .executeQuery _ _ _ =>
      session.db.engine build ≠ none → session.db.pointedDb ≠ none
  | _ => True

namespace DatabaseSession

/-! ## One step -/

/-- New calls with functions of the backend that the type names, on a handle
that this backend created. -/
theorem Tagged.of_calls
    {session next : DatabaseSession} (htagged : session.Tagged)
    {type : EDatabaseType} (htype : next.db.databaseType = type)
    (hknown : ∀ name created, session.backendOf name = some created →
      next.backendOf name = some created)
    (hpointed : ∀ name, next.db.pointedDb = some name →
      next.backendOf name = some type)
    {added : List DatabaseCall} (hcalls : next.calls = session.calls ++ added)
    (hadded : AppliedOnly type next.db.pointedDb added) : next.Tagged where
  pointed name hname := by
    rw [htype]
    exact hpointed name hname
  applied call hmem backend name happlied := by
    rw [hcalls, List.mem_append] at hmem
    obtain hold | hnew := hmem
    · exact hknown name backend (htagged.applied call hold backend name happlied)
    · obtain ⟨rfl, hname⟩ := hadded.eq_of_appliedTo hnew happlied
      exact hpointed name hname

theorem Uses.tagged_iff
    {session next : DatabaseSession} {type : EDatabaseType}
    {added : List DatabaseCall} (huses : session.Uses type added next)
    (htagged : session.Tagged) :
    next.Tagged ↔
      (session.db.pointedDb ≠ none → type = session.db.databaseType) := by
  constructor
  · intro hnext hpointer
    obtain ⟨name, hname⟩ := Option.ne_none_iff_exists'.mp hpointer
    have hafter := hnext.pointed name (huses.pointedDb.trans hname)
    rw [huses.backendOf, htagged.pointed name hname, huses.databaseType] at hafter
    exact (Option.some.inj hafter).symm
  · intro htype
    have hadded := huses.appliedOnly
    rw [← huses.pointedDb] at hadded
    apply htagged.of_calls huses.databaseType _ _ huses.calls hadded
    · intro name created hname
      rw [huses.backendOf, hname]
    · intro name hname
      rw [huses.pointedDb] at hname
      rw [huses.backendOf, htype (by simp [hname])]
      exact htagged.pointed name hname

theorem Creates.tagged
    {session next : DatabaseSession} {type : EDatabaseType} {made : Bool}
    {added : List DatabaseCall} (hcreates : session.Creates type made added next)
    (htagged : session.Tagged) : next.Tagged := by
  apply htagged.of_calls hcreates.databaseType _ _ hcreates.calls
    hcreates.appliedOnly
  · intro name created hname
    exact hcreates.backendOf_of_known hname
  · intro name hname
    rw [hcreates.pointedDb] at hname
    split_ifs at hname with hmade
    have hfresh : session.handles.fresh = name := by simpa using hname
    rw [hcreates.backendOf, if_pos ⟨hmade, hfresh.symm⟩]

theorem Releases.tagged
    {build : Build} {session next : DatabaseSession}
    (hreleases : session.Releases build next) (htagged : session.Tagged) :
    next.Tagged := by
  constructor
  · intro name hname
    rw [hreleases.pointedDb] at hname
    contradiction
  · intro call hmem backend name happlied
    rw [hreleases.backendOf]
    rw [hreleases.calls, List.mem_append] at hmem
    obtain hmem | hmem := hmem
    · exact htagged.applied call hmem backend name happlied
    · obtain ⟨type, pointed, hengine, hpointer, _, happliedTo⟩ :=
        mem_closeCalls hmem
      rw [happliedTo] at happlied
      cases happlied
      rw [htagged.pointed name hpointer, session.db.engine_eq_some hengine]

theorem Steps.tagged_iff
    {build : Build} {session next : DatabaseSession} {event : DatabaseEvent}
    (hsteps : session.Steps build event next) (htagged : session.Tagged) :
    next.Tagged ↔ event.KeepsTag build session := by
  cases hsteps with
  | reconnects hpointer huses =>
      rw [huses.tagged_iff htagged]
      simp [DatabaseEvent.KeepsTag]
  | inits hpointer hcreates =>
      apply iff_of_true (hcreates.tagged htagged)
      intro hsome
      exact absurd hpointer hsome
  | opens hbuild hcreates =>
      apply iff_of_true (hcreates.tagged htagged)
      exact fun _ => Or.inr ⟨rfl, hbuild⟩
  | skips hbuild huses =>
      rw [huses.tagged_iff htagged]
      simp [DatabaseEvent.KeepsTag, hbuild]
  | asks hasks huses hnull =>
      apply iff_of_true ((huses.tagged_iff htagged).mpr fun _ => rfl)
      cases event with
      | connect type arguments answers => simp [DatabaseEvent.asks] at hasks
      | _ => trivial
  | releases hevent hreleases =>
      apply iff_of_true (hreleases.tagged htagged)
      cases event with
      | connect type arguments answers => simp [DatabaseEvent.releases] at hevent
      | _ => trivial

theorem neverNull_iff_of_calls
    {session next : DatabaseSession} {added : List DatabaseCall}
    (hcalls : next.calls = session.calls ++ added) :
    next.NeverNull ↔ session.NeverNull ∧
      ∀ call ∈ added, ∀ type, call.appliedTo ≠ some (type, none) := by
  unfold NeverNull
  rw [hcalls, List.forall_mem_append]

theorem neverNull_iff_of_pointer
    {session next : DatabaseSession} {type : EDatabaseType}
    {pointer : DatabasePointer} {added : List DatabaseCall}
    (hcalls : next.calls = session.calls ++ added)
    (happlied : AppliedOnly type pointer added) (hpointer : pointer ≠ none) :
    next.NeverNull ↔ session.NeverNull := by
  rw [neverNull_iff_of_calls hcalls, and_iff_left]
  intro call hmem backend hnull
  exact hpointer (happlied.eq_of_appliedTo hmem hnull).2

theorem Creates.neverNull_iff
    {session next : DatabaseSession} {type : EDatabaseType} {made : Bool}
    {added : List DatabaseCall} (hcreates : session.Creates type made added next) :
    next.NeverNull ↔ session.NeverNull ∧ made = true := by
  cases hmade : made with
  | true =>
      have hpointer : next.db.pointedDb ≠ none := by
        simp [hcreates.pointedDb, hmade]
      rw [neverNull_iff_of_pointer hcreates.calls hcreates.appliedOnly hpointer]
      simp
  | false =>
      obtain ⟨call, hmem, happlied⟩ := hcreates.askedNull hmade
      simp only [Bool.false_eq_true, and_false, iff_false]
      intro hnever
      apply hnever call _ type happlied
      rw [hcreates.calls]
      exact List.mem_append_right _ hmem

theorem Steps.neverNull_iff
    {build : Build} {session next : DatabaseSession} {event : DatabaseEvent}
    (hsteps : session.Steps build event next) :
    next.NeverNull ↔ session.NeverNull ∧ event.HasHandle build session := by
  cases hsteps with
  | reconnects hpointer huses =>
      rw [neverNull_iff_of_pointer huses.calls huses.appliedOnly hpointer]
      simp [DatabaseEvent.HasHandle, hpointer]
  | inits hpointer hcreates =>
      rw [hcreates.neverNull_iff]
      simp [DatabaseEvent.HasHandle, hpointer]
  | opens hbuild hcreates =>
      rw [hcreates.neverNull_iff]
      simp [DatabaseEvent.HasHandle, hbuild]
  | skips hbuild huses =>
      rw [neverNull_iff_of_calls huses.calls]
      simp [DatabaseEvent.HasHandle, hbuild]
  | @asks event added next hasks huses hnull =>
      by_cases hpointer : session.db.pointedDb = none
      · have hquiet : (∀ call ∈ added, ∀ type,
            call.appliedTo ≠ some (type, none)) ↔
            ¬ ∃ call ∈ added, call.appliedTo ≠ none := by
          constructor
          · rintro hnever ⟨call, hmem, hasked⟩
            have happlied := huses.appliedOnly.applied call hmem
            rw [hpointer] at happlied
            exact hnever call hmem _ (happlied.resolve_left hasked)
          · intro hnone call hmem type happlied
            exact hnone ⟨call, hmem, by simp [happlied]⟩
        rw [neverNull_iff_of_calls huses.calls, hquiet, hnull hpointer]
        cases event with
        | executeQuery resultSet sql client =>
            simp [DatabaseEvent.ignoresPointer, DatabaseEvent.HasHandle, hpointer]
        | isConnected alive =>
            simp [DatabaseEvent.ignoresPointer, DatabaseEvent.HasHandle]
        | mdkOnlyRunQuery sql answers =>
            simp [DatabaseEvent.ignoresPointer, DatabaseEvent.HasHandle]
        | _ => simp [DatabaseEvent.asks] at hasks
      · rw [neverNull_iff_of_pointer huses.calls huses.appliedOnly hpointer,
          and_iff_left]
        cases event with
        | executeQuery resultSet sql client => exact fun _ => hpointer
        | isConnected alive => trivial
        | mdkOnlyRunQuery sql answers => trivial
        | _ => simp [DatabaseEvent.asks] at hasks
  | releases hevent hreleases =>
      rw [neverNull_iff_of_calls hreleases.calls]
      have hcloses : ∀ call ∈ session.closeCalls build, ∀ type,
          call.appliedTo ≠ some (type, none) := by
        intro call hmem type
        obtain ⟨_, _, _, _, _, happlied⟩ := mem_closeCalls hmem
        simp [happlied]
      rw [and_iff_left hcloses, and_iff_left]
      cases event with
      | disconnect => trivial
      | destroy => trivial
      | _ => simp [DatabaseEvent.releases] at hevent

/-! ## Histories -/

theorem new_tagged : new.Tagged where
  pointed name hpointer := by simp [new, CDatabase.new] at hpointer
  applied call hmem := by simp [new] at hmem

theorem new_neverNull : new.NeverNull := by
  simp [NeverNull, new]

/-- The type names the creator of the handle all along exactly when every
`Connect` keeps to it; that no library is handed NULL takes a handle at every
call besides. -/
theorem tagged_iff_keepsTag
    (build : Build) (events : List DatabaseEvent) (final : DatabaseSession)
    (hrun : run (step build) new events = .ok final) :
    (HoldsThroughout (step build) Tagged new events ↔
      StepsMeet (step build) (DatabaseEvent.KeepsTag build) new events) ∧
    (HoldsThroughout (step build)
        (fun session => session.Tagged ∧ session.NeverNull) new events ↔
      StepsMeet (step build)
        (fun session event =>
          event.KeepsTag build session ∧ event.HasHandle build session)
        new events) := by
  have hpres := step_preserves_valid build fun _ => True
  constructor
  · exact hpres.holdsThroughout_iff_stepsMeet
      (fun _ _ _ _ htagged _ hstep => (steps_of_step hstep).tagged_iff htagged)
      new_valid new_tagged (fun _ _ => trivial) hrun
  · apply hpres.holdsThroughout_iff_stepsMeet _ new_valid
      ⟨new_tagged, new_neverNull⟩ (fun _ _ => trivial) hrun
    intro session event next _ hgood _ hstep
    have hsteps := steps_of_step hstep
    rw [hsteps.tagged_iff hgood.1, hsteps.neverNull_iff, and_iff_right hgood.2]

/-- A connection of each type in turn, without a `Disconnect` between them. -/
def sqliteThenMariaDB (first second : ConnectAnswers) : List DatabaseEvent :=
  [.connect .sqlite ⟨none, 0, none, some [], none⟩ first,
    .connect .mariadb ⟨none, 0, none, some [], none⟩ second]

theorem tagged_iff_keepsTag_sqliteThenMariaDB :
    ∃ final, run (step .mariadbSqlite) new
        (sqliteThenMariaDB .success .success) = .ok final ∧
      ((HoldsThroughout (step .mariadbSqlite) Tagged new
          (sqliteThenMariaDB .success .success) ↔
        StepsMeet (step .mariadbSqlite) (DatabaseEvent.KeepsTag .mariadbSqlite) new
          (sqliteThenMariaDB .success .success)) ∧
      (HoldsThroughout (step .mariadbSqlite)
          (fun session => session.Tagged ∧ session.NeverNull) new
          (sqliteThenMariaDB .success .success) ↔
        StepsMeet (step .mariadbSqlite)
          (fun session event => event.KeepsTag .mariadbSqlite session ∧
            event.HasHandle .mariadbSqlite session)
          new (sqliteThenMariaDB .success .success))) :=
  ⟨_, rfl, tagged_iff_keepsTag .mariadbSqlite _ _ rfl⟩

/-- The handle of SQLite is handed to `mysql_options`. -/
theorem mysqlOptions_on_sqlite_handle :
    ∃ final, run (step .mariadbSqlite) new
        (sqliteThenMariaDB .success .success) = .ok final ∧
      .mysqlOptions (some 0) mysqlProtocolSocket ∈ final.calls ∧
      final.backendOf 0 = some .sqlite ∧
      ¬ HoldsThroughout (step .mariadbSqlite) Tagged new
          (sqliteThenMariaDB .success .success) := by
  refine ⟨_, rfl, by decide, by decide, ?_⟩
  intro hall
  have htagged := hall _ (List.prefix_refl _) _ rfl
  have hbackend := htagged.pointed 0 rfl
  revert hbackend
  decide

end DatabaseSession

end MDK
