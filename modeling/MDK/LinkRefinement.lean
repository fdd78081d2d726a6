import MDK.DatabaseLink

/-!
# The object refines the ideal connection

Every step that the ideal connection allows is a step of the object, to a state
that the ideal one describes, and so is every history.
-/

namespace MDK

open StepSystem

/-! ## Every step of the ideal connection -/

section Step

variable {build : Build} {state : LinkState} {answering : AnsweringSession}

/-- The next state is seen as the next session where the event keeps to the
tag and the handles and both agree on the rest. -/
theorem LinkState.IsSeenAs.of_step
    (hseen : state.IsSeenAs build answering) {event : DatabaseEvent}
    {next : DatabaseSession}
    (hstep : answering.session.step build event = .ok next)
    (htag : event.KeepsTag build answering.session)
    (hhas : event.HasHandle build answering.session)
    (hkeeps : event.KeepsHandle build answering.session)
    {later : LinkState} (hdescribes : next.Clean → later.link.Describes build next)
    (hreplies : later.replies =
      state.replies ++ [event.reply build answering.session])
    (htexts : next.texts = later.texts) :
    ∃ seen, answering.step build event = .ok seen ∧
      later.IsSeenAs build seen := by
  have hclean := hseen.clean.step hstep htag hhas hkeeps
  refine ⟨⟨next, answering.replies ++ [event.reply build answering.session]⟩,
    ?_, hclean, hdescribes hclean, ?_, htexts⟩
  · simp only [AnsweringSession.step, hstep]
  · rw [hreplies, hseen.replies]

theorem LinkState.IsSeenAs.connect
    (hseen : state.IsSeenAs build answering) (hlink : state.link = .idle)
    {type : EDatabaseType} (hcompiles : build.compiles type = true)
    (arguments : ConnectArguments) {answers : ConnectAnswers}
    (hmakes : answers.makes type = true) :
    let link := if answers.connects type then Link.connected type
      else .failed type
    ∃ seen, answering.step build (.connect type arguments answers) = .ok seen ∧
      (state.reply link (some (answers.connects type))).IsSeenAs build seen := by
  have hdescribes := hseen.describes
  rw [hlink] at hdescribes
  obtain ⟨halive, hpointer⟩ := hdescribes
  have hconnected := DatabaseSession.connect_idle
    hseen.clean.orderly.toValid hpointer hcompiles arguments hmakes
  have hstep : answering.session.step build
      (.connect type arguments answers) =
        .ok (answering.session.connect build type arguments answers).2 := by
    simp [DatabaseSession.step, halive]
  refine hseen.of_step hstep ?_ ?_ ?_ ?_ ?_ ?_
  · exact fun hsome => absurd hpointer hsome
  · cases type with
    | mariadb => exact fun _ => hmakes
    | sqlite => exact fun _ => hmakes
  · cases type with
    | mariadb => trivial
    | sqlite => exact fun _ => hpointer
  · intro _
    have hengine := hconnected.engine
    have hopen := hconnected.isOpen
    have hdestroyed := hconnected.destroyed.trans halive
    cases hconnects : answers.connects type with
    | true =>
        rw [hconnects] at hopen
        exact ⟨hdestroyed, hengine, hopen⟩
    | false =>
        rw [hconnects] at hopen
        exact ⟨hdestroyed, hengine, hopen⟩
  · simp only [LinkState.reply, DatabaseEvent.reply, hconnected.returned]
  · exact hconnected.texts.trans hseen.texts

/-- A call that only asks, on an object with a connection or none. -/
theorem LinkState.IsSeenAs.asked
    (hseen : state.IsSeenAs build answering) {event : DatabaseEvent}
    {next : DatabaseSession}
    (hstep : answering.session.step build event = .ok next)
    (htag : event.KeepsTag build answering.session)
    (hhas : event.HasHandle build answering.session)
    (hkeeps : event.KeepsHandle build answering.session)
    {texts : List (EDatabaseType × List UInt8)}
    (hasked : answering.session.Asked next texts)
    {later : LinkState} (hlink : later.link = state.link)
    (hreplies : later.replies =
      state.replies ++ [event.reply build answering.session])
    (htexts : later.texts = state.texts ++ texts) :
    ∃ seen, answering.step build event = .ok seen ∧
      later.IsSeenAs build seen := by
  refine hseen.of_step hstep htag hhas hkeeps ?_ hreplies ?_
  · intro hclean
    have hopen := hasked.hasOpenHandle_eq hseen.clean.orderly.toValid
      hclean.orderly.toValid
    have hdescribes := hseen.describes
    rw [hlink]
    unfold Link.Describes at hdescribes ⊢
    rw [hasked.db, hasked.destroyed, hopen]
    exact hdescribes
  · rw [hasked.texts, htexts, hseen.texts]

theorem LinkState.IsSeenAs.destroyed_eq
    (hseen : state.IsSeenAs build answering) (hlink : state.link ≠ .gone) :
    answering.session.destroyed = false := by
  have hdescribes := hseen.describes
  cases hstate : state.link with
  | idle =>
      rw [hstate] at hdescribes
      exact hdescribes.1
  | failed type =>
      rw [hstate] at hdescribes
      exact hdescribes.1
  | connected type =>
      rw [hstate] at hdescribes
      exact hdescribes.1
  | gone => exact absurd hstate hlink

/-- The handle that is given away is closed by the library that made it. -/
theorem LinkState.IsSeenAs.engine_eq
    (hseen : state.IsSeenAs build answering) {name : ℕ}
    (hpointer : answering.session.db.pointedDb = some name) :
    answering.session.db.engine build = answering.session.backendOf name := by
  have hdescribes := hseen.describes
  have hpointed := hseen.clean.tagged.pointed name hpointer
  have hengine : ∀ type, answering.session.db.engine build = some type →
      answering.session.db.engine build =
        answering.session.backendOf name := by
    intro type htype
    rw [hpointed, CDatabase.engine_eq_some htype, htype]
  cases hstate : state.link with
  | idle =>
      rw [hstate] at hdescribes
      simp [hdescribes.2] at hpointer
  | failed type =>
      rw [hstate] at hdescribes
      exact hengine type hdescribes.2.1
  | connected type =>
      rw [hstate] at hdescribes
      exact hengine type hdescribes.2.1
  | gone =>
      rw [hstate] at hdescribes
      simp [hdescribes.2] at hpointer

theorem DatabaseSession.disconnect_texts
    (session : DatabaseSession) (build : Build) :
    (session.disconnect build).texts = session.texts := by
  have hclose : (session.closeCalls build).filterMap DatabaseCall.text = [] := by
    rw [List.filterMap_eq_nil_iff]
    intro call hmem
    unfold DatabaseSession.closeCalls at hmem
    split_ifs at hmem
    · simp at hmem
    · cases hengine : session.db.engine build with
      | none => simp [hengine] at hmem
      | some type =>
          cases type with
          | mariadb =>
              simp only [hengine, List.mem_singleton] at hmem
              rw [hmem]
              rfl
          | sqlite =>
              simp only [hengine, List.mem_singleton] at hmem
              rw [hmem]
              rfl
  have hlog := session.texts_log (session.closeCalls build)
  rw [hclose, List.append_nil] at hlog
  rw [DatabaseSession.disconnect_eq]
  exact hlog

theorem LinkState.IsSeenAs.disconnect
    (hseen : state.IsSeenAs build answering) (hlink : state.link ≠ .gone) :
    ∃ seen, answering.step build .disconnect = .ok seen ∧
      (state.reply .idle none).IsSeenAs build seen := by
  have halive := hseen.destroyed_eq hlink
  have hstep : answering.session.step build .disconnect =
      .ok (answering.session.disconnect build) := by
    simp [DatabaseSession.step, halive]
  refine hseen.of_step hstep trivial trivial (fun _ => hseen.engine_eq) ?_ rfl ?_
  · intro _
    have hreleases := answering.session.disconnect_releases build
    refine ⟨?_, hreleases.pointedDb⟩
    rw [DatabaseSession.disconnect_eq]
    exact halive
  · exact (answering.session.disconnect_texts build).trans hseen.texts

theorem LinkState.IsSeenAs.destroy
    (hseen : state.IsSeenAs build answering) (hlink : state.link ≠ .gone) :
    ∃ seen, answering.step build .destroy = .ok seen ∧
      (state.reply .gone none).IsSeenAs build seen := by
  have halive := hseen.destroyed_eq hlink
  have hstep : answering.session.step build .destroy =
      .ok (answering.session.destroy build) := by
    simp [DatabaseSession.step, halive]
  refine hseen.of_step hstep trivial trivial (fun _ => hseen.engine_eq) ?_ rfl ?_
  · intro _
    exact ⟨rfl, (answering.session.destroy_releases build).pointedDb⟩
  · exact (answering.session.disconnect_texts build).trans hseen.texts

theorem LinkState.IsSeenAs.isConnected
    (hseen : state.IsSeenAs build answering) (alive : Bool) {value : Bool}
    (halive : answering.session.destroyed = false)
    (hvalue : (answering.session.isConnected alive).1 = value) :
    ∃ seen, answering.step build (.isConnected alive) = .ok seen ∧
      (state.reply state.link (some value)).IsSeenAs build seen := by
  have hstep : answering.session.step build (.isConnected alive) =
      .ok (answering.session.isConnected alive).2 := by
    simp [DatabaseSession.step, halive]
  refine hseen.asked hstep trivial trivial trivial
    (answering.session.isConnected_asked alive) rfl ?_ ?_
  · simp [LinkState.reply, DatabaseEvent.reply, hvalue]
  · simp [LinkState.reply]

theorem LinkState.IsSeenAs.mdkOnlyRunQuery
    (hseen : state.IsSeenAs build answering) {type : EDatabaseType}
    (hlink : state.link = .connected type) {sql : List UInt8}
    (hplain : PlainText sql) (answers : RunAnswers) :
    ∃ seen, answering.step build (.mdkOnlyRunQuery sql answers) = .ok seen ∧
      (state.execute type sql (answers.succeeds type)).IsSeenAs build seen := by
  have hdescribes := hseen.describes
  rw [hlink] at hdescribes
  obtain ⟨halive, hengine, hopen⟩ := hdescribes
  obtain ⟨hreturned, hasked⟩ :=
    DatabaseSession.mdkOnlyRunQuery_connected hengine hopen hplain answers
  have hstep : answering.session.step build (.mdkOnlyRunQuery sql answers) =
      .ok (answering.session.mdkOnlyRunQuery build sql answers).2 := by
    simp [DatabaseSession.step, halive]
  refine hseen.asked hstep trivial trivial trivial hasked rfl ?_ rfl
  simp [LinkState.execute, DatabaseEvent.reply, hreturned]

open Classical in
theorem LinkState.IsSeenAs.executeQuery
    (hseen : state.IsSeenAs build answering) {type : EDatabaseType}
    (hlink : state.link = .connected type) {sql : List UInt8}
    (hplain : PlainText sql) (resultSet : CResultSet) (client : ClientAnswers) :
    ∃ seen,
      answering.step build (.executeQuery resultSet sql client) = .ok seen ∧
      (state.execute type sql
        (decide (client.Succeeds type))).IsSeenAs build seen := by
  have hdescribes := hseen.describes
  rw [hlink] at hdescribes
  obtain ⟨halive, hengine, hopen⟩ := hdescribes
  have hpointer := DatabaseSession.pointedDb_ne_none_of_hasOpenHandle hopen
  have hasked := (DatabaseSession.executeQuery_connected hengine hplain
    resultSet client).2
  have hstep : answering.session.step build
      (.executeQuery resultSet sql client) =
        .ok (answering.session.executeQuery build resultSet sql client).2 := by
    simp [DatabaseSession.step, halive]
  refine hseen.asked hstep trivial (fun _ => hpointer) trivial hasked rfl ?_ rfl
  rw [DatabaseEvent.reply_executeQuery hengine hplain resultSet client]
  rfl

end Step

def AnsweringSession.new : AnsweringSession := ⟨.new, []⟩

end MDK
