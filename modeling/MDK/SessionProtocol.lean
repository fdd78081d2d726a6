import MDK.ConnectionClose
import MDK.TraceAutomaton

/-!
# The protocol of a connection

What happens on one handle should be a session: a listening socket is closed
once, and a connection is accepted, offered to its server once, delivers to that
server, and is silent after its close.  The user may close a handle at any time;
the callback of a new connection is the one place that cannot bear it.
-/

namespace MDK

open StepSystem TraceAutomaton

/-! ## The protocol -/

inductive SessionStage where
  | silent
  | bound
  | accepted
  | refused
  | serving (server : ℕ)
  | closed
  deriving DecidableEq, Repr

namespace SessionStage

/-- The calls that are allowed on one handle, and where they lead. -/
def next : SessionStage → Call → Option SessionStage
  | .silent, .uvListen _ _ _ => some .bound
  | .silent, .uvUdpRecvStart _ _ _ => some .bound
  | .silent, .uvAccept _ _ result =>
      some (if result = 0 then .accepted else .refused)
  | .accepted, .onTCPNewConnection server _ _ => some (.serving server)
  | .serving server, .onTCPRead other _ _ =>
      if other = server then some (.serving server) else none
  | .bound, .setData _ _ => some .bound
  | .serving server, .setData _ _ => some (.serving server)
  | .closed, .setData _ _ => some .closed
  | .silent, .uvClose _ => some .closed
  | .bound, .uvClose _ => some .closed
  | .refused, .uvClose _ => some .closed
  | .serving _, .uvClose _ => some .closed
  | _, _ => none

end SessionStage

def World.stage (world : World) (name : ℕ) : Option SessionStage :=
  stageOf SessionStage.next .silent Call.handle world.trace name

/-- The calls on every handle are a session so far. -/
def World.InSession (world : World) : Prop :=
  ∀ name, world.stage name ≠ none

/-- The connection that the user is being asked about is still open. -/
def World.AsksOpen (world : World) : Prop :=
  ∀ client, world.calling = some client →
    world.handleIs client (·.status = .active) = true

def Handle.AtStage (world : World) (handle : Handle) : SessionStage → Prop
  | .silent => (handle.status = .allocated ∨ handle.status = .active) ∧
      handle.acceptedFrom = none ∧ handle.data = .indeterminate
  | .bound => handle.status = .active ∧ handle.acceptedFrom = none
  | .serving server => handle.status = .active ∧
      handle.acceptedFrom ≠ none ∧ world.Owns server handle.data
  | .closed => handle.status = .closing ∨ handle.status = .freed
  | .accepted => False
  | .refused => False

/-- As long as all calls are sessions, the status of a handle tells its stage. -/
structure World.Staged (world : World) : Prop extends world.Valid where
  atStage : world.InSession → ∀ name handle,
    world.handles.get? name = some handle →
    ∃ stage, world.stage name = some stage ∧ handle.AtStage world stage
  asked : world.InSession → ∀ client, world.calling = some client →
    ∃ handle, world.handles.get? client = some handle ∧
      handle.acceptedFrom ≠ none

theorem Handle.AtStage.mono
    {world later : World} (hgrows : world.Grows later) {handle : Handle}
    {stage : SessionStage} (hstage : handle.AtStage world stage) :
    handle.AtStage later stage := by
  cases stage with
  | serving server => exact ⟨hstage.1, hstage.2.1, hgrows.owns _ _ hstage.2.2⟩
  | _ => exact hstage

theorem World.Valid.stage_fresh {world : World} (hvalid : world.Valid) :
    world.stage world.handles.fresh = some .silent :=
  stageOf_of_absent fun _ hmem => hvalid.handle_ne_fresh hmem

theorem World.InSession.of_append
    {world later : World} {added : List Call}
    (htrace : later.trace = world.trace ++ added) (hlater : later.InSession) :
    world.InSession := by
  intro name
  have hname := hlater name
  unfold World.stage at hname
  rw [htrace] at hname
  exact stageOf_ne_none_of_append hname

theorem Handle.AtStage.congr
    {world : World} {handle later : Handle} (hstatus : later.status = handle.status)
    (haccepted : later.acceptedFrom = handle.acceptedFrom)
    (hdata : later.data = handle.data) {stage : SessionStage}
    (hstage : handle.AtStage world stage) : later.AtStage world stage := by
  unfold Handle.AtStage
  rw [hstatus, haccepted, hdata]
  exact hstage

theorem World.Staged.asked_of_same
    {world later : World} (hstaged : world.Staged)
    (hgrows : world.Grows later) (hcalling : later.calling = world.calling)
    (hsession : world.InSession) {client : ℕ}
    (hclient : later.calling = some client) :
    ∃ handle, later.handles.get? client = some handle ∧
      handle.acceptedFrom ≠ none := by
  rw [hcalling] at hclient
  obtain ⟨handle, hget, haccepted⟩ := hstaged.asked hsession client hclient
  obtain ⟨after, hafter, hsame⟩ := hgrows.handles client handle hget
  exact ⟨after, hafter, hsame ▸ haccepted⟩

/-! ## A step whose calls are all on one handle -/

section Touch

variable {world later : World} {added : List Call}
  (htrace : later.trace = world.trace ++ added) {name : ℕ}
  (hsame : ∀ call ∈ added, call.handle = name)

include htrace hsame

theorem World.stage_touched :
    later.stage name = consume SessionStage.next (world.stage name) added := by
  unfold World.stage
  rw [htrace]
  exact stageOf_append_of_eq hsame _

theorem World.stage_untouched {other : ℕ} (hne : other ≠ name) :
    later.stage other = world.stage other := by
  unfold World.stage
  rw [htrace]
  exact stageOf_append_of_ne
    (fun call hmem heq => hne (heq.symm.trans (hsame call hmem))) _

theorem World.inSession_touched_iff :
    later.InSession ↔ world.InSession ∧
      consume SessionStage.next (world.stage name) added ≠ none := by
  constructor
  · intro hlater
    have hself := World.stage_touched htrace hsame
    exact ⟨hlater.of_append htrace, hself ▸ hlater name⟩
  · rintro ⟨hworld, hread⟩ other
    by_cases heq : other = name
    · rw [heq, World.stage_touched htrace hsame]
      exact hread
    · rw [World.stage_untouched htrace hsame heq]
      exact hworld other

theorem World.Staged.touched
    (hstaged : world.Staged) (hvalid : later.Valid) (hgrows : world.Grows later)
    (hothers : ∀ other handle, other ≠ name →
      later.handles.get? other = some handle →
      ∃ before, world.handles.get? other = some before ∧
        handle.status = before.status ∧
        handle.acceptedFrom = before.acceptedFrom ∧ handle.data = before.data)
    (hself : world.InSession → later.InSession → ∀ handle,
      later.handles.get? name = some handle →
      ∃ stage, consume SessionStage.next (world.stage name) added = some stage ∧
        handle.AtStage later stage)
    (hasked : world.InSession → later.InSession → ∀ client,
      later.calling = some client → ∃ handle,
        later.handles.get? client = some handle ∧ handle.acceptedFrom ≠ none) :
    later.Staged where
  toValid := hvalid
  atStage hsession other handle hget := by
    have hworld := hsession.of_append htrace
    by_cases heq : other = name
    · subst heq
      rw [World.stage_touched htrace hsame]
      exact hself hworld hsession handle hget
    · obtain ⟨before, hbefore, hstatus, haccepted, hdata⟩ :=
        hothers other handle heq hget
      obtain ⟨stage, hstage, hat⟩ := hstaged.atStage hworld other before hbefore
      rw [World.stage_untouched htrace hsame heq]
      exact ⟨stage, hstage, (hat.mono hgrows).congr hstatus haccepted hdata⟩
  asked hsession := hasked (hsession.of_append htrace) hsession

variable (hkept : world.InSession →
  consume SessionStage.next (world.stage name) added = world.stage name)

include hkept

/-- The calls leave the stage and the handles as they are. -/
theorem World.Staged.called
    (hstaged : world.Staged) (hvalid : later.Valid) (hgrows : world.Grows later)
    (hhandles : later.handles = world.handles)
    (hcalling : later.calling = world.calling) : later.Staged := by
  refine World.Staged.touched htrace hsame hstaged hvalid hgrows ?_ ?_ ?_
  · intro other handle _ hget
    rw [hhandles] at hget
    exact ⟨handle, hget, rfl, rfl, rfl⟩
  · intro hsession _ handle hget
    rw [hhandles] at hget
    obtain ⟨stage, hstage, hat⟩ := hstaged.atStage hsession name handle hget
    rw [hkept hsession]
    exact ⟨stage, hstage, hat.mono hgrows⟩
  · intro hsession _ client hclient
    exact hstaged.asked_of_same hgrows hcalling hsession hclient

end Touch

/-! ## Bind -/

/-- The new handle is at the stage that the calls of `Bind` lead to. -/
structure World.BindsInSession (world later : World) (handle : Handle)
    (added : List Call) : Prop where
  handles : later.handles = world.handles.alloc handle
  trace : later.trace = world.trace ++ added
  calling : later.calling = world.calling
  onFresh : ∀ call ∈ added, call.handle = world.handles.fresh
  stage : ∃ stage, consume SessionStage.next (some .silent) added = some stage ∧
    handle.AtStage later stage

theorem World.bind_inSession
    (world : World) (server : ℕ) (this : CTemplateSocket) (ip : List UInt8)
    (port : ℤ) (udp : Bool) (libuv : BindAnswers) :
    ∃ handle added, world.BindsInSession
      (world.bind server this ip port udp libuv).2 handle added := by
  unfold World.bind
  dsimp only
  split_ifs
  · exact ⟨_, _, rfl, rfl, rfl, by simp, .silent, rfl, Or.inl rfl, rfl, rfl⟩
  · exact ⟨_, _, rfl, rfl, rfl, by simp, .silent, rfl, Or.inl rfl, rfl, rfl⟩
  · exact ⟨_, _, rfl, rfl, rfl, by simp, .silent, rfl, Or.inr rfl, rfl, rfl⟩
  · exact ⟨_, _, rfl, rfl, rfl, by simp, .silent, rfl, Or.inr rfl, rfl, rfl⟩
  · exact ⟨_, _, rfl, rfl, rfl, by simp [Call.handle], .bound, rfl, rfl, rfl⟩
  · exact ⟨_, _, rfl, rfl, rfl, by simp [Call.handle], .bound, rfl, rfl, rfl⟩
  · exact ⟨_, _, rfl, rfl, rfl, by simp [Call.handle], .bound, rfl, rfl, rfl⟩
  · exact ⟨_, _, rfl, rfl, rfl, by simp [Call.handle], .bound, rfl, rfl, rfl⟩

/-! ## What a step keeps -/

theorem World.AsksOpen.of_idle {world : World} (hidle : world.calling = none) :
    world.AsksOpen := by
  intro client hcalling
  rw [hidle] at hcalling
  contradiction

/-- The stage of a handle that is served, from what is known of the handle. -/
theorem World.Staged.serving
    {world : World} (hstaged : world.Staged) (hsession : world.InSession)
    {name : ℕ} {handle : Handle} (hget : world.handles.get? name = some handle)
    (haccepted : handle.acceptedFrom ≠ none) :
    (handle.status = .active ∧ ∃ server, world.Owns server handle.data ∧
        world.stage name = some (.serving server)) ∨
      (handle.status = .closing ∨ handle.status = .freed) ∧
        world.stage name = some .closed := by
  obtain ⟨stage, hstage, hat⟩ := hstaged.atStage hsession name handle hget
  cases stage with
  | silent => exact absurd hat.2.1 haccepted
  | bound => exact absurd hat.2 haccepted
  | accepted => exact hat.elim
  | refused => exact hat.elim
  | serving server => exact Or.inl ⟨hat.1, server, hat.2.2, hstage⟩
  | closed => exact Or.inr ⟨hat, hstage⟩

theorem World.Staged.reading
    {world : World} (hstaged : world.Staged) (hsession : world.InSession)
    {name : ℕ} {handle : Handle} (hget : world.handles.get? name = some handle)
    (hreading : handle.reading = true) :
    ∃ server, world.Owns server handle.data ∧
      world.stage name = some (.serving server) := by
  obtain ⟨hactive, haccepted⟩ := (hstaged.handles name handle hget).reading
    hreading
  obtain ⟨_, hserving⟩ | ⟨hclosed, _⟩ :=
    hstaged.serving hsession hget haccepted
  · exact hserving
  · simp [hactive] at hclosed

theorem World.Staged.chunk
    {world : World} (hstaged : world.Staged) (hsession : world.InSession)
    {name server : ℕ} {handle : Handle}
    (hget : world.handles.get? name = some handle)
    (hreading : handle.reading = true) (howns : world.Owns server handle.data)
    (bytes : List UInt8) :
    consume SessionStage.next (world.stage name)
        [.onTCPRead server name bytes] = world.stage name := by
  obtain ⟨other, hother, hstage⟩ := hstaged.reading hsession hget hreading
  rw [hstage, hother.unique howns]
  simp [consume, SessionStage.next]

theorem World.Staged.setData
    {world : World} (hstaged : world.Staged) (hsession : world.InSession)
    {name record : ℕ} {handle : Handle}
    (hget : world.handles.get? name = some handle)
    (hslot : handle.data = .clientData record) (data : Pointer) :
    consume SessionStage.next (world.stage name) [.setData name data] =
      world.stage name := by
  obtain ⟨stage, hstage, hat⟩ := hstaged.atStage hsession name handle hget
  rw [hstage]
  cases stage with
  | silent =>
      have hsilent := hat.2.2
      rw [hslot] at hsilent
      contradiction
  | accepted => exact hat.elim
  | refused => exact hat.elim
  | _ => rfl

theorem World.consume_acceptCalls
    (world : World) (listener server : ℕ) (accept : ℤ) :
    consume SessionStage.next (some .silent)
        (world.acceptCalls listener server accept) =
      if accept = 0 then some (.serving server) else none := by
  unfold World.acceptCalls
  split_ifs with haccept
  · simp [consume, SessionStage.next, haccept]
  · simp [consume, SessionStage.next, haccept]

/-- A new connection is in session exactly if it was accepted. -/
theorem World.Staged.connected_iff
    {world : World} (hstaged : world.Staged) (hcalling : world.calling = none)
    {listener server loop : ℕ} {handle : Handle} {accept : ℤ} :
    (world.connected listener server
        (Handle.ofClient loop listener handle.data accept) accept).InSession ∧
      (world.connected listener server
        (Handle.ofClient loop listener handle.data accept) accept).AsksOpen ↔
      (world.InSession ∧ world.AsksOpen) ∧ accept = 0 := by
  rw [World.inSession_touched_iff rfl fun _ => World.handle_of_mem_acceptCalls,
    hstaged.toValid.stage_fresh, world.consume_acceptCalls,
    and_iff_left (World.AsksOpen.of_idle hcalling)]
  by_cases haccept : accept = 0
  · have hopen : (world.connected listener server
        (Handle.ofClient loop listener handle.data accept) accept).AsksOpen := by
      intro client hclient
      have hfresh : world.handles.fresh = client := Option.some.inj hclient
      subst hfresh
      simp [World.handleIs, World.connected, Handle.ofClient, haccept]
    rw [and_iff_left hopen, if_pos haccept]
    simp [haccept]
  · simp [haccept]

/-- A step that makes no call and leaves status, listener and slot of every
handle alone. -/
theorem World.Staged.of_same
    {world later : World} (hstaged : world.Staged) (hvalid : later.Valid)
    (hgrows : world.Grows later) (htrace : later.trace = world.trace)
    (hcalling : later.calling = none ∨ later.calling = world.calling)
    (hhandles : ∀ name handle, later.handles.get? name = some handle →
      ∃ before, world.handles.get? name = some before ∧
        handle.status = before.status ∧
        handle.acceptedFrom = before.acceptedFrom ∧
        handle.data = before.data) : later.Staged where
  toValid := hvalid
  atStage hsession name handle hget := by
    have hworld := hsession.of_append (htrace.trans (List.append_nil _).symm)
    obtain ⟨before, hbefore, hstatus, haccepted, hdata⟩ :=
      hhandles name handle hget
    obtain ⟨stage, hstage, hat⟩ := hstaged.atStage hworld name before hbefore
    refine ⟨stage, ?_, (hat.mono hgrows).congr hstatus haccepted hdata⟩
    unfold World.stage
    rw [htrace]
    exact hstage
  asked hsession client hclient := by
    have hworld := hsession.of_append (htrace.trans (List.append_nil _).symm)
    obtain hidle | hsame := hcalling
    · rw [hidle] at hclient
      contradiction
    · exact hstaged.asked_of_same hgrows hsame hworld hclient

theorem World.Staged.uvClose
    {world : World} (hstaged : world.Staged) (calling : Option ℕ) {name : ℕ}
    (hcalling : calling = none ∨ calling = world.calling)
    (hvalid : ({ world with calling := calling }.uvClose name).Valid) :
    ({ world with calling := calling }.uvClose name).Staged := by
  have htrace : ({ world with calling := calling }.uvClose name).trace =
      world.trace ++ [.uvClose name] := rfl
  have hgrows : world.Grows ({ world with calling := calling }.uvClose name) :=
    ⟨(world.grows_uvClose name).handles, fun _ _ howns => howns,
      List.prefix_append _ _⟩
  have hsame : ∀ call ∈ [Call.uvClose name], call.handle = name := by
    simp [Call.handle]
  refine World.Staged.touched htrace hsame hstaged hvalid hgrows ?_ ?_ ?_
  · intro other handle hne hget
    rw [World.uvClose, Arena.get?_modify_of_ne _ _ hne] at hget
    exact ⟨handle, hget, rfl, rfl, rfl⟩
  · intro hworld hsession handle hget
    have hread := (World.inSession_touched_iff htrace hsame).mp hsession
    refine ⟨.closed, ?_, ?_⟩
    · cases hstage : world.stage name with
      | none => exact absurd hstage (hworld name)
      | some stage =>
          have hnext := hread.2
          rw [hstage] at hnext
          cases stage with
          | accepted => simp [consume, SessionStage.next] at hnext
          | closed => simp [consume, SessionStage.next] at hnext
          | _ => rfl
    · obtain ⟨before, _, ⟨_, rfl⟩ | ⟨hne, _⟩⟩ := Arena.get?_modify_cases hget
      · exact Or.inl rfl
      · exact absurd rfl hne
  · intro hworld _ client hclient
    obtain hidle | hkept := hcalling
    · have hnone : some client = none := hclient.symm.trans hidle
      contradiction
    · exact hstaged.asked_of_same hgrows hkept hworld hclient

theorem World.Staged.bind
    {world later : World} (hstaged : world.Staged) (hvalid : later.Valid)
    (hgrows : world.Grows later) {handle : Handle} {added : List Call}
    (hbinds : world.BindsInSession later handle added) : later.Staged := by
  refine World.Staged.touched hbinds.trace hbinds.onFresh hstaged hvalid
    hgrows ?_ ?_ ?_
  · intro other after hne hget
    rw [hbinds.handles, Arena.get?_alloc, if_neg hne] at hget
    exact ⟨after, hget, rfl, rfl, rfl⟩
  · intro _ _ after hget
    rw [hbinds.handles, Arena.get?_alloc_fresh] at hget
    cases hget
    rw [hstaged.toValid.stage_fresh]
    exact hbinds.stage
  · intro hworld _ client hclient
    exact hstaged.asked_of_same hgrows hbinds.calling hworld hclient

theorem World.Staged.connected
    {world : World} (hstaged : world.Staged) {listener server loop : ℕ}
    {handle : Handle} {accept : ℤ} (howns : world.Owns server handle.data)
    (hvalid : (world.connected listener server
      (Handle.ofClient loop listener handle.data accept) accept).Valid)
    (hgrows : world.Grows (world.connected listener server
      (Handle.ofClient loop listener handle.data accept) accept)) :
    (world.connected listener server
      (Handle.ofClient loop listener handle.data accept) accept).Staged := by
  have hfresh : ∀ call ∈ world.acceptCalls listener server accept,
      call.handle = world.handles.fresh :=
    fun _ => World.handle_of_mem_acceptCalls
  have haccepted : (world.connected listener server
      (Handle.ofClient loop listener handle.data accept) accept).InSession →
        accept = 0 := by
    intro hsession
    have hread := ((World.inSession_touched_iff rfl hfresh).mp hsession).2
    rw [hstaged.toValid.stage_fresh, world.consume_acceptCalls] at hread
    by_contra hfailed
    exact hread (if_neg hfailed)
  refine World.Staged.touched rfl hfresh hstaged hvalid hgrows ?_ ?_ ?_
  · intro other after hne hget
    rw [World.connected, Arena.get?_alloc, if_neg hne] at hget
    exact ⟨after, hget, rfl, rfl, rfl⟩
  · intro _ hsession after hafter
    have haccept := haccepted hsession
    rw [World.connected, Arena.get?_alloc_fresh] at hafter
    cases hafter
    rw [hstaged.toValid.stage_fresh, world.consume_acceptCalls]
    refine ⟨.serving server, if_pos haccept, ?_, ?_, ?_⟩
    · simp [Handle.ofClient, haccept]
    · simp [Handle.ofClient, haccept]
    · exact hgrows.owns _ _ howns
  · intro _ hsession client hclient
    have haccept := haccepted hsession
    have hsame : world.handles.fresh = client := Option.some.inj hclient
    subst hsame
    exact ⟨_, Arena.get?_alloc_fresh _ _, by simp [Handle.ofClient, haccept]⟩

theorem World.Staged.closeCallback
    {world : World} (hstaged : world.Staged) (hcalling : world.calling = none)
    {name : ℕ} {handle : Handle} (hget : world.handles.get? name = some handle)
    (hclosing : handle.status = .closing)
    (hvalid : (world.libuvCallbackOnClose name).Valid)
    (hgrows : world.Grows (world.libuvCallbackOnClose name)) :
    (world.libuvCallbackOnClose name).Staged := by
  have htrace : (world.libuvCallbackOnClose name).trace =
      world.trace ++ [] := (List.append_nil _).symm
  have hnone : ∀ call ∈ ([] : List Call), call.handle = name := by simp
  refine World.Staged.touched htrace hnone hstaged hvalid hgrows ?_ ?_ ?_
  · intro other after hne hafter
    rw [World.libuvCallbackOnClose, Arena.get?_modify_of_ne _ _ hne] at hafter
    exact ⟨after, hafter, rfl, rfl, rfl⟩
  · intro hworld _ after hafter
    obtain ⟨stage, hreached, hat⟩ := hstaged.atStage hworld name handle hget
    have hclosed : stage = .closed := by
      cases stage with
      | silent => simp [Handle.AtStage, hclosing] at hat
      | bound => simp [Handle.AtStage, hclosing] at hat
      | serving server => simp [Handle.AtStage, hclosing] at hat
      | accepted => exact hat.elim
      | refused => exact hat.elim
      | closed => rfl
    rw [World.libuvCallbackOnClose, Arena.get?_modify_self hget] at hafter
    cases hafter
    exact ⟨.closed, hreached.trans (congrArg some hclosed), Or.inr rfl⟩
  · intro _ _ client hclient
    have hidle : world.calling = some client := hclient
    rw [hcalling] at hidle
    contradiction

theorem World.Staged.step
    {world later : World} (hstaged : world.Staged) {event : Event}
    (hstep : world.step event = .ok later) : later.Staged := by
  have hsteps := hstaged.toValid.steps hstep
  have hvalid := hsteps.valid hstaged.toValid
  have hgrows := hsteps.grows
  cases hsteps with
  | construct =>
      exact hstaged.of_same hvalid hgrows rfl (Or.inr rfl)
        fun name handle hget => ⟨handle, hget, rfl, rfl, rfl⟩
  | @bind server ip port udp libuv _ _ _ _ =>
      obtain ⟨this, rfl⟩ := World.bind_of_step hstep
      obtain ⟨handle, added, hbinds⟩ :=
        world.bind_inSession server this ip port udp libuv
      exact hstaged.bind hvalid hgrows hbinds
  | refused _ => exact hstaged
  | connected _ _ _ _ howns _ => exact hstaged.connected howns hvalid hgrows
  | rejected _ _ => exact hstaged.uvClose none (Or.inl rfl) hvalid
  | reads _ _ _ =>
      refine hstaged.of_same hvalid hgrows rfl (Or.inl rfl) ?_
      intro name after hafter
      obtain ⟨before, hbefore, ⟨_, rfl⟩ | ⟨_, rfl⟩⟩ :=
        Arena.get?_modify_cases hafter
      · exact ⟨before, hbefore, rfl, rfl, rfl⟩
      · exact ⟨after, hbefore, rfl, rfl, rfl⟩
  | readFailed _ _ _ _ =>
      exact hstaged.uvClose world.calling (Or.inr rfl) hvalid
  | readNothing => exact hstaged
  | @readChunk client server handle nread buf _ hget hreading _ howns =>
      have hkept : world.InSession → _ :=
        fun hsession => hstaged.chunk hsession hget hreading howns
          (buf.take nread.toNat)
      exact World.Staged.called rfl (by simp [Call.handle]) hkept hstaged hvalid
        hgrows rfl rfl
  | close _ _ =>
      exact hstaged.uvClose world.calling (Or.inr rfl) hvalid
  | closeCallback hcalling hget hclosing =>
      exact hstaged.closeCallback hcalling hget hclosing hvalid hgrows
  | @setData socket record handle data hget _ hslot =>
      have hkept : world.InSession → _ :=
        fun hsession => hstaged.setData hsession hget hslot data
      exact World.Staged.called rfl (by simp [Call.handle]) hkept hstaged hvalid
        hgrows rfl rfl

/-! ## Runs -/

end MDK
