import MDK.ServerRuns

/-!
# Closing a connection once

A handle should be closed once and hear of nothing afterwards.  The connection
callback breaks this after a failed `uv_accept`: it closes the new handle and
goes on with it.  Nothing else in the server does.
-/

namespace MDK

open StepSystem

def Call.invokesHandler : Call → Bool
  | .onTCPNewConnection _ _ _ => true
  | .onTCPRead _ _ _ => true
  | _ => false

/-- No handle is closed twice, and no handler is invoked on a closed handle. -/
structure ClosesOnce (trace : List Call) : Prop where
  once : ∀ name, trace.count (.uvClose name) ≤ 1
  silent : trace.Pairwise fun earlier later =>
    later.invokesHandler = true → earlier ≠ .uvClose later.handle

/-- The calls for which the handle must still be open. -/
def Call.needsOpen : Call → Bool
  | .uvClose _ => true
  | call => call.invokesHandler

theorem Call.needsOpen_iff {call : Call} :
    call.needsOpen = true ↔
      call.invokesHandler = true ∨ call = .uvClose call.handle := by
  cases call with
  | uvListen server handle result => simp [needsOpen, invokesHandler]
  | uvUdpRecvStart server handle result => simp [needsOpen, invokesHandler]
  | uvAccept listener client result => simp [needsOpen, invokesHandler]
  | uvClose name => simp [needsOpen, Call.handle]
  | onTCPNewConnection server client status => simp [needsOpen, invokesHandler]
  | onTCPRead server client chunk => simp [needsOpen, invokesHandler]
  | setData handle data => simp [needsOpen, invokesHandler]

theorem closesOnce_nil : ClosesOnce [] := ⟨by simp, by simp⟩

theorem closesOnce_append_singleton_iff {trace : List Call} {call : Call} :
    ClosesOnce (trace ++ [call]) ↔ ClosesOnce trace ∧
      (call.needsOpen = true → .uvClose call.handle ∉ trace) := by
  constructor
  · intro hcloses
    have hpairs := List.pairwise_append.mp hcloses.silent
    refine ⟨⟨?_, hpairs.1⟩, ?_⟩
    · intro name
      apply Nat.le_trans _ (hcloses.once name)
      rw [List.count_append]
      omega
    · intro hopen hmem
      rcases Call.needsOpen_iff.mp hopen with hhandler | hclose
      · exact hpairs.2.2 _ hmem call (by simp) hhandler rfl
      · have honce := hcloses.once call.handle
        rw [List.count_append, ← hclose, List.count_singleton_self] at honce
        have hpos := List.count_pos_iff.mpr hmem
        rw [← hclose] at hpos
        omega
  · rintro ⟨hcloses, hopen⟩
    constructor
    · intro name
      rw [List.count_append]
      have honce := hcloses.once name
      by_cases hcall : call = .uvClose name
      · subst hcall
        have habsent : Call.uvClose name ∉ trace := hopen rfl
        rw [List.count_eq_zero_of_not_mem habsent]
        simp
      · have hzero : [call].count (.uvClose name) = 0 := by
          simp [List.count_eq_zero, Ne.symm hcall]
        omega
    · rw [List.pairwise_append]
      refine ⟨hcloses.silent, by simp, ?_⟩
      intro earlier hearlier later hlater hhandler heq
      rw [List.mem_singleton] at hlater
      subst hlater
      apply hopen (Call.needsOpen_iff.mpr (Or.inl hhandler))
      rw [← heq]
      exact hearlier

theorem closesOnce_append_iff_of_quiet {trace added : List Call}
    (hquiet : ∀ call ∈ added, call.needsOpen = false) :
    ClosesOnce (trace ++ added) ↔ ClosesOnce trace := by
  induction added generalizing trace with
  | nil => simp
  | cons call added ih =>
      have hcall : call.needsOpen = false := hquiet call (by simp)
      rw [List.append_cons, ih fun other hmem => hquiet other (by simp [hmem]),
        closesOnce_append_singleton_iff]
      simp [hcall]

/-! ## Steps -/

def Event.isClose : Event → Bool
  | .close _ => true
  | _ => false

/-- A connection that the callback goes on with was accepted. -/
def Event.AcceptSucceeds : Event → Prop
  | .newConnection _ status accept => 0 ≤ status → accept = 0
  | _ => True

/-- A client that the server is asking the user about is still open, as long as
every handle was closed once. -/
structure World.CallsOpen (world : World) : Prop extends world.Valid where
  open_calling : ∀ client, world.calling = some client →
    ClosesOnce world.trace → .uvClose client ∉ world.trace

theorem World.CallsOpen.of_idle
    {world : World} (hvalid : world.Valid) (hidle : world.calling = none) :
    world.CallsOpen where
  toValid := hvalid
  open_calling client hcalling := by simp [hidle] at hcalling

theorem World.CallsOpen.of_quiet
    {world next : World} (hopen : world.CallsOpen) (hvalid : next.Valid)
    {added : List Call} (htrace : next.trace = world.trace ++ added)
    (hquiet : ∀ call ∈ added, call.needsOpen = false)
    (hcalling : next.calling = world.calling) : next.CallsOpen where
  toValid := hvalid
  open_calling client hclient hcloses hmem := by
    rw [hcalling] at hclient
    rw [htrace, closesOnce_append_iff_of_quiet hquiet] at hcloses
    rw [htrace, List.mem_append] at hmem
    rcases hmem with hold | hnew
    · exact hopen.open_calling client hclient hcloses hold
    · have hneeds := hquiet _ hnew
      simp [Call.needsOpen] at hneeds

theorem World.BindsTo.quiet
    {world next : World} {server : ℕ} {handle : Handle} {added : List Call}
    (hbinds : world.BindsTo server handle added next) :
    ∀ call ∈ added, call.needsOpen = false := by
  intro call hmem
  rcases hbinds.mem_added hmem with ⟨_, hcall | hcall⟩
  · simp [hcall, Call.needsOpen, Call.invokesHandler]
  · simp [hcall, Call.needsOpen, Call.invokesHandler]

theorem World.Valid.uvClose_fresh_notMem
    {world : World} (hvalid : world.Valid) :
    .uvClose world.handles.fresh ∉ world.trace := by
  intro hmem
  exact hvalid.handle_ne_fresh hmem rfl

theorem World.Valid.closesOnce_connected_iff
    {world : World} (hvalid : world.Valid) (listener server : ℕ)
    (client : Handle) (accept : ℤ) :
    ClosesOnce (world.connected listener server client accept).trace ↔
      ClosesOnce world.trace ∧ accept = 0 := by
  have hfresh := hvalid.uvClose_fresh_notMem
  by_cases haccept : accept = 0
  · have htrace : (world.connected listener server client accept).trace =
        world.trace ++ [.uvAccept listener world.handles.fresh accept] ++
          [.onTCPNewConnection server world.handles.fresh 0] := by
      simp [World.connected, World.acceptCalls, haccept]
    rw [htrace, closesOnce_append_singleton_iff, closesOnce_append_singleton_iff]
    simp [Call.needsOpen, Call.invokesHandler, Call.handle, hfresh, haccept]
  · have htrace : (world.connected listener server client accept).trace =
        world.trace ++ [.uvAccept listener world.handles.fresh accept] ++
          [.uvClose world.handles.fresh] ++
          [.onTCPNewConnection server world.handles.fresh 0] := by
      simp [World.connected, World.acceptCalls, haccept]
    rw [htrace, closesOnce_append_singleton_iff]
    simp [Call.needsOpen, Call.invokesHandler, Call.handle, haccept]

theorem World.Steps.callsOpen
    {world next : World} {event : Event} (hsteps : world.Steps event next)
    (hopen : world.CallsOpen) (hevent : event.isClose = false) :
    next.CallsOpen := by
  have hvalid := hsteps.valid hopen.toValid
  cases hsteps with
  | construct =>
      exact hopen.of_quiet hvalid (List.append_nil _).symm (by simp) rfl
  | bind hbinds =>
      exact hopen.of_quiet hvalid hbinds.trace hbinds.quiet hbinds.calling
  | refused _ => exact hopen
  | @connected listener server loop handle status accept =>
      refine ⟨hvalid, ?_⟩
      intro client hcalling hcloses hmem
      rw [hopen.toValid.closesOnce_connected_iff] at hcloses
      have hfresh : world.handles.fresh = client := by
        simpa [World.connected] using hcalling
      subst hfresh
      rw [World.connected, List.mem_append] at hmem
      rcases hmem with hold | hnew
      · exact hopen.toValid.uvClose_fresh_notMem hold
      · simpa [hcloses.2] using World.mem_acceptCalls hnew
  | rejected _ _ => exact .of_idle hvalid rfl
  | reads _ _ _ => exact .of_idle hvalid rfl
  | readFailed hcalling _ _ _ => exact .of_idle hvalid hcalling
  | readNothing => exact hopen
  | readChunk hcalling _ _ _ _ => exact .of_idle hvalid hcalling
  | close _ _ => simp [Event.isClose] at hevent
  | closeCallback hcalling _ _ => exact .of_idle hvalid hcalling
  | setData _ _ _ =>
      exact hopen.of_quiet hvalid rfl (by simp [Call.needsOpen, Call.invokesHandler])
        rfl

theorem World.Steps.closesOnce_iff
    {world next : World} {event : Event} (hsteps : world.Steps event next)
    (hopen : world.CallsOpen) (hevent : event.isClose = false) :
    ClosesOnce next.trace ↔ ClosesOnce world.trace ∧ event.AcceptSucceeds := by
  cases hsteps with
  | construct => simp [World.construct, Event.AcceptSucceeds]
  | bind hbinds =>
      rw [hbinds.trace, closesOnce_append_iff_of_quiet hbinds.quiet]
      simp [Event.AcceptSucceeds]
  | refused hstatus => simp [Event.AcceptSucceeds, Int.not_le.mpr hstatus]
  | connected _ _ _ _ _ hstatus =>
      rw [hopen.toValid.closesOnce_connected_iff]
      simp [Event.AcceptSucceeds, hstatus]
  | rejected hcalling _ =>
      rw [World.uvClose, closesOnce_append_singleton_iff]
      simp only [Event.AcceptSucceeds, and_true, and_iff_left_iff_imp]
      intro hcloses _
      exact hopen.open_calling _ hcalling hcloses
  | reads _ _ _ => simp [Event.AcceptSucceeds]
  | readFailed _ hget hreading _ =>
      have hhandle := hopen.toValid.handles _ _ hget
      have hunclosed := hhandle.unclosed (hhandle.reading hreading).1
      rw [World.uvClose, closesOnce_append_singleton_iff]
      simp [Event.AcceptSucceeds, Call.handle, hunclosed]
  | readNothing => simp [Event.AcceptSucceeds]
  | readChunk _ hget hreading _ _ =>
      have hhandle := hopen.toValid.handles _ _ hget
      have hunclosed := hhandle.unclosed (hhandle.reading hreading).1
      rw [World.record, closesOnce_append_singleton_iff]
      simp [Event.AcceptSucceeds, Call.handle, hunclosed]
  | close _ _ => simp [Event.isClose] at hevent
  | closeCallback _ _ _ => simp [World.libuvCallbackOnClose, Event.AcceptSucceeds]
  | setData _ _ _ =>
      rw [World.writeData, closesOnce_append_iff_of_quiet
        (by simp [Call.needsOpen, Call.invokesHandler])]
      simp [Event.AcceptSucceeds]

/-! ## Runs -/

theorem closesOnce_iff_acceptSucceeds
    {events : List Event} {final : World}
    (hnoClose : ∀ event ∈ events, event.isClose = false)
    (hrun : run World.step .empty events = .ok final) :
    ClosesOnce final.trace ↔ ∀ event ∈ events, event.AcceptSucceeds := by
  have hpres : Preserves World.step (fun event => event.isClose = false)
      World.CallsOpen :=
    fun _ _ _ hopen hevent hstep =>
      (hopen.toValid.steps hstep).callsOpen hopen hevent
  have hexact := hpres.run_iff_forall
    (fun world => ClosesOnce world.trace) Event.AcceptSucceeds
    (fun _ _ _ hopen hevent hstep =>
      (hopen.toValid.steps hstep).closesOnce_iff hopen hevent)
    (.of_idle World.empty_valid rfl) hnoClose hrun
  rw [hexact]
  simp [World.empty, closesOnce_nil]

/-- A server whose first connection libuv accepts and then resets. -/
def acceptThenReset : List Event :=
  [.construct, .bind 0 [] 0 false (.success ⟨0, 0⟩), .newConnection 0 0 0,
    .newConnectionReturn true 0, .tcpRead 1 5 [104, 101, 108, 108, 111, 0],
    .tcpRead 1 (-104) []]

theorem closesOnce_iff_acceptSucceeds_reset :
    ∃ final, run World.step .empty acceptThenReset = .ok final ∧
      (ClosesOnce final.trace ↔
        ∀ event ∈ acceptThenReset, event.AcceptSucceeds) :=
  ⟨_, rfl, closesOnce_iff_acceptSucceeds
    (by simp [acceptThenReset, Event.isClose]) rfl⟩

/-- After a failed `uv_accept` the user is asked about the closed handle and,
answering no, has it closed again. -/
theorem failedAccept_closes_twice :
    ∃ final,
      run World.step .empty
        [.construct, .bind 0 [] 0 false (.success ⟨0, 0⟩),
          .newConnection 0 0 (-11), .newConnectionReturn false 0] = .ok final ∧
      final.trace =
        [.uvListen 0 0 0, .uvAccept 0 1 (-11), .uvClose 1,
          .onTCPNewConnection 0 1 0, .uvClose 1] ∧
      ¬ ClosesOnce final.trace := by
  refine ⟨_, rfl, rfl, ?_⟩
  intro hcloses
  have honce := hcloses.once 1
  revert honce
  decide

end MDK
