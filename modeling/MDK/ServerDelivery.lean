import MDK.ConnectionClose

/-!
# What the servers deliver

Every positive read event of a connection reaches `OnTCPRead` once and in order,
on the server whose listening socket accepted the connection; an empty read
changes nothing; and a failed read is the last that anyone hears of the
connection but for its one close.
-/

namespace MDK

open StepSystem

/-- A received chunk and its terminating NUL fit into the buffer. -/
def Event.Sized : Event → Prop
  | .tcpRead _ nread buf => 0 < nread → nread.toNat < buf.length
  | _ => True

/-- The bytes that libuv received for a client in an event. -/
def Event.chunks (client : ℕ) : Event → List (List UInt8)
  | .tcpRead stream nread buf =>
      if stream = client ∧ 0 < nread then [buf.take nread.toNat] else []
  | _ => []

def Call.chunk (client : ℕ) : Call → Option (List UInt8)
  | .onTCPRead _ stream chunk => if stream = client then some chunk else none
  | _ => none

/-- The server that is handed a chunk of a client, and the chunk. -/
def Call.delivery (client : ℕ) : Call → Option (ℕ × List UInt8)
  | .onTCPRead server stream chunk =>
      if stream = client then some (server, chunk) else none
  | _ => none

/-- The closes of a client and the handlers invoked on it. -/
def Call.concerns (client : ℕ) (call : Call) : Bool :=
  call.needsOpen && call.handle == client

/-! ## No fault -/

theorem World.Valid.step_ne_fault
    {world : World} (hvalid : world.Valid) {event : Event}
    (hsized : event.Sized) (fault : Fault) :
    world.step event ≠ .error (.fault fault) := by
  cases event with
  | construct => simp [World.step]
  | bind server ip port udp libuv =>
      cases hthis : world.sockets.get? server with
      | none => simp [World.step, hthis]
      | some this => simp [World.step, hthis]
  | newConnection listener status accept =>
      simp only [World.step]
      split_ifs with hready
      · obtain ⟨_, hcallback⟩ | ⟨_, _, _, _, _, _, _, _, hcallback⟩ :=
          hvalid.newConnection_of_listening hready.2 status accept
        · simp [hcallback, Except.mapError]
        · simp [hcallback, Except.mapError]
      · simp
  | newConnectionReturn answer readStart =>
      cases hcalling : world.calling with
      | none => simp [World.step, hcalling]
      | some client =>
          simp only [World.step, hcalling]
          split_ifs with hrefused
          · simp
          · simp
  | tcpRead client nread buf =>
      simp only [World.step]
      split_ifs with hready
      · obtain ⟨_, _, _, _, _, hcallback⟩ :=
          hvalid.tcpRead_of_reading hready.2 nread buf
        rw [hcallback]
        split_ifs with hneg hzero hlength
        · simp [Except.mapError]
        · simp [Except.mapError]
        · have hfits := hsized (by omega)
          omega
        · simp [Except.mapError]
      · simp
  | close socket =>
      simp only [World.step]
      split_ifs with hready
      · simp
      · simp
  | closeCallback name =>
      simp only [World.step]
      split_ifs with hready
      · simp
      · simp
  | setData socket data =>
      simp only [World.step]
      cases world.setData socket data with
      | error _ => simp [Except.mapError]
      | ok _ => simp [Except.mapError]

theorem run_ne_fault
    {events : List Event} (hsized : ∀ event ∈ events, event.Sized)
    (fault : Fault) : run World.step .empty events ≠ .error (.fault fault) := by
  have hpres : Preserves World.step Event.Sized World.Valid :=
    fun _ _ _ hvalid _ hstep => (hvalid.steps hstep).valid hvalid
  exact hpres.run_ne_error
    (fun _ _ hvalid hevent => hvalid.step_ne_fault hevent fault)
    World.empty_valid hsized

/-! ## Chunks -/

theorem filterMap_chunk_of_quiet
    {added : List Call} (hquiet : ∀ call ∈ added, call.needsOpen = false)
    (client : ℕ) : added.filterMap (Call.chunk client) = [] := by
  rw [List.filterMap_eq_nil_iff]
  intro call hmem
  have hcall := hquiet call hmem
  cases call with
  | onTCPRead server stream chunk =>
      simp [Call.needsOpen, Call.invokesHandler] at hcall
  | _ => simp [Call.chunk]

theorem World.filterMap_chunk_acceptCalls
    (world : World) (listener server : ℕ) (accept : ℤ) (client : ℕ) :
    (world.acceptCalls listener server accept).filterMap (Call.chunk client) =
      [] := by
  rw [List.filterMap_eq_nil_iff]
  intro call hmem
  rcases World.mem_acceptCalls hmem with hcall | ⟨_, hcall⟩ | hcall
  · simp [hcall, Call.chunk]
  · simp [hcall, Call.chunk]
  · simp [hcall, Call.chunk]

theorem World.Steps.chunks
    {world next : World} {event : Event} (hsteps : world.Steps event next)
    (client : ℕ) :
    next.trace.filterMap (Call.chunk client) =
      world.trace.filterMap (Call.chunk client) ++ event.chunks client := by
  cases hsteps with
  | construct => simp [World.construct, Event.chunks]
  | bind hbinds =>
      rw [hbinds.trace, List.filterMap_append,
        filterMap_chunk_of_quiet hbinds.quiet]
      simp [Event.chunks]
  | refused _ => simp [Event.chunks]
  | connected _ _ _ _ _ _ =>
      rw [World.connected, List.filterMap_append,
        World.filterMap_chunk_acceptCalls]
      simp [Event.chunks]
  | rejected _ _ => simp [World.uvClose, Call.chunk, Event.chunks]
  | reads _ _ _ => simp [Event.chunks]
  | @readFailed _ _ nread _ _ _ _ hnread =>
      have hnot : ¬ 0 < nread := Int.not_lt.mpr (Int.le_of_lt hnread)
      simp [World.uvClose, Call.chunk, Event.chunks, hnot]
  | readNothing => simp [Event.chunks]
  | @readChunk stream server handle nread buf _ _ _ hnread _ =>
      by_cases hstream : stream = client
      · simp [World.record, Call.chunk, Event.chunks, hstream, hnread]
      · simp [World.record, Call.chunk, Event.chunks, hstream]
  | close _ _ => simp [World.uvClose, Call.chunk, Event.chunks]
  | closeCallback _ _ _ => simp [World.libuvCallbackOnClose, Event.chunks]
  | setData _ _ _ => simp [World.writeData, Call.chunk, Event.chunks]

theorem run_chunks
    {events : List Event} {final : World}
    (hrun : run World.step .empty events = .ok final) (client : ℕ) :
    final.trace.filterMap (Call.chunk client) =
      events.flatMap (Event.chunks client) := by
  have hchunks := World.step_preserves_valid.run_observation
    (fun world => world.trace.filterMap (Call.chunk client))
    (Event.chunks client)
    (fun _ _ _ hvalid _ hstep => (hvalid.steps hstep).chunks client)
    World.empty_valid (fun _ _ => trivial) hrun
  simpa [World.empty] using hchunks

/-- All deliveries of a client go to one server, so they are its chunks. -/
theorem World.Valid.filterMap_delivery
    {world : World} (hvalid : world.Valid) {client server listener : ℕ}
    {handle : Handle} (hget : world.handles.get? client = some handle)
    (hlistener : handle.acceptedFrom = some listener)
    (hlisten : .uvListen server listener 0 ∈ world.trace) :
    world.trace.filterMap (Call.delivery client) =
      (world.trace.filterMap (Call.chunk client)).map fun chunk =>
        (server, chunk) := by
  rw [List.map_filterMap]
  apply List.filterMap_congr
  intro call hmem
  cases call with
  | onTCPRead owner stream chunk =>
      by_cases hstream : stream = client
      · subst hstream
        rcases hvalid.readers owner stream chunk hmem with
          ⟨same, origin, hsame, hfrom, howner⟩
        rw [hget] at hsame
        cases hsame
        rw [hlistener] at hfrom
        cases hfrom
        have hserver := hvalid.listeners listener owner server 0 0 howner hlisten
        simp [Call.delivery, Call.chunk, hserver]
      · simp [Call.delivery, Call.chunk, hstream]
  | _ => simp [Call.delivery, Call.chunk]

/-! ## After the close -/

/-- The client was closed, and no callback is asking about it. -/
structure World.Gone (world : World) (client : ℕ) : Prop extends world.Valid where
  closed : ∃ handle, world.handles.get? client = some handle ∧
    (handle.status = .closing ∨ handle.status = .freed)
  uncalled : world.calling ≠ some client

theorem World.Gone.ne_of_active
    {world : World} {client : ℕ} (hgone : world.Gone client) {name : ℕ}
    {handle : Handle} (hget : world.handles.get? name = some handle)
    (hactive : handle.status = .active) : name ≠ client := by
  intro hname
  subst hname
  obtain ⟨closed, hclosed, hstatus⟩ := hgone.closed
  rw [hget] at hclosed
  cases hclosed
  simp [hactive] at hstatus

theorem World.Gone.ne_of_reading
    {world : World} {client : ℕ} (hgone : world.Gone client) {name : ℕ}
    {handle : Handle} (hget : world.handles.get? name = some handle)
    (hreading : handle.reading = true) : name ≠ client := by
  have hactive := ((hgone.handles name handle hget).reading hreading).1
  exact hgone.ne_of_active hget hactive

theorem World.Gone.ne_of_calling
    {world : World} {client : ℕ} (hgone : world.Gone client) {name : ℕ}
    (hcalling : world.calling = some name) : name ≠ client := by
  intro hname
  subst hname
  exact hgone.uncalled hcalling

theorem filter_concerns_append
    {trace added : List Call} {client : ℕ}
    (hadded : ∀ call ∈ added, call.concerns client = false) :
    (trace ++ added).filter (Call.concerns client) =
      trace.filter (Call.concerns client) := by
  have hnone : added.filter (Call.concerns client) = [] := by
    rw [List.filter_eq_nil_iff]
    intro call hmem
    simp [hadded call hmem]
  rw [List.filter_append, hnone, List.append_nil]

theorem concerns_of_quiet
    {call : Call} (hquiet : call.needsOpen = false) (client : ℕ) :
    call.concerns client = false := by
  simp [Call.concerns, hquiet]

theorem concerns_of_ne
    {call : Call} {client : ℕ} (hne : call.handle ≠ client) :
    call.concerns client = false := by
  simp [Call.concerns, hne]

theorem World.Gone.of_sameHandle
    {world next : World} {client : ℕ} (hgone : world.Gone client)
    (hvalid : next.Valid)
    (hget : next.handles.get? client = world.handles.get? client)
    (huncalled : next.calling ≠ some client) : next.Gone client := by
  refine ⟨hvalid, ?_, huncalled⟩
  rw [hget]
  exact hgone.closed

theorem World.Gone.get?_uvClose
    {world : World} {client name : ℕ} (hne : name ≠ client) :
    (world.uvClose name).handles.get? client = world.handles.get? client :=
  Arena.get?_modify_of_ne _ _ (Ne.symm hne)

theorem World.Gone.ne_fresh
    {world : World} {client : ℕ} (hgone : world.Gone client) :
    world.handles.fresh ≠ client := by
  obtain ⟨handle, hget, _⟩ := hgone.closed
  exact Ne.symm (Arena.ne_fresh_of_get? hget)

theorem World.Gone.get?_alloc
    {world : World} {client : ℕ} (hgone : world.Gone client) (handle : Handle) :
    (world.handles.alloc handle).get? client = world.handles.get? client := by
  rw [Arena.get?_alloc, if_neg (Ne.symm hgone.ne_fresh)]

theorem World.Steps.gone
    {world next : World} {event : Event} (hsteps : world.Steps event next)
    {client : ℕ} (hgone : world.Gone client) : next.Gone client := by
  have hvalid := hsteps.valid hgone.toValid
  cases hsteps with
  | construct => exact hgone.of_sameHandle hvalid rfl hgone.uncalled
  | bind hbinds =>
      apply hgone.of_sameHandle hvalid
      · rw [hbinds.handles, hgone.get?_alloc]
      · rw [hbinds.calling]
        exact hgone.uncalled
  | refused _ => exact hgone
  | connected _ _ _ _ _ _ =>
      apply hgone.of_sameHandle hvalid
      · exact hgone.get?_alloc _
      · simp [World.connected, hgone.ne_fresh]
  | rejected hcalling _ =>
      apply hgone.of_sameHandle hvalid
      · exact World.Gone.get?_uvClose (hgone.ne_of_calling hcalling)
      · simp [World.uvClose]
  | reads _ hget hactive =>
      apply hgone.of_sameHandle hvalid
      · exact Arena.get?_modify_of_ne _ _
          (Ne.symm (hgone.ne_of_active hget hactive))
      · simp
  | readFailed _ hget hreading _ =>
      apply hgone.of_sameHandle hvalid
      · exact World.Gone.get?_uvClose (hgone.ne_of_reading hget hreading)
      · exact hgone.uncalled
  | readNothing => exact hgone
  | readChunk _ _ _ _ _ => exact hgone.of_sameHandle hvalid rfl hgone.uncalled
  | close hget hactive =>
      apply hgone.of_sameHandle hvalid
      · exact World.Gone.get?_uvClose (hgone.ne_of_active hget hactive)
      · exact hgone.uncalled
  | @closeCallback name handle _ hget _ =>
      by_cases hname : name = client
      · subst hname
        exact ⟨hvalid, ⟨_, Arena.get?_modify_self hget _, Or.inr rfl⟩,
          hgone.uncalled⟩
      · apply hgone.of_sameHandle hvalid
        · exact Arena.get?_modify_of_ne _ _ (Ne.symm hname)
        · exact hgone.uncalled
  | setData _ _ _ => exact hgone.of_sameHandle hvalid rfl hgone.uncalled

theorem World.Steps.concerns_gone
    {world next : World} {event : Event} (hsteps : world.Steps event next)
    {client : ℕ} (hgone : world.Gone client) :
    next.trace.filter (Call.concerns client) =
      world.trace.filter (Call.concerns client) := by
  have hother : ∀ {name : ℕ} {call : Call}, name ≠ client →
      call.handle = name → ∀ other ∈ [call], other.concerns client = false := by
    intro name call hne hcall other hmem
    rw [List.mem_singleton] at hmem
    subst hmem
    apply concerns_of_ne
    rw [hcall]
    exact hne
  cases hsteps with
  | construct => rfl
  | bind hbinds =>
      rw [hbinds.trace]
      apply filter_concerns_append
      intro call hmem
      exact concerns_of_quiet (hbinds.quiet call hmem) client
  | refused _ => rfl
  | connected _ _ _ _ _ _ =>
      apply filter_concerns_append
      intro call hmem
      apply concerns_of_ne
      rw [World.handle_of_mem_acceptCalls hmem]
      exact hgone.ne_fresh
  | rejected hcalling _ =>
      exact filter_concerns_append (hother (hgone.ne_of_calling hcalling) rfl)
  | reads _ _ _ => rfl
  | readFailed _ hget hreading _ =>
      exact filter_concerns_append (hother (hgone.ne_of_reading hget hreading) rfl)
  | readNothing => rfl
  | readChunk _ hget hreading _ _ =>
      exact filter_concerns_append (hother (hgone.ne_of_reading hget hreading) rfl)
  | close hget hactive =>
      exact filter_concerns_append (hother (hgone.ne_of_active hget hactive) rfl)
  | closeCallback _ _ _ => rfl
  | setData _ _ _ =>
      apply filter_concerns_append
      intro call hmem
      rw [List.mem_singleton] at hmem
      subst hmem
      exact concerns_of_quiet rfl client

/-- A failed read closes the client, which was open, and is the last call that
concerns it. -/
theorem World.Valid.gone_of_readFailed
    {world next : World} (hvalid : world.Valid) {client : ℕ} {nread : ℤ}
    {buf : List UInt8} (hnread : nread < 0)
    (hstep : world.step (.tcpRead client nread buf) = .ok next) :
    .uvClose client ∉ world.trace ∧ next = world.uvClose client ∧
      next.Gone client := by
  have hsteps := hvalid.steps hstep
  have hnext := hsteps.valid hvalid
  cases hsteps with
  | readFailed hcalling hget hreading _ =>
      have hhandle := hvalid.handles client _ hget
      refine ⟨hhandle.unclosed (hhandle.reading hreading).1, rfl, hnext, ?_, ?_⟩
      · exact ⟨_, Arena.get?_modify_self hget _, Or.inl rfl⟩
      · simp [World.uvClose, hcalling]
  | readNothing => omega
  | readChunk _ _ _ hpositive _ => omega

theorem run_concerns_of_gone
    {world final : World} {client : ℕ} (hgone : world.Gone client)
    {events : List Event} (hrun : run World.step world events = .ok final) :
    final.trace.filter (Call.concerns client) =
      world.trace.filter (Call.concerns client) := by
  have hpres : Preserves World.step (fun _ => True)
      (fun world => world.Gone client) :=
    fun _ _ _ hgone _ hstep => (hgone.toValid.steps hstep).gone hgone
  have hconcerns := hpres.run_observation
    (fun world => world.trace.filter (Call.concerns client)) (fun _ => [])
    (fun _ _ _ hgone _ hstep => by
      rw [(hgone.toValid.steps hstep).concerns_gone hgone, List.append_nil])
    hgone (fun _ _ => trivial) hrun
  rw [hconcerns]
  simp

/-! ## Exact delivery -/

structure DeliversExactly (events : List Event) (final : World) : Prop where
  delivered : ∀ client handle listener,
    final.handles.get? client = some handle →
    handle.acceptedFrom = some listener →
    ∃ server, .uvListen server listener 0 ∈ final.trace ∧
      (∀ other result, .uvListen other listener result ∈ final.trace →
        other = server) ∧
      final.trace.filterMap (Call.delivery client) =
        (events.flatMap (Event.chunks client)).map fun chunk => (server, chunk)
  empty_read : ∀ first client buf rest before,
    events = first ++ .tcpRead client 0 buf :: rest →
    run World.step .empty first = .ok before →
    before.step (.tcpRead client 0 buf) = .ok before
  failed_read : ∀ first client nread buf rest before,
    events = first ++ .tcpRead client nread buf :: rest → nread < 0 →
    run World.step .empty first = .ok before →
    .uvClose client ∉ before.trace ∧
      final.trace.filter (Call.concerns client) =
        before.trace.filter (Call.concerns client) ++ [.uvClose client]

theorem deliversExactly_of_run
    {events : List Event} {final : World}
    (hrun : run World.step .empty events = .ok final) :
    DeliversExactly events final := by
  have hvalid : final.Valid :=
    World.step_preserves_valid.run World.empty_valid (fun _ _ => trivial) hrun
  have hsplit : ∀ first event rest before,
      events = first ++ event :: rest →
      run World.step .empty first = .ok before →
      before.Valid ∧ ∃ next, before.step event = .ok next ∧
        run World.step next rest = .ok final := by
    intro first event rest before hevents hfirst
    refine ⟨World.step_preserves_valid.run World.empty_valid
      (fun _ _ => trivial) hfirst, ?_⟩
    rw [hevents, run_append_eq_ok_iff] at hrun
    obtain ⟨middle, hmiddle, hrest⟩ := hrun
    rw [hfirst] at hmiddle
    cases hmiddle
    exact run_cons_eq_ok_iff.mp hrest
  constructor
  · intro client handle listener hget hlistener
    rcases (hvalid.handles client handle hget).accepted listener hlistener with
      ⟨server, hlisten, _⟩
    refine ⟨server, hlisten, ?_, ?_⟩
    · intro other result hother
      exact hvalid.listeners listener other server result 0 hother hlisten
    · rw [hvalid.filterMap_delivery hget hlistener hlisten, run_chunks hrun]
  · intro first client buf rest before hevents hfirst
    rcases hsplit first _ rest before hevents hfirst with
      ⟨hbefore, next, hstep, _⟩
    cases hbefore.steps hstep with
    | readFailed _ _ _ hnread => omega
    | readNothing => exact hstep
    | readChunk _ _ _ hnread _ => omega
  · intro first client nread buf rest before hevents hnread hfirst
    rcases hsplit first _ rest before hevents hfirst with
      ⟨hbefore, next, hstep, hrest⟩
    obtain ⟨hopen, hclose, hgone⟩ := hbefore.gone_of_readFailed hnread hstep
    refine ⟨hopen, ?_⟩
    rw [run_concerns_of_gone hgone hrest, hclose, World.uvClose,
      List.filter_append]
    simp [Call.concerns, Call.needsOpen, Call.handle]

theorem servers_deliverExactly
    {events : List Event} (hsized : ∀ event ∈ events, event.Sized) :
    (∀ fault, run World.step .empty events ≠ .error (.fault fault)) ∧
      ∀ final, run World.step .empty events = .ok final →
        DeliversExactly events final :=
  ⟨run_ne_fault hsized, fun _ hrun => deliversExactly_of_run hrun⟩

/-- Two connections of two servers whose reads interleave; the first one ends in
a failed read. -/
def interleavedReads : List Event :=
  [.construct, .construct, .bind 0 [] 0 false (.success ⟨0, 7000⟩),
    .bind 1 [] 0 false (.success ⟨0, 7001⟩), .newConnection 0 0 0,
    .newConnectionReturn true 0, .newConnection 1 0 0,
    .newConnectionReturn true 0, .tcpRead 2 2 [104, 105, 0],
    .tcpRead 3 1 [33, 0], .tcpRead 2 0 [], .tcpRead 2 (-4095) [],
    .tcpRead 3 1 [63, 0]]

theorem servers_deliverExactly_interleaved :
    ∃ final, run World.step .empty interleavedReads = .ok final ∧
      DeliversExactly interleavedReads final :=
  ⟨_, rfl, (servers_deliverExactly
    (by simp [interleavedReads, Event.Sized])).2 _ rfl⟩

end MDK
