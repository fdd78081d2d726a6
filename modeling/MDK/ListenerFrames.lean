import MDK.ListenerData

/-!
# Listening sockets beside each other

A listening socket and the connections it accepted share a record.  As long as
nothing happens to a handle of that record, whatever happens to the handles of
others leaves them alone: the handles, the record and what is read through it,
and no call is made on any of them.
-/

namespace MDK

open StepSystem

/-- The handle that an event happens to. -/
def Event.about (world : World) : Event → Option ℕ
  | .construct => none
  | .bind _ _ _ _ _ => none
  | .newConnection listener _ _ => some listener
  | .newConnectionReturn _ _ => world.calling
  | .tcpRead client _ _ => some client
  | .close socket => some socket
  | .closeCallback handle => some handle
  | .setData socket _ => some socket

def World.leadsTo (world : World) (record name : ℕ) : Bool :=
  world.handleIs name (·.data = .clientData record)

/-- The condition on one step: it does not happen to a handle of the record. -/
def World.Elsewhere (record : ℕ) (world : World) (event : Event) : Prop :=
  (event.about world).all (fun name => !world.leadsTo record name) = true

/-- The handles of the record are the same ones and as they were, and so is the
record; the calls are made on others. -/
structure World.Undisturbed (record : ℕ) (world next : World) : Prop where
  records : next.records.get? record = world.records.get? record
  handles : ∀ name handle, handle.data = .clientData record →
    (next.handles.get? name = some handle ↔
      world.handles.get? name = some handle)
  calls : ∃ added, next.trace = world.trace ++ added ∧
    ∀ call ∈ added, world.leadsTo record call.handle = false

theorem World.leadsTo_iff {world : World} {record name : ℕ} :
    world.leadsTo record name = true ↔
      ∃ handle, world.handles.get? name = some handle ∧
        handle.data = .clientData record := by
  rw [World.leadsTo, World.handleIs_iff]
  simp

theorem World.leadsTo_fresh (world : World) (record : ℕ) :
    world.leadsTo record world.handles.fresh = false := by
  rw [World.leadsTo, World.handleIs, Arena.get?_fresh, Option.any_none]

theorem World.Undisturbed.leadsTo_eq
    {record : ℕ} {world next : World} (hsame : world.Undisturbed record next)
    (name : ℕ) : next.leadsTo record name = world.leadsTo record name := by
  rw [Bool.eq_iff_iff, World.leadsTo_iff, World.leadsTo_iff]
  constructor
  · rintro ⟨handle, hget, hdata⟩
    exact ⟨handle, (hsame.handles name handle hdata).mp hget, hdata⟩
  · rintro ⟨handle, hget, hdata⟩
    exact ⟨handle, (hsame.handles name handle hdata).mpr hget, hdata⟩

theorem World.Undisturbed.trans
    {record : ℕ} {world next later : World}
    (hfirst : world.Undisturbed record next)
    (hsecond : next.Undisturbed record later) :
    world.Undisturbed record later where
  records := hsecond.records.trans hfirst.records
  handles name handle hdata :=
    (hsecond.handles name handle hdata).trans (hfirst.handles name handle hdata)
  calls := by
    obtain ⟨added, htrace, hadded⟩ := hfirst.calls
    obtain ⟨more, hmore, hothers⟩ := hsecond.calls
    refine ⟨added ++ more, by rw [hmore, htrace, List.append_assoc], ?_⟩
    intro call hmem
    obtain hcall | hcall := List.mem_append.mp hmem
    · exact hadded call hcall
    · rw [← hfirst.leadsTo_eq]
      exact hothers call hcall

/-! ## Frames -/

section Frames

variable {record : ℕ} {world later : World}

/-- Nothing but calls on other handles. -/
theorem World.undisturbed_of_same
    (hrecords : later.records = world.records)
    (hhandles : later.handles = world.handles) {added : List Call}
    (htrace : later.trace = world.trace ++ added)
    (hadded : ∀ call ∈ added, world.leadsTo record call.handle = false) :
    world.Undisturbed record later where
  records := by rw [hrecords]
  handles _ _ _ := by rw [hhandles]
  calls := ⟨added, htrace, hadded⟩

theorem World.undisturbed_of_alloc
    (hrecords : later.records.get? record = world.records.get? record)
    {handle : Handle} (hhandles : later.handles = world.handles.alloc handle)
    (hslot : handle.data ≠ .clientData record) {added : List Call}
    (htrace : later.trace = world.trace ++ added)
    (hadded : ∀ call ∈ added, call.handle = world.handles.fresh) :
    world.Undisturbed record later where
  records := hrecords
  handles name found hdata := by
    rw [hhandles]
    constructor
    · intro hget
      obtain ⟨_, rfl⟩ | hbefore := Arena.get?_alloc_cases hget
      · contradiction
      · exact hbefore
    · intro hget
      exact Arena.get?_alloc_of_some hget handle
  calls := by
    refine ⟨added, htrace, ?_⟩
    intro call hmem
    rw [hadded call hmem]
    exact world.leadsTo_fresh record

/-- One handle of another record changes, and stays off this one. -/
theorem World.undisturbed_of_modify
    (hrecords : later.records = world.records) {name : ℕ}
    {change : Handle → Handle}
    (hhandles : later.handles = world.handles.modify name change)
    (helsewhere : world.leadsTo record name = false)
    (hchange : ∀ handle, (change handle).data = .clientData record →
      handle.data = .clientData record) {added : List Call}
    (htrace : later.trace = world.trace ++ added)
    (hadded : ∀ call ∈ added, call.handle = name) :
    world.Undisturbed record later where
  records := by rw [hrecords]
  handles other found hdata := by
    have hoff : ∀ handle, world.handles.get? name = some handle →
        handle.data ≠ .clientData record := by
      intro handle hget hslot
      rw [World.leadsTo_iff.mpr ⟨handle, hget, hslot⟩] at helsewhere
      contradiction
    rw [hhandles]
    constructor
    · intro hget
      obtain ⟨before, hbefore, ⟨rfl, rfl⟩ | ⟨_, rfl⟩⟩ :=
        Arena.get?_modify_cases hget
      · exact absurd (hchange before hdata) (hoff before hbefore)
      · exact hbefore
    · intro hget
      have hne : other ≠ name := by
        rintro rfl
        exact hoff found hget hdata
      rw [Arena.get?_modify_of_ne _ change hne, hget]
  calls := by
    refine ⟨added, htrace, ?_⟩
    intro call hmem
    rw [hadded call hmem]
    exact helsewhere

end Frames

/-! ## One step -/

theorem World.Elsewhere.leadsTo_eq_false
    {record : ℕ} {world : World} {event : Event} {name : ℕ}
    (helsewhere : world.Elsewhere record event)
    (habout : event.about world = some name) :
    world.leadsTo record name = false := by
  rw [World.Elsewhere, habout] at helsewhere
  simpa using helsewhere

theorem World.BindsTo.handle_of_mem_added
    {world next : World} {server : ℕ} {handle : Handle} {added : List Call}
    (hbinds : world.BindsTo server handle added next) {call : Call}
    (hmem : call ∈ added) : call.handle = world.handles.fresh := by
  rcases hbinds.mem_added hmem with ⟨_, rfl | rfl⟩
  · rfl
  · rfl

/-- The new handle does not lead to a record that exists. -/
theorem World.bind_keeps_record
    {world later : World} {record server : ℕ} {handle : Handle}
    (hrecord : ∃ clientData, world.records.get? record = some clientData)
    (hslot : handle.data = .indeterminate ∧ later.records = world.records ∨
      handle.data = .clientData world.records.fresh ∧
        later.records = world.records.alloc (CClientData.new server)) :
    later.records.get? record = world.records.get? record ∧
      handle.data ≠ .clientData record := by
  obtain ⟨clientData, hclientData⟩ := hrecord
  obtain ⟨hempty, hsame⟩ | ⟨hfilled, halloc⟩ := hslot
  · rw [hsame, hempty]
    simp
  · have hne := Arena.ne_fresh_of_get? hclientData
    rw [halloc, hfilled, hclientData, Arena.get?_alloc_of_some hclientData]
    simpa using Ne.symm hne

theorem World.Valid.undisturbed_step
    {record : ℕ} {world later : World} (hvalid : world.Valid)
    (hrecord : ∃ clientData, world.records.get? record = some clientData)
    {event : Event} (helsewhere : world.Elsewhere record event)
    (hstep : world.step event = .ok later) :
    world.Undisturbed record later := by
  have hname : ∀ name, event.about world = some name →
      world.leadsTo record name = false :=
    fun name => helsewhere.leadsTo_eq_false
  cases hvalid.steps hstep with
  | construct =>
      exact World.undisturbed_of_same rfl rfl (List.append_nil _).symm (by simp)
  | @bind server ip port udp libuv _ _ _ hbinds =>
      obtain ⟨this, rfl⟩ := World.bind_of_step hstep
      obtain ⟨handle, hhandles, hslot⟩ :=
        world.bind_data server this ip port udp libuv
      obtain ⟨hkept, hoff⟩ := World.bind_keeps_record hrecord hslot
      exact World.undisturbed_of_alloc hkept hhandles hoff hbinds.trace
        fun _ => hbinds.handle_of_mem_added
  | refused =>
      exact World.undisturbed_of_same rfl rfl (List.append_nil _).symm (by simp)
  | @connected listener _ _ handle _ _ _ hget _ _ _ _ =>
      have hslot : handle.data ≠ .clientData record := by
        intro hslot
        have hoff := hname listener rfl
        rw [World.leadsTo_iff.mpr ⟨handle, hget, hslot⟩] at hoff
        contradiction
      exact World.undisturbed_of_alloc rfl rfl hslot rfl
        fun _ => World.handle_of_mem_acceptCalls
  | @rejected client _ _ hcalling _ =>
      exact World.undisturbed_of_modify rfl rfl (hname client hcalling)
        (fun _ hdata => hdata) rfl (by simp [Call.handle])
  | @reads client _ hcalling _ _ =>
      exact World.undisturbed_of_modify rfl rfl (hname client hcalling)
        (fun _ hdata => hdata) (List.append_nil _).symm (by simp)
  | @readFailed client _ _ _ _ _ _ _ =>
      exact World.undisturbed_of_modify rfl rfl (hname client rfl)
        (fun _ hdata => hdata) rfl (by simp [Call.handle])
  | readNothing =>
      exact World.undisturbed_of_same rfl rfl (List.append_nil _).symm (by simp)
  | @readChunk client _ _ _ _ _ _ _ _ _ =>
      exact World.undisturbed_of_same rfl rfl rfl
        (by simpa [Call.handle] using hname client rfl)
  | @close socket _ _ _ =>
      exact World.undisturbed_of_modify rfl rfl (hname socket rfl)
        (fun _ hdata => hdata) rfl (by simp [Call.handle])
  | @closeCallback name _ _ _ _ =>
      exact World.undisturbed_of_modify rfl rfl (hname name rfl) (by simp)
        (List.append_nil _).symm (by simp)
  | @setData socket other handle data hget _ hslot =>
      have hne : record ≠ other := by
        rintro rfl
        have hoff := hname socket rfl
        rw [World.leadsTo_iff.mpr ⟨handle, hget, hslot⟩] at hoff
        contradiction
      refine ⟨Arena.get?_modify_of_ne _ _ hne, fun _ _ _ => Iff.rfl,
        [.setData socket data], rfl, ?_⟩
      simpa [Call.handle] using hname socket rfl

/-! ## Whole runs -/

theorem World.Undisturbed.getData_eq
    {record name : ℕ} {world later : World}
    (hsame : world.Undisturbed record later)
    (hleads : world.leadsTo record name = true) :
    later.getData name = world.getData name := by
  obtain ⟨handle, hget, hslot⟩ := World.leadsTo_iff.mp hleads
  have hlater := (hsame.handles name handle hslot).mpr hget
  have hextra : later.extraRecord name = world.extraRecord name := by
    simp only [World.extraRecord, World.getSocketExtraData, hget, hlater, hslot,
      DataSlot.asClientData]
    by_cases hfreed : handle.status = .freed
    · simp [hfreed]
    · simp [hfreed, hsame.records]
  rw [World.getData, hextra, World.getData]

/-- From any reachable world: while nothing happens to the handles of one
record, every run leaves these handles and the data read through them as they
are, adds none to them, and calls neither libuv nor a handler on any of them. -/
theorem undisturbed_of_elsewhere
    {before more : List Event} {world final : World} {record : ℕ}
    (hbefore : run World.step .empty before = .ok world)
    (hmore : run World.step world more = .ok final)
    (hrecord : ∃ clientData, world.records.get? record = some clientData)
    (hmeets : StepsMeet World.step (World.Elsewhere record) world more) :
    world.Undisturbed record final ∧
      ∀ name, world.leadsTo record name = true →
        final.getData name = world.getData name := by
  have hvalid : world.Valid :=
    World.step_preserves_valid.run World.empty_valid (fun _ _ => trivial) hbefore
  have hpres : ∀ (reached : World) event next,
      reached.Valid ∧ world.Undisturbed record reached →
      reached.Elsewhere record event → reached.step event = .ok next →
      next.Valid ∧ world.Undisturbed record next := by
    intro reached event next ⟨hreached, hsame⟩ helsewhere hstep
    have hexists : ∃ clientData,
        reached.records.get? record = some clientData := by
      rw [hsame.records]
      exact hrecord
    exact ⟨(hreached.steps hstep).valid hreached,
      hsame.trans (hreached.undisturbed_step hexists helsewhere hstep)⟩
  have hinit : world.Undisturbed record world :=
    World.undisturbed_of_same rfl rfl (List.append_nil _).symm (by simp)
  obtain ⟨_, hsame⟩ := hmeets.run hpres ⟨hvalid, hinit⟩ hmore
  exact ⟨hsame, fun _ => hsame.getData_eq⟩

/-- Two servers, the second of which gets a connection. -/
def twoServers : List Event :=
  [.construct, .bind 0 [] 0 false (.success ⟨0, 7000⟩), .construct,
    .bind 1 [] 0 false (.success ⟨0, 7001⟩)]

def onSecondServer : List Event :=
  [.newConnection 1 0 0, .newConnectionReturn true 0, .setData 2 (some 42)]

theorem undisturbed_of_elsewhere_onSecondServer :
    ∃ world final, run World.step .empty twoServers = .ok world ∧
      run World.step world onSecondServer = .ok final ∧
      world.Undisturbed 0 final ∧ final.getData 2 = .ok (some 42) ∧
      final.getData 0 = world.getData 0 := by
  refine ⟨_, _, rfl, rfl, ?_⟩
  obtain ⟨hsame, hdata⟩ :=
    @undisturbed_of_elsewhere twoServers onSecondServer _ _ 0 rfl rfl
      ⟨_, rfl⟩ (by
        rw [onSecondServer, stepsMeet_cons_iff rfl, stepsMeet_cons_iff rfl,
          stepsMeet_cons_iff rfl]
        exact ⟨rfl, rfl, rfl, stepsMeet_nil _ _ _⟩)
  exact ⟨hsame, rfl, hdata 0 rfl⟩

end MDK
