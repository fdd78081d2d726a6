import MDK.ServerDelivery

/-!
# The user data of a connection

`GetData` through a connection should return what was last set through that
connection.  The connection callback gives every connection the record of its
listening socket, so connections of one server share their data.  The data of
the live connections is isolated exactly as long as the sharing does not show.
-/

namespace MDK

open StepSystem

/-- An accepted connection that was not closed. -/
def World.Live (world : World) (client : ℕ) : Prop :=
  ∃ handle, world.handles.get? client = some handle ∧
    handle.status = .active ∧ handle.acceptedFrom ≠ none

def Call.written (name : ℕ) : Call → Option Pointer
  | .setData handle data => if handle = name then some data else none
  | _ => none

/-- The pointer last set through a handle, NULL if none was. -/
def lastSet (trace : List Call) (name : ℕ) : Pointer :=
  ((trace.filterMap (Call.written name)).getLast?).getD none

def World.Isolated (world : World) : Prop :=
  ∀ client, world.Live client →
    world.getData client = .ok (lastSet world.trace client)

/-! ## What was last set -/

def Call.isSetData : Call → Bool
  | .setData _ _ => true
  | _ => false

theorem lastSet_append_of_quiet
    {added : List Call} (hquiet : ∀ call ∈ added, call.isSetData = false)
    (trace : List Call) (name : ℕ) :
    lastSet (trace ++ added) name = lastSet trace name := by
  have hnone : added.filterMap (Call.written name) = [] := by
    rw [List.filterMap_eq_nil_iff]
    intro call hmem
    have hcall := hquiet call hmem
    cases call with
    | setData handle data => simp [Call.isSetData] at hcall
    | _ => simp [Call.written]
  unfold lastSet
  rw [List.filterMap_append, hnone, List.append_nil]

theorem lastSet_append_setData
    (trace : List Call) (name : ℕ) (data : Pointer) :
    lastSet (trace ++ [.setData name data]) name = data := by
  simp [lastSet, Call.written]

theorem lastSet_append_setData_of_ne
    (trace : List Call) {name other : ℕ} (hne : name ≠ other) (data : Pointer) :
    lastSet (trace ++ [.setData name data]) other = lastSet trace other := by
  simp [lastSet, Call.written, hne]

theorem World.Valid.lastSet_fresh {world : World} (hvalid : world.Valid) :
    lastSet world.trace world.handles.fresh = none := by
  have hnone :
      world.trace.filterMap (Call.written world.handles.fresh) = [] := by
    rw [List.filterMap_eq_nil_iff]
    intro call hmem
    have hfresh := hvalid.handle_ne_fresh hmem
    cases call with
    | setData handle data =>
        simp only [Call.handle] at hfresh
        simp [Call.written, hfresh]
    | _ => simp [Call.written]
  simp [lastSet, hnone]

theorem World.BindsTo.isSetData_added
    {world next : World} {server : ℕ} {handle : Handle} {added : List Call}
    (hbinds : world.BindsTo server handle added next) :
    ∀ call ∈ added, call.isSetData = false := by
  intro call hmem
  rcases hbinds.mem_added hmem with ⟨_, hcall | hcall⟩
  · simp [hcall, Call.isSetData]
  · simp [hcall, Call.isSetData]

theorem World.isSetData_acceptCalls
    (world : World) (listener server : ℕ) (accept : ℤ) :
    ∀ call ∈ world.acceptCalls listener server accept,
      call.isSetData = false := by
  intro call hmem
  rcases World.mem_acceptCalls hmem with hcall | ⟨_, hcall⟩ | hcall
  · simp [hcall, Call.isSetData]
  · simp [hcall, Call.isSetData]
  · simp [hcall, Call.isSetData]

/-! ## Reading through a handle -/

/-- The record that a handle leads to, with what it holds. -/
structure World.Leads (world : World) (name record : ℕ) (data : Pointer) : Prop where
  handle : ∃ handle, world.handles.get? name = some handle ∧
    handle.status ≠ .freed ∧ handle.data = .clientData record
  record : ∃ clientData, world.records.get? record = some clientData ∧
    clientData.data = data

theorem World.Leads.getSocketExtraData
    {world : World} {name record : ℕ} {data : Pointer}
    (hleads : world.Leads name record data) :
    world.getSocketExtraData name = .ok (some record) := by
  obtain ⟨handle, hget, hfreed, hslot⟩ := hleads.handle
  simp [World.getSocketExtraData, hget, hfreed, hslot, DataSlot.asClientData]

theorem World.Leads.getData
    {world : World} {name record : ℕ} {data : Pointer}
    (hleads : world.Leads name record data) :
    world.getData name = .ok data := by
  obtain ⟨clientData, hrecord, hdata⟩ := hleads.record
  simp [World.getData, World.extraRecord, hleads.getSocketExtraData, hrecord,
    hdata]

theorem World.Owns.leads
    {world : World} {server name : ℕ} {handle : Handle}
    (howns : world.Owns server handle.data)
    (hget : world.handles.get? name = some handle)
    (hfreed : handle.status ≠ .freed) :
    ∃ record data, world.Leads name record data := by
  obtain ⟨record, clientData, _, hslot, hrecord, _, _⟩ := howns
  exact ⟨record, clientData.data, ⟨handle, hget, hfreed, hslot⟩,
    ⟨clientData, hrecord, rfl⟩⟩

theorem World.Live.leads
    {world : World} (hvalid : world.Valid) {client : ℕ}
    (hlive : world.Live client) : ∃ record data, world.Leads client record data := by
  obtain ⟨handle, hget, hactive, haccepted⟩ := hlive
  obtain ⟨listener, hlistener⟩ := Option.ne_none_iff_exists'.mp haccepted
  rcases (hvalid.handles client handle hget).accepted listener hlistener with
    ⟨server, _, howns⟩
  have hfreed : handle.status ≠ .freed := by simp [hactive]
  exact (howns hfreed).leads hget hfreed

theorem World.Leads.mono
    {world next : World} {name record : ℕ} {data : Pointer}
    (hleads : world.Leads name record data) {later : Handle}
    (hlater : next.handles.get? name = some later)
    (hfreed : later.status ≠ .freed)
    (hslot : ∀ handle, world.handles.get? name = some handle →
      later.data = handle.data)
    (hrecords : ∀ clientData, world.records.get? record = some clientData →
      next.records.get? record = some clientData) :
    next.Leads name record data := by
  obtain ⟨handle, hget, _, hdata⟩ := hleads.handle
  obtain ⟨clientData, hrecord, hvalue⟩ := hleads.record
  exact ⟨⟨later, hlater, hfreed, (hslot handle hget).trans hdata⟩,
    ⟨clientData, hrecords clientData hrecord, hvalue⟩⟩

theorem World.Leads.writeData_self
    {world : World} {name record : ℕ} {before : Pointer}
    (hleads : world.Leads name record before) (socket : ℕ) (data : Pointer) :
    (world.writeData socket record data).Leads name record data := by
  obtain ⟨clientData, hrecord, _⟩ := hleads.record
  exact ⟨hleads.handle,
    ⟨clientData.setData data, Arena.get?_modify_self hrecord _, rfl⟩⟩

theorem World.Leads.writeData_of_ne
    {world : World} {name record : ℕ} {before : Pointer}
    (hleads : world.Leads name record before) {other : ℕ} (hne : record ≠ other)
    (socket : ℕ) (data : Pointer) :
    (world.writeData socket other data).Leads name record before := by
  obtain ⟨clientData, hrecord, hvalue⟩ := hleads.record
  exact ⟨hleads.handle,
    ⟨clientData, (Arena.get?_modify_of_ne _ _ hne).trans hrecord, hvalue⟩⟩

/-! ## Steps -/

/-- A write goes through a handle whose record no other live connection shares,
or writes what those connections read anyway; and a connection is accepted only
while the record of its listening socket holds NULL. -/
def World.KeepsIsolation (world : World) : Event → Prop
  | .setData socket data => ∀ client, world.Live client → client ≠ socket →
      world.getSocketExtraData client = world.getSocketExtraData socket →
      world.getData client = .ok data
  | .newConnection listener status accept => 0 ≤ status → accept = 0 →
      world.getData listener = .ok none
  | _ => True

/-- A live connection reads what it read, if the step writes nothing and leaves
its slot and the records alone. -/
theorem World.Isolated.getData_later
    {world next : World} (hisolated : world.Isolated) (hvalid : world.Valid)
    {client : ℕ} (hlive : world.Live client) {later : Handle}
    (hlater : next.handles.get? client = some later)
    (hfreed : later.status ≠ .freed)
    (hslot : ∀ handle, world.handles.get? client = some handle →
      later.data = handle.data)
    (hrecords : ∀ record clientData,
      world.records.get? record = some clientData →
        next.records.get? record = some clientData)
    {added : List Call} (htrace : next.trace = world.trace ++ added)
    (hquiet : ∀ call ∈ added, call.isSetData = false) :
    next.getData client = .ok (lastSet next.trace client) := by
  obtain ⟨record, data, hleads⟩ := hlive.leads hvalid
  have hnext := hleads.mono hlater hfreed hslot (hrecords record)
  have hdata := hisolated client hlive
  rw [hleads.getData] at hdata
  rw [hnext.getData, htrace, lastSet_append_of_quiet hquiet, hdata]

theorem World.Isolated.of_sameRecords
    {world next : World} (hisolated : world.Isolated) (hvalid : world.Valid)
    (hrecords : ∀ record clientData,
      world.records.get? record = some clientData →
        next.records.get? record = some clientData)
    {added : List Call} (htrace : next.trace = world.trace ++ added)
    (hquiet : ∀ call ∈ added, call.isSetData = false)
    (hhandles : ∀ client later, next.handles.get? client = some later →
      later.status = .active → later.acceptedFrom ≠ none →
      ∃ handle, world.handles.get? client = some handle ∧
        handle.status = .active ∧ handle.acceptedFrom ≠ none ∧
        later.data = handle.data) : next.Isolated := by
  intro client hlive
  obtain ⟨later, hlater, hactive, haccepted⟩ := hlive
  rcases hhandles client later hlater hactive haccepted with
    ⟨handle, hget, hwasActive, hwasAccepted, hslot⟩
  apply hisolated.getData_later hvalid ⟨handle, hget, hwasActive, hwasAccepted⟩
    hlater (by simp [hactive]) _ hrecords htrace hquiet
  intro same hsame
  rw [hget] at hsame
  cases hsame
  exact hslot

theorem World.Isolated.of_modify
    {world next : World} (hisolated : world.Isolated) (hvalid : world.Valid)
    (hrecords : next.records = world.records) {name : ℕ}
    {change : Handle → Handle}
    (hhandles : next.handles = world.handles.modify name change)
    (hchange : ∀ handle, (change handle).status = .active →
      handle.status = .active ∧
        (change handle).acceptedFrom = handle.acceptedFrom ∧
        (change handle).data = handle.data)
    {added : List Call} (htrace : next.trace = world.trace ++ added)
    (hquiet : ∀ call ∈ added, call.isSetData = false) : next.Isolated := by
  apply hisolated.of_sameRecords hvalid _ htrace hquiet
  · intro client later hlater hactive haccepted
    rw [hhandles] at hlater
    obtain ⟨handle, hget, ⟨_, rfl⟩ | ⟨_, rfl⟩⟩ := Arena.get?_modify_cases hlater
    · obtain ⟨hwas, hsame, hslot⟩ := hchange handle hactive
      exact ⟨handle, hget, hwas, hsame ▸ haccepted, hslot⟩
    · exact ⟨later, hget, hactive, haccepted, rfl⟩
  · intro record clientData hrecord
    rw [hrecords, hrecord]

theorem World.Isolated.bindsTo
    {world next : World} (hisolated : world.Isolated) (hvalid : world.Valid)
    {server : ℕ} {handle : Handle} {added : List Call}
    (hbinds : world.BindsTo server handle added next) : next.Isolated := by
  apply hisolated.of_sameRecords hvalid _ hbinds.trace hbinds.isSetData_added
  · intro client later hlater hactive haccepted
    rw [hbinds.handles] at hlater
    obtain ⟨_, rfl⟩ | hget := Arena.get?_alloc_cases hlater
    · exact absurd hbinds.acceptedFrom haccepted
    · exact ⟨later, hget, hactive, haccepted, rfl⟩
  · intro record clientData hrecord
    rcases hbinds.records with hsame | halloc
    · rw [hsame, hrecord]
    · rw [halloc, Arena.get?_alloc_of_some hrecord]

/-- A new connection reads through the record of its listening socket. -/
theorem World.Leads.connected
    {world : World} {listener record : ℕ} {data : Pointer} {handle : Handle}
    (hleads : world.Leads listener record data)
    (hget : world.handles.get? listener = some handle)
    (server loop : ℕ) {accept : ℤ} (haccept : accept = 0) :
    (world.connected listener server
      (Handle.ofClient loop listener handle.data accept) accept).Leads
        world.handles.fresh record data := by
  obtain ⟨same, hsame, _, hslot⟩ := hleads.handle
  rw [hget] at hsame
  cases hsame
  refine ⟨⟨_, Arena.get?_alloc_fresh _ _, ?_, hslot⟩, hleads.record⟩
  simp [Handle.ofClient, haccept]

theorem World.live_connected
    (world : World) (listener server loop : ℕ) (slot : DataSlot) {accept : ℤ}
    (haccept : accept = 0) :
    (world.connected listener server
      (Handle.ofClient loop listener slot accept) accept).Live
        world.handles.fresh := by
  refine ⟨_, Arena.get?_alloc_fresh _ _, ?_, ?_⟩
  · simp [Handle.ofClient, haccept]
  · simp [Handle.ofClient, haccept]

theorem World.Valid.lastSet_connected
    {world : World} (hvalid : world.Valid) (listener server : ℕ)
    (client : Handle) (accept : ℤ) :
    lastSet (world.connected listener server client accept).trace
      world.handles.fresh = none := by
  rw [World.connected,
    lastSet_append_of_quiet (world.isSetData_acceptCalls listener server accept),
    hvalid.lastSet_fresh]

theorem World.Isolated.connected_iff
    {world : World} (hisolated : world.Isolated) (hvalid : world.Valid)
    {listener server loop : ℕ} {handle : Handle}
    (hget : world.handles.get? listener = some handle)
    (hactive : handle.status = .active)
    (howns : world.Owns server handle.data) (accept : ℤ) :
    (world.connected listener server
      (Handle.ofClient loop listener handle.data accept) accept).Isolated ↔
      (accept = 0 → world.getData listener = .ok none) := by
  obtain ⟨record, data, hleads⟩ := howns.leads hget (by simp [hactive])
  constructor
  · intro hafter haccept
    have hdata := hafter _ (world.live_connected listener server loop _ haccept)
    rw [(hleads.connected hget server loop haccept).getData,
      hvalid.lastSet_connected] at hdata
    rw [hleads.getData, hdata]
  · intro hnull client hlive
    obtain ⟨later, hlater, hlaterActive, haccepted⟩ := hlive
    by_cases hfresh : client = world.handles.fresh
    · subst hfresh
      rw [World.connected, Arena.get?_alloc_fresh] at hlater
      cases hlater
      have haccept : accept = 0 := by
        by_contra hfailed
        simp [Handle.ofClient, hfailed] at hlaterActive
      have hdata := hnull haccept
      rw [hleads.getData] at hdata
      rw [(hleads.connected hget server loop haccept).getData,
        hvalid.lastSet_connected, hdata]
    · rw [World.connected, Arena.get?_alloc, if_neg hfresh] at hlater
      have hnext : (world.connected listener server
          (Handle.ofClient loop listener handle.data accept) accept).handles.get?
            client = some later := Arena.get?_alloc_of_some hlater _
      apply hisolated.getData_later hvalid
        ⟨later, hlater, hlaterActive, haccepted⟩ hnext _ _
        (fun _ _ hrecord => hrecord) rfl
        (world.isSetData_acceptCalls listener server accept)
      · simp [hlaterActive]
      · intro same hsame
        rw [hlater] at hsame
        cases hsame
        rfl

theorem World.Isolated.writeData_iff
    {world : World} (hisolated : world.Isolated) (hvalid : world.Valid)
    {socket record : ℕ} {handle : Handle}
    (hget : world.handles.get? socket = some handle)
    (hfreed : handle.status ≠ .freed)
    (hslot : handle.data = .clientData record) (data : Pointer) :
    (world.writeData socket record data).Isolated ↔
      world.KeepsIsolation (.setData socket data) := by
  have hsocket : world.getSocketExtraData socket = .ok (some record) := by
    simp [World.getSocketExtraData, hget, hfreed, hslot, DataSlot.asClientData]
  constructor
  · intro hafter client hlive hne hshared
    obtain ⟨shared, before, hleads⟩ := hlive.leads hvalid
    rw [hleads.getSocketExtraData, hsocket] at hshared
    have hrecord : shared = record := by simpa using hshared
    subst hrecord
    have hdata := hafter client hlive
    rw [(hleads.writeData_self socket data).getData, World.writeData,
      lastSet_append_setData_of_ne _ (Ne.symm hne)] at hdata
    rw [hisolated client hlive, ← hdata]
  · intro hkeeps client hlive
    have hlive : world.Live client := hlive
    obtain ⟨shared, before, hleads⟩ := hlive.leads hvalid
    have hbefore := hisolated client hlive
    rw [hleads.getData] at hbefore
    by_cases hrecord : shared = record
    · subst hrecord
      rw [(hleads.writeData_self socket data).getData, World.writeData]
      by_cases hself : client = socket
      · rw [hself, lastSet_append_setData]
      · have hsame := hkeeps client hlive hself
          (hleads.getSocketExtraData.trans hsocket.symm)
        rw [lastSet_append_setData_of_ne _ (Ne.symm hself), ← hsame,
          hisolated client hlive]
    · have hself : socket ≠ client := by
        intro heq
        subst heq
        rw [hleads.getSocketExtraData] at hsocket
        simp only [Except.ok.injEq, Option.some.injEq] at hsocket
        exact hrecord hsocket
      rw [(hleads.writeData_of_ne hrecord socket data).getData, World.writeData,
        lastSet_append_setData_of_ne _ hself, hbefore]

theorem World.Steps.isolated_iff
    {world next : World} {event : Event} (hsteps : world.Steps event next)
    (hvalid : world.Valid) (hisolated : world.Isolated) :
    next.Isolated ↔ world.KeepsIsolation event := by
  have hclose : ∀ (calling : Option ℕ) (name : ℕ),
      ({ world with calling := calling }.uvClose name).Isolated := by
    intro calling name
    exact hisolated.of_modify hvalid rfl rfl (by simp [Handle.closing]) rfl
      (by simp [Call.isSetData])
  cases hsteps with
  | construct => exact iff_of_true hisolated trivial
  | bind hbinds => exact iff_of_true (hisolated.bindsTo hvalid hbinds) trivial
  | refused hstatus =>
      apply iff_of_true hisolated
      intro hnonneg
      omega
  | connected _ hget hlistening _ howns hstatus =>
      have hactive := ((hvalid.handles _ _ hget).listening hlistening).1
      rw [hisolated.connected_iff hvalid hget hactive howns]
      simp [World.KeepsIsolation, hstatus]
  | rejected _ _ => exact iff_of_true (hclose none _) trivial
  | reads _ _ _ =>
      apply iff_of_true _ trivial
      exact hisolated.of_modify hvalid rfl rfl (fun _ hactive => ⟨hactive, rfl, rfl⟩)
        (List.append_nil _).symm (by simp)
  | readFailed _ _ _ _ => exact iff_of_true (hclose world.calling _) trivial
  | readNothing => exact iff_of_true hisolated trivial
  | readChunk _ _ _ _ _ =>
      apply iff_of_true _ trivial
      exact hisolated.of_sameRecords hvalid (fun _ _ hrecord => hrecord) rfl
        (by simp [Call.isSetData])
        (fun _ later hlater hactive haccepted =>
          ⟨later, hlater, hactive, haccepted, rfl⟩)
  | close _ _ => exact iff_of_true (hclose world.calling _) trivial
  | closeCallback _ _ _ =>
      apply iff_of_true _ trivial
      exact hisolated.of_modify hvalid rfl rfl (by simp) (List.append_nil _).symm
        (by simp)
  | setData hget hfreed hslot =>
      exact hisolated.writeData_iff hvalid hget hfreed hslot _

/-! ## Runs -/

theorem World.empty_isolated : World.empty.Isolated := by
  intro client hlive
  obtain ⟨handle, hget, _⟩ := hlive
  simp [World.empty] at hget

theorem isolated_iff_keepsIsolation
    {events : List Event} {final : World}
    (hrun : run World.step .empty events = .ok final) :
    HoldsThroughout World.step World.Isolated .empty events ↔
      StepsMeet World.step World.KeepsIsolation .empty events := by
  apply World.step_preserves_valid.holdsThroughout_iff_stepsMeet _
    World.empty_valid World.empty_isolated (fun _ _ => trivial) hrun
  intro world event next hvalid hisolated _ hstep
  exact (hvalid.steps hstep).isolated_iff hvalid hisolated

/-- One server with two open connections. -/
def twoConnections : List Event :=
  [.construct, .bind 0 [] 0 false (.success ⟨0, 7000⟩), .newConnection 0 0 0,
    .newConnectionReturn true 0, .newConnection 0 0 0,
    .newConnectionReturn true 0]

theorem isolated_iff_keepsIsolation_twoConnections :
    HoldsThroughout World.step World.Isolated .empty twoConnections ↔
      StepsMeet World.step World.KeepsIsolation .empty twoConnections :=
  isolated_iff_keepsIsolation rfl

/-- A pointer set through the first connection is read through the second. -/
theorem setData_reaches_other_connection :
    ∃ final,
      run World.step .empty (twoConnections ++ [.setData 1 (some 42)]) =
        .ok final ∧
      final.Live 1 ∧ final.Live 2 ∧ final.getData 2 = .ok (some 42) ∧
      lastSet final.trace 2 = none ∧ ¬ final.Isolated := by
  refine ⟨_, rfl, ⟨_, rfl, rfl, Option.some_ne_none 0⟩,
    ⟨_, rfl, rfl, Option.some_ne_none 0⟩, rfl, rfl, ?_⟩
  intro hisolated
  have hdata := hisolated 2 ⟨_, rfl, rfl, Option.some_ne_none 0⟩
  revert hdata
  decide

end MDK
