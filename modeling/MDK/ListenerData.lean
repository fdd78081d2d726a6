import MDK.ConnectionData
import MDK.SharedCells

/-!
# One cell for each listening socket

What `GetData` returns is what was last set through any handle of the same
listening socket, in every run and through every handle.
-/

namespace MDK

open StepSystem

abbrev DataCells := SharedCells ℕ Pointer

/-- An accepted handle joins its listening socket. -/
def DataCells.after (cells : DataCells) : Call → DataCells
  | .uvAccept listener client _ => cells.join client listener
  | .setData handle data => cells.write handle data
  | _ => cells

def cellsOf (trace : List Call) : DataCells :=
  trace.foldl DataCells.after (.separate none)

/-- Handles share a record exactly if they share a cell, and the cell holds what
the record holds.  A handle that does not exist yet has an empty cell of its
own. -/
structure World.KeepsCells (world : World) (cells : DataCells) : Prop where
  holds : ∀ name handle record, world.handles.get? name = some handle →
    handle.data = .clientData record →
    ∃ clientData, world.records.get? record = some clientData ∧
      clientData.data = cells.read name
  shares : ∀ name other handle otherHandle record otherRecord,
    world.handles.get? name = some handle →
    world.handles.get? other = some otherHandle →
    handle.data = .clientData record →
    otherHandle.data = .clientData otherRecord →
    (cells.root name = cells.root other ↔ record = otherRecord)
  unused : ∀ name, world.handles.get? name = none →
    cells.root name = name ∧ cells.value name = none
  rooted : ∀ name handle, world.handles.get? name = some handle →
    ∃ rootHandle, world.handles.get? (cells.root name) = some rootHandle

/-! ## Traces -/

def Call.movesData : Call → Bool
  | .uvAccept _ _ _ => true
  | .setData _ _ => true
  | _ => false

theorem cellsOf_append (trace added : List Call) :
    cellsOf (trace ++ added) = added.foldl DataCells.after (cellsOf trace) := by
  simp [cellsOf]

theorem cellsOf_append_of_still
    {added : List Call} (hstill : ∀ call ∈ added, call.movesData = false)
    (trace : List Call) : cellsOf (trace ++ added) = cellsOf trace := by
  induction added generalizing trace with
  | nil => rw [List.append_nil]
  | cons call added ih =>
      have hcall : call.movesData = false := hstill call (by simp)
      rw [List.append_cons, ih fun other hmem => hstill other (by simp [hmem]),
        cellsOf_append]
      cases call with
      | uvAccept listener client result => simp [Call.movesData] at hcall
      | setData handle data => simp [Call.movesData] at hcall
      | _ => rfl

theorem World.cellsOf_acceptCalls
    (world : World) (listener server : ℕ) (accept : ℤ) :
    cellsOf (world.trace ++ world.acceptCalls listener server accept) =
      (cellsOf world.trace).join world.handles.fresh listener := by
  rw [cellsOf_append]
  unfold World.acceptCalls
  split_ifs
  · rfl
  · rfl

/-! ## What the operations do to the cells -/

section Cells

variable {world later : World} {cells : DataCells}
  (hkeeps : world.KeepsCells cells)

include hkeeps

/-- No handle and no record is new, and no slot is filled. -/
theorem World.KeepsCells.of_same
    (hrecords : later.records = world.records)
    (hhandles : ∀ name handle, later.handles.get? name = some handle →
      ∃ before, world.handles.get? name = some before ∧
        ∀ record, handle.data = .clientData record →
          before.data = .clientData record)
    (hkept : ∀ name handle, world.handles.get? name = some handle →
      ∃ after, later.handles.get? name = some after) :
    later.KeepsCells cells where
  holds name handle record hget hslot := by
    obtain ⟨before, hbefore, hdata⟩ := hhandles name handle hget
    rw [hrecords]
    exact hkeeps.holds name before record hbefore (hdata record hslot)
  shares name other handle otherHandle record otherRecord hget hother hslot
      hotherSlot := by
    obtain ⟨before, hbefore, hdata⟩ := hhandles name handle hget
    obtain ⟨otherBefore, hotherBefore, hotherData⟩ :=
      hhandles other otherHandle hother
    exact hkeeps.shares name other before otherBefore record otherRecord hbefore
      hotherBefore (hdata record hslot) (hotherData otherRecord hotherSlot)
  unused name hnone := by
    apply hkeeps.unused
    cases hget : world.handles.get? name with
    | none => rfl
    | some handle =>
        obtain ⟨after, hafter⟩ := hkept name handle hget
        rw [hnone] at hafter
        contradiction
  rooted name handle hget := by
    obtain ⟨before, hbefore, _⟩ := hhandles name handle hget
    obtain ⟨rootHandle, hroot⟩ := hkeeps.rooted name before hbefore
    exact hkept _ rootHandle hroot

theorem World.KeepsCells.root_ne_fresh
    {name : ℕ} {handle : Handle} (hget : world.handles.get? name = some handle) :
    cells.root name ≠ world.handles.fresh := by
  obtain ⟨rootHandle, hroot⟩ := hkeeps.rooted name handle hget
  exact Arena.ne_fresh_of_get? hroot

/-- The new handle leads to a new record, or to none. -/
theorem World.KeepsCells.bind
    {server : ℕ} {handle : Handle}
    (hhandles : later.handles = world.handles.alloc handle)
    (hslot : handle.data = .indeterminate ∧ later.records = world.records ∨
      handle.data = .clientData world.records.fresh ∧
        later.records = world.records.alloc (CClientData.new server)) :
    later.KeepsCells cells := by
  have hrecords : ∀ record clientData,
      world.records.get? record = some clientData →
      later.records.get? record = some clientData := by
    intro record clientData hrecord
    obtain ⟨_, hsame⟩ | ⟨_, halloc⟩ := hslot
    · rw [hsame, hrecord]
    · rw [halloc, Arena.get?_alloc_of_some hrecord]
  have hfresh := hkeeps.unused world.handles.fresh
    (Arena.get?_fresh world.handles)
  have hnew : ∀ record, handle.data = .clientData record →
      record = world.records.fresh ∧
        later.records.get? record = some (CClientData.new server) := by
    intro record hrecord
    obtain ⟨hempty, _⟩ | ⟨hfilled, halloc⟩ := hslot
    · rw [hempty] at hrecord
      contradiction
    · rw [hfilled] at hrecord
      cases hrecord
      rw [halloc]
      exact ⟨rfl, Arena.get?_alloc_fresh _ _⟩
  have hold : ∀ name before record, world.handles.get? name = some before →
      before.data = .clientData record → record ≠ world.records.fresh := by
    intro name before record hget hdata
    obtain ⟨clientData, hrecord, _⟩ := hkeeps.holds name before record hget hdata
    exact Arena.ne_fresh_of_get? hrecord
  constructor
  · intro name after record hget hdata
    rw [hhandles] at hget
    obtain ⟨rfl, rfl⟩ | hbefore := Arena.get?_alloc_cases hget
    · obtain ⟨_, hrecord⟩ := hnew record hdata
      refine ⟨_, hrecord, ?_⟩
      rw [SharedCells.read, hfresh.1, hfresh.2]
      rfl
    · obtain ⟨clientData, hrecord, hvalue⟩ :=
        hkeeps.holds name after record hbefore hdata
      exact ⟨clientData, hrecords record clientData hrecord, hvalue⟩
  · intro name other after otherAfter record otherRecord hget hother hdata
      hotherData
    rw [hhandles] at hget hother
    obtain ⟨rfl, rfl⟩ | hbefore := Arena.get?_alloc_cases hget
    · obtain ⟨rfl, rfl⟩ | hotherBefore := Arena.get?_alloc_cases hother
      · rw [hdata] at hotherData
        cases hotherData
        simp
      · apply iff_of_false
        · rw [hfresh.1]
          exact Ne.symm (hkeeps.root_ne_fresh hotherBefore)
        · rw [(hnew record hdata).1]
          exact Ne.symm (hold other otherAfter otherRecord hotherBefore
            hotherData)
    · obtain ⟨rfl, rfl⟩ | hotherBefore := Arena.get?_alloc_cases hother
      · apply iff_of_false
        · rw [hfresh.1]
          exact hkeeps.root_ne_fresh hbefore
        · rw [(hnew otherRecord hotherData).1]
          exact hold name after record hbefore hdata
      · exact hkeeps.shares name other after otherAfter record otherRecord
          hbefore hotherBefore hdata hotherData
  · intro name hnone
    apply hkeeps.unused
    cases hget : world.handles.get? name with
    | none => rfl
    | some before =>
        rw [hhandles, Arena.get?_alloc_of_some hget] at hnone
        contradiction
  · intro name after hget
    rw [hhandles] at hget ⊢
    obtain ⟨rfl, rfl⟩ | hbefore := Arena.get?_alloc_cases hget
    · rw [hfresh.1]
      exact ⟨_, Arena.get?_alloc_fresh _ _⟩
    · obtain ⟨rootHandle, hroot⟩ := hkeeps.rooted name after hbefore
      exact ⟨rootHandle, Arena.get?_alloc_of_some hroot _⟩

/-- The new connection joins its listening socket, whose slot it copies. -/
theorem World.KeepsCells.connected
    {listener : ℕ} {handle client : Handle}
    (hget : world.handles.get? listener = some handle)
    (hhandles : later.handles = world.handles.alloc client)
    (hslot : client.data = handle.data)
    (hrecords : later.records = world.records) :
    later.KeepsCells (cells.join world.handles.fresh listener) := by
  -- The new name stands for its listening socket, every other for itself.
  have hcases : ∀ name after, later.handles.get? name = some after →
      ∃ before beforeName, world.handles.get? beforeName = some before ∧
        after.data = before.data ∧
        (cells.join world.handles.fresh listener).root name =
          cells.root beforeName := by
    intro name after hafter
    rw [hhandles] at hafter
    obtain ⟨rfl, rfl⟩ | hbefore := Arena.get?_alloc_cases hafter
    · exact ⟨handle, listener, hget, hslot, by rw [SharedCells.root_join, if_pos rfl]⟩
    · exact ⟨after, name, hbefore, rfl,
        cells.root_join_of_ne (Arena.ne_fresh_of_get? hbefore) listener⟩
  constructor
  · intro name after record hafter hdata
    obtain ⟨before, beforeName, hbefore, hsame, hroot⟩ := hcases name after hafter
    rw [hrecords, SharedCells.read, hroot]
    exact hkeeps.holds beforeName before record hbefore (hsame ▸ hdata)
  · intro name other after otherAfter record otherRecord hafter hother hdata
      hotherData
    obtain ⟨before, beforeName, hbefore, hsame, hroot⟩ := hcases name after hafter
    obtain ⟨otherBefore, otherName, hotherBefore, hotherSame, hotherRoot⟩ :=
      hcases other otherAfter hother
    rw [hroot, hotherRoot]
    exact hkeeps.shares beforeName otherName before otherBefore record otherRecord
      hbefore hotherBefore (hsame ▸ hdata) (hotherSame ▸ hotherData)
  · intro name hnone
    rw [hhandles, Arena.get?_alloc] at hnone
    split_ifs at hnone with hfresh
    obtain ⟨hroot, hvalue⟩ := hkeeps.unused name hnone
    exact ⟨(cells.root_join_of_ne hfresh listener).trans hroot, hvalue⟩
  · intro name after hafter
    obtain ⟨before, beforeName, hbefore, _, hroot⟩ := hcases name after hafter
    obtain ⟨rootHandle, hfound⟩ := hkeeps.rooted beforeName before hbefore
    rw [hroot, hhandles]
    exact ⟨rootHandle, Arena.get?_alloc_of_some hfound _⟩

theorem World.KeepsCells.writeData
    {socket record : ℕ} {handle : Handle}
    (hget : world.handles.get? socket = some handle)
    (hslot : handle.data = .clientData record) (data : Pointer) :
    (world.writeData socket record data).KeepsCells
      (cells.write socket data) where
  holds name after other hafter hdata := by
    obtain ⟨clientData, hrecord, hvalue⟩ :=
      hkeeps.holds name after other hafter hdata
    have hshares := hkeeps.shares name socket after handle other record hafter
      hget hdata hslot
    by_cases heq : other = record
    · subst heq
      refine ⟨_, Arena.get?_modify_self hrecord _, ?_⟩
      rw [cells.read_write_of_root_eq (hshares.mpr rfl)]
      rfl
    · refine ⟨clientData, ?_, ?_⟩
      · exact (Arena.get?_modify_of_ne _ _ heq).trans hrecord
      · rw [cells.read_write_of_root_ne fun hroot => heq (hshares.mp hroot)]
        exact hvalue
  shares := hkeeps.shares
  unused name hnone := by
    obtain ⟨hroot, hvalue⟩ := hkeeps.unused name hnone
    refine ⟨hroot, ?_⟩
    rw [cells.value_write_of_ne _ data]
    · exact hvalue
    · intro heq
      obtain ⟨rootHandle, hfound⟩ := hkeeps.rooted socket handle hget
      have habsent : world.handles.get? name = none := hnone
      rw [heq, hfound] at habsent
      contradiction
  rooted := hkeeps.rooted

end Cells

/-! ## Steps -/

theorem World.bind_data
    (world : World) (server : ℕ) (this : CTemplateSocket) (ip : List UInt8)
    (port : ℤ) (udp : Bool) (libuv : BindAnswers) :
    ∃ handle,
      (world.bind server this ip port udp libuv).2.handles =
        world.handles.alloc handle ∧
      (handle.data = .indeterminate ∧
          (world.bind server this ip port udp libuv).2.records =
            world.records ∨
        handle.data = .clientData world.records.fresh ∧
          (world.bind server this ip port udp libuv).2.records =
            world.records.alloc (CClientData.new server)) := by
  unfold World.bind
  dsimp only
  split_ifs
  · exact ⟨_, rfl, Or.inl ⟨rfl, rfl⟩⟩
  · exact ⟨_, rfl, Or.inl ⟨rfl, rfl⟩⟩
  · exact ⟨_, rfl, Or.inl ⟨rfl, rfl⟩⟩
  · exact ⟨_, rfl, Or.inl ⟨rfl, rfl⟩⟩
  · exact ⟨_, rfl, Or.inl ⟨rfl, rfl⟩⟩
  · exact ⟨_, rfl, Or.inl ⟨rfl, rfl⟩⟩
  · exact ⟨_, rfl, Or.inr ⟨rfl, rfl⟩⟩
  · exact ⟨_, rfl, Or.inr ⟨rfl, rfl⟩⟩

theorem World.BindsTo.movesData_added
    {world next : World} {server : ℕ} {handle : Handle} {added : List Call}
    (hbinds : world.BindsTo server handle added next) :
    ∀ call ∈ added, call.movesData = false := by
  intro call hmem
  rcases hbinds.mem_added hmem with ⟨_, rfl | rfl⟩
  · rfl
  · rfl

theorem World.KeepsCells.of_modify
    {world later : World} {cells : DataCells} (hkeeps : world.KeepsCells cells)
    (hrecords : later.records = world.records) {name : ℕ}
    {change : Handle → Handle}
    (hhandles : later.handles = world.handles.modify name change)
    (hchange : ∀ handle record, (change handle).data = .clientData record →
      handle.data = .clientData record) : later.KeepsCells cells := by
  apply hkeeps.of_same hrecords
  · intro other after hafter
    rw [hhandles] at hafter
    obtain ⟨before, hbefore, ⟨_, rfl⟩ | ⟨_, rfl⟩⟩ :=
      Arena.get?_modify_cases hafter
    · exact ⟨before, hbefore, hchange before⟩
    · exact ⟨after, hbefore, fun _ hslot => hslot⟩
  · intro other handle hget
    rw [hhandles]
    exact Arena.exists_get?_modify hget name change

theorem World.Valid.keepsCells_step
    {world later : World} (hvalid : world.Valid) {event : Event}
    (hkeeps : world.KeepsCells (cellsOf world.trace))
    (hstep : world.step event = .ok later) :
    later.KeepsCells (cellsOf later.trace) := by
  have hstill : ∀ {added : List Call}, later.trace = world.trace ++ added →
      (∀ call ∈ added, call.movesData = false) →
      later.KeepsCells (cellsOf world.trace) →
      later.KeepsCells (cellsOf later.trace) := by
    intro added htrace hadded hlater
    rw [htrace, cellsOf_append_of_still hadded]
    exact hlater
  cases hvalid.steps hstep with
  | construct =>
      exact hkeeps.of_same rfl (fun _ handle hget => ⟨handle, hget, fun _ h => h⟩)
        fun _ handle hget => ⟨handle, hget⟩
  | @bind server ip port udp libuv _ _ _ hbinds =>
      obtain ⟨this, rfl⟩ := World.bind_of_step hstep
      obtain ⟨handle, hhandles, hslot⟩ :=
        world.bind_data server this ip port udp libuv
      exact hstill hbinds.trace hbinds.movesData_added
        (hkeeps.bind hhandles hslot)
  | refused _ => exact hkeeps
  | connected _ hget _ _ _ _ =>
      rw [World.connected, world.cellsOf_acceptCalls]
      exact hkeeps.connected hget rfl rfl rfl
  | @rejected client _ _ _ _ =>
      have hadded : ∀ call ∈ [Call.uvClose client], call.movesData = false := by
        simp [Call.movesData]
      exact hstill rfl hadded (hkeeps.of_modify rfl rfl fun _ _ h => h)
  | reads _ _ _ => exact hkeeps.of_modify rfl rfl fun _ _ h => h
  | @readFailed client _ _ _ _ _ _ _ =>
      have hadded : ∀ call ∈ [Call.uvClose client], call.movesData = false := by
        simp [Call.movesData]
      exact hstill rfl hadded (hkeeps.of_modify rfl rfl fun _ _ h => h)
  | readNothing => exact hkeeps
  | @readChunk client server _ nread buf _ _ _ _ _ =>
      have hadded : ∀ call ∈ [Call.onTCPRead server client
          (buf.take nread.toNat)], call.movesData = false := by
        simp [Call.movesData]
      exact hstill rfl hadded
        (hkeeps.of_same rfl (fun _ handle hget => ⟨handle, hget, fun _ h => h⟩)
          fun _ handle hget => ⟨handle, hget⟩)
  | @close socket _ _ _ =>
      have hadded : ∀ call ∈ [Call.uvClose socket], call.movesData = false := by
        simp [Call.movesData]
      exact hstill rfl hadded (hkeeps.of_modify rfl rfl fun _ _ h => h)
  | closeCallback _ _ _ => exact hkeeps.of_modify rfl rfl (by simp)
  | setData hget _ hslot =>
      rw [World.writeData, cellsOf_append]
      exact hkeeps.writeData hget hslot _

/-! ## Runs -/

theorem World.empty_keepsCells :
    World.empty.KeepsCells (cellsOf World.empty.trace) where
  holds name handle record hget := by simp [World.empty] at hget
  shares name other handle otherHandle record otherRecord hget := by
    simp [World.empty] at hget
  unused name _ := ⟨rfl, rfl⟩
  rooted name handle hget := by simp [World.empty] at hget

theorem World.leads_of_getData
    {world : World} {name : ℕ} {data : Pointer}
    (hdata : world.getData name = .ok data) :
    ∃ record, world.Leads name record data := by
  unfold World.getData World.extraRecord World.getSocketExtraData at hdata
  cases hget : world.handles.get? name with
  | none => simp [hget] at hdata
  | some handle =>
      simp only [hget] at hdata
      by_cases hfreed : handle.status = .freed
      · simp [hfreed] at hdata
      · rw [if_neg hfreed] at hdata
        cases hslot : handle.data with
        | indeterminate => simp [hslot, DataSlot.asClientData] at hdata
        | empty => simp [hslot, DataSlot.asClientData] at hdata
        | templateSocket _ => simp [hslot, DataSlot.asClientData] at hdata
        | clientData record =>
            simp only [hslot, DataSlot.asClientData] at hdata
            cases hrecord : world.records.get? record with
            | none => simp [hrecord] at hdata
            | some clientData =>
                simp only [hrecord, Except.ok.injEq] at hdata
                exact ⟨record, ⟨handle, hget, hfreed, hslot⟩,
                  ⟨clientData, hrecord, hdata⟩⟩

/-- In every run, a listening socket and every connection that was not freed
read what was last set through any handle of that listening socket; and whatever
`GetData` returns on any handle is that. -/
theorem getData_eq_cell
    {events : List Event} {final : World}
    (hrun : run World.step .empty events = .ok final) (name : ℕ) :
    (∀ data, final.getData name = .ok data →
      data = (cellsOf final.trace).read name) ∧
    ∀ handle, final.handles.get? name = some handle →
      (handle.listening = true ∨
        handle.acceptedFrom ≠ none ∧ handle.status ≠ .freed) →
      final.getData name = .ok ((cellsOf final.trace).read name) := by
  have hvalid : final.Valid := World.step_preserves_valid.run World.empty_valid
    (fun _ _ => trivial) hrun
  have hkeeps : final.KeepsCells (cellsOf final.trace) := by
    have hpres : Preserves World.step (fun _ => True) fun world =>
        world.Valid ∧ world.KeepsCells (cellsOf world.trace) :=
      fun _ _ _ hinv _ hstep => ⟨World.step_preserves_valid _ _ _ hinv.1 trivial
        hstep, hinv.1.keepsCells_step hinv.2 hstep⟩
    exact (hpres.run ⟨World.empty_valid, World.empty_keepsCells⟩
      (fun _ _ => trivial) hrun).2
  have hread : ∀ record data, final.Leads name record data →
      data = (cellsOf final.trace).read name := by
    intro record data hleads
    obtain ⟨handle, hget, _, hslot⟩ := hleads.handle
    obtain ⟨clientData, hrecord, hdata⟩ := hleads.record
    obtain ⟨found, hfound, hvalue⟩ := hkeeps.holds name handle record hget hslot
    rw [hrecord] at hfound
    cases hfound
    exact hdata.symm.trans hvalue
  constructor
  · intro data hdata
    obtain ⟨record, hleads⟩ := World.leads_of_getData hdata
    exact hread record data hleads
  · intro handle hget hcase
    have howns : ∃ server, final.Owns server handle.data ∧
        handle.status ≠ .freed := by
      obtain hlistening | ⟨haccepted, hfreed⟩ := hcase
      · obtain ⟨hactive, server, _, howns⟩ :=
          (hvalid.handles name handle hget).listening hlistening
        exact ⟨server, howns, by simp [hactive]⟩
      · obtain ⟨listener, hlistener⟩ := Option.ne_none_iff_exists'.mp haccepted
        obtain ⟨server, _, howns⟩ :=
          (hvalid.handles name handle hget).accepted listener hlistener
        exact ⟨server, howns hfreed, hfreed⟩
    obtain ⟨server, howns, hfreed⟩ := howns
    obtain ⟨record, data, hleads⟩ := howns.leads hget hfreed
    rw [hleads.getData, hread record data hleads]

/-- Data set through the first connection of a server, which then goes. -/
def setThenClosed : List Event :=
  twoConnections ++ [.setData 1 (some 42), .close 1, .closeCallback 1]

theorem getData_eq_cell_setThenClosed :
    ∃ final, run World.step .empty setThenClosed = .ok final ∧
      final.getData 0 = .ok (some 42) ∧ final.getData 2 = .ok (some 42) := by
  refine ⟨_, rfl, ?_, ?_⟩
  · exact (@getData_eq_cell setThenClosed _ rfl 0).2 _ rfl (Or.inl rfl)
  · exact (@getData_eq_cell setThenClosed _ rfl 2).2 _ rfl
      (Or.inr ⟨by decide, by decide⟩)

end MDK
