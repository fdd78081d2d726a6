import MDK.StepSystem
import MDK.TemplateSocket

/-!
# Writes

`WriteTCP` and `WriteUDP` of a `std::string`.  The string is passed by value: its
storage lives until the call returns.  libuv copies the pointer and the length,
sends what the kernel takes at once, queues the request for the rest, and calls
back when nothing remains or the sending failed.  The callback frees the request.
-/

namespace MDK

open StepSystem

/-- The storage of a by-value string. -/
structure StringStorage where
  bytes : List UInt8
  alive : Bool
  deriving DecidableEq, Repr

/-- A `uv_buf_t`. -/
structure UvBuf where
  base : ℕ
  len : ℕ
  deriving DecidableEq, Repr

/-- A `uv_write_t` or `uv_udp_send_t`: `offset` bytes were taken by the kernel,
and `awaiting` says that libuv will call back. -/
structure SendRequest where
  kind : ESocketType
  socket : ℕ
  addr : Option SockAddr
  buf : UvBuf
  offset : ℕ
  sent : List UInt8
  awaiting : Bool
  freed : ℕ
  deriving DecidableEq, Repr

def SendRequest.malloc (kind : ESocketType) (socket : ℕ) (addr : Option SockAddr)
    (buf : UvBuf) : SendRequest :=
  ⟨kind, socket, addr, buf, 0, [], false, 0⟩

/-- libuv still has to read from the buffer. -/
def SendRequest.queued (request : SendRequest) : Bool :=
  request.awaiting && request.offset < request.buf.len

structure Writer where
  storages : Arena StringStorage
  requests : Arena SendRequest
  deriving DecidableEq, Repr

/-- The result of `uv_write` or `uv_udp_send`, and how many bytes the kernel
takes before it returns. -/
structure SendAnswers where
  result : ℤ
  accepted : ℕ
  deriving DecidableEq, Repr

namespace Writer

def new : Writer := ⟨.empty, .empty⟩

/-- What is read from a storage; from one that was destroyed, anything. -/
def read (writer : Writer) (base offset count : ℕ) (anything : List UInt8) :
    List UInt8 :=
  match writer.storages.get? base with
  | none => anything
  | some storage =>
      if storage.alive then (storage.bytes.drop offset).take count else anything

/-- `uv_write` and `uv_udp_send`; after an error libuv forgets the request. -/
def uvSend (writer : Writer) (req : ℕ) (answers : SendAnswers) : Writer :=
  if answers.result ≠ 0 then writer
  else
    { writer with
      requests := writer.requests.modify req fun request =>
        { request with
          awaiting := true
          offset := answers.accepted
          sent := writer.read request.buf.base 0 answers.accepted [] } }

/-- `WriteTCP(socket, void*, size_t)` and its UDP counterpart, whose bodies
differ in the type of the request only; the result is not looked at. -/
def writeData (writer : Writer) (kind : ESocketType) (socket data size : ℕ)
    (addr : Option SockAddr) (answers : SendAnswers) : Writer :=
  let req := writer.requests.fresh
  let buf : UvBuf := ⟨data, size⟩
  let writer := { writer with
    requests := writer.requests.alloc (.malloc kind socket addr buf) }
  writer.uvSend req answers

/-- The call with a by-value string, which is destroyed at the end. -/
def writeString (writer : Writer) (kind : ESocketType) (socket : ℕ)
    (str : List UInt8) (addr : Option SockAddr) (answers : SendAnswers) :
    Writer :=
  let name := writer.storages.fresh
  let writer := { writer with storages := writer.storages.alloc ⟨str, true⟩ }
  let writer := writer.writeData kind socket name str.length addr answers
  { writer with
    storages := writer.storages.modify name fun storage =>
      { storage with alive := false } }

def writeTCP (writer : Writer) (socket : ℕ) (str : List UInt8)
    (answers : SendAnswers) : Writer :=
  writer.writeString .tcp socket str none answers

def writeUDP (writer : Writer) (socket : ℕ) (str : List UInt8) (addr : SockAddr)
    (answers : SendAnswers) : Writer :=
  writer.writeString .udp socket str (some addr) answers

/-- The kernel takes more of a queued request. -/
def flush (writer : Writer) (req count : ℕ) (anything : List UInt8) : Writer :=
  { writer with
    requests := writer.requests.modify req fun request =>
      { request with
        offset := request.offset + count
        sent := request.sent ++
          writer.read request.buf.base request.offset count anything } }

/-- `libuv_callback_when_tcp_write_finished` and its UDP counterpart. -/
def libuvCallbackWhenWriteFinished (writer : Writer) (req : ℕ) : Writer :=
  { writer with
    requests := writer.requests.modify req fun request =>
      { request with awaiting := false, freed := request.freed + 1 } }

end Writer

inductive WriteEvent where
  | writeTCP (socket : ℕ) (str : List UInt8) (answers : SendAnswers)
  | writeUDP (socket : ℕ) (str : List UInt8) (addr : SockAddr)
      (answers : SendAnswers)
  | flush (req count : ℕ) (anything : List UInt8)
  | finished (req : ℕ) (status : ℤ)
  deriving DecidableEq, Repr

inductive WriteStop where
  | notEnabled
  deriving DecidableEq, Repr

namespace Writer

/-- The kernel never takes more than there is, and libuv reports success only of
what was sent as a whole. -/
def step (writer : Writer) : WriteEvent → Except WriteStop Writer
  | .writeTCP socket str answers =>
      if answers.accepted ≤ str.length then
        .ok (writer.writeTCP socket str answers)
      else .error .notEnabled
  | .writeUDP socket str addr answers =>
      if answers.accepted ≤ str.length then
        .ok (writer.writeUDP socket str addr answers)
      else .error .notEnabled
  | .flush req count anything =>
      match writer.requests.get? req with
      | none => .error .notEnabled
      | some request =>
          if request.queued ∧ request.offset + count ≤ request.buf.len ∧
              anything.length = count then
            .ok (writer.flush req count anything)
          else .error .notEnabled
  | .finished req status =>
      match writer.requests.get? req with
      | none => .error .notEnabled
      | some request =>
          if request.awaiting ∧ (request.queued → status ≠ 0) then
            .ok (writer.libuvCallbackWhenWriteFinished req)
          else .error .notEnabled

/-- What the writes should keep: queued requests refer to live storage, the
kernel is given the string's bytes, and every request that is not awaiting its
callback was freed once. -/
structure SoundRequest (writer : Writer) (request : SendRequest) : Prop where
  live : request.queued = true → ∃ storage,
    writer.storages.get? request.buf.base = some storage ∧ storage.alive = true
  sent : ∀ storage, writer.storages.get? request.buf.base = some storage →
    request.sent <+: storage.bytes ∧
      (request.offset = request.buf.len → request.sent = storage.bytes)
  freed : request.freed = if request.awaiting then 0 else 1

def Sound (writer : Writer) : Prop :=
  ∀ name request, writer.requests.get? name = some request →
    writer.SoundRequest request

/-! ## One write -/

/-- The request that a write leaves. -/
def written (kind : ESocketType) (socket : ℕ) (str : List UInt8)
    (addr : Option SockAddr) (answers : SendAnswers) (base : ℕ) : SendRequest :=
  if answers.result ≠ 0 then .malloc kind socket addr ⟨base, str.length⟩
  else
    { SendRequest.malloc kind socket addr ⟨base, str.length⟩ with
      awaiting := true
      offset := answers.accepted
      sent := str.take answers.accepted }

theorem writeString_eq
    (writer : Writer) (kind : ESocketType) (socket : ℕ) (str : List UInt8)
    (addr : Option SockAddr) (answers : SendAnswers) :
    writer.writeString kind socket str addr answers =
      { storages := writer.storages.alloc ⟨str, false⟩
        requests := writer.requests.alloc
          (written kind socket str addr answers writer.storages.fresh) } := by
  unfold writeString writeData uvSend written
  by_cases hresult : answers.result = 0
  · simp [hresult, Arena.modify_alloc_fresh, read, SendRequest.malloc]
  · simp [hresult, Arena.modify_alloc_fresh]

/-- Between the events every string that was written is destroyed. -/
structure Settled (writer : Writer) : Prop where
  destroyed : ∀ name storage, writer.storages.get? name = some storage →
    storage.alive = false
  bases : ∀ name request, writer.requests.get? name = some request →
    ∃ storage, writer.storages.get? request.buf.base = some storage

theorem new_settled : new.Settled where
  destroyed name storage hget := by simp [new] at hget
  bases name request hget := by simp [new] at hget

theorem new_sound : new.Sound := by
  intro name request hget
  simp [new] at hget

theorem Settled.writeString
    {writer : Writer} (hsettled : writer.Settled) (kind : ESocketType)
    (socket : ℕ) (str : List UInt8) (addr : Option SockAddr)
    (answers : SendAnswers) :
    (writer.writeString kind socket str addr answers).Settled := by
  rw [writeString_eq]
  constructor
  · intro name storage hget
    obtain ⟨_, rfl⟩ | hbefore := Arena.get?_alloc_cases hget
    · rfl
    · exact hsettled.destroyed name storage hbefore
  · intro name request hget
    obtain ⟨_, rfl⟩ | hbefore := Arena.get?_alloc_cases hget
    · refine ⟨⟨str, false⟩, ?_⟩
      unfold written
      split_ifs
      · exact Arena.get?_alloc_fresh _ _
      · exact Arena.get?_alloc_fresh _ _
    · obtain ⟨storage, hstorage⟩ := hsettled.bases name request hbefore
      exact ⟨storage, Arena.get?_alloc_of_some hstorage _⟩

theorem SoundRequest.alloc
    {writer : Writer} {request : SendRequest} (hsound : writer.SoundRequest request)
    (hbase : ∃ storage, writer.storages.get? request.buf.base = some storage)
    (added : StringStorage) (requests : Arena SendRequest) :
    SoundRequest ⟨writer.storages.alloc added, requests⟩ request := by
  obtain ⟨storage, hstorage⟩ := hbase
  have hlater := Arena.get?_alloc_of_some hstorage added
  constructor
  · intro hqueued
    obtain ⟨live, hlive, halive⟩ := hsound.live hqueued
    exact ⟨live, Arena.get?_alloc_of_some hlive added, halive⟩
  · intro found hfound
    rw [hlater, Option.some.injEq] at hfound
    exact hfound ▸ hsound.sent storage hstorage
  · exact hsound.freed

/-- The request of one write is sound if libuv took the string as a whole. -/
theorem soundRequest_written_iff
    (writer : Writer) {requests : Arena SendRequest} (kind : ESocketType)
    (socket : ℕ) (str : List UInt8) (addr : Option SockAddr)
    {answers : SendAnswers} (hfits : answers.accepted ≤ str.length) :
    SoundRequest ⟨writer.storages.alloc ⟨str, false⟩, requests⟩
        (written kind socket str addr answers writer.storages.fresh) ↔
      answers.result = 0 ∧ answers.accepted = str.length := by
  constructor
  · intro hsound
    by_cases hresult : answers.result = 0
    · refine ⟨hresult, ?_⟩
      by_contra hpartial
      have hqueued : (written kind socket str addr answers
          writer.storages.fresh).queued = true := by
        have hlt : answers.accepted < str.length :=
          Nat.lt_of_le_of_ne hfits hpartial
        simp [written, hresult, SendRequest.queued, SendRequest.malloc, hlt]
      obtain ⟨storage, hstorage, halive⟩ := hsound.live hqueued
      simp only [written, hresult, ne_eq, not_true_eq_false, if_false,
        SendRequest.malloc, Arena.get?_alloc_fresh, Option.some.injEq] at hstorage
      rw [← hstorage] at halive
      contradiction
    · have hfreed := hsound.freed
      simp [written, hresult, SendRequest.malloc] at hfreed
  · rintro ⟨hresult, hwhole⟩
    constructor
    · intro hqueued
      simp [written, hresult, SendRequest.queued, SendRequest.malloc,
        hwhole] at hqueued
    · intro storage hstorage
      simp only [written, hresult, ne_eq, not_true_eq_false, if_false,
        SendRequest.malloc, Arena.get?_alloc_fresh, Option.some.injEq] at hstorage
      subst hstorage
      simp [written, hresult, hwhole]
    · simp [written, hresult, SendRequest.malloc]

theorem Sound.writeString_iff
    {writer : Writer} (hsound : writer.Sound) (hsettled : writer.Settled)
    (kind : ESocketType) (socket : ℕ) (str : List UInt8) (addr : Option SockAddr)
    {answers : SendAnswers} (hfits : answers.accepted ≤ str.length) :
    (writer.writeString kind socket str addr answers).Sound ↔
      answers.result = 0 ∧ answers.accepted = str.length := by
  rw [writeString_eq]
  constructor
  · intro hnext
    apply (soundRequest_written_iff writer kind socket str addr hfits).mp
    exact hnext writer.requests.fresh _ (Arena.get?_alloc_fresh _ _)
  · intro hwhole name request hget
    obtain ⟨_, rfl⟩ | hbefore := Arena.get?_alloc_cases hget
    · exact (soundRequest_written_iff writer kind socket str addr hfits).mpr hwhole
    · exact (hsound name request hbefore).alloc
        (hsettled.bases name request hbefore) _ _

/-! ## The other steps -/

theorem Settled.modify
    {writer : Writer} (hsettled : writer.Settled) (req : ℕ)
    {change : SendRequest → SendRequest}
    (hbuf : ∀ request, (change request).buf = request.buf) :
    Settled { writer with requests := writer.requests.modify req change } where
  destroyed := hsettled.destroyed
  bases name request hget := by
    obtain ⟨before, hbefore, ⟨_, rfl⟩ | ⟨_, rfl⟩⟩ := Arena.get?_modify_cases hget
    · rw [hbuf]
      exact hsettled.bases name before hbefore
    · exact hsettled.bases name request hbefore

/-- While all is sound nothing is queued, since no string is alive. -/
theorem Sound.not_queued
    {writer : Writer} (hsound : writer.Sound) (hsettled : writer.Settled)
    {name : ℕ} {request : SendRequest}
    (hget : writer.requests.get? name = some request) :
    request.queued = false := by
  rw [← Bool.not_eq_true]
  intro hqueued
  obtain ⟨storage, hstorage, halive⟩ := (hsound name request hget).live hqueued
  rw [hsettled.destroyed _ storage hstorage] at halive
  contradiction

theorem Sound.finished
    {writer : Writer} (hsound : writer.Sound) {req : ℕ} {request : SendRequest}
    (hget : writer.requests.get? req = some request)
    (hawaiting : request.awaiting = true) :
    (writer.libuvCallbackWhenWriteFinished req).Sound := by
  intro name later hlater
  obtain ⟨before, hbefore, ⟨rfl, rfl⟩ | ⟨_, rfl⟩⟩ := Arena.get?_modify_cases hlater
  · have hrequest := hsound name before hbefore
    rw [hget, Option.some.injEq] at hbefore
    subst hbefore
    constructor
    · intro hqueued
      simp [SendRequest.queued] at hqueued
    · exact hrequest.sent
    · simp [hrequest.freed, hawaiting]
  · have hrequest := hsound name later hbefore
    exact ⟨hrequest.live, hrequest.sent, hrequest.freed⟩

/-- The condition on one event: libuv takes the whole string at once. -/
def TakesWhole (_ : Writer) : WriteEvent → Prop
  | .writeTCP _ str answers => answers.result = 0 ∧ answers.accepted = str.length
  | .writeUDP _ str _ answers => answers.result = 0 ∧ answers.accepted = str.length
  | _ => True

theorem step_preserves_settled : Preserves step (fun _ => True) Settled := by
  intro writer event next hsettled _ hstep
  cases event with
  | writeTCP socket str answers =>
      simp only [step] at hstep
      split_ifs at hstep
      cases hstep
      exact hsettled.writeString _ _ _ _ _
  | writeUDP socket str addr answers =>
      simp only [step] at hstep
      split_ifs at hstep
      cases hstep
      exact hsettled.writeString _ _ _ _ _
  | flush req count anything =>
      cases hget : writer.requests.get? req with
      | none => simp [step, hget] at hstep
      | some request =>
          simp only [step, hget] at hstep
          split_ifs at hstep
          cases hstep
          exact hsettled.modify req fun _ => rfl
  | finished req status =>
      cases hget : writer.requests.get? req with
      | none => simp [step, hget] at hstep
      | some request =>
          simp only [step, hget] at hstep
          split_ifs at hstep
          cases hstep
          exact hsettled.modify req fun _ => rfl

theorem sound_step_iff
    {writer next : Writer} {event : WriteEvent} (hsettled : writer.Settled)
    (hsound : writer.Sound) (hstep : writer.step event = .ok next) :
    next.Sound ↔ writer.TakesWhole event := by
  cases event with
  | writeTCP socket str answers =>
      simp only [step] at hstep
      split_ifs at hstep with hfits
      cases hstep
      exact hsound.writeString_iff hsettled .tcp socket str none hfits
  | writeUDP socket str addr answers =>
      simp only [step] at hstep
      split_ifs at hstep with hfits
      cases hstep
      exact hsound.writeString_iff hsettled .udp socket str (some addr) hfits
  | flush req count anything =>
      cases hget : writer.requests.get? req with
      | none => simp [step, hget] at hstep
      | some request =>
          have hidle := hsound.not_queued hsettled hget
          simp [step, hget, hidle] at hstep
  | finished req status =>
      cases hget : writer.requests.get? req with
      | none => simp [step, hget] at hstep
      | some request =>
          simp only [step, hget] at hstep
          split_ifs at hstep with hready
          cases hstep
          have hfinished := hsound.finished hget hready.1
          exact iff_of_true hfinished trivial

/-! ## Whole runs -/

/-- The writes are sound throughout a run if and only if libuv takes every string
as a whole before the call returns. -/
theorem sound_iff_takesWhole
    (events : List WriteEvent) (final : Writer)
    (hrun : run step new events = .ok final) :
    HoldsThroughout step Sound new events ↔
      StepsMeet step TakesWhole new events :=
  step_preserves_settled.holdsThroughout_iff_stepsMeet
    (fun _ _ _ hsettled hsound _ hstep => sound_step_iff hsettled hsound hstep)
    new_settled new_sound (fun _ _ => trivial) hrun

/-- The kernel takes one byte of two, and the other one later. -/
def partialSend : List WriteEvent :=
  [.writeTCP 0 [65, 66] ⟨0, 1⟩, .flush 0 1 [0], .finished 0 0]

theorem sound_iff_takesWhole_partialSend :
    ∃ final, run step new partialSend = .ok final ∧
      (HoldsThroughout step Sound new partialSend ↔
        StepsMeet step TakesWhole new partialSend) :=
  ⟨_, rfl, sound_iff_takesWhole partialSend _ rfl⟩

/-- The second byte is read from a string that no longer exists. -/
theorem partial_send_reads_destroyed_string :
    ∃ final, run step new partialSend = .ok final ∧
      (final.requests.get? 0).map (·.sent) = some [65, 0] ∧
      ¬ HoldsThroughout step Sound new partialSend := by
  refine ⟨_, rfl, by decide, ?_⟩
  intro hsound
  have hfinal := hsound partialSend (List.prefix_refl _) _ rfl
  have hsent := ((hfinal 0 _ rfl).sent _ rfl).1
  revert hsent
  decide

end Writer

end MDK
