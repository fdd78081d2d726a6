import MDK.CString
import MDK.SocketWrites

/-!
# Writes of the caller's own data

`WriteTCP` and `WriteUDP` of a pointer with a size, or of a `const char*`.  The
data stays where the caller has it until the request is done, and libuv reads
there what the kernel did not take at once.  The caller may overwrite the data
and release it at any time.
-/

namespace MDK

open CString StepSystem

/-- The writer, and for each request the bytes that it was to send. -/
structure Sender where
  writer : Writer
  given : Arena (List UInt8)
  deriving DecidableEq, Repr

inductive SendEvent where
  | allocate (bytes : List UInt8)
  | overwrite (data : ℕ) (bytes : List UInt8)
  | release (data : ℕ)
  | writeData (kind : ESocketType) (socket data size : ℕ)
      (addr : Option SockAddr) (answers : SendAnswers)
  | writeText (kind : ESocketType) (socket data : ℕ) (addr : Option SockAddr)
      (answers : SendAnswers)
  | flush (req count : ℕ) (anything : List UInt8)
  | finished (req : ℕ) (status : ℤ)
  deriving DecidableEq, Repr

namespace Sender

def new : Sender := ⟨.new, .empty⟩

/-- The caller's bytes behind a pointer. -/
def bytes? (sender : Sender) (data : ℕ) : Option (List UInt8) :=
  match sender.writer.storages.get? data with
  | none => none
  | some storage => if storage.alive then some storage.bytes else none

def modifyStorage (sender : Sender) (data : ℕ)
    (change : StringStorage → StringStorage) : Sender :=
  { sender with
    writer := { sender.writer with
      storages := sender.writer.storages.modify data change } }

def writeData (sender : Sender) (kind : ESocketType) (socket data : ℕ)
    (bytes : List UInt8) (addr : Option SockAddr) (answers : SendAnswers) :
    Sender where
  writer := sender.writer.writeData kind socket data bytes.length addr answers
  given := sender.given.alloc bytes

/-- The caller passes pointers to live data with at least `size` bytes, or with a
NUL for `strlen`. -/
def step (sender : Sender) : SendEvent → Except WriteStop Sender
  | .allocate bytes =>
      .ok { sender with
        writer := { sender.writer with
          storages := sender.writer.storages.alloc ⟨bytes, true⟩ } }
  | .overwrite data bytes =>
      if (sender.bytes? data).map List.length = some bytes.length then
        .ok (sender.modifyStorage data fun storage =>
          { storage with bytes := bytes })
      else .error .notEnabled
  | .release data =>
      if (sender.bytes? data).isSome then
        .ok (sender.modifyStorage data fun storage =>
          { storage with alive := false })
      else .error .notEnabled
  | .writeData kind socket data size addr answers =>
      match sender.bytes? data with
      | none => .error .notEnabled
      | some bytes =>
          if size ≤ bytes.length ∧ answers.accepted ≤ size then
            .ok (sender.writeData kind socket data (bytes.take size) addr answers)
          else .error .notEnabled
  | .writeText kind socket data addr answers =>
      match sender.bytes? data with
      | none => .error .notEnabled
      | some bytes =>
          if 0 ∈ bytes ∧ answers.accepted ≤ (cString bytes).length then
            .ok (sender.writeData kind socket data (cString bytes) addr answers)
          else .error .notEnabled
  | .flush req count anything =>
      match sender.writer.step (.flush req count anything) with
      | .error stop => .error stop
      | .ok writer => .ok { sender with writer := writer }
  | .finished req status =>
      match sender.writer.step (.finished req status) with
      | .error stop => .error stop
      | .ok writer => .ok { sender with writer := writer }

/-- What is left to send of a request, as it stands in the data now. -/
def rest (request : SendRequest) (bytes : List UInt8) : List UInt8 :=
  (bytes.drop request.offset).take (request.buf.len - request.offset)

/-- What the kernel got of a request are the bytes that were to be sent, the
others still stand in the data, and the request is freed once. -/
structure SoundSend (sender : Sender) (request : SendRequest)
    (given : List UInt8) : Prop where
  sent : request.sent = given.take request.offset
  rest : request.queued = true → ∃ bytes,
    sender.bytes? request.buf.base = some bytes ∧
      Sender.rest request bytes = given.drop request.offset
  freed : request.freed = if request.awaiting then 0 else 1

def Sound (sender : Sender) : Prop :=
  ∀ name request given, sender.writer.requests.get? name = some request →
    sender.given.get? name = some given → sender.SoundSend request given

/-- The condition on one step: libuv takes every request, and the caller neither
releases the data of a queued request nor changes what is left to send of it. -/
def LeavesQueued (sender : Sender) : SendEvent → Prop
  | .writeData _ _ _ _ _ answers => answers.result = 0
  | .writeText _ _ _ _ answers => answers.result = 0
  | .overwrite data bytes =>
      ∀ name request before, sender.writer.requests.get? name = some request →
        request.queued = true → request.buf.base = data →
        sender.bytes? data = some before →
        rest request bytes = rest request before
  | .release data =>
      ∀ name request, sender.writer.requests.get? name = some request →
        request.queued = true → request.buf.base ≠ data
  | _ => True

/-! ## What every step keeps -/

/-- Each request has its bytes, as many as its buffer says, and the kernel never
took more. -/
structure Settled (sender : Sender) : Prop where
  fresh : sender.given.fresh = sender.writer.requests.fresh
  length : ∀ name request given,
    sender.writer.requests.get? name = some request →
    sender.given.get? name = some given → given.length = request.buf.len
  offset : ∀ name request, sender.writer.requests.get? name = some request →
    request.offset ≤ request.buf.len

theorem Settled.exists_given
    {sender : Sender} (hsettled : sender.Settled) {name : ℕ}
    {request : SendRequest}
    (hget : sender.writer.requests.get? name = some request) :
    ∃ given, sender.given.get? name = some given := by
  obtain ⟨hlt, _⟩ := List.getElem?_eq_some_iff.mp hget
  have hgiven : name < sender.given.objects.length := by
    have hfresh : sender.given.objects.length =
        sender.writer.requests.objects.length := hsettled.fresh
    omega
  exact ⟨_, List.getElem?_eq_getElem hgiven⟩

/-- The request of a write that libuv takes. -/
def taken (kind : ESocketType) (socket data : ℕ) (bytes : List UInt8)
    (addr : Option SockAddr) (answers : SendAnswers) : SendRequest :=
  { SendRequest.malloc kind socket addr ⟨data, bytes.length⟩ with
    awaiting := true
    offset := answers.accepted
    sent := bytes.take answers.accepted }

/-- The request that a write leaves. -/
def written (kind : ESocketType) (socket data : ℕ) (bytes : List UInt8)
    (addr : Option SockAddr) (answers : SendAnswers) : SendRequest :=
  if answers.result = 0 then taken kind socket data bytes addr answers
  else .malloc kind socket addr ⟨data, bytes.length⟩

theorem bytes?_eq_some_iff
    {sender : Sender} {data : ℕ} {bytes : List UInt8} :
    sender.bytes? data = some bytes ↔
      sender.writer.storages.get? data = some ⟨bytes, true⟩ := by
  unfold bytes?
  cases hget : sender.writer.storages.get? data with
  | none => simp
  | some storage =>
      obtain ⟨found, alive⟩ := storage
      cases alive with
      | false => simp
      | true => simp

/-- A write of a part of live data. -/
theorem writeData_eq
    {sender : Sender} (kind : ESocketType) (socket : ℕ) {data : ℕ}
    {whole bytes : List UInt8} (addr : Option SockAddr) {answers : SendAnswers}
    (hdata : sender.bytes? data = some whole) (hpart : bytes <+: whole)
    (haccepted : answers.accepted ≤ bytes.length) :
    sender.writeData kind socket data bytes addr answers =
      { writer :=
          { storages := sender.writer.storages
            requests := sender.writer.requests.alloc
              (written kind socket data bytes addr answers) }
        given := sender.given.alloc bytes } := by
  have hstorage := bytes?_eq_some_iff.mp hdata
  have hread : whole.take answers.accepted = bytes.take answers.accepted := by
    obtain ⟨others, rfl⟩ := hpart
    exact List.take_append_of_le_length haccepted
  unfold writeData Writer.writeData Writer.uvSend written taken
  by_cases hresult : answers.result = 0
  · simp [hresult, Arena.modify_alloc_fresh, Writer.read, SendRequest.malloc,
      hstorage, hread]
  · simp [hresult]

/-! ## Inversion -/

/-- The request of a step of libuv. -/
structure Found (sender : Sender) (req : ℕ) (request : SendRequest) : Prop where
  get? : sender.writer.requests.get? req = some request
  awaiting : request.awaiting = true

inductive Steps (sender : Sender) : SendEvent → Sender → Prop where
  | allocate {bytes : List UInt8} :
      Steps sender (.allocate bytes)
        { sender with
          writer := { sender.writer with
            storages := sender.writer.storages.alloc ⟨bytes, true⟩ } }
  | overwrite {data : ℕ} {before bytes : List UInt8}
      (hbefore : sender.bytes? data = some before) :
      Steps sender (.overwrite data bytes)
        (sender.modifyStorage data fun storage => { storage with bytes := bytes })
  | release {data : ℕ} {before : List UInt8}
      (hbefore : sender.bytes? data = some before) :
      Steps sender (.release data)
        (sender.modifyStorage data fun storage =>
          { storage with alive := false })
  | writeData {kind : ESocketType} {socket data size : ℕ}
      {addr : Option SockAddr} {answers : SendAnswers} {whole : List UInt8}
      (hdata : sender.bytes? data = some whole)
      (haccepted : answers.accepted ≤ (whole.take size).length) :
      Steps sender (.writeData kind socket data size addr answers)
        (sender.writeData kind socket data (whole.take size) addr answers)
  | writeText {kind : ESocketType} {socket data : ℕ}
      {addr : Option SockAddr} {answers : SendAnswers} {whole : List UInt8}
      (hdata : sender.bytes? data = some whole)
      (haccepted : answers.accepted ≤ (cString whole).length) :
      Steps sender (.writeText kind socket data addr answers)
        (sender.writeData kind socket data (cString whole) addr answers)
  | flush {req count : ℕ} {anything : List UInt8} {request : SendRequest}
      (hfound : sender.Found req request) (hqueued : request.queued = true)
      (hfits : request.offset + count ≤ request.buf.len) :
      Steps sender (.flush req count anything)
        { sender with writer := sender.writer.flush req count anything }
  | finished {req : ℕ} {status : ℤ} {request : SendRequest}
      (hfound : sender.Found req request)
      (hdone : request.queued = true → status ≠ 0) :
      Steps sender (.finished req status)
        { sender with writer := sender.writer.libuvCallbackWhenWriteFinished req }

theorem steps_of_step
    {sender next : Sender} {event : SendEvent}
    (hstep : sender.step event = .ok next) : sender.Steps event next := by
  cases event with
  | allocate bytes =>
      cases hstep
      exact .allocate
  | overwrite data bytes =>
      simp only [step] at hstep
      split_ifs at hstep with hlength
      cases hstep
      obtain ⟨before, hbefore, _⟩ := Option.map_eq_some_iff.mp hlength
      exact .overwrite hbefore
  | release data =>
      simp only [step] at hstep
      split_ifs at hstep with hsome
      cases hstep
      obtain ⟨before, hbefore⟩ := Option.isSome_iff_exists.mp hsome
      exact .release hbefore
  | writeData kind socket data size addr answers =>
      cases hdata : sender.bytes? data with
      | none => simp [step, hdata] at hstep
      | some whole =>
          simp only [step, hdata] at hstep
          split_ifs at hstep with hready
          cases hstep
          apply Steps.writeData hdata
          rw [List.length_take_of_le hready.1]
          exact hready.2
  | writeText kind socket data addr answers =>
      cases hdata : sender.bytes? data with
      | none => simp [step, hdata] at hstep
      | some whole =>
          simp only [step, hdata] at hstep
          split_ifs at hstep with hready
          cases hstep
          exact .writeText hdata hready.2
  | flush req count anything =>
      cases hget : sender.writer.requests.get? req with
      | none => simp [step, Writer.step, hget] at hstep
      | some request =>
          by_cases hready : request.queued = true ∧
              request.offset + count ≤ request.buf.len ∧ anything.length = count
          · simp only [step, Writer.step, hget, if_pos hready] at hstep
            cases hstep
            have hawaiting : request.awaiting = true := by
              have hboth := hready.1
              rw [SendRequest.queued, Bool.and_eq_true] at hboth
              exact hboth.1
            exact .flush ⟨hget, hawaiting⟩ hready.1 hready.2.1
          · simp [step, Writer.step, hget, if_neg hready] at hstep
  | finished req status =>
      cases hget : sender.writer.requests.get? req with
      | none => simp [step, Writer.step, hget] at hstep
      | some request =>
          by_cases hready : request.awaiting = true ∧
              (request.queued = true → status ≠ 0)
          · simp only [step, Writer.step, hget, if_pos hready] at hstep
            cases hstep
            exact .finished ⟨hget, hready.1⟩ hready.2
          · simp [step, Writer.step, hget, if_neg hready] at hstep

/-! ## The bounds -/

theorem new_settled : new.Settled where
  fresh := rfl
  length name request given hget := by simp [new, Writer.new] at hget
  offset name request hget := by simp [new, Writer.new] at hget

theorem new_sound : new.Sound := by
  intro name request given hget
  simp [new, Writer.new] at hget

theorem Settled.same
    {sender next : Sender} (hsettled : sender.Settled)
    (hrequests : next.writer.requests = sender.writer.requests)
    (hgiven : next.given = sender.given) : next.Settled := by
  obtain ⟨hfresh, hlength, hoffset⟩ := hsettled
  constructor
  · rw [hrequests, hgiven]
    exact hfresh
  · rw [hrequests, hgiven]
    exact hlength
  · rw [hrequests]
    exact hoffset

theorem Settled.modify
    {sender : Sender} (hsettled : sender.Settled) (req : ℕ)
    {change : SendRequest → SendRequest}
    (hbuf : ∀ request, (change request).buf = request.buf)
    (hoffset : ∀ request, sender.writer.requests.get? req = some request →
      (change request).offset ≤ request.buf.len) :
    Settled { sender with
      writer := { sender.writer with
        requests := sender.writer.requests.modify req change } } where
  fresh := hsettled.fresh.trans (Arena.fresh_modify _ _ _).symm
  length name request given hget hgiven := by
    obtain ⟨before, hbefore, ⟨_, rfl⟩ | ⟨_, rfl⟩⟩ := Arena.get?_modify_cases hget
    · rw [hbuf]
      exact hsettled.length name before given hbefore hgiven
    · exact hsettled.length name request given hbefore hgiven
  offset name request hget := by
    obtain ⟨before, hbefore, ⟨rfl, rfl⟩ | ⟨_, rfl⟩⟩ :=
      Arena.get?_modify_cases hget
    · rw [hbuf]
      exact hoffset before hbefore
    · exact hsettled.offset name request hbefore

theorem written_buf
    (kind : ESocketType) (socket data : ℕ) (bytes : List UInt8)
    (addr : Option SockAddr) (answers : SendAnswers) :
    (written kind socket data bytes addr answers).buf =
      ⟨data, bytes.length⟩ := by
  unfold written
  split_ifs
  · rfl
  · rfl

theorem Settled.writeData
    {sender : Sender} (hsettled : sender.Settled) (kind : ESocketType)
    (socket : ℕ) {data : ℕ} {whole bytes : List UInt8} (addr : Option SockAddr)
    {answers : SendAnswers} (hdata : sender.bytes? data = some whole)
    (hpart : bytes <+: whole) (haccepted : answers.accepted ≤ bytes.length) :
    (sender.writeData kind socket data bytes addr answers).Settled := by
  rw [writeData_eq kind socket addr hdata hpart haccepted]
  have hfresh := hsettled.fresh
  constructor
  · simp [hfresh]
  · intro name request given hget hgiven
    obtain ⟨rfl, rfl⟩ | hbefore := Arena.get?_alloc_cases hget
    · rw [← hfresh, Arena.get?_alloc_fresh] at hgiven
      cases hgiven
      rw [written_buf]
    · rw [Arena.get?_alloc, hfresh,
        if_neg (Arena.ne_fresh_of_get? hbefore)] at hgiven
      exact hsettled.length name request given hbefore hgiven
  · intro name request hget
    obtain ⟨_, rfl⟩ | hbefore := Arena.get?_alloc_cases hget
    · rw [written_buf]
      unfold written
      split_ifs
      · exact haccepted
      · exact Nat.zero_le _
    · exact hsettled.offset name request hbefore

theorem cString_starts (bytes : List UInt8) : cString bytes <+: bytes :=
  List.takeWhile_prefix _

theorem step_preserves_settled : Preserves step (fun _ => True) Settled := by
  intro sender event next hsettled _ hstep
  cases steps_of_step hstep with
  | writeData hdata haccepted =>
      exact hsettled.writeData _ _ _ hdata (List.take_prefix _ _) haccepted
  | writeText hdata haccepted =>
      exact hsettled.writeData _ _ _ hdata (cString_starts _) haccepted
  | @flush req count anything request hfound _ hfits =>
      unfold Writer.flush
      apply hsettled.modify req
      · exact fun _ => rfl
      · intro other hother
        rw [hfound.get?] at hother
        cases hother
        exact hfits
  | finished hfound =>
      exact hsettled.modify _ (fun _ => rfl) fun request hget =>
        hsettled.offset _ request hget
  | _ => exact hsettled.same rfl rfl

/-! ## One step -/

/-- What is left to send stands in the data as before. -/
theorem SoundSend.keeps
    {sender next : Sender} {request : SendRequest} {given : List UInt8}
    (hsound : sender.SoundSend request given)
    (hdata : request.queued = true → ∀ bytes,
      sender.bytes? request.buf.base = some bytes →
        ∃ later, next.bytes? request.buf.base = some later ∧
          Sender.rest request later = Sender.rest request bytes) :
    next.SoundSend request given where
  sent := hsound.sent
  rest hqueued := by
    obtain ⟨bytes, hbytes, hrest⟩ := hsound.rest hqueued
    obtain ⟨later, hlater, hsame⟩ := hdata hqueued bytes hbytes
    exact ⟨later, hlater, hsame.trans hrest⟩
  freed := hsound.freed

theorem bytes?_congr
    {sender next : Sender}
    (hstorages : next.writer.storages = sender.writer.storages) (data : ℕ) :
    next.bytes? data = sender.bytes? data := by
  rw [bytes?, hstorages, bytes?]

theorem Sound.allocate
    {sender : Sender} (hsound : sender.Sound) (bytes : List UInt8) :
    Sound { sender with
      writer := { sender.writer with
        storages := sender.writer.storages.alloc ⟨bytes, true⟩ } } := by
  intro name request given hget hgiven
  apply (hsound name request given hget hgiven).keeps
  intro _ found hfound
  refine ⟨found, ?_, rfl⟩
  rw [bytes?_eq_some_iff] at hfound ⊢
  exact Arena.get?_alloc_of_some hfound _

theorem bytes?_overwrite
    {sender : Sender} {data : ℕ} {before : List UInt8}
    (hbefore : sender.bytes? data = some before) (bytes : List UInt8)
    (other : ℕ) :
    (sender.modifyStorage data fun storage =>
      { storage with bytes := bytes }).bytes? other =
        if other = data then some bytes else sender.bytes? other := by
  rw [bytes?_eq_some_iff] at hbefore
  unfold bytes? modifyStorage
  rw [Arena.get?_modify]
  split_ifs with heq
  · rw [heq, hbefore]
    rfl
  · rfl

theorem bytes?_release
    (sender : Sender) (data other : ℕ) :
    (sender.modifyStorage data fun storage =>
      { storage with alive := false }).bytes? other =
        if other = data then none else sender.bytes? other := by
  unfold bytes? modifyStorage
  rw [Arena.get?_modify]
  split_ifs with heq
  · cases sender.writer.storages.get? other with
    | none => rfl
    | some storage => rfl
  · rfl

theorem Sound.overwrite_iff
    {sender : Sender} (hsettled : sender.Settled) (hsound : sender.Sound)
    {data : ℕ} {before : List UInt8} (hbefore : sender.bytes? data = some before)
    (bytes : List UInt8) :
    Sound (sender.modifyStorage data fun storage =>
        { storage with bytes := bytes }) ↔
      sender.LeavesQueued (.overwrite data bytes) := by
  constructor
  · intro hnext name request found hget hqueued hbase hfound
    obtain ⟨given, hgiven⟩ := hsettled.exists_given hget
    obtain ⟨later, hlater, hrest⟩ :=
      (hnext name request given hget hgiven).rest hqueued
    obtain ⟨now, hnow, hnowRest⟩ :=
      (hsound name request given hget hgiven).rest hqueued
    rw [bytes?_overwrite hbefore, if_pos hbase, Option.some.injEq] at hlater
    rw [hbase, hfound, Option.some.injEq] at hnow
    rw [hlater, hnow, hrest, hnowRest]
  · intro hleaves name request given hget hgiven
    apply (hsound name request given hget hgiven).keeps
    intro hqueued found hfound
    rw [bytes?_overwrite hbefore]
    by_cases hbase : request.buf.base = data
    · rw [if_pos hbase]
      exact ⟨bytes, rfl, hleaves name request found hget hqueued hbase
        (hbase ▸ hfound)⟩
    · rw [if_neg hbase]
      exact ⟨found, hfound, rfl⟩

theorem Sound.release_iff
    {sender : Sender} (hsettled : sender.Settled) (hsound : sender.Sound)
    (data : ℕ) :
    Sound (sender.modifyStorage data fun storage =>
        { storage with alive := false }) ↔
      sender.LeavesQueued (.release data) := by
  constructor
  · intro hnext name request hget hqueued hbase
    obtain ⟨given, hgiven⟩ := hsettled.exists_given hget
    obtain ⟨later, hlater, _⟩ :=
      (hnext name request given hget hgiven).rest hqueued
    rw [bytes?_release, if_pos hbase] at hlater
    contradiction
  · intro hleaves name request given hget hgiven
    apply (hsound name request given hget hgiven).keeps
    intro hqueued found hfound
    rw [bytes?_release, if_neg (hleaves name request hget hqueued)]
    exact ⟨found, hfound, rfl⟩

/-- The new request is sound exactly if libuv took it: after an error nobody
frees it. -/
theorem Sound.writeData_iff
    {sender : Sender} (hsettled : sender.Settled) (hsound : sender.Sound)
    (kind : ESocketType) (socket : ℕ) {data : ℕ} {whole bytes : List UInt8}
    (addr : Option SockAddr) {answers : SendAnswers}
    (hdata : sender.bytes? data = some whole) (hpart : bytes <+: whole)
    (haccepted : answers.accepted ≤ bytes.length) :
    (sender.writeData kind socket data bytes addr answers).Sound ↔
      answers.result = 0 := by
  rw [writeData_eq kind socket addr hdata hpart haccepted]
  constructor
  · intro hnext
    by_contra hresult
    have hnew := hnext sender.writer.requests.fresh _ bytes
      (Arena.get?_alloc_fresh _ _)
      (by rw [← hsettled.fresh, Arena.get?_alloc_fresh])
    have hfreed := hnew.freed
    simp [written, hresult, SendRequest.malloc] at hfreed
  · intro hresult name request given hget hgiven
    obtain ⟨rfl, rfl⟩ | hget := Arena.get?_alloc_cases hget
    · rw [← hsettled.fresh, Arena.get?_alloc_fresh] at hgiven
      cases hgiven
      rw [written, if_pos hresult]
      refine ⟨rfl, ?_, rfl⟩
      intro _
      refine ⟨whole, hdata, ?_⟩
      obtain ⟨others, rfl⟩ := hpart
      simp only [Sender.rest, taken, SendRequest.malloc]
      rw [List.drop_append_of_le_length haccepted,
        List.take_append_of_le_length (by simp), List.take_of_length_le (by simp)]
    · rw [Arena.get?_alloc, hsettled.fresh,
        if_neg (Arena.ne_fresh_of_get? hget)] at hgiven
      apply (hsound name request given hget hgiven).keeps
      intro _ found hfound
      exact ⟨found, hfound, rfl⟩

/-- The kernel takes more of what is left, where it stands. -/
theorem Sound.flush
    {sender : Sender} (hsound : sender.Sound) {req count : ℕ}
    {request : SendRequest} (anything : List UInt8)
    (hfound : sender.Found req request) (hqueued : request.queued = true)
    (hfits : request.offset + count ≤ request.buf.len) :
    Sound { sender with
      writer := sender.writer.flush req count anything } := by
  intro name later given hlater hgiven
  obtain ⟨before, hbefore, ⟨rfl, rfl⟩ | ⟨_, rfl⟩⟩ :=
    Arena.get?_modify_cases hlater
  · rw [hfound.get?] at hbefore
    cases hbefore
    have hrequest := hsound name request given hfound.get? hgiven
    obtain ⟨bytes, hbytes, hrest⟩ := hrequest.rest hqueued
    have hread : sender.writer.read request.buf.base request.offset count
        anything = (given.drop request.offset).take count := by
      rw [← hrest, Sender.rest, List.take_take,
        Nat.min_eq_left (by omega)]
      simp [Writer.read, bytes?_eq_some_iff.mp hbytes]
    refine ⟨?_, ?_, hrequest.freed⟩
    · simp only [hread, hrequest.sent]
      exact (List.take_add ..).symm
    · intro _
      refine ⟨bytes, hbytes, ?_⟩
      have hdrop : (given.drop request.offset).drop count =
          given.drop (request.offset + count) := List.drop_drop ..
      simp only [Sender.rest]
      rw [← hdrop, ← hrest, Sender.rest, List.drop_take, List.drop_drop,
        Nat.sub_sub]
  · exact (hsound name later given hbefore hgiven).keeps
      fun _ bytes hbytes => ⟨bytes, hbytes, rfl⟩

theorem Sound.finished
    {sender : Sender} (hsound : sender.Sound) {req : ℕ} {request : SendRequest}
    (hfound : sender.Found req request) :
    Sound { sender with
      writer := sender.writer.libuvCallbackWhenWriteFinished req } := by
  intro name later given hlater hgiven
  obtain ⟨before, hbefore, ⟨rfl, rfl⟩ | ⟨_, rfl⟩⟩ :=
    Arena.get?_modify_cases hlater
  · have hrequest := hsound name before given hbefore hgiven
    rw [hfound.get?, Option.some.injEq] at hbefore
    subst hbefore
    refine ⟨hrequest.sent, ?_, ?_⟩
    · intro hqueued
      simp [SendRequest.queued] at hqueued
    · simp [hrequest.freed, hfound.awaiting]
  · exact (hsound name later given hbefore hgiven).keeps
      fun _ bytes hbytes => ⟨bytes, hbytes, rfl⟩

theorem sound_step_iff
    {sender next : Sender} {event : SendEvent} (hsettled : sender.Settled)
    (hsound : sender.Sound) (hstep : sender.step event = .ok next) :
    next.Sound ↔ sender.LeavesQueued event := by
  cases steps_of_step hstep with
  | allocate => exact iff_of_true (hsound.allocate _) trivial
  | overwrite hbefore => exact hsound.overwrite_iff hsettled hbefore _
  | release => exact hsound.release_iff hsettled _
  | writeData hdata haccepted =>
      exact hsound.writeData_iff hsettled _ _ _ hdata (List.take_prefix _ _)
        haccepted
  | writeText hdata haccepted =>
      exact hsound.writeData_iff hsettled _ _ _ hdata (cString_starts _)
        haccepted
  | flush hfound hqueued hfits =>
      exact iff_of_true (hsound.flush _ hfound hqueued hfits) trivial
  | finished hfound => exact iff_of_true (hsound.finished hfound) trivial

/-! ## Whole runs -/

/-- Of a request that is reported done without an error everything was sent. -/
theorem Sound.sent_of_finished
    {sender next : Sender} (hsettled : sender.Settled) (hsound : sender.Sound)
    {req : ℕ} (hstep : sender.step (.finished req 0) = .ok next) :
    ∃ request given, sender.writer.requests.get? req = some request ∧
      sender.given.get? req = some given ∧ request.sent = given := by
  cases steps_of_step hstep with
  | @finished _ _ request hfound hdone =>
      obtain ⟨given, hgiven⟩ := hsettled.exists_given hfound.get?
      have hlength := hsettled.length req request given hfound.get? hgiven
      have hwhole : given.length ≤ request.offset := by
        by_contra hshort
        have hqueued : request.queued = true := by
          rw [SendRequest.queued, hfound.awaiting, Bool.true_and,
            decide_eq_true_iff]
          omega
        exact hdone hqueued rfl
      refine ⟨request, given, hfound.get?, hgiven, ?_⟩
      rw [(hsound req request given hfound.get? hgiven).sent,
        List.take_of_length_le hwhole]

/-- The writes are sound throughout a run if and only if libuv takes each request
and the caller leaves what is queued alone; every request that is reported done
without an error has then sent the bytes that it was given. -/
theorem sound_iff_leavesQueued
    (events : List SendEvent) (final : Sender)
    (hrun : run step new events = .ok final) :
    (HoldsThroughout step Sound new events ↔
        StepsMeet step LeavesQueued new events) ∧
      (StepsMeet step LeavesQueued new events → ∀ req next,
        final.step (.finished req 0) = .ok next →
          ∃ request given, final.writer.requests.get? req = some request ∧
            final.given.get? req = some given ∧ request.sent = given) := by
  have hexact : HoldsThroughout step Sound new events ↔
      StepsMeet step LeavesQueued new events :=
    step_preserves_settled.holdsThroughout_iff_stepsMeet
      (fun _ _ _ hsettled hsound _ hstep => sound_step_iff hsettled hsound hstep)
      new_settled new_sound (fun _ _ => trivial) hrun
  refine ⟨hexact, ?_⟩
  intro hmeets req next hstep
  have hsettled : final.Settled :=
    step_preserves_settled.run new_settled (fun _ _ => trivial) hrun
  have hsound : final.Sound :=
    hexact.mpr hmeets events (List.prefix_refl _) final hrun
  exact hsound.sent_of_finished hsettled hstep

/-- Two of three bytes are queued, the first byte is overwritten. -/
def overwritesSent : List SendEvent :=
  [.allocate [65, 66, 0], .writeText .tcp 0 0 none ⟨0, 1⟩,
    .overwrite 0 [67, 66, 0], .flush 0 1 [0]]

theorem sound_iff_leavesQueued_overwritesSent :
    ∃ final, run step new overwritesSent = .ok final ∧
      (HoldsThroughout step Sound new overwritesSent ↔
        StepsMeet step LeavesQueued new overwritesSent) ∧
      (final.writer.requests.get? 0).map (·.sent) = some [65, 66] :=
  ⟨_, rfl, (sound_iff_leavesQueued overwritesSent _ rfl).1, by decide⟩

/-! ## Strings -/

/-- The overloads that take a string are a caller that releases the data when the
call returns. -/
theorem writeString_eq_run
    (sender : Sender) (kind : ESocketType) (socket : ℕ) (str : List UInt8)
    (addr : Option SockAddr) {answers : SendAnswers}
    (hfits : answers.accepted ≤ str.length) :
    ∃ final, run step sender
        [.allocate str,
          .writeData kind socket sender.writer.storages.fresh str.length addr
            answers,
          .release sender.writer.storages.fresh] = .ok final ∧
      final.writer =
        sender.writer.writeString kind socket str addr answers := by
  let allocated : Sender :=
    { sender with
      writer := { sender.writer with
        storages := sender.writer.storages.alloc ⟨str, true⟩ } }
  let data := sender.writer.storages.fresh
  have hdata : allocated.bytes? data = some str := by
    rw [bytes?_eq_some_iff]
    exact Arena.get?_alloc_fresh _ _
  let sent := allocated.writeData kind socket data str addr answers
  have hsent : sent.bytes? data = some str := by
    have hstorages : sent.writer.storages = allocated.writer.storages := by
      rw [show sent = _ from writeData_eq kind socket addr hdata
        (List.prefix_refl _) hfits]
    rw [bytes?_congr hstorages, hdata]
  refine ⟨sent.modifyStorage data fun storage =>
    { storage with alive := false }, ?_, rfl⟩
  have hwrite : allocated.step
      (.writeData kind socket data str.length addr answers) = .ok sent := by
    simp only [step, hdata]
    rw [if_pos ⟨Nat.le_refl _, hfits⟩, List.take_length]
  have hrelease : sent.step (.release data) = .ok (sent.modifyStorage data
      fun storage => { storage with alive := false }) := by
    rw [step, if_pos (by rw [hsent]; rfl)]
  rw [run_cons_eq_ok_iff]
  refine ⟨allocated, rfl, ?_⟩
  rw [run_cons_eq_ok_iff]
  refine ⟨sent, hwrite, ?_⟩
  rw [run_cons_eq_ok_iff]
  exact ⟨_, hrelease, rfl⟩

end Sender

end MDK
