import MDK.StepSystem
import MDK.ThreadSteps

/-!
# Is the thread server running

`IsRunning` compares the exit code with `ERROR_STILL_ALIVE`, the largest
`unsigned long`.  The exit code also takes whatever `Initialize` returned, and
`-1` becomes the same number.
-/

namespace MDK

open StepSystem

/-! ## Exit codes -/

theorem ULong.ofInt_eq_stillAlive_iff (long : ULong) (value : BitVec 32) :
    long.ofInt value = EErrorCodes.stillAlive.value long ↔ value = -1 := by
  have hbits : 0 < long.bits := Nat.lt_of_lt_of_le (by decide) long.wide
  have hvalue : (long.ofInt value).toInt = value.toInt :=
    BitVec.toInt_signExtend_of_le long.wide
  have halive : (EErrorCodes.stillAlive.value long).toInt = -1 := by
    simp [EErrorCodes.value, BitVec.toInt_allOnes, hbits]
  have hminus : (-1 : BitVec 32).toInt = -1 := by decide
  rw [← BitVec.toInt_inj, hvalue, halive, ← hminus, BitVec.toInt_inj]

theorem ULong.ofNat_ne_allOnes (long : ULong) {value : ℕ} (hsmall : value < 5) :
    BitVec.ofNat long.bits value ≠ BitVec.allOnes long.bits := by
  intro hsame
  have hpow : 2 ^ 32 ≤ 2 ^ long.bits :=
    Nat.pow_le_pow_right (by decide) long.wide
  have hnat : value % 2 ^ long.bits = 2 ^ long.bits - 1 := by
    simpa [BitVec.toNat_allOnes] using congrArg BitVec.toNat hsame
  rw [Nat.mod_eq_of_lt (by omega)] at hnat
  omega

theorem EErrorCodes.value_ne_stillAlive
    (long : ULong) {code : EErrorCodes} (hcode : code ≠ .stillAlive) :
    code.value long ≠ EErrorCodes.stillAlive.value long := by
  cases code with
  | none => exact long.ofNat_ne_allOnes (by decide)
  | unknown => exact long.ofNat_ne_allOnes (by decide)
  | bindError => exact long.ofNat_ne_allOnes (by decide)
  | databaseError => exact long.ofNat_ne_allOnes (by decide)
  | configurationError => exact long.ofNat_ne_allOnes (by decide)
  | stillAlive => contradiction

/-- The result is stored and not yet replaced by that of `StartServer`. -/
def WorkerPhase.isAlive : WorkerPhase → Bool
  | .serving => true
  | .storeResult _ => true
  | _ => false

namespace ThreadServer

variable {long : ULong}

def Alive (server : ThreadServer long) : Prop :=
  ∃ name worker, server.workers.get? name = some worker ∧
    worker.phase.isAlive = true

theorem alive_iff_any (server : ThreadServer long) :
    server.Alive ↔ server.workers.objects.any (·.phase.isAlive) = true := by
  rw [List.any_eq_true]
  constructor
  · rintro ⟨name, worker, hget, halive⟩
    exact ⟨worker, List.mem_of_getElem? hget, halive⟩
  · rintro ⟨worker, hmem, halive⟩
    obtain ⟨name, hget⟩ := List.mem_iff_getElem?.mp hmem
    exact ⟨name, worker, hget, halive⟩

/-- `IsRunning` returns true only while a worker is alive. -/
def StatusTrue (server : ThreadServer long) : Prop :=
  server.isRunning = true → server.Alive

theorem isRunning_iff (server : ThreadServer long) :
    server.isRunning = true ↔
      server.exitCode = EErrorCodes.stillAlive.value long := by
  simp [isRunning]

/-! ## Who is alive -/

theorem alive_enter_of_alive
    {server : ThreadServer long} {name : ℕ} {worker : Worker}
    (hget : server.workers.get? name = some worker) (phase : WorkerPhase)
    (halive : phase.isAlive = true) : (server.enter name phase).Alive :=
  ⟨name, { worker with phase := phase }, Arena.get?_modify_self hget _, halive⟩

theorem SamePhases.alive_iff
    {server next : ThreadServer long} (hsame : SamePhases server next) :
    next.Alive ↔ server.Alive := by
  constructor
  · rintro ⟨name, later, hlater, halive⟩
    obtain hnew | ⟨worker, hget, hphase⟩ := hsame.before name later hlater
    · rw [hnew] at halive
      contradiction
    · exact ⟨name, worker, hget, hphase ▸ halive⟩
  · rintro ⟨name, worker, hget, halive⟩
    obtain ⟨later, hlater, hphase⟩ := hsame.after name worker hget
    exact ⟨name, later, hlater, hphase ▸ halive⟩

/-- A change that keeps alive what is alive, and nothing else. -/
theorem alive_modifyWorker_iff
    {server : ThreadServer long} {name : ℕ} {change : Worker → Worker}
    (hsame : ∀ worker, server.workers.get? name = some worker →
      (change worker).phase.isAlive = worker.phase.isAlive) :
    (server.modifyWorker name change).Alive ↔ server.Alive := by
  constructor
  · rintro ⟨other, later, hlater, halive⟩
    obtain ⟨worker, hget, ⟨rfl, rfl⟩ | ⟨_, rfl⟩⟩ := Arena.get?_modify_cases hlater
    · exact ⟨other, worker, hget, (hsame worker hget).symm.trans halive⟩
    · exact ⟨other, later, hget, halive⟩
  · rintro ⟨other, worker, hget, halive⟩
    by_cases heq : other = name
    · subst heq
      exact ⟨other, change worker, Arena.get?_modify_self hget _,
        (hsame worker hget).trans halive⟩
    · exact ⟨other, worker, (Arena.get?_modify_of_ne _ _ heq).trans hget, halive⟩

theorem alive_enter_iff
    {server : ThreadServer long} {name : ℕ} {worker : Worker}
    (hget : server.workers.get? name = some worker) (phase : WorkerPhase)
    (hsame : phase.isAlive = worker.phase.isAlive) :
    (server.enter name phase).Alive ↔ server.Alive := by
  apply alive_modifyWorker_iff
  intro found hfound
  rw [hget, Option.some.injEq] at hfound
  exact hfound ▸ hsame

theorem statusTrue_iff_of_same
    {server next : ThreadServer long} (hcode : next.exitCode = server.exitCode)
    (halive : next.Alive ↔ server.Alive) :
    next.StatusTrue ↔ server.StatusTrue := by
  rw [StatusTrue, StatusTrue, isRunning_iff, isRunning_iff, hcode, halive]

theorem StatusTrue.of_stopped
    {server : ThreadServer long}
    (hcode : server.exitCode ≠ EErrorCodes.stillAlive.value long) :
    server.StatusTrue := by
  intro hrunning
  exact absurd (server.isRunning_iff.mp hrunning) hcode

theorem new_statusTrue (long : ULong) (defaultPort : ℤ) (udp : Bool) :
    (new long defaultPort udp).StatusTrue := by
  have hnone : EErrorCodes.none ≠ .stillAlive := by decide
  exact .of_stopped (EErrorCodes.value_ne_stillAlive long hnone)

/-! ## One step -/

/-- The condition on one step: `Initialize` does not return the number of
`ERROR_STILL_ALIVE`, unless another worker is alive at that moment. -/
def KeepsStatus (server : ThreadServer long) : ThreadEvent → Prop
  | .worker name answers =>
      (server.workers.get? name).map (·.phase) = some .callInitialize →
        answers.code = -1 → server.Alive
  | _ => True

/-- Who is alive after the step of a worker. -/
theorem WorkerMoves.alive_iff
    {server next : ThreadServer long} {this : CTemplateSocket} {name : ℕ}
    {phase later : WorkerPhase} {answers : WorkerAnswers}
    (hmoves : server.WorkerMoves this name phase answers next later) :
    next.Alive ↔ (server.enter name later).Alive := by
  rw [Alive, hmoves.workers]
  exact Iff.rfl

theorem workerStep_statusTrue_iff
    {server next : ThreadServer long} {this : CTemplateSocket} {name : ℕ}
    {worker : Worker} {answers : WorkerAnswers} {later : WorkerPhase}
    (htrue : server.StatusTrue)
    (hget : server.workers.get? name = some worker)
    (hmoves : server.WorkerMoves this name worker.phase answers next later) :
    next.StatusTrue ↔ server.KeepsStatus (.worker name answers) := by
  have halive := hmoves.alive_iff
  have hkeeps : worker.phase ≠ .callInitialize →
      server.KeepsStatus (.worker name answers) := by
    intro hphase hcall
    simp [hget, hphase] at hcall
  have hsame : worker.phase ≠ .callInitialize →
      next.exitCode = server.exitCode →
      later.isAlive = worker.phase.isAlive →
      (next.StatusTrue ↔ server.KeepsStatus (.worker name answers)) := by
    intro hphase hcode hlater
    rw [alive_enter_iff hget later hlater] at halive
    exact iff_of_true ((statusTrue_iff_of_same hcode halive).mpr htrue)
      (hkeeps hphase)
  have hgoes := hmoves.goes
  generalize hphase : worker.phase = phase at hgoes
  generalize hcode : next.exitCode = code at hgoes
  cases hgoes with
  | called =>
      rw [alive_enter_iff hget _ (by rw [hphase]; rfl)] at halive
      rw [StatusTrue, isRunning_iff, hcode, long.ofInt_eq_stillAlive_iff, halive]
      simp [KeepsStatus, hget, hphase]
  | bindError =>
      refine iff_of_true (.of_stopped ?_) (hkeeps (by simp [hphase]))
      have hbind : EErrorCodes.bindError ≠ .stillAlive := by decide
      rw [hcode]
      exact EErrorCodes.value_ne_stillAlive long hbind
  | stillAlive =>
      refine iff_of_true ?_ (hkeeps (by simp [hphase]))
      intro _
      exact halive.mpr (alive_enter_of_alive hget .serving rfl)
  | @result result =>
      refine iff_of_true (.of_stopped ?_) (hkeeps (by simp [hphase]))
      intro hresult
      have hminus := (long.ofInt_eq_stillAlive_iff _).mp (hcode.symm.trans hresult)
      cases result with
      | false => exact absurd hminus (by decide)
      | true => exact absurd hminus (by decide)
  | _ => exact hsame (by simp [hphase]) hcode (by rw [hphase]; rfl)

theorem step_statusTrue_iff
    {server next : ThreadServer long} {event : ThreadEvent}
    (htrue : server.StatusTrue) (hstep : server.step event = .ok next) :
    next.StatusTrue ↔ server.KeepsStatus event := by
  cases event with
  | worker name answers =>
      cases moves_of_step hstep with
      | worker _ hget _ hmoves =>
          exact workerStep_statusTrue_iff htrue hget hmoves
  | _ =>
      have hsame := samePhases_of_step rfl hstep
      have hkept := statusTrue_iff_of_same hsame.exitCode hsame.alive_iff
      exact iff_of_true (hkept.mpr htrue) trivial

/-! ## Whole runs -/

/-- `IsRunning` tells the truth in every state of a run if and only if no
`Initialize` returns `-1` while no other worker is alive. -/
theorem statusTrue_iff_keepsStatus
    (long : ULong) (defaultPort : ℤ) (udp : Bool) (events : List ThreadEvent)
    (final : ThreadServer long)
    (hrun : run step (new long defaultPort udp) events = .ok final) :
    HoldsThroughout step StatusTrue (new long defaultPort udp) events ↔
      StepsMeet step KeepsStatus (new long defaultPort udp) events := by
  have hpres : Preserves step (fun _ => True)
      (fun _ : ThreadServer long => True) := fun _ _ _ _ _ _ => trivial
  exact hpres.holdsThroughout_iff_stepsMeet
    (fun _ _ _ _ htrue _ hstep => step_statusTrue_iff htrue hstep) trivial
    (new_statusTrue long defaultPort udp) (fun _ _ => trivial) hrun

/-- The worker's `Initialize` fails with `-1`, and the worker returns. -/
def failsWithMinusOne : List ThreadEvent :=
  [.allocBuffer [], .start 0 0 none [] 0, .caller,
    .worker 0 { WorkerAnswers.success with code := -1 }, .worker 0 .success]

theorem statusTrue_iff_keepsStatus_failsWithMinusOne :
    ∃ final, run step (new .lp64 0 false) failsWithMinusOne = .ok final ∧
      (HoldsThroughout step StatusTrue (new .lp64 0 false) failsWithMinusOne ↔
        StepsMeet step KeepsStatus (new .lp64 0 false) failsWithMinusOne) :=
  ⟨_, rfl, statusTrue_iff_keepsStatus .lp64 0 false failsWithMinusOne _ rfl⟩

/-- The worker has returned for good and `IsRunning` returns true. -/
theorem running_after_return :
    ∃ final, run step (new .lp64 0 false) failsWithMinusOne = .ok final ∧
      final.isRunning = true ∧
      final.workers.objects.map (·.phase) = [.returned] ∧
      ¬ HoldsThroughout step StatusTrue (new .lp64 0 false)
        failsWithMinusOne := by
  refine ⟨_, rfl, by decide, by decide, ?_⟩
  intro htrue
  have halive := htrue failsWithMinusOne (List.prefix_refl _) _ rfl (by decide)
  rw [alive_iff_any] at halive
  revert halive
  decide

end ThreadServer

end MDK
