import SomeipGateway.Dds.Gateway
import SomeipGateway.Lib.Machine

/-! Start and stop of the DDS gateway. The participant handle doubles as the
"already started" flag, so an error code left in it makes the next `start()`
succeed without a participant. -/
namespace SomeipGateway.Dds

open Lib

inductive LifecycleCall where
  | start (outcome : StartOutcome)
  | stop

section

variable {σ : Type}

def lifecycleStep (gw : DdsGateway σ) : LifecycleCall → DdsGateway σ × List Result
  | .start outcome => ((start outcome gw).2, [(start outcome gw).1])
  | .stop => ((stop gw).2, [(stop gw).1])

/-- A running gateway has a participant and a reader thread that is not asked to stop. -/
def Live (gw : DdsGateway σ) : Prop :=
  gw.base.running = true →
    0 < gw.participant ∧ gw.readerThread = true ∧ gw.readerStop = false

def SuccessHasParticipant (gw : DdsGateway σ) : LifecycleCall → Prop
  | .start outcome => (start outcome gw).1 = .success → 0 < (start outcome gw).2.participant
  | .stop => True

/-- A `start()` that gets past the UDP transport does not find an error code in
the participant handle. -/
def FindsNoErrorCode (gw : DdsGateway σ) : LifecycleCall → Prop
  | .start outcome => (gw.udpTransport = true → outcome.udpStart = .success) → 0 ≤ gw.participant
  | .stop => True

/-- What holds as long as no error code has been taken for a participant. -/
structure Sound (gw : DdsGateway σ) : Prop where
  participant : gw.base.running = true → 0 < gw.participant
  thread : 0 < gw.participant → gw.readerThread = true ∧ gw.readerStop = false

theorem Sound.live {gw : DdsGateway σ} (h : Sound gw) : Live gw :=
  fun hrun => ⟨h.participant hrun, h.thread (h.participant hrun)⟩

/-- Everything a `start()` can do. -/
theorem start_cases (outcome : StartOutcome) (gw : DdsGateway σ) :
    (gw.udpTransport = true ∧ outcome.udpStart ≠ .success ∧
      start outcome gw = (outcome.udpStart, gw)) ∨
    ((gw.udpTransport = true → outcome.udpStart = .success) ∧
      ((gw.participant ≠ 0 ∧
          start outcome gw = (.success, { gw with base := gw.base.setRunning true })) ∨
        (gw.participant = 0 ∧ outcome.participant ≤ 0 ∧
          start outcome gw = (.notInitialized, { gw with participant := outcome.participant })) ∨
        (gw.participant = 0 ∧ 0 < outcome.participant ∧
          start outcome gw = (.success, { gw with
            base := gw.base.setRunning true
            participant := outcome.participant
            readers := createReaders outcome 0 gw.base.serviceMappings gw.readers
            readerStop := false
            readerThread := true })))) := by
  by_cases hudp : gw.udpTransport = true ∧ outcome.udpStart ≠ .success
  · exact .inl ⟨hudp.1, hudp.2, by simp only [start, if_pos hudp]⟩
  · refine .inr ⟨fun h => by_contra fun hne => hudp ⟨h, hne⟩, ?_⟩
    simp only [start, if_neg hudp, implStart]
    by_cases hzero : gw.participant = 0
    · by_cases hcreated : outcome.participant ≤ 0
      · exact .inr (.inl ⟨hzero, hcreated, by simp [hzero, hcreated]⟩)
      · exact .inr (.inr ⟨hzero, by omega, by simp [hzero, hcreated]⟩)
    · exact .inl ⟨hzero, by simp [hzero]⟩

theorem start_sound {outcome : StartOutcome} {gw : DdsGateway σ} (h : Sound gw)
    (hok : FindsNoErrorCode gw (.start outcome)) :
    Sound (start outcome gw).2 ∧ SuccessHasParticipant gw (.start outcome) := by
  change Sound (start outcome gw).2 ∧
    ((start outcome gw).1 = .success → 0 < (start outcome gw).2.participant)
  obtain ⟨-, hfailed, heq⟩ | ⟨hudp, ⟨hne, heq⟩ | ⟨hzero, hcreated, heq⟩ | ⟨hzero, hcreated, heq⟩⟩ :=
    start_cases outcome gw
  · rw [heq]
    exact ⟨h, fun hsuccess => absurd hsuccess hfailed⟩
  · have hpos : 0 < gw.participant := by
      have hnonneg : 0 ≤ gw.participant := hok hudp
      omega
    rw [heq]
    exact ⟨⟨fun _ => hpos, h.thread⟩, fun _ => hpos⟩
  · have hstopped : gw.base.running ≠ true := by
      intro hrun
      have := h.participant hrun
      omega
    rw [heq]
    exact ⟨⟨fun hrun => absurd hrun hstopped, fun hpos => by simp only at hpos; omega⟩, nofun⟩
  · rw [heq]
    exact ⟨⟨fun _ => hcreated, fun _ => ⟨rfl, rfl⟩⟩, fun _ => hcreated⟩

theorem stop_sound (gw : DdsGateway σ) : Sound (stop gw).2 := by
  refine ⟨fun hrun => absurd hrun (by simp [stop]), fun hpos => ?_⟩
  simp only [stop, stopInternal] at hpos
  split_ifs at hpos with hlive
  · omega
  · exact absurd hpos hlive

theorem lifecycleStep_sound {gw : DdsGateway σ} {call : LifecycleCall} (h : Sound gw)
    (hok : FindsNoErrorCode gw call) :
    Sound (lifecycleStep gw call).1 ∧ SuccessHasParticipant gw call := by
  cases call with
  | start outcome => exact start_sound h hok
  | stop => exact ⟨stop_sound gw, trivial⟩

/-- A `start()` that takes an error code for a participant reports success and
leaves the gateway running without one. -/
theorem start_of_error_code {outcome : StartOutcome} {gw : DdsGateway σ}
    (hudp : gw.udpTransport = true → outcome.udpStart = .success) (hneg : gw.participant < 0) :
    (start outcome gw).2.base.running = true ∧
      (start outcome gw).2.participant = gw.participant := by
  obtain ⟨hbridge, hfailed, -⟩ | ⟨-, ⟨-, heq⟩ | ⟨hzero, -⟩ | ⟨hzero, -⟩⟩ := start_cases outcome gw
  · exact absurd (hudp hbridge) hfailed
  · rw [heq]
    exact ⟨rfl, rfl⟩
  · omega
  · omega

theorem findsNoErrorCode_of_live {gw : DdsGateway σ} {call : LifecycleCall}
    (h : Live (lifecycleStep gw call).1) : FindsNoErrorCode gw call := by
  cases call with
  | stop => trivial
  | start outcome =>
      intro hudp
      by_contra hneg
      obtain ⟨hrun, hsame⟩ := start_of_error_code hudp (Int.not_le.mp hneg)
      have hpos := (h hrun).1
      simp only [lifecycleStep, hsame] at hpos
      omega

theorem run_live_of_finds {gw : DdsGateway σ} {calls : List LifecycleCall} (h : Sound gw)
    (hok : Machine.Along lifecycleStep FindsNoErrorCode gw calls) :
    Machine.Always lifecycleStep Live gw calls ∧
      Machine.Along lifecycleStep SuccessHasParticipant gw calls := by
  induction calls generalizing gw with
  | nil => exact ⟨h.live, trivial⟩
  | cons call rest ih =>
      obtain ⟨hnext, hsuccess⟩ := lifecycleStep_sound h hok.1
      obtain ⟨halways, halong⟩ := ih hnext hok.2
      exact ⟨⟨h.live, halways⟩, hsuccess, halong⟩

theorem finds_of_run_live {gw : DdsGateway σ} {calls : List LifecycleCall}
    (h : Machine.Always lifecycleStep Live gw calls) :
    Machine.Along lifecycleStep FindsNoErrorCode gw calls := by
  induction calls generalizing gw with
  | nil => trivial
  | cons call rest ih => exact ⟨findsNoErrorCode_of_live h.2.head, ih h.2⟩

/-- Over every sequence of calls on a new gateway: each state that runs has a
participant and a reader thread, and each successful start a participant,
exactly when no `start()` finds the error code of an earlier one. -/
theorem lifecycle_live_iff (mappings : List ServiceMapping) (e2e : σ) (udpTransport : Bool)
    (calls : List LifecycleCall) :
    (Machine.Always lifecycleStep Live (fresh mappings e2e udpTransport) calls ∧
      Machine.Along lifecycleStep SuccessHasParticipant (fresh mappings e2e udpTransport) calls) ↔
      Machine.Along lifecycleStep FindsNoErrorCode (fresh mappings e2e udpTransport) calls := by
  have hfresh : Sound (fresh mappings e2e udpTransport) :=
    ⟨fun hrun => absurd hrun (by simp [fresh]), fun hpos => absurd hpos (by simp [fresh])⟩
  exact ⟨fun h => finds_of_run_live h.1, fun h => run_live_of_finds hfresh h⟩

theorem retry_after_failed_start :
    ¬ (Machine.Always lifecycleStep Live (fresh [] () false)
        [.start { participant := -1 }, .start { participant := 1 }] ∧
      Machine.Along lifecycleStep SuccessHasParticipant (fresh [] () false)
        [.start { participant := -1 }, .start { participant := 1 }]) := by
  rintro ⟨-, -, hretry, -⟩
  have hpos := hretry rfl
  exact absurd hpos (by decide)

end

end SomeipGateway.Dds
