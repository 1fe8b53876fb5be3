import SomeipGateway.Mqtt.Statistics

/-! `flush_offline_buffer` in every state. The loop pops until the buffer is
empty, and a publish while disconnected puts back what was popped, so that
without a connection only an empty buffer lets the loop end. -/
namespace SomeipGateway.Mqtt

open Lib

/-- What the rounds of a flush took out of the buffer. -/
def takenOut (events : List Event) : List BufferedMqttPublish :=
  events.filterMap fun
    | .publishMqtt _ _ (.flush item) => some item
    | _ => none

/-- What was published as it was taken out. -/
def publishedItems (events : List Event) : List BufferedMqttPublish :=
  (publishedCalls events).map PublishCall.item

section

variable {σ κ : Type}

/-- The flush returns, and everything it took out, as often as it did, has been
published or is in the buffer again. -/
def Flushes (gw : MqttGateway σ) : Prop :=
  ∃ fuel gw' events, flushOfflineBuffer fuel gw = some (.success, gw', events) ∧
    ∀ item, (takenOut events).count item ≤
      (publishedItems events).count item + gw'.offlineBuffer.queue.count item

theorem mem_queue_of_push {buffer after : OfflineMqttRingBuffer} {item : BufferedMqttPublish}
    {dropped : Option BufferedMqttPublish} (h : buffer.push item = some (after, dropped)) :
    item ∈ after.queue := by
  obtain ⟨kept, rfl, -⟩ := push_appends h
  exact List.mem_append_right kept (List.mem_singleton.mpr rfl)

/-- A round that finds an item and no connection. -/
def Stuck (state : MqttGateway σ × List Event) : Prop :=
  state.1.mqttConnected = false ∧ state.1.offlineBuffer.queue ≠ []

/-- Such a round ends in the same situation, unless its push is undefined. -/
theorem flushBody_stuck (state : MqttGateway σ × List Event) (h : Stuck state) :
    flushBody state = .inr none ∨ ∃ next, flushBody state = .inl next ∧ Stuck next := by
  obtain ⟨gw, events⟩ := state
  obtain ⟨hconnected, hqueue⟩ := h
  dsimp only at hconnected hqueue
  obtain ⟨item, rest, hcons⟩ := List.exists_cons_of_ne_nil hqueue
  simp only [flushBody, OfflineMqttRingBuffer.pop, hcons, publishMqtt, hconnected, Bool.not_false,
    ↓reduceIte]
  generalize PublishCall.item _ = again
  cases hpush : OfflineMqttRingBuffer.push { gw.offlineBuffer with queue := rest } again with
  | none => exact .inl rfl
  | some pushed =>
      refine .inr ⟨_, rfl, ?_⟩
      exact ⟨rfl, List.ne_nil_of_mem (mem_queue_of_push hpush)⟩

/-- The loop never leaves that situation with a result. -/
theorem flushOfflineBuffer_stuck (gw : MqttGateway σ) (h : Stuck (gw, [])) (fuel : Nat) :
    flushOfflineBuffer fuel gw = none := by
  unfold flushOfflineBuffer
  cases hrun : Loop.run flushBody fuel (gw, []) with
  | none => rfl
  | some value =>
      have hundefined : value = none := by
        refine Loop.run_post flushBody Stuck (fun value => value = none) ?_ ?_ h hrun
        · intro state next hstuck hnext
          rcases flushBody_stuck state hstuck with hleft | ⟨later, hlater, hstuck'⟩
          · cases hleft.symm.trans hnext
          · cases hlater.symm.trans hnext
            exact hstuck'
        · intro state value hstuck hdone
          rcases flushBody_stuck state hstuck with hleft | ⟨later, hlater, -⟩
          · cases hleft.symm.trans hdone
            rfl
          · cases hlater.symm.trans hdone
      rw [hundefined]

theorem flushes_connected (gw : MqttGateway σ) (hconnected : gw.mqttConnected = true) :
    Flushes gw := by
  refine ⟨_, _, _, flushOfflineBuffer_connected gw hconnected, fun item => ?_⟩
  have htaken : takenOut (flushEvents gw.offlineBuffer.queue) = gw.offlineBuffer.queue := by
    rw [takenOut, flushEvents, List.filterMap_map]
    exact List.filterMap_some
  have hpublished :
      publishedItems (flushEvents gw.offlineBuffer.queue) = gw.offlineBuffer.queue := by
    rw [publishedItems, publishedCalls_flushEvents, List.map_map]
    exact List.map_id _
  rw [htaken, hpublished]
  exact Nat.le_add_right _ _

theorem flushes_empty (gw : MqttGateway σ) (hempty : gw.offlineBuffer.queue = []) :
    Flushes gw := by
  refine ⟨1, gw, [], ?_, fun item => Nat.zero_le _⟩
  simp [flushOfflineBuffer, Loop.run, flushBody, OfflineMqttRingBuffer.pop, hempty]

/-- From any state: the flush terminates and loses nothing exactly if the gateway
is connected or there is nothing to flush. -/
theorem flush_terminates_iff (gw : MqttGateway σ) :
    Flushes gw ↔ gw.mqttConnected = true ∨ gw.offlineBuffer.queue = [] := by
  constructor
  · rintro ⟨fuel, gw', events, hflush, -⟩
    by_contra hbad
    push Not at hbad
    have hstuck : Stuck (gw, []) := ⟨Bool.eq_false_iff.mpr hbad.1, hbad.2⟩
    rw [flushOfflineBuffer_stuck gw hstuck fuel] at hflush
    cases hflush
  · rintro (hconnected | hempty)
    · exact flushes_connected gw hconnected
    · exact flushes_empty gw hempty

end

/-- One message during an outage, and a flush before the connection is back. -/
theorem flush_disconnected_diverges :
    ¬ ∀ (calls : List Call) (gw : MqttGateway Unit) (events : List Event),
      Machine.runPartial (step (plainSetup 1)) (fresh (plainSetup 1) () false) calls =
        some (gw, events) → Flushes gw := by
  intro h
  obtain ⟨fuel, gw', events, hflush, -⟩ := h
    [.addServiceMapping speedMapping, .start .success, .onSomeipMessage (speedEvent [1])] _ _ rfl
  rw [flushOfflineBuffer_stuck _ ⟨rfl, by decide⟩ fuel] at hflush
  cases hflush

end SomeipGateway.Mqtt
