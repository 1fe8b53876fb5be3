import SomeipGateway.Lib.Fifo
import SomeipGateway.Mqtt.Gateway

/-! The offline buffer over whole runs. The events of a run are a ledger of the
buffer in the sense of `Lib.Fifo`, which gives conservation: what was published
offline is what has been removed since, followed by what is still buffered. -/
namespace SomeipGateway.Mqtt

open Lib

def Event.ledger : Event → Option (Fifo.Event BufferedMqttPublish)
  | .publishMqtt _ _ (.message _) => none
  | .publishMqtt _ _ (.flush item) => some (.leave item)
  | .evicted item _ => some (.evict item)
  | .buffered item => some (.enter item)

section

variable {σ κ : Type} (setup : Setup σ κ)

/-- A push into a buffer with room for anything at all is defined; it evicts
only from a full buffer. -/
theorem push_ledger {buffer : OfflineMqttRingBuffer} (hpos : 0 < buffer.capacity)
    (hfits : buffer.queue.length ≤ buffer.capacity) (item : BufferedMqttPublish) :
    ∃ after dropped, buffer.push item = some (after, dropped) ∧
      after.capacity = buffer.capacity ∧
      Fifo.Steps buffer.capacity buffer.queue
        (dropped.toList.map .evict ++ [.enter item]) after.queue ∧
      (dropped.isSome → buffer.queue.length = buffer.capacity) := by
  by_cases hfull : buffer.queue.length ≥ buffer.capacity
  · have hpos : 0 < buffer.queue.length := by omega
    obtain ⟨front, rest, hqueue⟩ := List.exists_cons_of_length_pos hpos
    have hlength : (front :: rest).length = buffer.capacity := by
      rw [← hqueue]
      omega
    refine ⟨{ buffer with queue := rest ++ [item] }, some front, ?_, rfl, ?_, ?_⟩
    · rw [hqueue] at hfull
      simp only [OfflineMqttRingBuffer.push, hqueue, if_pos hfull]
    · rw [hqueue]
      have hroom : rest.length < buffer.capacity := by
        rw [List.length_cons] at hlength
        omega
      exact .cons (.evict front rest hlength) (.cons (.enter rest item hroom) (.nil _))
    · intro _
      omega
  · refine ⟨{ buffer with queue := buffer.queue ++ [item] }, none, ?_, rfl, ?_, by simp⟩
    · simp only [OfflineMqttRingBuffer.push, if_neg hfull]
    · exact .cons (.enter buffer.queue item (by omega)) (.nil _)

/-- A push that is defined puts the item behind what it keeps; it had room for
it, or has dropped something. -/
theorem push_appends {buffer after : OfflineMqttRingBuffer} {item : BufferedMqttPublish}
    {dropped : Option BufferedMqttPublish} (h : buffer.push item = some (after, dropped)) :
    ∃ kept, after = { buffer with queue := kept ++ [item] } ∧
      (kept.length < buffer.capacity ∨ kept.length < buffer.queue.length) := by
  unfold OfflineMqttRingBuffer.push at h
  by_cases hfull : buffer.queue.length ≥ buffer.capacity
  · rw [if_pos hfull] at h
    cases hqueue : buffer.queue with
    | nil =>
        rw [hqueue] at h
        cases h
    | cons front rest =>
        rw [hqueue] at h
        cases h
        exact ⟨rest, rfl, .inr (Nat.lt_succ_self _)⟩
  · rw [if_neg hfull] at h
    cases h
    exact ⟨buffer.queue, rfl, .inl (Nat.lt_of_not_le hfull)⟩

/-! ### The buffer on its own -/

def WithinCapacity (capacity : Nat) (buffer : OfflineMqttRingBuffer)
    (_ : List BufferedMqttPublish) : Prop :=
  buffer.capacity = capacity ∧ buffer.size ≤ capacity

def PushesWithRoom (capacity : Nat) (_ : OfflineMqttRingBuffer) (call : BufferCall) : Prop :=
  1 ≤ capacity ∨ ∀ item, call ≠ .push item

theorem bufferStep_within {capacity : Nat} (buffer : OfflineMqttRingBuffer)
    (log : List BufferedMqttPublish) (call : BufferCall)
    (h : WithinCapacity capacity buffer log) (hroom : PushesWithRoom capacity buffer call) :
    ∃ now, buffer.step call = some now ∧ WithinCapacity capacity now.1 (log ++ now.2) := by
  obtain ⟨rfl, hsize⟩ := h
  cases call with
  | push item =>
      have hpos : 0 < buffer.capacity := by
        rcases hroom with hpos | hpush
        · exact hpos
        · exact absurd rfl (hpush item)
      obtain ⟨after, dropped, hpush, hcapacity, hsteps, -⟩ := push_ledger hpos hsize item
      refine ⟨(after, []), ?_, hcapacity, hsteps.length_le hsize⟩
      rw [OfflineMqttRingBuffer.step, hpush]
  | pop =>
      unfold OfflineMqttRingBuffer.step OfflineMqttRingBuffer.pop
      unfold OfflineMqttRingBuffer.size at hsize
      cases hqueue : buffer.queue with
      | nil => exact ⟨(buffer, []), rfl, rfl, hsize⟩
      | cons front rest =>
          refine ⟨({ buffer with queue := rest }, [front]), rfl, rfl, ?_⟩
          rw [hqueue, List.length_cons] at hsize
          exact Nat.le_of_succ_le hsize
  | clear => exact ⟨(buffer.clear, []), rfl, rfl, Nat.zero_le _⟩

/-- Without any capacity the queue stays empty until the first push, and that
push takes the front of the empty queue. -/
theorem bufferRun_without_capacity (calls : List BufferCall) (item : BufferedMqttPublish)
    (hmem : .push item ∈ calls) :
    Machine.runPartial OfflineMqttRingBuffer.step { capacity := 0 } calls = none := by
  induction calls with
  | nil => exact absurd hmem List.not_mem_nil
  | cons call rest ih =>
      have hlater (hpush : ∀ item, call ≠ .push item) :
          Machine.runPartial OfflineMqttRingBuffer.step { capacity := 0 } rest = none := by
        apply ih
        rcases List.mem_cons.mp hmem with hnow | hlater
        · exact absurd hnow.symm (hpush item)
        · exact hlater
      cases call with
      | push _ => rfl
      | pop => simp [Machine.runPartial, OfflineMqttRingBuffer.step, OfflineMqttRingBuffer.pop,
          hlater (by simp)]
      | clear => simp [Machine.runPartial, OfflineMqttRingBuffer.step,
          OfflineMqttRingBuffer.clear, hlater (by simp)]

/-- For every capacity and every sequence of calls on a new buffer: no call takes
the front of an empty queue and the size stays within the capacity, exactly if
there is some capacity or nothing is pushed. -/
theorem offline_buffer_bounded_iff (capacity : Nat) (calls : List BufferCall) :
    ((Machine.runPartial OfflineMqttRingBuffer.step { capacity } calls).isSome = true ∧
      Machine.AlwaysPartial OfflineMqttRingBuffer.step
        (fun buffer _ => buffer.capacity = capacity ∧ buffer.size ≤ capacity)
        { capacity } [] calls) ↔
      1 ≤ capacity ∨ ∀ item, .push item ∉ calls := by
  constructor
  · rintro ⟨hdefined, -⟩
    by_contra hbad
    push Not at hbad
    obtain ⟨hcapacity, item, hmem⟩ := hbad
    have hzero : capacity = 0 := by omega
    rw [hzero, bufferRun_without_capacity calls item hmem] at hdefined
    exact absurd hdefined (by decide)
  · intro hgood
    have hstart : WithinCapacity capacity { capacity } [] := ⟨rfl, Nat.zero_le _⟩
    have hsteps : Machine.AlongPartial OfflineMqttRingBuffer.step (PushesWithRoom capacity)
        { capacity } calls := by
      apply Machine.alongPartial_of_forall
      intro buffer call hcall
      rcases hgood with hpos | hpush
      · exact .inl hpos
      · refine .inr fun item hitem => hpush item ?_
        rw [← hitem]
        exact hcall
    obtain ⟨last, hlast, -⟩ := Machine.runPartial_history OfflineMqttRingBuffer.step
      (PushesWithRoom capacity) (WithinCapacity capacity) bufferStep_within { capacity } [] calls
      hstart hsteps
    refine ⟨by rw [hlast]; rfl, ?_⟩
    exact Machine.alwaysPartial_of_invariant OfflineMqttRingBuffer.step
      (PushesWithRoom capacity) (WithinCapacity capacity) bufferStep_within { capacity } [] calls
      hstart hsteps

/-- Capacity 0 disables nothing: the first push is undefined. -/
theorem offline_buffer_disabled_push :
    ¬ ((Machine.runPartial OfflineMqttRingBuffer.step { capacity := 0 }
        [.push { topic := Text.ascii "t", payload := [1] }]).isSome = true ∧
      Machine.AlwaysPartial OfflineMqttRingBuffer.step
        (fun buffer _ => buffer.capacity = 0 ∧ buffer.size ≤ 0)
        { capacity := 0 } [] [.push { topic := Text.ascii "t", payload := [1] }]) := by
  rintro ⟨hdefined, -⟩
  exact absurd hdefined (by decide)

/-! ### The buffer in the gateway -/

def flushCall (item : BufferedMqttPublish) : PublishCall where
  topic := item.topic
  payload := item.payload
  qos := item.qos
  retain := item.retain

def flushEvents (queue : List BufferedMqttPublish) : List Event :=
  queue.map fun item => .publishMqtt (flushCall item) true (.flush item)

/-- While connected, the flush loop takes the items out front first, publishes
each as it is, and ends with the buffer empty. -/
theorem flushBody_run (queue : List BufferedMqttPublish) (gw : MqttGateway σ)
    (events : List Event) (hconnected : gw.mqttConnected = true)
    (hqueue : gw.offlineBuffer.queue = queue) :
    Loop.run flushBody (queue.length + 1) (gw, events) =
      some (some ({ gw with offlineBuffer := gw.offlineBuffer.clear },
        events ++ flushEvents queue)) := by
  induction queue generalizing gw events with
  | nil =>
      have hclear : gw.offlineBuffer.clear = gw.offlineBuffer := by
        rw [OfflineMqttRingBuffer.clear, ← hqueue]
      simp [Loop.run, flushBody, OfflineMqttRingBuffer.pop, hqueue, flushEvents, hclear]
  | cons item rest ih =>
      have hround : flushBody (gw, events) =
          .inl ({ gw with offlineBuffer := { gw.offlineBuffer with queue := rest } },
            events ++ [.publishMqtt (flushCall item) true (.flush item)]) := by
        simp [flushBody, OfflineMqttRingBuffer.pop, hqueue, publishMqtt, hconnected, flushCall]
      have hrest := ih { gw with offlineBuffer := { gw.offlineBuffer with queue := rest } }
        (events ++ [.publishMqtt (flushCall item) true (.flush item)]) hconnected rfl
      rw [List.append_assoc] at hrest
      rw [List.length_cons, Loop.run, hround]
      exact hrest

theorem flushOfflineBuffer_connected (gw : MqttGateway σ) (hconnected : gw.mqttConnected = true) :
    flushOfflineBuffer (gw.offlineBuffer.size + 1) gw =
      some (.success, { gw with offlineBuffer := gw.offlineBuffer.clear },
        flushEvents gw.offlineBuffer.queue) := by
  have hrun := flushBody_run gw.offlineBuffer.queue gw [] hconnected rfl
  simp only [flushOfflineBuffer, OfflineMqttRingBuffer.size, hrun, List.nil_append]

def FlushesConnected (gw : MqttGateway σ) (call : Call) : Prop :=
  call = .flushOfflineBuffer → gw.mqttConnected = true

end

end SomeipGateway.Mqtt
