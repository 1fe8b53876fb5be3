import SomeipGateway.Lib.Counter
import SomeipGateway.Mqtt.Conservation

/-! The outbound counters against the publishes of a run. A message published
while connected is counted where it is published; an item of the offline buffer
is published by the flush loop, which counts nothing. -/
namespace SomeipGateway.Mqtt

open Lib

/-- The executions of `publish_mqtt` that returned `SUCCESS`, live or in a flush. -/
def publishedCalls (events : List Event) : List PublishCall :=
  events.filterMap fun
    | .publishMqtt call true _ => some call
    | _ => none

theorem publishedCalls_append (left right : List Event) :
    publishedCalls (left ++ right) = publishedCalls left ++ publishedCalls right :=
  List.filterMap_append

def publishedSizes (events : List Event) : List Nat :=
  (publishedCalls events).map fun call => call.payload.length

section

variable {σ κ : Type} (setup : Setup σ κ)

/-- The two outbound counters count the successful publishes of the log. -/
def CountsPublished (gw : MqttGateway σ) (log : List Event) : Prop :=
  Counter.Tally gw.base.stats.messagesSomeipToExternal gw.base.stats.bytesSomeipToExternal
    (publishedSizes log)

def FlushesNothing (gw : MqttGateway σ) (call : Call) : Prop :=
  call = .flushOfflineBuffer → gw.offlineBuffer.queue = []

def BufferFits (gw : MqttGateway σ) (_ : List Event) : Prop :=
  gw.offlineBuffer.capacity = setup.config.offlineBufferCapacity ∧
    gw.offlineBuffer.size ≤ setup.config.offlineBufferCapacity

theorem push_fits {buffer after : OfflineMqttRingBuffer} {item : BufferedMqttPublish}
    {dropped : Option BufferedMqttPublish} (h : buffer.push item = some (after, dropped))
    (hfits : buffer.size ≤ buffer.capacity) :
    after.capacity = buffer.capacity ∧ after.size ≤ buffer.capacity := by
  obtain ⟨kept, rfl, hkept⟩ := push_appends h
  refine ⟨rfl, ?_⟩
  unfold OfflineMqttRingBuffer.size at hfits ⊢
  rw [List.length_append, List.length_singleton]
  omega

/-! ### One step -/

/-- A call of `publish_mqtt` from `on_someip_message`: it goes through and is
counted by the caller, or it ends in the buffer and is not. -/
theorem publishMqtt_message_cases {gw gw' : MqttGateway σ} {call : PublishCall}
    {via : ServiceMapping} {result : Result} {events : List Event}
    (h : publishMqtt gw call (.message via) = some (result, gw', events)) :
    (result = .success ∧ gw' = gw ∧ publishedCalls events = [call]) ∨
      (result = .notConnected ∧ publishedCalls events = [] ∧ gw'.base = gw.base ∧
        ∃ buffer dropped, gw.offlineBuffer.push call.item = some (buffer, dropped) ∧
          gw'.offlineBuffer = buffer) := by
  unfold publishMqtt at h
  cases hconnected : gw.mqttConnected with
  | true =>
      rw [hconnected] at h
      cases h
      exact .inl ⟨rfl, rfl, rfl⟩
  | false =>
      rw [hconnected] at h
      cases hpush : gw.offlineBuffer.push call.item with
      | none =>
          rw [hpush] at h
          cases h
      | some pushed =>
          obtain ⟨buffer, dropped⟩ := pushed
          rw [hpush] at h
          cases h
          refine .inr ⟨rfl, ?_, rfl, buffer, dropped, rfl, rfl⟩
          cases dropped <;> rfl

/-- The events such a call can leave behind. -/
theorem publishMqtt_message_events {gw gw' : MqttGateway σ} {call : PublishCall}
    {via : ServiceMapping} {result : Result} {events : List Event}
    (h : publishMqtt gw call (.message via) = some (result, gw', events)) :
    ∀ event ∈ events, (∃ connected, event = .publishMqtt call connected (.message via)) ∨
      (∃ item found, event = .evicted item found) ∨ event = .buffered call.item := by
  unfold publishMqtt at h
  split_ifs at h
  · split at h
    · cases h
    · rename_i dropped _
      cases h
      intro event hmem
      unfold bufferingEvents at hmem
      rcases List.mem_cons.mp hmem with rfl | hmem
      · exact .inl ⟨false, rfl⟩
      rcases List.mem_append.mp hmem with hmem | hmem
      · obtain ⟨item, -, rfl⟩ := List.mem_map.mp hmem
        exact .inr (.inl ⟨item, _, rfl⟩)
      · exact .inr (.inr (List.mem_singleton.mp hmem))
  · cases h
    intro event hmem
    exact .inl ⟨true, List.mem_singleton.mp hmem⟩

theorem CountsPublished.quiet {gw gw' : MqttGateway σ} {log events : List Event}
    (h : CountsPublished gw log) (hevents : publishedCalls events = [])
    (hmessages : gw'.base.stats.messagesSomeipToExternal =
      gw.base.stats.messagesSomeipToExternal)
    (hbytes : gw'.base.stats.bytesSomeipToExternal = gw.base.stats.bytesSomeipToExternal) :
    CountsPublished gw' (log ++ events) := by
  unfold CountsPublished publishedSizes at *
  rw [publishedCalls_append, hevents, List.append_nil, hmessages, hbytes]
  exact h

theorem CountsPublished.record {gw gw' : MqttGateway σ} {log events : List Event}
    {call : PublishCall} (h : CountsPublished gw log) (hevents : publishedCalls events = [call])
    (hbase : gw'.base.stats = gw.base.stats.recordSomeipToExternal call.payload.length) :
    CountsPublished gw' (log ++ events) := by
  have htally := Counter.Tally.append h [call.payload.length]
  unfold CountsPublished publishedSizes
  rw [publishedCalls_append, hevents, List.map_append, hbase]
  exact htally

/-- A message is refused before anything is published, or it is published
through the mapping found for it and counted if that went through. -/
theorem onSomeipMessage_cases {gw gw' : MqttGateway σ} {events : List Event} {msg : Message}
    {result : Result} (h : onSomeipMessage setup gw msg = some (result, gw', events)) :
    ∃ admitted base e2e, admitOutbound setup.e2e setup.config.useE2e setup.config.e2eConfig
        setup.config.defaultSomeipInstanceId gw.base gw.e2e msg = (admitted, base, e2e) ∧
      ((admitted = .error result ∧ gw' = { gw with base, e2e } ∧ events = []) ∨
        ∃ mapping after, admitted = .ok mapping ∧
          publishMqtt { gw with base, e2e } (outboundCall setup msg mapping) (.message mapping) =
            some (result, after, events) ∧
          gw' =
            if result = .success then
              { after with
                base := after.base.recordSomeipToExternal
                  (outboundCall setup msg mapping).payload.length }
            else after) := by
  unfold onSomeipMessage at h
  dsimp only at h
  generalize admitOutbound setup.e2e setup.config.useE2e setup.config.e2eConfig
    setup.config.defaultSomeipInstanceId gw.base gw.e2e msg = admitted at h ⊢
  obtain ⟨refused | mapping, base, e2e⟩ := admitted
  · cases h
    exact ⟨_, base, e2e, rfl, .inl ⟨rfl, rfl, rfl⟩⟩
  · dsimp only at h
    cases hpublish : publishMqtt { gw with base, e2e } (outboundCall setup msg mapping)
        (.message mapping) with
    | none =>
        rw [hpublish] at h
        cases h
    | some published =>
        obtain ⟨outcome, after, sent⟩ := published
        rw [hpublish] at h
        cases h
        exact ⟨_, base, e2e, rfl, .inr ⟨mapping, after, rfl, hpublish, rfl⟩⟩

/-- What `on_someip_message` can do to the counters and the buffer. -/
theorem onSomeipMessage_counts {gw gw' : MqttGateway σ} {log events : List Event} {msg : Message}
    {result : Result} (hfits : BufferFits setup gw log)
    (h : onSomeipMessage setup gw msg = some (result, gw', events)) :
    BufferFits setup gw' (log ++ events) ∧
      (CountsPublished gw log → CountsPublished gw' (log ++ events)) := by
  have hcounters := admitOutbound_counters setup.e2e setup.config.useE2e setup.config.e2eConfig
    setup.config.defaultSomeipInstanceId gw.base gw.e2e msg
  obtain ⟨admitted, base, e2e, houtbound, ⟨rfl, rfl, rfl⟩ | ⟨mapping, after, rfl, hpublish, rfl⟩⟩ :=
    onSomeipMessage_cases setup h
  · rw [houtbound] at hcounters
    exact ⟨hfits, fun hcounts => hcounts.quiet rfl hcounters.1 hcounters.2⟩
  · rw [houtbound] at hcounters
    rcases publishMqtt_message_cases hpublish with
      ⟨rfl, rfl, hsent⟩ | ⟨rfl, hsent, hbase, buffer, dropped, hpush, hbuffer⟩
    · refine ⟨hfits, fun hcounts => ?_⟩
      have hadmitted : CountsPublished { gw with base, e2e } (log ++ []) :=
        hcounts.quiet rfl hcounters.1 hcounters.2
      rw [List.append_nil] at hadmitted
      exact hadmitted.record hsent rfl
    · obtain ⟨hcapacity, hsize⟩ := hfits
      obtain ⟨hcapacity', hsize'⟩ := push_fits hpush (hcapacity ▸ hsize)
      refine ⟨?_, fun hcounts => hcounts.quiet hsent ?_ ?_⟩
      · unfold BufferFits
        rw [if_neg (by decide), hbuffer, hcapacity']
        exact ⟨hcapacity, hcapacity ▸ hsize'⟩
      · rw [if_neg (by decide), hbase]
        exact hcounters.1
      · rw [if_neg (by decide), hbase]
        exact hcounters.2

theorem step_flush_connected {gw : MqttGateway σ} {call : Call} (hcall : call = .flushOfflineBuffer)
    (hflush : FlushesConnected gw call) :
    step setup gw call = some ({ gw with offlineBuffer := gw.offlineBuffer.clear },
      flushEvents gw.offlineBuffer.queue) := by
  have hrun := flushOfflineBuffer_connected gw (hflush hcall)
  rw [hcall, step, hrun]
  rfl

theorem publishedCalls_flushEvents (queue : List BufferedMqttPublish) :
    publishedCalls (flushEvents queue) = queue.map flushCall := by
  rw [publishedCalls, flushEvents, List.filterMap_map]
  exact List.filterMap_eq_map ▸ rfl

theorem publishedSizes_flush (log : List Event) (queue : List BufferedMqttPublish) :
    publishedSizes (log ++ flushEvents queue) =
      publishedSizes log ++ queue.map fun item => item.payload.length := by
  rw [publishedSizes, publishedCalls_append, publishedCalls_flushEvents, List.map_append,
    List.map_map]
  rfl

/-- A step that is no flush counts what it publishes. -/
theorem step_counts {gw : MqttGateway σ} {log : List Event} {call : Call}
    {now : MqttGateway σ × List Event} (hfits : BufferFits setup gw log)
    (hcall : call ≠ .flushOfflineBuffer) (h : step setup gw call = some now) :
    BufferFits setup now.1 (log ++ now.2) ∧
      (CountsPublished gw log → CountsPublished now.1 (log ++ now.2)) := by
  cases call with
  | start udpStart =>
      cases h
      unfold start
      split_ifs
      · exact ⟨hfits, fun hcounts => hcounts.quiet rfl rfl rfl⟩
      · exact ⟨hfits, fun hcounts => hcounts.quiet rfl rfl rfl⟩
  | stop =>
      cases h
      exact ⟨hfits, fun hcounts => hcounts.quiet rfl rfl rfl⟩
  | addServiceMapping mapping =>
      cases h
      exact ⟨hfits, fun hcounts => hcounts.quiet rfl rfl rfl⟩
  | onSomeipMessage msg =>
      obtain ⟨⟨result, gw', events⟩, hmessage, rfl⟩ := Option.map_eq_some_iff.mp h
      exact onSomeipMessage_counts setup hfits hmessage
  | setMqttConnected connected =>
      cases h
      exact ⟨hfits, fun hcounts => hcounts.quiet rfl rfl rfl⟩
  | flushOfflineBuffer => exact absurd rfl hcall

theorem step_fits {gw : MqttGateway σ} {log : List Event} {call : Call}
    {now : MqttGateway σ × List Event} (hfits : BufferFits setup gw log)
    (hflush : FlushesConnected gw call) (h : step setup gw call = some now) :
    BufferFits setup now.1 (log ++ now.2) := by
  by_cases hcall : call = .flushOfflineBuffer
  · rw [step_flush_connected setup hcall hflush] at h
    cases h
    exact ⟨hfits.1, Nat.zero_le _⟩
  · exact (step_counts setup hfits hcall h).1

/-- The counters still agree after a step exactly if it flushed nothing: a flush
leaves them where they are. -/
theorem step_counts_iff (hsize : setup.config.offlineBufferCapacity < 2 ^ 64)
    {gw : MqttGateway σ} {log : List Event} {call : Call} {now : MqttGateway σ × List Event}
    (hfits : BufferFits setup gw log) (hflush : FlushesConnected gw call)
    (hcounts : CountsPublished gw log) (h : step setup gw call = some now) :
    CountsPublished now.1 (log ++ now.2) ↔ FlushesNothing gw call := by
  by_cases hcall : call = .flushOfflineBuffer
  · rw [step_flush_connected setup hcall hflush] at h
    cases h
    have hlength :
        (gw.offlineBuffer.queue.map fun item => item.payload.length).length < 2 ^ 64 := by
      rw [List.length_map]
      exact Nat.lt_of_le_of_lt hfits.2 hsize
    unfold CountsPublished FlushesNothing
    rw [publishedSizes_flush, Counter.Tally.append_iff_nil hcounts hlength, List.map_eq_nil_iff]
    exact ⟨fun hqueue _ => hqueue, fun hqueue => hqueue hcall⟩
  · exact iff_of_true ((step_counts setup hfits hcall h).2 hcounts) fun hbad => absurd hbad hcall

/-- For every run with flushes made only while connected: the counters agree with
the successful publishes after every call, exactly if every flush finds the
buffer empty. The capacity is a `std::size_t`. -/
theorem published_counted_iff (hsize : setup.config.offlineBufferCapacity < 2 ^ 64) (e2e : σ)
    (udpTransport : Bool) (calls : List Call)
    (hflush : Machine.AlongPartial (step setup) FlushesConnected
      (fresh setup e2e udpTransport) calls) :
    Machine.AlwaysPartial (step setup) CountsPublished (fresh setup e2e udpTransport) [] calls ↔
      Machine.AlongPartial (step setup) FlushesNothing (fresh setup e2e udpTransport) calls := by
  have hfits : BufferFits setup (fresh setup e2e udpTransport) [] := ⟨rfl, Nat.zero_le _⟩
  refine Machine.alwaysPartial_iff_along (step setup) ?_ ?_ ?_ (fresh setup e2e udpTransport) []
    calls hfits Counter.Tally.nil hflush
  · intro gw log call hfits hconnected hundefined hcall
    rw [step_flush_connected setup hcall hconnected] at hundefined
    cases hundefined
  · intro gw log call now hfits hconnected h
    exact step_fits setup hfits hconnected h
  · intro gw log call now hfits hconnected hcounts h
    exact step_counts_iff setup hsize hfits hconnected hcounts h

end

def speedMapping : ServiceMapping where
  someipServiceId := 1
  someipInstanceId := 1

def speedEvent (payload : Bytes) : Message where
  serviceId := 1
  methodId := 0x8001
  messageType := .notification
  payload := payload

/-- Live publishes and an outage that is not flushed. -/
theorem published_counted_live :
    let calls : List Call :=
      [.addServiceMapping speedMapping, .start .success, .setMqttConnected true,
        .onSomeipMessage (speedEvent [1, 2]), .setMqttConnected false,
        .onSomeipMessage (speedEvent [3])]
    Machine.AlwaysPartial (step (plainSetup 4)) CountsPublished (fresh (plainSetup 4) () false) []
      calls := by
  intro calls
  apply (published_counted_iff (plainSetup 4) (by decide) () false calls ?_).mpr
  · exact ⟨nofun, nofun, nofun, nofun, nofun, nofun, trivial⟩
  · exact ⟨nofun, nofun, nofun, nofun, nofun, nofun, trivial⟩

/-- One message is published by a flush after the outage and never counted. -/
theorem flushed_publish_not_counted :
    ¬ ∀ calls : List Call,
      Machine.AlongPartial (step (plainSetup 4)) FlushesConnected
        (fresh (plainSetup 4) () false) calls →
      Machine.AlwaysPartial (step (plainSetup 4)) CountsPublished
        (fresh (plainSetup 4) () false) [] calls := by
  intro h
  have hrun := h [.addServiceMapping speedMapping, .start .success,
    .onSomeipMessage (speedEvent [1]), .setMqttConnected true, .flushOfflineBuffer]
    ⟨nofun, nofun, nofun, nofun, fun _ => rfl, trivial⟩
  exact absurd hrun.2.2.2.2.2.count_eq (by decide)

end SomeipGateway.Mqtt
