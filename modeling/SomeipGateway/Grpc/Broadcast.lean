import SomeipGateway.Grpc.Subscriptions
import SomeipGateway.Lib.Multimap

/-! Notifications that the host injects: `on_someip_message` takes an instance
from the mappings and broadcasts over the registry of streams, whose entries are
at all times the streams between their registration and their unregistration. -/
namespace SomeipGateway.Grpc

open Lib

/-! ### The order of the registry -/

/-- The three ids read as the digits of one number. -/
def EventStreamKey.rank (key : EventStreamKey) : Nat :=
  (key.serviceId.toNat * 2 ^ 32 + key.instanceId.toNat) * 2 ^ 32 + key.eventGroupId.toNat

theorem EventStreamKey.lt_iff_rank (key other : EventStreamKey) :
    key.lt other = true ↔ key.rank < other.rank := by
  have hinstance := key.instanceId.toNat_lt
  have hinstance' := other.instanceId.toNat_lt
  have hgroup := key.eventGroupId.toNat_lt
  have hgroup' := other.eventGroupId.toNat_lt
  unfold EventStreamKey.lt rank
  split_ifs with hservice hsame
  · rw [decide_eq_true_iff, UInt32.lt_iff_toNat_lt]
    rw [Ne, ← UInt32.toNat_inj] at hservice
    omega
  · rw [decide_eq_true_iff, UInt32.lt_iff_toNat_lt]
    rw [Ne, not_not, ← UInt32.toNat_inj] at hservice
    rw [Ne, ← UInt32.toNat_inj] at hsame
    omega
  · rw [decide_eq_true_iff, UInt32.lt_iff_toNat_lt]
    rw [Ne, not_not, ← UInt32.toNat_inj] at hservice hsame
    omega

theorem EventStreamKey.rank_inj (key other : EventStreamKey) (h : key.rank = other.rank) :
    key = other := by
  have hinstance := key.instanceId.toNat_lt
  have hinstance' := other.instanceId.toNat_lt
  have hgroup := key.eventGroupId.toNat_lt
  have hgroup' := other.eventGroupId.toNat_lt
  unfold rank at h
  cases key with
  | mk serviceId instanceId eventGroupId =>
      cases other with
      | mk serviceId' instanceId' eventGroupId' =>
          rw [EventStreamKey.mk.injEq, ← UInt32.toNat_inj, ← UInt32.toNat_inj,
            ← UInt32.toNat_inj]
          dsimp only at *
          omega

theorem EventStreamKey.lt_strictOrder : Multimap.StrictOrder EventStreamKey.lt :=
  .of_rank EventStreamKey.rank EventStreamKey.lt_iff_rank EventStreamKey.rank_inj

theorem registerEventStream_eq (subscribers : List (EventStreamKey × StreamId))
    (key : EventStreamKey) (id : StreamId) :
    registerEventStream subscribers key id =
      Multimap.emplace EventStreamKey.lt subscribers key id := rfl

theorem unregisterEventStream_eq (expired : StreamId → Bool)
    (subscribers : List (EventStreamKey × StreamId)) (key : EventStreamKey) (id : StreamId) :
    unregisterEventStream expired subscribers key id =
      Multimap.eraseRange EventStreamKey.lt (fun other => expired other || other == id)
        subscribers key := rfl

/-! ### Who is in the registry -/

/-- From `register_event_stream` to `unregister_event_stream`. -/
def EventStream.isRegistered (stream : EventStream) : Bool :=
  match stream.phase with
  | .unopened => false
  | .unregistered _ => false
  | .returned => false
  | _ => true

structure Registered (gw : GrpcGateway) : Prop where
  ordered : Multimap.Ordered EventStreamKey.lt gw.streamSubscribers
  once : gw.streamSubscribers.Nodup
  mem_iff : ∀ key id, (key, id) ∈ gw.streamSubscribers ↔
    (gw.streams id).isRegistered = true ∧ (gw.streams id).key = key

theorem new_gateway_registered : Registered {} where
  ordered := List.Pairwise.nil
  once := List.nodup_nil
  mem_iff key id := by simp [EventStream.isRegistered]

theorem EventStream.isRegistered_congr {stream next : EventStream}
    (h : next.phase = stream.phase) : next.isRegistered = stream.isRegistered := by
  unfold isRegistered
  rw [h]

def SameRegistry (before after : GrpcGateway) : Prop :=
  after.streamSubscribers = before.streamSubscribers

theorem Registered.kept {before after : GrpcGateway} (h : Registered before)
    (hsubscribers : SameRegistry before after)
    (hstreams : ∀ id, (after.streams id).isRegistered = (before.streams id).isRegistered ∧
      (after.streams id).key = (before.streams id).key) : Registered after where
  ordered := by
    rw [hsubscribers]
    exact h.ordered
  once := by
    rw [hsubscribers]
    exact h.once
  mem_iff key id := by
    rw [hsubscribers, (hstreams id).1, (hstreams id).2]
    exact h.mem_iff key id

theorem Registered.sameCalls {before after : GrpcGateway} (h : Registered before)
    (hsame : SameCalls before after) (hsubscribers : SameRegistry before after) :
    Registered after := by
  refine h.kept hsubscribers fun id => ⟨?_, hsame.key id⟩
  exact EventStream.isRegistered_congr (hsame.phase id)

/-- The sink of a registered stream is held by its handler. -/
theorem GrpcGateway.expired_of_isRegistered {gw : GrpcGateway} {id : StreamId}
    (h : (gw.streams id).isRegistered = true) : gw.expired id = false := by
  unfold EventStream.isRegistered at h
  unfold expired
  cases hphase : (gw.streams id).phase with
  | returned =>
      rw [hphase] at h
      cases h
  | _ => rfl

/-! ### What an action does to the registry -/

def Phase.changesRegistry : Phase → Action → Bool
  | .unopened, .opens _ => true
  | .unsubscribed, .unregister => true
  | .refused, .unregister => true
  | _, _ => false

theorem EventStream.iterate_isRegistered (stream : EventStream) (cancelled : Bool)
    (looping : stream.phase = .looping) :
    (stream.iterate cancelled).1.isRegistered = stream.isRegistered ∧
      (stream.iterate cancelled).1.key = stream.key := by
  have hregistered : stream.isRegistered = true := by rw [isRegistered, looping]
  rw [hregistered]
  unfold iterate
  split_ifs with _ hclosed
  · exact ⟨rfl, rfl⟩
  · split
    · exact ⟨rfl, rfl⟩
    · exact ⟨rfl, rfl⟩
  · split
    · exact ⟨hregistered, rfl⟩
    · exact ⟨rfl, rfl⟩

theorem EventStream.enter_isRegistered (stream : EventStream) {next : Phase} (phase : Phase)
    (hphase : stream.phase = phase)
    (h : EventStream.isRegistered { phase := next } = EventStream.isRegistered { phase }) :
    (stream.enter next).isRegistered = stream.isRegistered ∧
      (stream.enter next).key = stream.key := by
  refine ⟨?_, rfl⟩
  calc (stream.enter next).isRegistered
      = EventStream.isRegistered { phase := next } := isRegistered_congr rfl
    _ = EventStream.isRegistered { phase } := h
    _ = stream.isRegistered := isRegistered_congr hphase.symm

theorem EventStream.step_isRegistered (stream : EventStream) {action : Action}
    (h : stream.phase.changesRegistry action = false) :
    (stream.step action).1.isRegistered = stream.isRegistered ∧
      (stream.step action).1.key = stream.key := by
  unfold step
  split
  · rename_i hphase
    rw [hphase] at h
    cases h
  · exact ⟨rfl, rfl⟩
  · unfold deliverEventFrame
    split_ifs
    · exact ⟨rfl, rfl⟩
    · exact ⟨rfl, rfl⟩
  · exact stream.enter_isRegistered .registered ‹_› rfl
  · exact stream.enter_isRegistered .registered ‹_› rfl
  · exact stream.iterate_isRegistered _ ‹_›
  · exact stream.enter_isRegistered (.writing _) ‹_› rfl
  · exact stream.enter_isRegistered (.writing _) ‹_› rfl
  · exact stream.enter_isRegistered .leaving ‹_› rfl
  · rename_i hphase
    rw [hphase] at h
    cases h
  · rename_i hphase
    rw [hphase] at h
    cases h
  · rename_i hphase
    exact ⟨by rw [isRegistered, isRegistered, hphase], rfl⟩
  · exact ⟨rfl, rfl⟩

theorem act_sameRegistry (gw : GrpcGateway) (id : StreamId) {action : Action}
    (h : (gw.streams id).phase.changesRegistry action = false) :
    SameRegistry gw (act gw id action).1 := by
  have hshared : (act gw id action).1.streamSubscribers =
      (shareAction gw id action).streamSubscribers := rfl
  rw [SameRegistry, hshared]
  unfold shareAction
  split
  · rename_i hphase
    rw [hphase] at h
    cases h
  · rfl
  · rfl
  · rename_i hphase
    rw [hphase] at h
    cases h
  · rename_i hphase
    rw [hphase] at h
    cases h
  · rfl

/-- What the registry must look like after `id` has come or gone. -/
theorem Registered.changed {before after : GrpcGateway} (h : Registered before) (id : StreamId)
    (hordered : Multimap.Ordered EventStreamKey.lt after.streamSubscribers)
    (honce : after.streamSubscribers.Nodup)
    (hothers : ∀ other, other ≠ id → after.streams other = before.streams other ∧
      ∀ key, (key, other) ∈ after.streamSubscribers ↔ (key, other) ∈ before.streamSubscribers)
    (hself : ∀ key, (key, id) ∈ after.streamSubscribers ↔
      (after.streams id).isRegistered = true ∧ (after.streams id).key = key) :
    Registered after where
  ordered := hordered
  once := honce
  mem_iff key other := by
    by_cases hne : other = id
    · rw [hne]
      exact hself key
    · rw [(hothers other hne).2, (hothers other hne).1]
      exact h.mem_iff key other

theorem Registered.opens {gw : GrpcGateway} (h : Registered gw) {id : StreamId}
    (hphase : (gw.streams id).phase = .unopened) (key : EventStreamKey) :
    Registered (act gw id (.opens key)).1 := by
  have hsubscribers : (act gw id (.opens key)).1.streamSubscribers =
      Multimap.emplace EventStreamKey.lt gw.streamSubscribers key id := by
    rw [← registerEventStream_eq]
    simp only [act, shareAction, hphase]
  have hstream : (act gw id (.opens key)).1.streams id =
      { gw.streams id with key := key, phase := .registered } := by
    rw [act_streams_self]
    simp only [EventStream.step, hphase]
  have hperm := Multimap.emplace_perm EventStreamKey.lt gw.streamSubscribers key id
  have hnew (key' : EventStreamKey) : (key', id) ∉ gw.streamSubscribers := by
    rw [h.mem_iff, EventStream.isRegistered, hphase]
    simp
  refine h.changed id ?_ ?_ (fun other hne => ?_) (fun key' => ?_)
  · rw [hsubscribers]
    exact Multimap.emplace_ordered EventStreamKey.lt_strictOrder h.ordered key id
  · rw [hsubscribers, hperm.nodup_iff, List.nodup_cons]
    exact ⟨hnew key, h.once⟩
  · refine ⟨act_streams_of_ne gw _ hne, fun key' => ?_⟩
    rw [hsubscribers, hperm.mem_iff, List.mem_cons]
    simp [hne]
  · rw [hsubscribers, hperm.mem_iff, List.mem_cons, hstream]
    simp [hnew, EventStream.isRegistered, eq_comm]

theorem Registered.unregister {gw : GrpcGateway} (h : Registered gw) {id : StreamId}
    (hphase : (gw.streams id).phase = .unsubscribed ∨ (gw.streams id).phase = .refused) :
    Registered (act gw id .unregister).1 := by
  have hsubscribers : (act gw id .unregister).1.streamSubscribers =
      Multimap.eraseRange EventStreamKey.lt (fun other => gw.expired other || other == id)
        gw.streamSubscribers (gw.streams id).key := by
    rw [← unregisterEventStream_eq]
    rcases hphase with hphase | hphase
    · simp only [act, shareAction, hphase]
    · simp only [act, shareAction, hphase]
  have hgone : ((act gw id .unregister).1.streams id).isRegistered = false := by
    rw [act_streams_self]
    rcases hphase with hphase | hphase
    · simp only [EventStream.step, hphase, EventStream.enter, EventStream.isRegistered]
    · simp only [EventStream.step, hphase, EventStream.enter, EventStream.isRegistered]
  have hsublist := Multimap.eraseRange_sublist EventStreamKey.lt
    (fun other => gw.expired other || other == id) gw.streamSubscribers (gw.streams id).key
  have hmem (key : EventStreamKey) (other : StreamId) :
      (key, other) ∈ (act gw id .unregister).1.streamSubscribers ↔
        (key, other) ∈ gw.streamSubscribers ∧
          ¬(key = (gw.streams id).key ∧ (gw.expired other || other == id) = true) := by
    rw [hsubscribers]
    exact Multimap.mem_eraseRange EventStreamKey.lt_strictOrder _ h.ordered _ _
  refine h.changed id ?_ ?_ (fun other hne => ?_) (fun key => ?_)
  · rw [hsubscribers]
    exact h.ordered.sublist hsublist
  · rw [hsubscribers]
    exact h.once.sublist hsublist
  · refine ⟨act_streams_of_ne gw _ hne, fun key => ?_⟩
    rw [hmem]
    refine and_iff_left_of_imp fun hentry => ?_
    have hregistered := ((h.mem_iff key other).mp hentry).1
    simp [GrpcGateway.expired_of_isRegistered hregistered, hne]
  · rw [hmem, hgone, h.mem_iff]
    simp only [beq_self_eq_true, Bool.or_true, and_true, Bool.false_eq_true, false_and, iff_false]
    rintro ⟨⟨-, hkey⟩, hother⟩
    exact hother hkey.symm

theorem act_registered {gw : GrpcGateway} (h : Registered gw) (id : StreamId) (action : Action) :
    Registered (act gw id action).1 := by
  cases hchanges : (gw.streams id).phase.changesRegistry action with
  | false =>
      refine h.kept (act_sameRegistry gw id hchanges) fun other => ?_
      by_cases hne : other = id
      · rw [hne, act_streams_self]
        exact (gw.streams id).step_isRegistered hchanges
      · rw [act_streams_of_ne gw action hne]
        exact ⟨rfl, rfl⟩
  | true =>
      unfold Phase.changesRegistry at hchanges
      split at hchanges
      · exact h.opens ‹_› _
      · exact h.unregister (.inl ‹_›)
      · exact h.unregister (.inr ‹_›)
      · cases hchanges

/-! ### The registry along a run -/

section

variable (setup : Setup)

theorem startComponents_sameRegistry (outcome : StartOutcome) (gw : GrpcGateway) :
    SameRegistry gw (Phases.left (startComponents setup outcome gw)) := by
  have hattempt (failure : Result) (succeeds : Bool) (now : GrpcGateway)
      (h : SameRegistry gw now) :
      SameRegistry gw (Phases.left (Phases.attempt failure succeeds now)) := by
    rw [Phases.left_attempt]
    exact h
  unfold startComponents
  refine Phases.left_bind (hattempt _ _ _ rfl) fun now _ h => ?_
  refine Phases.left_bind (hattempt _ _ _ h) fun now _ h => ?_
  refine Phases.left_bind ?_ fun now _ h => ?_
  · unfold startSdClient
    split_ifs
    · exact h
    · exact hattempt _ _ _ h
  refine Phases.left_bind ?_ fun now _ h => hattempt _ _ _ h
  unfold startSdServer
  split_ifs
  · exact h
  · exact hattempt _ _ _ h

theorem start_sameRegistry (outcome : StartOutcome) (gw : GrpcGateway) :
    SameRegistry gw (start setup outcome gw).2 := by
  have hcomponents := startComponents_sameRegistry setup outcome gw
  unfold start
  split_ifs
  · rfl
  · cases h : startComponents setup outcome gw with
    | error failed =>
        rw [h] at hcomponents
        exact hcomponents
    | ok started =>
        rw [h] at hcomponents
        exact hcomponents

theorem act_deliver_sameRegistry (gw : GrpcGateway) (id : StreamId) (frame : EventFrame) :
    SameRegistry gw (act gw id (.deliver frame)).1 := by
  simp only [SameRegistry, act, shareAction_deliver]

theorem broadcastNotification_sameRegistry (gw : GrpcGateway) (serviceId instanceId : UInt32)
    (frame : EventFrame) :
    SameRegistry gw (broadcastNotification gw serviceId instanceId frame).1 := by
  refine Machine.run_invariant _ (fun now id h => ?_) gw _ rfl
  exact (act_deliver_sameRegistry now id frame).trans h

/-- `stop()` empties a registry that no stream needs any more. -/
theorem Registered.stop {gw : GrpcGateway} (h : Registered gw) (hsound : Sound gw)
    (hreturned : gw.allReturned = true) : Registered (stop gw).2 := by
  have hgone (id : StreamId) : (gw.streams id).isRegistered = false := by
    unfold EventStream.isRegistered
    rcases gw.phase_of_allReturned hsound hreturned id with hphase | hphase
    · rw [hphase]
    · rw [hphase]
  unfold Grpc.stop
  split_ifs with hrunning
  · exact h
  · refine ⟨List.Pairwise.nil, List.nodup_nil, fun key id => ?_⟩
    simp [hgone]

theorem step_registered (gw : GrpcGateway) (input : Input) (hsound : Sound gw)
    (h : Registered gw) : Registered (step setup gw input).1 := by
  cases input with
  | start outcome =>
      exact h.sameCalls (step_sameCalls setup gw rfl) (start_sameRegistry setup outcome gw)
  | stop =>
      simp only [step]
      split_ifs with hreturned
      · exact h.stop hsound hreturned
      · exact h
  | addServiceMapping mapping => exact h.sameCalls (step_sameCalls setup gw rfl) rfl
  | someipMessage msg =>
      refine h.sameCalls (step_sameCalls setup gw rfl) ?_
      simp only [step, onSomeipMessage]
      split_ifs
      · exact broadcastNotification_sameRegistry gw _ _ _
      · rfl
  | openStream key =>
      simp only [step]
      split_ifs
      · have hnumbered : Registered { gw with opened := gw.opened + 1 } :=
          h.kept rfl fun _ => ⟨rfl, rfl⟩
        exact act_registered hnumbered gw.opened (.opens key)
      · exact h
  | action id action =>
      simp only [step]
      split_ifs
      · exact act_registered h id action
      · exact h
  | notification group n =>
      simp only [step]
      split
      · exact h
      · exact h.sameCalls (onEvent_sameCalls setup gw _ n)
          (act_deliver_sameRegistry gw _ (messageFrame (notificationMessage n)))

end

/-! ### The broadcast -/

/-- Registered under a service and an instance, whatever the event group. -/
def EventStream.ListensTo (stream : EventStream) (serviceId instanceId : UInt32) : Prop :=
  stream.isRegistered = true ∧ stream.key.serviceId = serviceId ∧
    stream.key.instanceId = instanceId

instance (stream : EventStream) (serviceId instanceId : UInt32) :
    Decidable (stream.ListensTo serviceId instanceId) := inferInstanceAs (Decidable (_ ∧ _))

theorem deliver_each_streams (frame : EventFrame) (gw : GrpcGateway) {ids : List StreamId}
    (h : ids.Nodup) (id : StreamId) :
    (Machine.run (fun gw other => act gw other (.deliver frame)) gw ids).1.streams id =
      if id ∈ ids then ((gw.streams id).step (.deliver frame)).1 else gw.streams id := by
  induction ids generalizing gw with
  | nil => rfl
  | cons first rest ih =>
      obtain ⟨hfirst, hrest⟩ := List.nodup_cons.mp h
      rw [Machine.run_cons, ih _ hrest]
      by_cases hid : id = first
      · rw [hid, if_neg hfirst, if_pos List.mem_cons_self, act_streams_self]
      · rw [act_streams_of_ne gw _ hid]
        simp only [List.mem_cons, hid, false_or]

/-- A registered stream gets frames. -/
theorem EventStream.step_deliver_registered {stream : EventStream} (hclosed : stream.ClosedLast)
    (h : stream.isRegistered = true) (frame : EventFrame) :
    (stream.step (.deliver frame)).1.sink.pending = stream.sink.pending ++ [frame] := by
  have htakes : ¬(stream.phase = .unopened ∨ stream.sink.closed = true) := by
    unfold isRegistered at h
    rintro (hphase | hsink)
    · rw [hphase] at h
      cases h
    · rw [hclosed hsink] at h
      cases h
  rw [step_deliver, if_neg htakes]

theorem Registered.ids_once {gw : GrpcGateway} (h : Registered gw) :
    (gw.streamSubscribers.map Prod.snd).Nodup := by
  refine h.once.map_on fun first hfirst second hsecond hid => ?_
  have hkey := ((h.mem_iff first.1 first.2).mp hfirst).2
  have hkey' := ((h.mem_iff second.1 second.2).mp hsecond).2
  rw [hid] at hkey
  exact Prod.ext (hkey.symm.trans hkey') hid

theorem broadcastNotification_pending {gw : GrpcGateway} (hsound : Sound gw) (h : Registered gw)
    (serviceId instanceId : UInt32) (frame : EventFrame) (id : StreamId) :
    ((broadcastNotification gw serviceId instanceId frame).1.streams id).sink.pending =
      if (gw.streams id).ListensTo serviceId instanceId then
        (gw.streams id).sink.pending ++ [frame]
      else (gw.streams id).sink.pending := by
  have hentries (entry : EventStreamKey × StreamId) (hentry : entry ∈ gw.streamSubscribers) :
      (entry.1.serviceId == serviceId && entry.1.instanceId == instanceId &&
        !gw.expired entry.2) = true ↔ (gw.streams entry.2).ListensTo serviceId instanceId := by
    obtain ⟨hregistered, hkey⟩ := (h.mem_iff entry.1 entry.2).mp hentry
    simp [EventStream.ListensTo, GrpcGateway.expired_of_isRegistered hregistered, hregistered,
      hkey]
  unfold broadcastNotification
  dsimp only
  set entries := gw.streamSubscribers.filter fun entry =>
    entry.1.serviceId == serviceId && entry.1.instanceId == instanceId && !gw.expired entry.2
  have hmem : id ∈ entries.map Prod.snd ↔
      (gw.streams id).ListensTo serviceId instanceId := by
    constructor
    · intro hid
      obtain ⟨entry, hentry, rfl⟩ := List.mem_map.mp hid
      obtain ⟨hsubscribed, hmatches⟩ := List.mem_filter.mp hentry
      exact (hentries entry hsubscribed).mp hmatches
    · intro hlistens
      have hsubscribed := (h.mem_iff (gw.streams id).key id).mpr ⟨hlistens.1, rfl⟩
      refine List.mem_map.mpr ⟨_, List.mem_filter.mpr ⟨hsubscribed, ?_⟩, rfl⟩
      exact (hentries _ hsubscribed).mpr hlistens
  have honce : (entries.map Prod.snd).Nodup := h.ids_once.sublist (List.filter_sublist.map _)
  rw [deliver_each_streams frame gw honce id]
  by_cases hlistens : (gw.streams id).ListensTo serviceId instanceId
  · rw [if_pos (hmem.mpr hlistens), if_pos hlistens]
    exact EventStream.step_deliver_registered (hsound.closed id) hlistens.1 frame
  · rw [if_neg (mt hmem.mp hlistens), if_neg hlistens]

/-! ### Injected notifications -/

/-- The service is mapped, and with one instance only. -/
def MappedOnce (mappings : List ServiceMapping) (serviceId instanceId : UInt16) : Prop :=
  (∃ mapping ∈ mappings, mapping.someipServiceId = serviceId) ∧
    ∀ mapping ∈ mappings, mapping.someipServiceId = serviceId →
      mapping.someipInstanceId = instanceId

section

variable (setup : Setup)

theorem onSomeipMessage_pending {gw : GrpcGateway} (hsound : Sound gw) (h : Registered gw)
    {msg : Message} (hnotification : msg.messageType = .notification) (id : StreamId) :
    ((onSomeipMessage setup gw msg).2.1.streams id).sink.pending =
      if (gw.streams id).ListensTo msg.serviceId.toUInt32 0 then
        (gw.streams id).sink.pending ++ [messageFrame msg]
      else (gw.streams id).sink.pending := by
  have hpending := broadcastNotification_pending hsound h msg.serviceId.toUInt32 0
    (messageFrame msg) id
  unfold onSomeipMessage
  rw [if_pos hnotification]
  cases hfound : findMappingForService gw.base.serviceMappings msg.serviceId 0 with
  | none => exact hpending
  | some mapping =>
      -- looked up with instance 0, the mapping has no other
      dsimp only
      rw [(findMappingForService_some hfound).2.2]
      exact hpending

/-- The frame goes once into every stream registered for the service and the
instance, and into no stream that asked for another service or instance. -/
def ReachesListeners (gw : GrpcGateway) (msg : Message) (instanceId : UInt16) : Prop :=
  ∀ id, ((gw.streams id).ListensTo msg.serviceId.toUInt32 instanceId.toUInt32 →
      ((onSomeipMessage setup gw msg).2.1.streams id).sink.pending =
        (gw.streams id).sink.pending ++ [messageFrame msg]) ∧
    (¬((gw.streams id).key.serviceId = msg.serviceId.toUInt32 ∧
        (gw.streams id).key.instanceId = instanceId.toUInt32) →
      ((onSomeipMessage setup gw msg).2.1.streams id).sink.pending =
        (gw.streams id).sink.pending)

theorem run_registered (inputs : List Input) :
    Sound (Machine.run (step setup) {} inputs).1 ∧
      Registered (Machine.run (step setup) {} inputs).1 := by
  have hstart : Sound {} ∧ Registered {} := ⟨new_gateway_sound, new_gateway_registered⟩
  have hstep (gw : GrpcGateway) (input : Input) (h : Sound gw ∧ Registered gw) :
      Sound (step setup gw input).1 ∧ Registered (step setup gw input).1 :=
    ⟨step_sound setup gw input h.1, step_registered setup gw input h.1 h.2⟩
  exact Machine.run_invariant (step setup) hstep {} inputs hstart

/-- In every state of every run: an injected notification for a service that is
mapped with one instance reaches the streams of that instance, and only those,
exactly if the instance is 0, or nobody listens to it and nobody to instance 0. -/
theorem notification_reaches_listeners_iff (inputs : List Input) (msg : Message)
    (instanceId : UInt16) (hnotification : msg.messageType = .notification)
    (hmapped : MappedOnce (Machine.run (step setup) {} inputs).1.base.serviceMappings
      msg.serviceId instanceId) :
    ReachesListeners setup (Machine.run (step setup) {} inputs).1 msg instanceId ↔
      instanceId = 0 ∨ ∀ id,
        ¬((Machine.run (step setup) {} inputs).1.streams id).ListensTo msg.serviceId.toUInt32
            instanceId.toUInt32 ∧
          ¬((Machine.run (step setup) {} inputs).1.streams id).ListensTo msg.serviceId.toUInt32
            0 := by
  obtain ⟨hsound, hregistered⟩ := run_registered setup inputs
  generalize (Machine.run (step setup) {} inputs).1 = gw at *
  unfold ReachesListeners
  simp only [onSomeipMessage_pending setup hsound hregistered hnotification]
  constructor
  · intro hreaches
    by_cases hzero : instanceId = 0
    · exact .inl hzero
    · have hne : instanceId.toUInt32 ≠ 0 := by
        intro hwide
        apply hzero
        rw [← UInt16.toUInt16_toUInt32 instanceId, hwide]
        rfl
      refine .inr fun id => ⟨fun hlistens => ?_, fun hlistens => ?_⟩
      · have hother : ¬(gw.streams id).ListensTo msg.serviceId.toUInt32 0 := fun hother =>
          hne (hlistens.2.2.symm.trans hother.2.2)
        have hpending := (hreaches id).1 hlistens
        rw [if_neg hother] at hpending
        simp at hpending
      · have hpending := (hreaches id).2 fun hkey => hne (hkey.2.symm.trans hlistens.2.2)
        rw [if_pos hlistens] at hpending
        simp at hpending
  · rintro (rfl | hnobody) id
    · refine ⟨fun hlistens => if_pos hlistens, fun hkey => if_neg fun hlistens => ?_⟩
      exact hkey hlistens.2
    · refine ⟨fun hlistens => absurd hlistens (hnobody id).1, fun _ => ?_⟩
      exact if_neg (hnobody id).2

end

/-- Service 0x1234 is mapped with the given instance, and one stream is open for
it, under the same instance. -/
def openForMapped (instanceId : UInt16) : List Input :=
  [.start {}, .addServiceMapping { someipServiceId := 0x1234, someipInstanceId := instanceId },
    .openStream ⟨0x1234, instanceId.toUInt32, 1⟩, .action 0 (.subscribe true)]

def doorOpened : Message where
  serviceId := 0x1234
  methodId := 0x8001
  messageType := .notification
  payload := [1]

theorem mappedOnce_openForMapped (instanceId : UInt16) :
    MappedOnce (Machine.run (step plainSetup) {} (openForMapped instanceId)).1.base.serviceMappings
      0x1234 instanceId := by
  have hmappings :
      (Machine.run (step plainSetup) {} (openForMapped instanceId)).1.base.serviceMappings =
        [{ someipServiceId := 0x1234, someipInstanceId := instanceId }] := by
    rfl
  rw [hmappings]
  simp [MappedOnce]

theorem notification_reaches_instance_zero :
    ReachesListeners plainSetup (Machine.run (step plainSetup) {} (openForMapped 0)).1
      doorOpened 0 :=
  (notification_reaches_listeners_iff plainSetup (openForMapped 0) doorOpened 0 rfl
    (mappedOnce_openForMapped 0)).mpr (.inl rfl)

/-- Mapped with instance 1, the service does not reach the stream that is open
for it. -/
theorem notification_misses_instance_one :
    ∃ gw, gw = (Machine.run (step plainSetup) {} (openForMapped 1)).1 ∧
      MappedOnce gw.base.serviceMappings doorOpened.serviceId 1 ∧
      doorOpened.messageType = .notification ∧ (gw.streams 0).isOpen = true ∧
      (gw.streams 0).ListensTo doorOpened.serviceId.toUInt32 1 ∧
      ¬ReachesListeners plainSetup gw doorOpened 1 := by
  refine ⟨_, rfl, mappedOnce_openForMapped 1, rfl, by decide, by decide, fun h => ?_⟩
  have hpending := (h 0).1 (by decide)
  revert hpending
  decide

end SomeipGateway.Grpc
