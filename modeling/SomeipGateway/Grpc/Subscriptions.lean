import SomeipGateway.Grpc.Delivery

/-! Streams share one `EventSubscriber`, which keeps one callback for an event
group. A stream gets its notifications as long as no other stream touches the
subscription of its group, and only so long. -/
namespace SomeipGateway.Grpc

open Lib

/-- The subscription was accepted and the loop has not been left. -/
def EventStream.isOpen (stream : EventStream) : Bool :=
  match stream.phase with
  | .looping => true
  | .writing _ => true
  | _ => false

/-- The actions that change the callback of the stream's event group. -/
def Phase.changesSubscription : Phase → Action → Bool
  | .registered, .subscribe true => true
  | .leaving, .unsubscribe => true
  | _, _ => false

/-- The callback of an open stream's event group is the stream's own. -/
def Routed (gw : GrpcGateway) : Prop :=
  ∀ id, (gw.streams id).isOpen = true →
    gw.eventSubscriber.callbacks (gw.streams id).key.eventgroup = some id

/-! ### What a delivery leaves alone -/

structure SameCalls (before after : GrpcGateway) : Prop where
  phase : ∀ id, (after.streams id).phase = (before.streams id).phase
  key : ∀ id, (after.streams id).key = (before.streams id).key
  callbacks : after.eventSubscriber.callbacks = before.eventSubscriber.callbacks
  opened : after.opened = before.opened

theorem SameCalls.refl (gw : GrpcGateway) : SameCalls gw gw :=
  ⟨fun _ => rfl, fun _ => rfl, rfl, rfl⟩

theorem SameCalls.trans {first second third : GrpcGateway} (h : SameCalls first second)
    (h' : SameCalls second third) : SameCalls first third :=
  ⟨fun id => (h'.phase id).trans (h.phase id), fun id => (h'.key id).trans (h.key id),
    h'.callbacks.trans h.callbacks, h'.opened.trans h.opened⟩

theorem SameCalls.recorded {before after : GrpcGateway} (h : SameCalls before after)
    (base : GatewayBase) : SameCalls before { after with base := base } :=
  ⟨h.phase, h.key, h.callbacks, h.opened⟩

theorem SameCalls.routed_iff {before after : GrpcGateway} (h : SameCalls before after) :
    Routed after ↔ Routed before := by
  unfold Routed EventStream.isOpen
  simp only [h.phase, h.key, h.callbacks]

theorem step_deliver (stream : EventStream) (frame : EventFrame) :
    stream.step (.deliver frame) =
      if stream.phase = .unopened ∨ stream.sink.closed = true then (stream, [])
      else
        ({ stream with sink := { stream.sink with pending := stream.sink.pending ++ [frame] } },
          [.accepted frame]) := by
  unfold EventStream.step EventStream.deliverEventFrame
  cases stream.phase with
  | unopened => rfl
  | _ => simp

theorem shareAction_deliver (gw : GrpcGateway) (id : StreamId) (frame : EventFrame) :
    shareAction gw id (.deliver frame) = gw := by
  unfold shareAction
  cases (gw.streams id).phase with
  | _ => rfl

theorem act_deliver_sameCalls (gw : GrpcGateway) (id : StreamId) (frame : EventFrame) :
    SameCalls gw (act gw id (.deliver frame)).1 := by
  have hself : ((gw.streams id).step (.deliver frame)).1.phase = (gw.streams id).phase ∧
      ((gw.streams id).step (.deliver frame)).1.key = (gw.streams id).key := by
    rw [step_deliver]
    split_ifs
    · exact ⟨rfl, rfl⟩
    · exact ⟨rfl, rfl⟩
  refine ⟨fun other => ?_, fun other => ?_, ?_, ?_⟩
  · by_cases h : other = id
    · rw [h, act_streams_self]
      exact hself.1
    · rw [act_streams_of_ne gw _ h]
  · by_cases h : other = id
    · rw [h, act_streams_self]
      exact hself.2
    · rw [act_streams_of_ne gw _ h]
  · simp only [act, shareAction_deliver]
  · simp only [act, shareAction_deliver]

section

variable (setup : Setup)

theorem onEvent_sameCalls (gw : GrpcGateway) (id : StreamId) (n : EventNotification) :
    SameCalls gw (onEvent setup gw id n).1 := by
  apply SameCalls.recorded
  exact act_deliver_sameCalls gw id (messageFrame (notificationMessage n))

theorem onSomeipMessage_sameCalls (gw : GrpcGateway) (msg : Message) :
    SameCalls gw (onSomeipMessage setup gw msg).2.1 := by
  have hbroadcast (serviceId instanceId : UInt32) (frame : EventFrame) :
      SameCalls gw (broadcastNotification gw serviceId instanceId frame).1 := by
    refine Machine.run_invariant _ (fun now id h => ?_) gw _ (.refl gw)
    exact h.trans (act_deliver_sameCalls now id frame)
  unfold onSomeipMessage
  split_ifs
  · exact (hbroadcast _ _ _).recorded _
  · exact (SameCalls.refl gw).recorded _

/-- The inputs that open a call, take one further, or wait for all of them. -/
def Input.movesCalls : Input → Bool
  | .stop => true
  | .openStream _ => true
  | .action _ _ => true
  | _ => false

theorem step_sameCalls (gw : GrpcGateway) {input : Input} (h : input.movesCalls = false) :
    SameCalls gw (step setup gw input).1 := by
  cases input with
  | start outcome =>
      obtain ⟨hstreams, hopened, hcallbacks⟩ := start_calls setup outcome gw
      refine ⟨fun id => ?_, fun id => ?_, hcallbacks, hopened⟩
      · simp only [step, hstreams]
      · simp only [step, hstreams]
  | addServiceMapping mapping => exact (SameCalls.refl gw).recorded _
  | someipMessage msg => exact onSomeipMessage_sameCalls setup gw msg
  | notification group n =>
      simp only [step]
      split
      · exact .refl gw
      · exact onEvent_sameCalls setup gw _ n
  | _ => cases h

end

/-! ### Sinks of open streams take frames -/

/-- Closing the sink is the last thing a handler does. -/
def EventStream.ClosedLast (stream : EventStream) : Prop :=
  stream.sink.closed = true → stream.phase = .returned

structure Sound (gw : GrpcGateway) : Prop where
  closed : ∀ id, (gw.streams id).ClosedLast
  fresh : ∀ id, gw.opened ≤ id → (gw.streams id).phase = .unopened

theorem EventStream.Moves.closedLast {stream next : EventStream} {events : List Event}
    (h : Moves stream next events) (hclosed : stream.ClosedLast) : next.ClosedLast := by
  intro hnext
  cases h with
  | quiet _ sink forward idle ended =>
      rw [sink] at hnext
      exact ended (hclosed hnext)
  | accept frame => exact hclosed hnext
  | pop frame rest looping front => cases looping.symm.trans (hclosed hnext)
  | write frame writing => cases writing.symm.trans (hclosed hnext)
  | leave exit before drained =>
      rw [hclosed hnext] at before
      cases before
  | finish status => rfl

theorem Follows.closedLast {id : StreamId} {before after : GrpcGateway} {log : List Output}
    (h : Follows id before after log) (hclosed : (before.streams id).ClosedLast) :
    (after.streams id).ClosedLast := by
  obtain ⟨actions, hstream, -⟩ := h
  rw [hstream]
  refine Machine.run_invariant EventStream.step (fun stream action hstep => ?_) _ actions hclosed
  exact (stream.step_moves action).closedLast hstep

theorem SameCalls.fresh {before after : GrpcGateway} (h : SameCalls before after)
    (hfresh : ∀ id, before.opened ≤ id → (before.streams id).phase = .unopened) (id : StreamId)
    (hid : after.opened ≤ id) : (after.streams id).phase = .unopened := by
  rw [h.phase]
  rw [h.opened] at hid
  exact hfresh id hid

theorem act_opened (gw : GrpcGateway) (id : StreamId) (action : Action) :
    (act gw id action).1.opened = gw.opened := by
  simp only [act, shareAction]
  split <;> rfl

theorem stop_opened (gw : GrpcGateway) : (stop gw).2.opened = gw.opened := by
  unfold stop
  split_ifs <;> rfl

section

variable (setup : Setup)

theorem step_fresh (gw : GrpcGateway) (input : Input)
    (h : ∀ id, gw.opened ≤ id → (gw.streams id).phase = .unopened) (id : StreamId)
    (hid : (step setup gw input).1.opened ≤ id) :
    ((step setup gw input).1.streams id).phase = .unopened := by
  cases input with
  | stop =>
      simp only [step] at hid ⊢
      split_ifs at hid ⊢
      · rw [stop_opened] at hid
        rw [stop_streams]
        exact h id hid
      · exact h id hid
  | openStream key =>
      simp only [step] at hid ⊢
      split_ifs at hid ⊢
      · simp only [openStream, act_opened] at hid
        have hne : id ≠ gw.opened := Nat.ne_of_gt hid
        simp only [openStream, act_streams_of_ne _ _ hne]
        exact h id (Nat.le_of_succ_le hid)
      · exact h id hid
  | action other action =>
      simp only [step] at hid ⊢
      split_ifs at hid ⊢ with hother
      · rw [act_opened] at hid
        have hne : id ≠ other := Nat.ne_of_gt (Nat.lt_of_lt_of_le hother hid)
        rw [act_streams_of_ne gw action hne]
        exact h id hid
      · exact h id hid
  | _ => exact (step_sameCalls setup gw rfl).fresh h id hid

theorem step_sound (gw : GrpcGateway) (input : Input) (h : Sound gw) :
    Sound (step setup gw input).1 where
  closed id := (step_follows setup gw input id).closedLast (h.closed id)
  fresh := step_fresh setup gw input h.fresh

end

/-! ### Who holds the callback -/

theorem Routed.kept {before after : GrpcGateway} (h : Routed before)
    (hcallbacks : after.eventSubscriber.callbacks = before.eventSubscriber.callbacks)
    (hopen : ∀ id, (after.streams id).isOpen = true →
      (before.streams id).isOpen = true ∧ (after.streams id).key = (before.streams id).key) :
    Routed after := by
  intro id hid
  obtain ⟨hbefore, hkey⟩ := hopen id hid
  rw [hcallbacks, hkey]
  exact h id hbefore

/-- No other open stream has the event group of `id`. -/
def Alone (gw : GrpcGateway) (id : StreamId) : Prop :=
  ∀ other, other ≠ id → (gw.streams other).isOpen = true →
    (gw.streams other).key.eventgroup ≠ (gw.streams id).key.eventgroup

/-- Handing the callback of its own group over is right for a stream exactly when
it is alone on the group. -/
theorem Routed.handed_iff {before after : GrpcGateway} {id : StreamId} (h : Routed before)
    (holder : Option StreamId)
    (hcallbacks : after.eventSubscriber.callbacks =
      Function.update before.eventSubscriber.callbacks (before.streams id).key.eventgroup holder)
    (hothers : ∀ other, other ≠ id → after.streams other = before.streams other)
    (hkey : (after.streams id).key = (before.streams id).key)
    (hself : (after.streams id).isOpen = true → holder = some id)
    (hholder : ∀ other, holder = some other → other = id) :
    Routed after ↔ Alone before id := by
  constructor
  · intro hafter other hne hopen hgroup
    have hown := hafter other (by rw [hothers other hne]; exact hopen)
    rw [hcallbacks, hothers other hne, hgroup, Function.update_self] at hown
    exact hne (hholder other hown)
  · intro halone other hopen
    by_cases hne : other = id
    · subst hne
      rw [hcallbacks, hkey, Function.update_self]
      exact hself hopen
    · rw [hothers other hne] at hopen ⊢
      rw [hcallbacks, Function.update_of_ne (halone other hne hopen)]
      exact h other hopen

theorem EventStream.step_subscribe {stream : EventStream} (h : stream.phase = .registered) :
    stream.step (.subscribe true) = (stream.enter .looping, []) := by
  unfold step
  rw [h]

theorem EventStream.step_unsubscribe {stream : EventStream} (h : stream.phase = .leaving) :
    stream.step .unsubscribe = (stream.enter .unsubscribed, []) := by
  unfold step
  rw [h]

/-- A stream does not get open except by changing its subscription. -/
theorem EventStream.step_isOpen (stream : EventStream) {action : Action}
    (h : stream.phase.changesSubscription action = false)
    (hopen : (stream.step action).1.isOpen = true) :
    stream.isOpen = true ∧ (stream.step action).1.key = stream.key := by
  unfold step at hopen ⊢
  split at hopen
  · cases hopen
  · exact ⟨hopen, rfl⟩
  · unfold deliverEventFrame at hopen ⊢
    split_ifs at hopen ⊢
    · exact ⟨hopen, rfl⟩
    · exact ⟨hopen, rfl⟩
  · rename_i hphase
    rw [hphase] at h
    cases h
  · cases hopen
  · rename_i hphase
    refine ⟨by rw [isOpen, hphase], ?_⟩
    unfold iterate
    split_ifs
    · rfl
    · split <;> rfl
    · split <;> rfl
  · rename_i hphase
    exact ⟨by rw [isOpen, hphase], rfl⟩
  · cases hopen
  · cases hopen
  · cases hopen
  · cases hopen
  · cases hopen
  · exact ⟨hopen, rfl⟩

theorem act_shared (gw : GrpcGateway) (id : StreamId) (action : Action) :
    (act gw id action).1.eventSubscriber = (shareAction gw id action).eventSubscriber := rfl

theorem act_eventSubscriber (gw : GrpcGateway) (id : StreamId) {action : Action}
    (h : (gw.streams id).phase.changesSubscription action = false) :
    (act gw id action).1.eventSubscriber = gw.eventSubscriber := by
  rw [act_shared]
  unfold shareAction
  split
  · rfl
  · rename_i hphase
    rw [hphase] at h
    cases h
  · rename_i hphase
    rw [hphase] at h
    cases h
  · rfl
  · rfl
  · rfl

theorem shareAction_subscribe {gw : GrpcGateway} {id : StreamId}
    (h : (gw.streams id).phase = .registered) :
    shareAction gw id (.subscribe true) =
      { gw with eventSubscriber :=
          gw.eventSubscriber.subscribeEventgroup (gw.streams id).key.eventgroup id } := by
  unfold shareAction
  rw [h]

theorem shareAction_unsubscribe {gw : GrpcGateway} {id : StreamId}
    (h : (gw.streams id).phase = .leaving) :
    shareAction gw id .unsubscribe =
      { gw with eventSubscriber :=
          gw.eventSubscriber.unsubscribeEventgroup (gw.streams id).key.eventgroup } := by
  unfold shareAction
  rw [h]

theorem Phase.changesSubscription_cases {phase : Phase} {action : Action}
    (h : phase.changesSubscription action = true) :
    phase = .registered ∧ action = .subscribe true ∨
      phase = .leaving ∧ action = .unsubscribe := by
  unfold changesSubscription at h
  split at h
  · exact .inl ⟨rfl, rfl⟩
  · exact .inr ⟨rfl, rfl⟩
  · cases h

theorem act_routed_iff (gw : GrpcGateway) (id : StreamId) (action : Action) (h : Routed gw) :
    Routed (act gw id action).1 ↔
      ((gw.streams id).phase.changesSubscription action = true → Alone gw id) := by
  have hothers (other : StreamId) (hne : other ≠ id) := act_streams_of_ne gw action hne
  cases hchanges : (gw.streams id).phase.changesSubscription action with
  | false =>
      refine iff_of_true (h.kept ?_ fun other hopen => ?_) nofun
      · rw [act_eventSubscriber gw id hchanges]
      · by_cases hne : other = id
        · subst hne
          rw [act_streams_self] at hopen ⊢
          exact (gw.streams other).step_isOpen hchanges hopen
        · rw [hothers other hne] at hopen ⊢
          exact ⟨hopen, rfl⟩
  | true =>
      rw [eq_self_iff_true, true_imp_iff]
      rcases Phase.changesSubscription_cases hchanges with ⟨hphase, rfl⟩ | ⟨hphase, rfl⟩
      · refine h.handed_iff (some id) ?_ hothers ?_ (fun _ => rfl) (fun other hholder => ?_)
        · rw [act_shared, shareAction_subscribe hphase]
          rfl
        · rw [act_streams_self, EventStream.step_subscribe hphase]
          rfl
        · cases hholder
          rfl
      · refine h.handed_iff none ?_ hothers ?_ (fun hopen => ?_) nofun
        · rw [act_shared, shareAction_unsubscribe hphase]
          rfl
        · rw [act_streams_self, EventStream.step_unsubscribe hphase]
          rfl
        · rw [act_streams_self, EventStream.step_unsubscribe hphase] at hopen
          cases hopen

/-! ### Notifications -/

/-- When another stream of the same event group is open, a stream must neither
subscribe nor unsubscribe. -/
def LeavesOthersAlone (gw : GrpcGateway) : Input → Prop
  | .action id action =>
      id < gw.opened → (gw.streams id).phase.changesSubscription action = true → Alone gw id
  | _ => True

section

variable (setup : Setup)

/-- Whatever is notified for the event group of an open stream is put into its
sink, once. -/
def Delivers (gw : GrpcGateway) : Prop :=
  ∀ id, (gw.streams id).isOpen = true → ∀ n,
    ((step setup gw (.notification (gw.streams id).key.eventgroup n)).1.streams id).sink.pending =
      (gw.streams id).sink.pending ++ [messageFrame (notificationMessage n)]

theorem EventStream.takes_frames {stream : EventStream} (hopen : stream.isOpen = true)
    (hclosed : stream.ClosedLast) : ¬(stream.phase = .unopened ∨ stream.sink.closed = true) := by
  unfold isOpen at hopen
  rintro (hphase | h)
  · rw [hphase] at hopen
    cases hopen
  · rw [hclosed h] at hopen
    cases hopen

theorem delivers_iff (gw : GrpcGateway) (hsound : Sound gw) : Delivers setup gw ↔ Routed gw := by
  constructor
  · intro h id hopen
    have hpending := h id hopen ⟨0, 0, 0, 0, 0, []⟩
    simp only [step] at hpending
    split at hpending
    · simp at hpending
    · rename_i holder hholder
      by_cases hne : id = holder
      · rw [hholder, hne]
      · simp only [onEvent, act_streams_of_ne gw _ hne] at hpending
        simp at hpending
  · intro h id hopen n
    simp only [step, h id hopen, onEvent, act_streams_self, step_deliver,
      EventStream.takes_frames hopen (hsound.closed id), ↓reduceIte]

theorem GrpcGateway.phase_of_allReturned (gw : GrpcGateway) (hsound : Sound gw)
    (h : gw.allReturned = true) (id : StreamId) :
    (gw.streams id).phase = .returned ∨ (gw.streams id).phase = .unopened := by
  by_cases hid : id < gw.opened
  · have hreturned := List.all_eq_true.mp h id (List.mem_range.mpr hid)
    exact .inl (beq_iff_eq.mp hreturned)
  · exact .inr (hsound.fresh id (Nat.le_of_not_lt hid))

theorem GrpcGateway.isOpen_of_allReturned (gw : GrpcGateway) (hsound : Sound gw)
    (h : gw.allReturned = true) (id : StreamId) : (gw.streams id).isOpen = false := by
  unfold EventStream.isOpen
  rcases gw.phase_of_allReturned hsound h id with hphase | hphase
  · rw [hphase]
  · rw [hphase]

theorem step_routed_iff (gw : GrpcGateway) (input : Input) (hsound : Sound gw) (h : Routed gw) :
    Routed (step setup gw input).1 ↔ LeavesOthersAlone gw input := by
  cases input with
  | stop =>
      refine iff_of_true ?_ trivial
      simp only [step]
      split_ifs with hreturned
      · intro id hopen
        rw [stop_streams, gw.isOpen_of_allReturned hsound hreturned id] at hopen
        cases hopen
      · exact h
  | openStream key =>
      refine iff_of_true ?_ trivial
      simp only [step]
      split_ifs
      · have hopens : (gw.streams gw.opened).phase.changesSubscription (.opens key) = false := by
          rw [hsound.fresh gw.opened (Nat.le_refl _)]
          rfl
        apply (act_routed_iff { gw with opened := gw.opened + 1 } gw.opened (.opens key) h).mpr
        intro hchanges
        cases hopens.symm.trans hchanges
      · exact h
  | action id action =>
      simp only [step, LeavesOthersAlone]
      split_ifs with hid
      · rw [act_routed_iff gw id action h]
        exact ⟨fun h _ => h, fun h => h hid⟩
      · exact iff_of_true h fun hlt => absurd hlt hid
  | _ => exact iff_of_true ((step_sameCalls setup gw rfl).routed_iff.mpr h) trivial

theorem new_gateway_sound : Sound {} := ⟨fun _ => nofun, fun _ _ => rfl⟩

/-- In every run of a new gateway: each notification for an open stream's event
group reaches its sink once, in every state, exactly if no stream subscribes to
or unsubscribes from an event group for which another stream is open. -/
theorem streams_independent_iff (inputs : List Input) :
    Machine.Always (step setup) (Delivers setup) {} inputs ↔
      Machine.Along (step setup) LeavesOthersAlone {} inputs := by
  refine Machine.always_iff_along (step setup) (step_sound setup) ?_ {} inputs new_gateway_sound
    fun _ => nofun
  intro gw input hsound hdelivers
  rw [delivers_iff setup _ (step_sound setup gw input hsound)]
  exact step_routed_iff setup gw input hsound ((delivers_iff setup gw hsound).mp hdelivers)

end

/-- A second stream for the same event group opens and is cancelled; from then on
the first one, still open, gets nothing. -/
theorem second_stream_silences_first :
    ¬Delivers plainSetup (Machine.run (step plainSetup) {}
      [.start {},
        .openStream ⟨0x1234, 1, 1⟩, .action 0 (.subscribe true),
        .openStream ⟨0x1234, 1, 1⟩, .action 1 (.subscribe true),
        .action 1 (.iterate true), .action 1 .unsubscribe, .action 1 .unregister,
        .action 1 .close]).1 := by
  intro h
  have hpending := h 0 (by decide) ⟨0x1234, 1, 0x8001, 0, 0, [7]⟩
  revert hpending
  decide

end SomeipGateway.Grpc
