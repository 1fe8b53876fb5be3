import Mathlib.Algebra.Order.BigOperators.Group.Finset
import SomeipGateway.Grpc.Subscriptions
import SomeipGateway.Grpc.Threads

/-! No deadlock, and how calls come to an end. A handler of a stream is only ever
where its stream's phase says, so a cancelled one has a bounded number of turns left;
a thread that goes through the registry has as many as there are entries. -/
namespace SomeipGateway.Grpc

open Lib

section

variable (setup : Setup) (guarded : Bool) (count : Nat)

/-! ### Where a handler can stand -/

/-- The job is one of the handler of `id`, and what that handler has come to. -/
def Job.fits (id : StreamId) (phase : Phase) : Job → Prop
  | .registerEventStream own _ => own = id ∧ phase = .unopened
  | .subscribeEventgroup own _ => own = id ∧ phase = .registered
  | .popFrame own => own = id ∧ phase = .looping
  | .unsubscribeEventgroup own => own = id ∧ phase = .leaving
  | .unregisterEventStream own => own = id ∧ (phase = .unsubscribed ∨ phase = .refused)
  | _ => False

def Pc.fits (id : StreamId) (phase : Phase) : Pc → Prop
  | .resting => True
  | .between => True
  | .enter job => job.fits id phase
  | .inside job => job.fits id phase
  | .leave _ next => next = .between ∨ next = .popFrame id ∧ phase = .looping
  | _ => False

/-- The stream whose handler alone comes here. -/
def Job.handler : Job → Option StreamId
  | .registerEventStream id _ => some id
  | .subscribeEventgroup id _ => some id
  | .popFrame id => some id
  | .unsubscribeEventgroup id => some id
  | .unregisterEventStream id => some id
  | _ => none

def Pc.handler : Pc → Option StreamId
  | .enter job => job.handler
  | .inside job => job.handler
  | .leave _ (.popFrame id) => some id
  | _ => none

def Thread.handles : Thread → Option StreamId
  | .streamHandler id => some id
  | _ => none

theorem handles_some {thread : Thread} {id : StreamId} (h : thread.handles = some id) :
    thread = .streamHandler id := by
  cases thread with
  | streamHandler own => exact congrArg _ (Option.some.inj h)
  | _ => cases h

/-- How far a stream is. -/
def Shared.phase (d : Shared) (id : StreamId) : Phase := (d.gw.streams id).phase

structure Placed (s : Threads.State Thread Pc Lock Shared) : Prop where
  fresh : ∀ id, s.data.gw.opened ≤ id → s.data.phase id = .unopened
  called : ∀ id, s.pc (.streamHandler id) ≠ .resting → id < s.data.gw.opened
  handler : ∀ id, (s.pc (.streamHandler id)).fits id (s.data.phase id)
  other : ∀ thread, thread.handles = none → (s.pc thread).handler = none

theorem step_deliver_phase (stream : EventStream) (frame : EventFrame) :
    (stream.step (.deliver frame)).1.phase = stream.phase := by
  have hdelivered : (stream.deliverEventFrame frame).1.phase = stream.phase := by
    unfold EventStream.deliverEventFrame
    split_ifs <;> rfl
  cases hphase : stream.phase with
  | unopened => simp [EventStream.step, hphase]
  | _ =>
      rw [← hphase, ← hdelivered]
      simp only [EventStream.step, hphase]

theorem Shared.acts_phase (d : Shared) (id : StreamId) (action : Action) (pc : Pc) :
    (d.acts id action pc).1.1.phase id = ((d.gw.streams id).step action).1.phase := by
  simp [Shared.phase, Shared.acts]

theorem Shared.acts_phase_of_ne (d : Shared) {id other : StreamId} (action : Action) (pc : Pc)
    (h : other ≠ id) : (d.acts id action pc).1.1.phase other = d.phase other := by
  simp [Shared.phase, Shared.acts, act_streams_of_ne d.gw action h]

theorem Shared.deliver_phase (d : Shared) (id other : StreamId) (frame : EventFrame) (pc : Pc) :
    (d.acts id (.deliver frame) pc).1.1.phase other = d.phase other := by
  by_cases h : other = id
  · subst h
    rw [Shared.acts_phase, step_deliver_phase]
    rfl
  · exact d.acts_phase_of_ne _ pc h

theorem shareAction_opened (gw : GrpcGateway) (id : StreamId) (action : Action) :
    (shareAction gw id action).opened = gw.opened := by
  unfold shareAction
  dsimp only
  split <;> rfl

@[simp] theorem Shared.acts_opened (d : Shared) (id : StreamId) (action : Action) (pc : Pc) :
    (d.acts id action pc).1.1.gw.opened = d.gw.opened := shareAction_opened d.gw id action

/-- A turn that is no business of any stream's handler. -/
structure Aside (d : Shared) (turn : Turn) : Prop where
  pc : turn.2.handler = none
  phase : ∀ id, turn.1.1.phase id = d.phase id
  opened : turn.1.1.gw.opened = d.gw.opened

theorem Shared.goto_aside {d d' : Shared} {pc : Pc} (hpc : pc.handler = none)
    (hstreams : d'.gw.streams = d.gw.streams) (hopened : d'.gw.opened = d.gw.opened) :
    Aside d (d'.goto pc) := by
  refine ⟨hpc, fun id => ?_, hopened⟩
  simp [Shared.phase, Shared.goto, hstreams]

theorem begins_aside {thread : Thread} (hthread : thread.handles = none) (d : Shared)
    (entry : Option Entry) : Aside d (begins setup guarded thread d entry) := by
  unfold begins
  split
  · cases hthread
  · split_ifs <;> exact d.goto_aside rfl rfl rfl
  · split_ifs with hnotification
    · exact d.goto_aside rfl rfl rfl
    · apply Shared.goto_aside rfl
      · rw [onSomeipMessage, if_neg hnotification]
      · rw [onSomeipMessage, if_neg hnotification]
  · exact d.goto_aside rfl rfl rfl
  · exact d.goto_aside rfl rfl rfl
  · split_ifs
    · exact d.goto_aside rfl rfl rfl
    · split <;> exact d.goto_aside rfl rfl rfl
  · obtain ⟨hstreams, hopened, -⟩ := start_calls setup (by assumption) d.gw
    exact d.goto_aside rfl hstreams hopened
  · split_ifs <;> exact d.goto_aside rfl rfl rfl
  · exact d.goto_aside rfl rfl rfl

theorem perform_aside (d : Shared) (answer : Answer) {job : Job} (hjob : job.handler = none) :
    Aside d (perform d answer job) := by
  cases job with
  | registerEventStream id key => cases hjob
  | subscribeEventgroup id accepted => cases hjob
  | popFrame id => cases hjob
  | unsubscribeEventgroup id => cases hjob
  | unregisterEventStream id => cases hjob
  | notify group n =>
      unfold perform
      dsimp only
      split <;> exact d.goto_aside rfl rfl rfl
  | _ => exact d.goto_aside rfl rfl rfl

theorem visits_aside (d : Shared) (outer : Outer) (frame : EventFrame) (ids : List StreamId) :
    Aside d (visits d outer frame ids) := by
  cases ids with
  | nil =>
      rw [visits]
      split_ifs <;> exact d.goto_aside rfl rfl rfl
  | cons id rest =>
      rw [visits]
      split_ifs <;> exact d.goto_aside rfl rfl rfl

theorem turn_aside {thread : Thread} {pc : Pc} (hthread : thread.handles = none)
    (hpc : pc.handler = none) (d : Shared) (answer : Answer) :
    Aside d ((code setup guarded count).turn thread pc d answer) := by
  cases pc with
  | resting => exact begins_aside setup guarded hthread d answer.entry
  | between =>
      cases thread with
      | streamHandler id => cases hthread
      | _ => exact d.goto_aside rfl rfl rfl
  | enter job => exact d.goto_aside hpc rfl rfl
  | inside job => exact perform_aside d answer hpc
  | leave lock next =>
      cases next with
      | popFrame id => cases hpc
      | _ => exact d.goto_aside rfl rfl rfl
  | visiting outer frame ids => exact visits_aside d outer frame ids
  | pushing outer frame id ids =>
      exact ⟨rfl, fun other => d.deliver_phase id other frame _, d.acts_opened id _ _⟩
  | closing outer => cases outer <;> exact d.goto_aside rfl rfl rfl
  | _ => exact d.goto_aside rfl rfl rfl

/-- A turn of the handler of `id`. -/
structure Own (id : StreamId) (d : Shared) (turn : Turn) : Prop where
  fits : turn.2.fits id (turn.1.1.phase id)
  phase : ∀ other, other ≠ id → turn.1.1.phase other = d.phase other
  opened : turn.1.1.gw.opened = d.gw.opened ∨
    d.gw.opened = id ∧ turn.1.1.gw.opened = id + 1

theorem Shared.goto_own {d : Shared} {id : StreamId} {pc : Pc} (hpc : pc.fits id (d.phase id)) :
    Own id d (d.goto pc) := ⟨hpc, fun _ _ => rfl, .inl rfl⟩

theorem Shared.acts_own {d : Shared} {id : StreamId} {action : Action} {pc : Pc}
    (hpc : pc.fits id ((d.gw.streams id).step action).1.phase) :
    Own id d (d.acts id action pc) := by
  refine ⟨?_, fun other hother => d.acts_phase_of_ne action pc hother, .inl (d.acts_opened id _ _)⟩
  rw [Shared.acts_phase]
  exact hpc

theorem begins_own (id : StreamId) (d : Shared) (entry : Option Entry)
    (hfresh : d.gw.opened ≤ id → d.phase id = .unopened) :
    Own id d (begins setup guarded (.streamHandler id) d entry) := by
  unfold begins
  split
  · rename_i own key hthread
    cases hthread
    split_ifs with hcall
    · refine ⟨⟨rfl, hfresh hcall.2.le⟩, fun _ _ => rfl, .inr ⟨hcall.2, rfl⟩⟩
    · exact d.goto_own trivial
  all_goals first
    | exact d.goto_own trivial
    | contradiction

theorem continues_own (id : StreamId) (d : Shared) (answer : Answer) :
    Own id d (continues (.streamHandler id) d answer) := by
  cases hphase : (d.gw.streams id).phase with
  | unopened =>
      simp only [continues, hphase]
      exact d.goto_own trivial
  | registered =>
      simp only [continues, hphase]
      exact d.goto_own ⟨rfl, hphase⟩
  | looping =>
      simp only [continues, hphase]
      split_ifs
      · exact d.acts_own trivial
      · exact d.goto_own ⟨rfl, hphase⟩
  | writing frame =>
      simp only [continues, hphase]
      exact d.acts_own trivial
  | leaving =>
      simp only [continues, hphase]
      exact d.goto_own ⟨rfl, hphase⟩
  | unsubscribed =>
      simp only [continues, hphase]
      exact d.goto_own ⟨rfl, .inl hphase⟩
  | refused =>
      simp only [continues, hphase]
      exact d.goto_own ⟨rfl, .inr hphase⟩
  | unregistered status =>
      simp only [continues, hphase]
      exact d.acts_own trivial
  | returned =>
      simp only [continues, hphase]
      exact d.goto_own trivial

theorem perform_own {id : StreamId} {d : Shared} (answer : Answer) {job : Job}
    (hjob : job.fits id (d.phase id)) : Own id d (perform d answer job) := by
  cases job with
  | registerEventStream own key =>
      obtain ⟨rfl, -⟩ := hjob
      exact d.acts_own (.inl rfl)
  | subscribeEventgroup own accepted =>
      obtain ⟨rfl, -⟩ := hjob
      exact d.acts_own (.inl rfl)
  | popFrame own =>
      obtain ⟨rfl, hphase⟩ := hjob
      unfold perform
      dsimp only
      split_ifs
      · exact d.goto_own (.inr ⟨rfl, hphase⟩)
      · exact d.acts_own (.inl rfl)
  | unsubscribeEventgroup own =>
      obtain ⟨rfl, -⟩ := hjob
      exact d.acts_own (.inl rfl)
  | unregisterEventStream own =>
      obtain ⟨rfl, -⟩ := hjob
      exact d.acts_own (.inl rfl)
  | _ => exact hjob.elim

theorem turn_own {id : StreamId} {pc : Pc} {d : Shared} (hfits : pc.fits id (d.phase id))
    (hfresh : d.gw.opened ≤ id → d.phase id = .unopened) (answer : Answer) :
    Own id d ((code setup guarded count).turn (.streamHandler id) pc d answer) := by
  cases pc with
  | resting => exact begins_own setup guarded id d answer.entry hfresh
  | between => exact continues_own id d answer
  | enter job => exact d.goto_own hfits
  | inside job => exact perform_own answer hfits
  | leave lock next =>
      rcases hfits with rfl | ⟨rfl, hphase⟩
      · exact d.goto_own trivial
      · exact d.goto_own ⟨rfl, hphase⟩
  | _ => exact hfits.elim

theorem Placed.aside {s : Threads.State Thread Pc Lock Shared} (h : Placed s) {thread : Thread}
    (hthread : thread.handles = none) {turn : Turn} (hturn : Aside s.data turn)
    (owner : Lock → Option Thread) :
    Placed ⟨turn.1.1, Function.update s.pc thread turn.2, owner⟩ := by
  have hne (id : StreamId) : .streamHandler id ≠ thread := by
    rintro rfl
    cases hthread
  refine ⟨fun id hid => ?_, fun id hid => ?_, fun id => ?_, fun other hother => ?_⟩
  · rw [hturn.phase]
    exact h.fresh id (hturn.opened ▸ hid)
  · dsimp only at hid ⊢
    rw [Function.update_of_ne (hne id)] at hid
    rw [hturn.opened]
    exact h.called id hid
  · dsimp only
    rw [Function.update_of_ne (hne id), hturn.phase]
    exact h.handler id
  · dsimp only
    by_cases hsame : other = thread
    · rw [hsame, Function.update_self]
      exact hturn.pc
    · rw [Function.update_of_ne hsame]
      exact h.other other hother

theorem Placed.own {s : Threads.State Thread Pc Lock Shared} (h : Placed s) {id : StreamId}
    {turn : Turn} (hturn : Own id s.data turn)
    (hcalled : id < turn.1.1.gw.opened ∨ turn = s.data.goto .resting)
    (owner : Lock → Option Thread) :
    Placed ⟨turn.1.1, Function.update s.pc (.streamHandler id) turn.2, owner⟩ := by
  have hgrows : s.data.gw.opened ≤ turn.1.1.gw.opened := by
    rcases hturn.opened with hopened | ⟨hbefore, hafter⟩ <;> omega
  have hne {other : StreamId} (hother : other ≠ id) :
      Thread.streamHandler other ≠ .streamHandler id := by
    intro hsame
    exact hother (Thread.streamHandler.inj hsame)
  refine ⟨fun other hother => ?_, fun other hother => ?_, fun other => ?_, fun thread hthread => ?_⟩
  · dsimp only at hother ⊢
    by_cases hsame : other = id
    · subst hsame
      rcases hcalled with hcalled | hidle
      · exact absurd hcalled (Nat.not_lt.mpr hother)
      · rw [hidle] at hother ⊢
        exact h.fresh other hother
    · rw [hturn.phase other hsame]
      exact h.fresh other (hgrows.trans hother)
  · dsimp only at hother ⊢
    by_cases hsame : other = id
    · subst hsame
      rw [Function.update_self] at hother
      rcases hcalled with hcalled | hidle
      · exact hcalled
      · rw [hidle] at hother
        exact absurd rfl hother
    · rw [Function.update_of_ne (hne hsame)] at hother
      exact (h.called other hother).trans_le hgrows
  · dsimp only
    by_cases hsame : other = id
    · subst hsame
      rw [Function.update_self]
      exact hturn.fits
    · rw [Function.update_of_ne (hne hsame), hturn.phase other hsame]
      exact h.handler other
  · have hother : thread ≠ .streamHandler id := by
      rintro rfl
      cases hthread
    dsimp only
    rw [Function.update_of_ne hother]
    exact h.other thread hthread

theorem begins_called (id : StreamId) (d : Shared) (entry : Option Entry) :
    id < (begins setup guarded (.streamHandler id) d entry).1.1.gw.opened ∨
      begins setup guarded (.streamHandler id) d entry = d.goto .resting := by
  unfold begins
  split
  · rename_i own key hthread
    cases hthread
    split_ifs
    · exact .inl (Nat.lt_succ_self id)
    · exact .inr rfl
  all_goals first
    | exact .inr rfl
    | contradiction

theorem turn_called {id : StreamId} {pc : Pc} {d : Shared} (hfits : pc.fits id (d.phase id))
    (hfresh : d.gw.opened ≤ id → d.phase id = .unopened)
    (hcalled : pc ≠ .resting → id < d.gw.opened) (answer : Answer) :
    let turn := (code setup guarded count).turn (.streamHandler id) pc d answer
    id < turn.1.1.gw.opened ∨ turn = d.goto .resting := by
  by_cases hresting : pc = .resting
  · subst hresting
    exact begins_called setup guarded id d answer.entry
  · have hown := turn_own setup guarded count hfits hfresh answer
    have hid := hcalled hresting
    rcases hown.opened with hsame | ⟨-, hnow⟩
    · exact .inl (hsame ▸ hid)
    · exact .inl (hnow ▸ Nat.lt_succ_self id)

theorem step_placed {s : Threads.State Thread Pc Lock Shared} (h : Placed s)
    (turn : Thread × Answer) : Placed (Threads.step (code setup guarded count) s turn).1 := by
  obtain ⟨thread, answer⟩ := turn
  by_cases hmoves : Threads.CanMove (code setup guarded count) s thread
  · obtain ⟨owner, hstep⟩ := Threads.step_of_canMove hmoves answer
    rw [hstep]
    cases hhandles : thread.handles with
    | none =>
        exact h.aside hhandles (turn_aside setup guarded count hhandles (h.other thread hhandles)
          s.data answer) owner
    | some id =>
        obtain rfl := handles_some hhandles
        have hfits := h.handler id
        exact h.own (turn_own setup guarded count hfits (h.fresh id) answer)
          (turn_called setup guarded count hfits (h.fresh id) (h.called id) answer) owner
  · rw [Threads.step_of_not_canMove hmoves]
    exact h

/-! ### How far a thread is from rest -/

/-- The turns a cancelled handler has left from between two jobs on. -/
def Phase.left : Phase → Nat
  | .unopened => 1
  | .registered => 14
  | .looping => 10
  | .writing _ => 11
  | .leaving => 9
  | .unsubscribed => 5
  | .refused => 5
  | .unregistered _ => 1
  | .returned => 1

def Job.handlerLeft : Job → Nat
  | .registerEventStream _ _ => 16
  | .subscribeEventgroup _ _ => 12
  | .popFrame _ => 13
  | .unsubscribeEventgroup _ => 7
  | .unregisterEventStream _ => 3
  | _ => 0

def Pc.handlerLeft (phase : Phase) : Pc → Nat
  | .between => phase.left
  | .enter job => job.handlerLeft + 1
  | .inside job => job.handlerLeft
  | .leave _ .between => phase.left + 1
  | .leave _ _ => 15
  | _ => 0

/-- What a turn is answered when calls are cancelled. -/
def cancelling : Answer := { cancelled := true }

theorem continues_less (id : StreamId) (d : Shared) :
    let turn := continues (.streamHandler id) d cancelling
    turn.2.handlerLeft (turn.1.1.phase id) < (d.phase id).left := by
  cases hphase : (d.gw.streams id).phase with
  | looping =>
      simp only [continues, hphase, cancelling, ↓reduceIte, Shared.phase]
      simp [Shared.acts, EventStream.step, hphase, EventStream.iterate, EventStream.enter,
        Pc.handlerLeft, Phase.left]
  | writing frame =>
      simp only [continues, hphase, cancelling, Shared.phase]
      simp [Shared.acts, EventStream.step, hphase, EventStream.enter, Pc.handlerLeft, Phase.left]
  | unregistered status =>
      simp only [continues, hphase, Shared.phase]
      simp [Shared.acts, Pc.handlerLeft, Phase.left]
  | _ =>
      simp only [continues, hphase, Shared.phase]
      simp [Shared.goto, Pc.handlerLeft, Phase.left, Job.handlerLeft]

theorem iterate_left {stream : EventStream} (hphase : stream.phase = .looping) :
    (stream.step (.iterate false)).1.phase.left ≤ 11 := by
  simp only [EventStream.step, hphase, EventStream.iterate, Bool.false_eq_true, ↓reduceIte]
  cases stream.sink.pending with
  | nil =>
      dsimp only
      split_ifs
      · exact show 9 ≤ 11 by decide
      · rw [hphase]
        exact show 10 ≤ 11 by decide
  | cons frame rest => exact Nat.le_refl 11

/-- A job of a handler that ends between two jobs again. -/
theorem Shared.acts_less {d : Shared} {id : StreamId} {action : Action} {lock : Lock} {bound : Nat}
    (h : ((d.gw.streams id).step action).1.phase.left + 1 < bound) :
    let turn := d.acts id action (.leave lock .between)
    turn.2.handlerLeft (turn.1.1.phase id) < bound := by
  intro turn
  rw [Shared.acts_phase]
  exact h

theorem perform_less {id : StreamId} {d : Shared} {job : Job} (hjob : job.fits id (d.phase id)) :
    let turn := perform d cancelling job
    turn.2.handlerLeft (turn.1.1.phase id) < job.handlerLeft := by
  cases job with
  | registerEventStream own key =>
      obtain ⟨rfl, hphase⟩ := hjob
      apply Shared.acts_less
      rw [Shared.phase] at hphase
      simp [EventStream.step, hphase, Phase.left, Job.handlerLeft]
  | subscribeEventgroup own accepted =>
      obtain ⟨rfl, hphase⟩ := hjob
      apply Shared.acts_less
      rw [Shared.phase] at hphase
      cases accepted <;>
        simp [EventStream.step, hphase, EventStream.enter, Phase.left, Job.handlerLeft]
  | popFrame own =>
      obtain ⟨rfl, hphase⟩ := hjob
      apply Shared.acts_less
      exact Nat.lt_of_le_of_lt (Nat.succ_le_succ (iterate_left hphase)) (show 12 < 13 by decide)
  | unsubscribeEventgroup own =>
      obtain ⟨rfl, hphase⟩ := hjob
      apply Shared.acts_less
      rw [Shared.phase] at hphase
      simp [EventStream.step, hphase, EventStream.enter, Phase.left, Job.handlerLeft]
  | unregisterEventStream own =>
      obtain ⟨rfl, hphase | hphase⟩ := hjob
      · apply Shared.acts_less
        rw [Shared.phase] at hphase
        simp [EventStream.step, hphase, EventStream.enter, Phase.left, Job.handlerLeft]
      · apply Shared.acts_less
        rw [Shared.phase] at hphase
        simp [EventStream.step, hphase, EventStream.enter, Phase.left, Job.handlerLeft]
  | _ => exact hjob.elim

/-- The turns that any other thread has left, for a registry of `n` entries. -/
def Job.otherLeft (n : Nat) : Job → Nat
  | .broadcastNotification _ _ => 4 * n + 5
  | .findMapping _ => 4 * n + 8
  | .notify _ _ => 9
  | .clearChannels => 6
  | _ => 3

def Next.otherLeft (n : Nat) : Next → Nat
  | .broadcastNotification _ _ => 4 * n + 6
  | .clearStreams => 4
  | _ => 1

def Pc.otherLeft (n : Nat) : Pc → Nat
  | .resting => 0
  | .between => 1
  | .enter job => job.otherLeft n + 1
  | .inside job => job.otherLeft n
  | .leave _ next => next.otherLeft n + 1
  | .visiting _ _ ids => 4 * ids.length + 4
  | .delivering _ _ _ ids => 4 * ids.length + 7
  | .pushing _ _ _ ids => 4 * ids.length + 6
  | .delivered _ _ _ ids => 4 * ids.length + 5
  | .visited _ => 3
  | .recording _ _ => 2
  | .closing _ => 1
  | .shutdown => 10
  | .releasing => 9
  | .joining => 8
  | .stopped => 1

theorem otherLeft_mono {n m : Nat} (h : n ≤ m) (pc : Pc) : pc.otherLeft n ≤ pc.otherLeft m := by
  have hjob (job : Job) : job.otherLeft n ≤ job.otherLeft m := by
    cases job <;> simp only [Job.otherLeft] <;> omega
  have hnext (next : Next) : next.otherLeft n ≤ next.otherLeft m := by
    cases next <;> simp only [Next.otherLeft] <;> omega
  cases pc with
  | enter job => exact Nat.succ_le_succ (hjob job)
  | inside job => exact hjob job
  | leave lock next => exact Nat.succ_le_succ (hnext next)
  | _ => exact Nat.le_refl _

def Shared.registered (d : Shared) : Nat := d.gw.streamSubscribers.length

/-- A turn of a thread that is no handler brings it nearer to rest, and adds nothing
to the registry. -/
structure Nearer (d : Shared) (pc : Pc) (turn : Turn) : Prop where
  less : turn.2.otherLeft d.registered < pc.otherLeft d.registered
  registered : turn.1.1.registered ≤ d.registered

theorem perform_nearer (d : Shared) (answer : Answer) {job : Job} (hjob : job.handler = none) :
    Nearer d (.inside job) (perform d answer job) := by
  cases job with
  | registerEventStream id key => cases hjob
  | subscribeEventgroup id accepted => cases hjob
  | popFrame id => cases hjob
  | unsubscribeEventgroup id => cases hjob
  | unregisterEventStream id => cases hjob
  | broadcastNotification msg instanceId =>
      refine ⟨?_, Nat.le_refl _⟩
      have hcount := List.length_filter_le (fun entry : EventStreamKey × StreamId =>
        entry.1.serviceId == msg.serviceId.toUInt32 &&
          entry.1.instanceId == instanceId.toUInt32) d.gw.streamSubscribers
      simp only [perform, Shared.goto, Pc.otherLeft, Job.otherLeft, List.length_map,
        Shared.registered]
      omega
  | findMapping msg =>
      refine ⟨?_, Nat.le_refl _⟩
      simp only [perform, Shared.goto, Pc.otherLeft, Job.otherLeft, Next.otherLeft]
      omega
  | notify group n =>
      unfold perform
      dsimp only
      split
      · exact ⟨show 2 < 9 by decide, Nat.le_refl _⟩
      · exact ⟨show 8 < 9 by decide, Nat.le_refl _⟩
  | clearStreams => exact ⟨show 2 < 3 by decide, Nat.zero_le _⟩
  | clearChannels => exact ⟨show 5 < 6 by decide, Nat.le_refl _⟩
  | _ => exact ⟨show 2 < 3 by decide, Nat.le_refl _⟩

theorem visits_nearer (d : Shared) (outer : Outer) (frame : EventFrame) (ids : List StreamId) :
    Nearer d (.visiting outer frame ids) (visits d outer frame ids) := by
  cases ids with
  | nil =>
      rw [visits]
      split_ifs
      · exact ⟨show 3 < 4 by decide, Nat.le_refl _⟩
      · exact ⟨show 2 < 4 by decide, Nat.le_refl _⟩
  | cons id rest =>
      rw [visits]
      split_ifs
      · refine ⟨?_, Nat.le_refl _⟩
        simp only [Shared.goto, Pc.otherLeft, List.length_cons]
        omega
      · refine ⟨?_, Nat.le_refl _⟩
        simp only [Shared.goto, Pc.otherLeft, List.length_cons]
        omega

theorem turn_less {id : StreamId} {pc : Pc} {d : Shared} (hfits : pc.fits id (d.phase id))
    (hbusy : pc ≠ .resting) :
    let turn := (code setup guarded count).turn (.streamHandler id) pc d cancelling
    turn.2.handlerLeft (turn.1.1.phase id) < pc.handlerLeft (d.phase id) := by
  cases pc with
  | resting => exact absurd rfl hbusy
  | between => exact continues_less id d
  | enter job => exact Nat.lt_succ_self _
  | inside job => exact perform_less hfits
  | leave lock next =>
      rcases hfits with rfl | ⟨rfl, -⟩
      · exact Nat.lt_succ_self _
      · exact show 14 < 15 by decide
  | _ => exact hfits.elim

theorem turn_nearer {thread : Thread} {pc : Pc} (hthread : thread.handles = none)
    (hpc : pc.handler = none) (hbusy : pc ≠ .resting) (d : Shared) (answer : Answer) :
    Nearer d pc ((code setup guarded count).turn thread pc d answer) := by
  cases pc with
  | resting => exact absurd rfl hbusy
  | between =>
      cases thread with
      | streamHandler id => cases hthread
      | _ => exact ⟨Nat.zero_lt_one, Nat.le_refl _⟩
  | enter job => exact ⟨Nat.lt_succ_self _, Nat.le_refl _⟩
  | inside job => exact perform_nearer d answer hpc
  | leave lock next =>
      cases next with
      | popFrame id => cases hpc
      | _ => exact ⟨Nat.lt_succ_self _, Nat.le_refl _⟩
  | visiting outer frame ids => exact visits_nearer d outer frame ids
  | delivering outer frame id ids => exact ⟨Nat.lt_succ_self _, Nat.le_refl _⟩
  | pushing outer frame id ids =>
      refine ⟨Nat.lt_succ_self _, Nat.le_of_eq ?_⟩
      exact congrArg (fun gw => gw.streamSubscribers.length) (shareAction_deliver d.gw id frame)
  | delivered outer frame id ids => exact ⟨Nat.lt_succ_self _, Nat.le_refl _⟩
  | visited frame => exact ⟨Nat.lt_succ_self _, Nat.le_refl _⟩
  | recording outer frame => exact ⟨Nat.lt_succ_self _, Nat.le_refl _⟩
  | closing outer => cases outer <;> exact ⟨Nat.lt_succ_self _, Nat.le_refl _⟩
  | shutdown => exact ⟨Nat.lt_succ_self _, Nat.le_refl _⟩
  | releasing => exact ⟨Nat.lt_succ_self _, Nat.le_refl _⟩
  | joining => exact ⟨Nat.lt_succ_self _, Nat.le_refl _⟩
  | stopped => exact ⟨Nat.lt_succ_self _, Nat.le_refl _⟩

/-! ### Coming to rest -/

/-- The turns that a handler of a stream has left, and those of any other thread. -/
def handlerTurns (s : Threads.State Thread Pc Lock Shared) (thread : Thread) : Nat :=
  match thread with
  | .streamHandler id => (s.pc thread).handlerLeft (s.data.phase id)
  | _ => 0

def otherTurns (s : Threads.State Thread Pc Lock Shared) (thread : Thread) : Nat :=
  if thread.handles.isSome then 0 else (s.pc thread).otherLeft s.data.registered

/-- A handler may add to what others have to do, but not to what handlers have to. -/
def turnsLeft (busy : Finset Thread) (s : Threads.State Thread Pc Lock Shared) : Nat × Nat :=
  (∑ thread ∈ busy, handlerTurns s thread, ∑ thread ∈ busy, otherTurns s thread)

theorem handlerTurns_own {s : Threads.State Thread Pc Lock Shared} {id : StreamId} {turn : Turn}
    (hturn : Own id s.data turn) (owner : Lock → Option Thread) {thread : Thread}
    (hthread : thread ≠ .streamHandler id) :
    handlerTurns ⟨turn.1.1, Function.update s.pc (.streamHandler id) turn.2, owner⟩ thread =
      handlerTurns s thread := by
  cases thread with
  | streamHandler other =>
      have hother : other ≠ id := fun hsame => hthread (congrArg _ hsame)
      simp only [handlerTurns, Function.update_of_ne hthread, hturn.phase other hother]
  | _ => rfl

theorem handlerTurns_aside {s : Threads.State Thread Pc Lock Shared} {mover : Thread} {turn : Turn}
    (hmover : mover.handles = none) (hturn : Aside s.data turn) (owner : Lock → Option Thread)
    (thread : Thread) :
    handlerTurns ⟨turn.1.1, Function.update s.pc mover turn.2, owner⟩ thread =
      handlerTurns s thread := by
  cases thread with
  | streamHandler id =>
      have hne : .streamHandler id ≠ mover := by
        rintro rfl
        cases hmover
      simp only [handlerTurns, Function.update_of_ne hne, hturn.phase id]
  | _ => rfl

theorem otherTurns_le {s : Threads.State Thread Pc Lock Shared} {mover thread : Thread}
    {turn : Turn} (hturn : Nearer s.data (s.pc mover) turn) (owner : Lock → Option Thread)
    (hthread : thread ≠ mover) :
    otherTurns ⟨turn.1.1, Function.update s.pc mover turn.2, owner⟩ thread ≤
      otherTurns s thread := by
  unfold otherTurns
  dsimp only
  rw [Function.update_of_ne hthread]
  split_ifs
  · exact Nat.le_refl _
  · exact otherLeft_mono hturn.registered _

theorem otherTurns_lt {s : Threads.State Thread Pc Lock Shared} {mover : Thread} {turn : Turn}
    (hmover : mover.handles = none) (hturn : Nearer s.data (s.pc mover) turn)
    (owner : Lock → Option Thread) :
    otherTurns ⟨turn.1.1, Function.update s.pc mover turn.2, owner⟩ mover <
      otherTurns s mover := by
  unfold otherTurns
  dsimp only
  rw [Function.update_self, hmover]
  exact (otherLeft_mono hturn.registered _).trans_lt hturn.less

/-- Where all threads that are not at rest are among `busy`. -/
structure Underway (busy : Finset Thread) (s : Threads.State Thread Pc Lock Shared) : Prop where
  placed : Placed s
  busy : ∀ thread, s.pc thread ≠ .resting → thread ∈ busy

theorem step_turnsLeft {busy : Finset Thread} {s : Threads.State Thread Pc Lock Shared}
    {mover : Thread} (h : Underway busy s) (hbusy : s.pc mover ≠ .resting)
    (hmoves : Threads.CanMove (code setup guarded count) s mover) :
    Underway busy (Threads.step (code setup guarded count) s (mover, cancelling)).1 ∧
      Prod.Lex (· < ·) (· < ·)
        (turnsLeft busy (Threads.step (code setup guarded count) s (mover, cancelling)).1)
        (turnsLeft busy s) := by
  have hplaced := step_placed setup guarded count h.placed (mover, cancelling)
  obtain ⟨owner, hstep⟩ := Threads.step_of_canMove hmoves cancelling
  rw [hstep] at hplaced ⊢
  refine ⟨⟨hplaced, fun thread hthread => ?_⟩, ?_⟩
  · by_cases hsame : thread = mover
    · exact hsame ▸ h.busy mover hbusy
    · dsimp only at hthread
      rw [Function.update_of_ne hsame] at hthread
      exact h.busy thread hthread
  · cases hhandles : mover.handles with
    | some id =>
        obtain rfl := handles_some hhandles
        have hfits := h.placed.handler id
        have hown := turn_own setup guarded count hfits (h.placed.fresh id) cancelling
        apply Prod.Lex.left
        apply Finset.sum_lt_sum
        · intro thread _
          by_cases hsame : thread = .streamHandler id
          · subst hsame
            simp only [handlerTurns, Function.update_self]
            exact (turn_less setup guarded count hfits hbusy).le
          · exact (handlerTurns_own hown owner hsame).le
        · refine ⟨.streamHandler id, h.busy _ hbusy, ?_⟩
          simp only [handlerTurns, Function.update_self]
          exact turn_less setup guarded count hfits hbusy
    | none =>
        have hpc := h.placed.other mover hhandles
        have haside := turn_aside setup guarded count hhandles hpc s.data cancelling
        have hnearer := turn_nearer setup guarded count hhandles hpc hbusy s.data cancelling
        have hmajor := Finset.sum_congr rfl fun thread (_ : thread ∈ busy) =>
          handlerTurns_aside hhandles haside owner thread
        unfold turnsLeft
        dsimp only
        rw [hmajor]
        apply Prod.Lex.right
        apply Finset.sum_lt_sum
        · intro thread _
          by_cases hsame : thread = mover
          · subst hsame
            exact (otherTurns_lt hhandles hnearer owner).le
          · exact otherTurns_le hnearer owner hsame
        · exact ⟨mover, h.busy mover hbusy, otherTurns_lt hhandles hnearer owner⟩

/-- A new gateway, and nobody in it. -/
def atRest : Threads.State Thread Pc Lock Shared where
  data := {}
  pc _ := .resting

theorem atRest_placed : Placed atRest :=
  ⟨fun _ _ => rfl, fun _ h => absurd rfl h, fun _ => trivial, fun _ _ => rfl⟩

theorem atRest_sound : Threads.Sound Pc.holds atRest := fun _ _ => iff_of_false nofun nofun

theorem run_underway (turns : List (Thread × Answer)) :
    Underway (turns.map Prod.fst).toFinset
      (Machine.run (Threads.step (code setup guarded count)) atRest turns).1 := by
  constructor
  · refine Machine.run_invariant (Threads.step (code setup guarded count)) ?_ atRest turns
      atRest_placed
    exact fun s turn hs => step_placed setup guarded count hs turn
  · intro thread hbusy
    by_contra hmem
    rw [List.mem_toFinset] at hmem
    exact hbusy (Threads.run_pc_of_notMem atRest hmem)

/-- The pieces of `stop()` make up `stop`. -/
theorem stop_eq_pieces {gw : GrpcGateway} (hrunning : gw.base.running = true) :
    (stop gw).2 =
      { releaseComponents { gw with grpcServer := false } with
        streamSubscribers := []
        base := gw.base.setRunning false } := by
  simp [stop, hrunning, releaseComponents]

/-- However the threads take turns: no mutex is ever held twice; as long as a call is
under way, one of those under way can go on; what a stream has popped and what still
waits in its sink is what the sink was given, in this order; and without a further
call all calls can return, `stop()` included, once the streams are cancelled. -/
theorem calls_never_deadlock (turns : List (Thread × Answer)) :
    let now := Machine.run (Threads.step (code setup guarded count)) atRest turns
    (∀ lock thread other, lock ∈ (now.1.pc thread).holds → lock ∈ (now.1.pc other).holds →
      thread = other) ∧
    (∀ thread, now.1.pc thread ≠ .resting → ∃ mover, now.1.pc mover ≠ .resting ∧
      Threads.CanMove (code setup guarded count) now.1 mover) ∧
    (∀ id, popped (eventsOf id now.2) ++ (now.1.data.gw.streams id).sink.pending =
      accepted (eventsOf id now.2)) ∧
    ∃ movers : List Thread, ∀ thread,
      (Machine.run (Threads.step (code setup guarded count)) now.1
        (movers.map fun mover => (mover, cancelling))).1.pc thread = .resting := by
  intro now
  have hcode := code_disciplined setup guarded count
  have hbound (lock : Lock) : lock.rank ≤ 1 := by cases lock <;> simp [Lock.rank]
  have hsound : Threads.Sound Pc.holds now.1 := Threads.run_sound hcode atRest_sound turns
  have hrests (pc : Pc) : (code setup guarded count).rests pc = false ↔ pc ≠ .resting := by
    simp [code]
  refine ⟨fun lock thread other => hsound.exclusive, fun thread hbusy => ?_, fun id => ?_, ?_⟩
  · obtain ⟨mover, hmover, hmoves⟩ := hsound.progress hcode hbound ((hrests _).mpr hbusy)
    exact ⟨mover, (hrests _).mp hmover, hmoves⟩
  · obtain ⟨actions, hstream, hevents⟩ := Threads.run_project EventStream.step
      (fun d => d.gw.streams id) _ (turn_follows setup guarded count id) atRest turns
    have hledger := EventStream.run_ledger (atRest.data.gw.streams id) actions
    rw [← hstream, ← hevents] at hledger
    exact hledger
  · have hwf : WellFounded (Prod.Lex (· < · : Nat → Nat → Prop) (· < · : Nat → Nat → Prop)) :=
      WellFounded.prod_lex wellFounded_lt wellFounded_lt
    obtain ⟨movers, hmovers⟩ := hsound.settles hcode hbound hwf (turnsLeft _) cancelling
      (fun s mover hs hbusy hmoves =>
        step_turnsLeft setup guarded count hs ((hrests _).mp hbusy) hmoves)
      (run_underway setup guarded count turns)
    exact ⟨movers, fun thread => by simpa [code] using hmovers thread⟩

end

end SomeipGateway.Grpc
