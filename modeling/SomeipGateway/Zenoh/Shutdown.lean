import SomeipGateway.Zenoh.Gateway

/-! `stop()` and the receive thread. The receive thread of the UDP transport runs
`on_message_received`, which takes the gateway's mutex; `stop()` holds the mutex
while `UdpTransport::stop()` waits for that thread to end. -/
namespace SomeipGateway.Zenoh

open Lib

/-! ### The threads -/

/-- Who holds the mutex. -/
inductive Holder where
  | receiver
  | stopper
  | sampler
deriving DecidableEq

/-- The receive thread. A message it has taken up waits for the mutex first and
is then handled. -/
inductive Receiver where
  | listening
  | locking (msg : Message) (sender : Endpoint)
  | handling (msg : Message) (sender : Endpoint)
  | ended

/-- A `stop()` call. `joining` is the time spent in `UdpTransport::stop()`. -/
inductive StopCall where
  | outside
  | locking
  | releasing
  | joining
deriving DecidableEq

structure Threads (σ : Type) where
  gw : ZenohGateway σ
  mutex : Option Holder := none
  receiver : Receiver
  stopCall : StopCall := .outside

/-- No call is under way; there is a receive thread if there is a transport. -/
def Threads.atRest {σ : Type} (gw : ZenohGateway σ) : Threads σ where
  gw := gw
  receiver := if gw.udp.isSome then .listening else .ended

inductive Action where
  | datagram (message : Option Message) (sender : Endpoint)
  | receiverLocks
  | receiverReturns
  | receiverEnds
  | callStop
  | stopLocks
  | stopReachesUdp
  | stopReturns
  | samplerLocks
  | samplerReturns (key : Text) (payload : Bytes)

/-- `stop()` gets as far as `udp_->stop()`. -/
def awaitsReceiver {σ : Type} (gw : ZenohGateway σ) : Bool :=
  gw.base.running && gw.udp.isSome

section

variable {σ κ : Type} (setup : Setup σ κ)

/-- One step of one thread; a step that is not possible changes nothing. What a
call does to the gateway behind the mutex is done when the call returns. -/
def act (s : Threads σ) : Action → Threads σ × List Output
  | .datagram message sender =>
      match s.receiver, message with
      | .listening, some msg => ({ s with receiver := .locking msg sender }, [])
      -- without a message the callback returns before it takes the mutex
      | _, _ => (s, [])
  | .receiverLocks =>
      match s.receiver, s.mutex with
      | .locking msg sender, none =>
          ({ s with receiver := .handling msg sender, mutex := some .receiver }, [])
      | _, _ => (s, [])
  | .receiverReturns =>
      match s.receiver with
      | .handling msg sender =>
          let handled := onMessageReceived setup s.gw (some msg) sender
          ({ s with gw := handled.1, receiver := .listening, mutex := none }, handled.2)
      | _ => (s, [])
  | .receiverEnds =>
      match s.receiver, s.stopCall with
      | .listening, .joining => ({ s with receiver := .ended }, [])
      | _, _ => (s, [])
  | .callStop =>
      match s.stopCall with
      | .outside => ({ s with stopCall := .locking }, [])
      | _ => (s, [])
  | .stopLocks =>
      match s.stopCall, s.mutex with
      | .locking, none => ({ s with stopCall := .releasing, mutex := some .stopper }, [])
      | _, _ => (s, [])
  | .stopReachesUdp =>
      if s.stopCall = .releasing ∧ awaitsReceiver s.gw then ({ s with stopCall := .joining }, [])
      else (s, [])
  | .stopReturns =>
      match s.stopCall, s.receiver with
      | .releasing, _ =>
          if awaitsReceiver s.gw then (s, [])
          else ({ s with gw := (stop s.gw).2, stopCall := .outside, mutex := none }, [])
      | .joining, .ended =>
          ({ s with gw := (stop s.gw).2, stopCall := .outside, mutex := none }, [])
      | _, _ => (s, [])
  | .samplerLocks =>
      match s.mutex with
      | none => ({ s with mutex := some .sampler }, [])
      | some _ => (s, [])
  | .samplerReturns key payload =>
      match s.mutex with
      | some .sampler =>
          let handled := onZenohSample setup s.gw key payload
          ({ s with gw := handled.1, mutex := none }, handled.2)
      | _ => (s, [])

/-- The message waits for the mutex. -/
def Receiver.Waits (receiver : Receiver) : Prop :=
  ∃ msg sender, receiver = .locking msg sender

/-- `stop()` waits for the receive thread, which waits for the mutex. -/
def Deadlocked (s : Threads σ) : Prop :=
  s.stopCall = .joining ∧ s.receiver.Waits

/-- `stop()` has the mutex of a gateway whose receive thread it has to await. -/
def Closing (s : Threads σ) : Prop :=
  s.mutex = some .stopper ∧ awaitsReceiver s.gw = true

/-- The step does not bring a message before the mutex of a `stop()` that awaits
the receive thread: no message is taken up while `stop()` has the mutex, and
none waits when `stop()` takes it. -/
def Undisturbed (s : Threads σ) : Action → Prop
  | .datagram (some _) _ => Closing s → s.receiver ≠ .listening
  | .stopLocks =>
      s.stopCall = .locking → s.mutex = none → awaitsReceiver s.gw = true → ¬ s.receiver.Waits
  | _ => True

/-! ### The mutex -/

/-- The mutex is held by the thread that is past its lock. -/
structure Sound (s : Threads σ) : Prop where
  receiver : s.mutex = some .receiver ↔ ∃ msg sender, s.receiver = .handling msg sender
  stopper : s.mutex = some .stopper ↔ s.stopCall = .releasing ∨ s.stopCall = .joining
  joining : s.stopCall = .joining → awaitsReceiver s.gw = true

/-! ### What a step can do -/

theorem Handled.awaitsReceiver {before after : ZenohGateway σ} (h : Handled before after) :
    awaitsReceiver after = awaitsReceiver before := by
  have hrunning := h.running
  rw [h.frame]
  unfold Zenoh.awaitsReceiver
  rw [hrunning]

inductive Moves (s : Threads σ) : Action → Threads σ → Prop where
  | stays (action : Action) (h : Undisturbed s action) : Moves s action s
  | takesUp (msg : Message) (sender : Endpoint) (h : s.receiver = .listening) :
      Moves s (.datagram (some msg) sender) { s with receiver := .locking msg sender }
  | receiverLocks (msg : Message) (sender : Endpoint) (h : s.receiver = .locking msg sender)
      (hfree : s.mutex = none) :
      Moves s .receiverLocks
        { s with receiver := .handling msg sender, mutex := some .receiver }
  | receiverReturns (msg : Message) (sender : Endpoint) (gw : ZenohGateway σ)
      (h : s.receiver = .handling msg sender)
      (hgw : Zenoh.awaitsReceiver gw = Zenoh.awaitsReceiver s.gw) :
      Moves s .receiverReturns { s with gw, receiver := .listening, mutex := none }
  | receiverEnds (h : s.receiver = .listening) (hjoining : s.stopCall = .joining) :
      Moves s .receiverEnds { s with receiver := .ended }
  | callStop (h : s.stopCall = .outside) : Moves s .callStop { s with stopCall := .locking }
  | stopLocks (h : s.stopCall = .locking) (hfree : s.mutex = none) :
      Moves s .stopLocks { s with stopCall := .releasing, mutex := some .stopper }
  | stopReachesUdp (h : s.stopCall = .releasing) (hawaits : awaitsReceiver s.gw = true) :
      Moves s .stopReachesUdp { s with stopCall := .joining }
  | stopReturns (h : s.stopCall = .releasing ∧ awaitsReceiver s.gw = false ∨
        s.stopCall = .joining ∧ s.receiver = .ended) :
      Moves s .stopReturns
        { s with gw := (stop s.gw).2, stopCall := .outside, mutex := none }
  | samplerLocks (hfree : s.mutex = none) :
      Moves s .samplerLocks { s with mutex := some .sampler }
  | samplerReturns (key : Text) (payload : Bytes) (gw : ZenohGateway σ)
      (h : s.mutex = some .sampler)
      (hgw : Zenoh.awaitsReceiver gw = Zenoh.awaitsReceiver s.gw) :
      Moves s (.samplerReturns key payload) { s with gw, mutex := none }

theorem act_moves (s : Threads σ) (action : Action) : Moves s action (act setup s action).1 := by
  cases action with
  | datagram message sender =>
      cases message with
      | none =>
          simp only [act]
          split
          · contradiction
          · exact .stays (.datagram none sender) trivial
      | some msg =>
          cases hreceiver : s.receiver with
          | listening =>
              simp only [act, hreceiver]
              exact .takesUp msg sender hreceiver
          | _ =>
              simp only [act, hreceiver]
              exact .stays _ fun _ => by simp [hreceiver]
  | receiverLocks =>
      simp only [act]
      split
      · exact .receiverLocks _ _ ‹_› ‹_›
      · exact .stays _ trivial
  | receiverReturns =>
      simp only [act]
      split
      · exact .receiverReturns _ _ _ ‹_›
          (onMessageReceived_handled setup s.gw _ _).awaitsReceiver
      · exact .stays _ trivial
  | receiverEnds =>
      simp only [act]
      split
      · exact .receiverEnds ‹_› ‹_›
      · exact .stays _ trivial
  | callStop =>
      simp only [act]
      split
      · exact .callStop ‹_›
      · exact .stays _ trivial
  | stopLocks =>
      simp only [act]
      split
      · exact .stopLocks ‹_› ‹_›
      · rename_i hnot
        exact .stays _ fun hlocking hfree => absurd hfree (hnot hlocking)
  | stopReachesUdp =>
      simp only [act]
      split_ifs with h
      · exact .stopReachesUdp h.1 h.2
      · exact .stays _ trivial
  | stopReturns =>
      simp only [act]
      split
      · split_ifs with hawaits
        · exact .stays _ trivial
        · exact .stopReturns (.inl ⟨‹_›, Bool.not_eq_true _ ▸ hawaits⟩)
      · exact .stopReturns (.inr ⟨‹_›, ‹_›⟩)
      · exact .stays _ trivial
  | samplerLocks =>
      simp only [act]
      split
      · exact .samplerLocks ‹_›
      · exact .stays _ trivial
  | samplerReturns key payload =>
      simp only [act]
      split
      · exact .samplerReturns key payload _ ‹_›
          (onZenohSample_handled setup s.gw key payload).awaitsReceiver
      · exact .stays _ trivial

theorem Moves.sound {s s' : Threads σ} {action : Action} (h : Moves s action s') (hs : Sound s) :
    Sound s' := by
  cases h with
  | stays action h => exact hs
  | takesUp msg sender h =>
      refine ⟨?_, hs.stopper, hs.joining⟩
      have hreceiver := hs.receiver
      simpa [h] using hreceiver
  | receiverLocks msg sender h hfree =>
      have hstopper := hs.stopper
      refine ⟨by simp, ?_, hs.joining⟩
      simpa [hfree] using hstopper
  | receiverReturns msg sender gw h hgw =>
      have hheld := hs.receiver.mpr ⟨msg, sender, h⟩
      have hstopper := hs.stopper
      refine ⟨by simp, ?_, ?_⟩
      · simpa [hheld] using hstopper
      · intro hjoining
        exact hgw.trans (hs.joining hjoining)
  | receiverEnds h hjoining =>
      have hreceiver := hs.receiver
      refine ⟨?_, hs.stopper, hs.joining⟩
      simpa [h] using hreceiver
  | callStop h =>
      have hstopper := hs.stopper
      refine ⟨hs.receiver, ?_, by simp⟩
      simpa [h] using hstopper
  | stopLocks h hfree =>
      have hreceiver := hs.receiver
      refine ⟨?_, by simp, by simp⟩
      simpa [hfree] using hreceiver
  | stopReachesUdp h hawaits =>
      have hstopper := hs.stopper
      refine ⟨hs.receiver, ?_, fun _ => hawaits⟩
      simpa [h] using hstopper
  | stopReturns h =>
      have hheld : s.mutex = some .stopper := hs.stopper.mpr (h.imp And.left And.left)
      have hreceiver := hs.receiver
      refine ⟨?_, by simp, by simp⟩
      simpa [hheld] using hreceiver
  | samplerLocks hfree =>
      have hreceiver := hs.receiver
      have hstopper := hs.stopper
      refine ⟨?_, ?_, hs.joining⟩
      · simpa [hfree] using hreceiver
      · simpa [hfree] using hstopper
  | samplerReturns key payload gw h hgw =>
      have hreceiver := hs.receiver
      have hstopper := hs.stopper
      refine ⟨?_, ?_, ?_⟩
      · simpa [h] using hreceiver
      · simpa [h] using hstopper
      · intro hjoining
        exact hgw.trans (hs.joining hjoining)

/-! ### Shutting down -/

/-- No message waits for a `stop()` that awaits the receive thread. -/
def Clear (s : Threads σ) : Prop := Closing s → ¬ s.receiver.Waits

theorem clear_of_not_held {s : Threads σ} (h : s.mutex ≠ some .stopper) : Clear s :=
  fun hclosing => absurd hclosing.1 h

theorem Moves.clear_iff {s s' : Threads σ} {action : Action} (h : Moves s action s')
    (hclear : Clear s) : Clear s' ↔ Undisturbed s action := by
  cases h with
  | stays action h => exact iff_of_true hclear h
  | takesUp msg sender h =>
      constructor
      · intro hclear' hclosing
        exact absurd ⟨msg, sender, rfl⟩ (hclear' hclosing)
      · intro hundisturbed hclosing
        exact absurd h (hundisturbed hclosing)
  | receiverLocks msg sender h hfree =>
      exact iff_of_true (clear_of_not_held (by simp)) trivial
  | receiverReturns msg sender gw h hgw =>
      exact iff_of_true (clear_of_not_held (by simp)) trivial
  | receiverEnds h hjoining =>
      apply iff_of_true _ trivial
      rintro - ⟨msg, sender, hwaits⟩
      cases hwaits
  | callStop h => exact iff_of_true hclear trivial
  | stopLocks h hfree =>
      constructor
      · intro hclear' _ _ hawaits
        exact hclear' ⟨rfl, hawaits⟩
      · rintro hundisturbed ⟨-, hawaits⟩
        exact hundisturbed h hfree hawaits
  | stopReachesUdp h hawaits => exact iff_of_true hclear trivial
  | stopReturns h =>
      exact iff_of_true (clear_of_not_held (by simp)) trivial
  | samplerLocks hfree =>
      exact iff_of_true (clear_of_not_held (by simp)) trivial
  | samplerReturns key payload gw h hgw =>
      exact iff_of_true (clear_of_not_held (by simp)) trivial

/-- Neither thread can move any more, but for `stop()` on its way to the
transport. -/
theorem Moves.stuck {s s' : Threads σ} {action : Action} (h : Moves s action s')
    (hclosing : Closing s) (hwaits : s.receiver.Waits) :
    Closing s' ∧ s'.receiver.Waits ∧ (s.stopCall = .joining → s'.stopCall = .joining) := by
  obtain ⟨hheld, hawaits⟩ := hclosing
  obtain ⟨msg, sender, hlocking⟩ := hwaits
  cases h with
  | stays action h => exact ⟨⟨hheld, hawaits⟩, ⟨msg, sender, hlocking⟩, id⟩
  | takesUp msg' sender' h =>
      rw [hlocking] at h
      cases h
  | receiverLocks msg' sender' h hfree =>
      rw [hheld] at hfree
      cases hfree
  | receiverReturns msg' sender' gw h hgw =>
      rw [hlocking] at h
      cases h
  | receiverEnds h hjoining =>
      rw [hlocking] at h
      cases h
  | callStop h =>
      refine ⟨⟨hheld, hawaits⟩, ⟨msg, sender, hlocking⟩, fun hjoining => ?_⟩
      rw [h] at hjoining
      cases hjoining
  | stopLocks h hfree =>
      rw [hheld] at hfree
      cases hfree
  | stopReachesUdp h _ => exact ⟨⟨hheld, hawaits⟩, ⟨msg, sender, hlocking⟩, fun _ => rfl⟩
  | stopReturns h =>
      rcases h with ⟨-, hgone⟩ | ⟨-, hended⟩
      · rw [hawaits] at hgone
        cases hgone
      · rw [hlocking] at hended
        cases hended
  | samplerLocks hfree =>
      rw [hheld] at hfree
      cases hfree
  | samplerReturns key payload gw h hgw =>
      rw [hheld] at h
      cases h

theorem Deadlocked.closing {s : Threads σ} (h : Deadlocked s) (hs : Sound s) : Closing s :=
  ⟨hs.stopper.mpr (.inr h.1), hs.joining h.1⟩

theorem Moves.deadlocked {s s' : Threads σ} {action : Action} (h : Moves s action s')
    (hs : Sound s) (hdeadlocked : Deadlocked s) : Deadlocked s' := by
  obtain ⟨-, hwaits, hjoining⟩ := h.stuck (hdeadlocked.closing hs) hdeadlocked.2
  exact ⟨hjoining hdeadlocked.1, hwaits⟩

theorem Moves.clear_before {s s' : Threads σ} {action : Action} (h : Moves s action s')
    (hclear : Clear s') : Clear s := by
  intro hclosing hwaits
  obtain ⟨hclosing', hwaits', -⟩ := h.stuck hclosing hwaits
  exact hclear hclosing' hwaits'

theorem atRest_sound (gw : ZenohGateway σ) : Sound (Threads.atRest gw) := by
  refine ⟨?_, ?_, ?_⟩
  · unfold Threads.atRest
    split_ifs
    · simp
    · simp
  · simp [Threads.atRest]
  · simp [Threads.atRest]

/-- What is left to `stop()` when it has the mutex is the way to the transport. -/
theorem deadlocked_stopReachesUdp_iff {s : Threads σ} (hs : Sound s) :
    Deadlocked (act setup s .stopReachesUdp).1 ↔ ¬ Clear s := by
  have hmoves := act_moves setup s .stopReachesUdp
  constructor
  · intro hdeadlocked hclear
    have hstill : Clear (act setup s .stopReachesUdp).1 := (hmoves.clear_iff hclear).mpr trivial
    exact hstill (hdeadlocked.closing (hmoves.sound hs)) hdeadlocked.2
  · intro hstuck
    obtain ⟨hclosing, hwaits⟩ := Classical.not_imp.mp hstuck
    have hwaits := not_not.mp hwaits
    obtain ⟨-, hwaits', hjoining⟩ := hmoves.stuck hclosing hwaits
    refine ⟨?_, hwaits'⟩
    rcases hs.stopper.mp hclosing.1 with hreleasing | hjoined
    · simp [act, hreleasing, hclosing.2]
    · exact hjoining hjoined

/-- A run does not deadlock, also not if `stop()` then makes the step to the
transport, exactly when nothing disturbs it. -/
theorem deadlock_free_iff (gw : ZenohGateway σ) (actions : List Action) :
    Machine.Always (act setup) (fun s => ¬ Deadlocked s) (Threads.atRest gw)
        (actions ++ [.stopReachesUdp]) ↔
      Machine.Along (act setup) Undisturbed (Threads.atRest gw) actions := by
  have hsound (s : Threads σ) (action : Action) : Sound s → Sound (act setup s action).1 :=
    (act_moves setup s action).sound
  have hfirst := atRest_sound gw
  have hclear : Clear (Threads.atRest gw) := clear_of_not_held (by simp [Threads.atRest])
  have hlast := Machine.run_invariant (act setup) hsound _ actions hfirst
  -- neither a deadlock nor what leads to it goes away again
  have hdeadlocked :
      Machine.Always (act setup) (fun s => ¬ Deadlocked s) (Threads.atRest gw)
          (actions ++ [.stopReachesUdp]) ↔
        ¬ Deadlocked (Machine.run (act setup) (Threads.atRest gw)
          (actions ++ [.stopReachesUdp])).1 := by
    apply Machine.always_iff_last (act setup) hsound _ _ _ hfirst
    intro s action hs
    exact mt ((act_moves setup s action).deadlocked hs)
  have hundisturbed := Machine.last_iff_along (act setup) hsound
    (fun s action _ => (act_moves setup s action).clear_before)
    (fun s action _ => (act_moves setup s action).clear_iff)
    (Threads.atRest gw) actions hfirst hclear
  rw [hdeadlocked, Machine.run_append, ← hundisturbed]
  exact (not_congr (deadlocked_stopReachesUdp_iff setup hlast)).trans not_not

end

/-! ### A datagram during `stop()` -/

def startedGateway : ZenohGateway Unit :=
  (start plainSetup {} (fresh plainSetup [] ())).2

/-- `stop()` has the mutex when a message arrives; then it waits for the receive
thread, which waits for the mutex. -/
theorem datagram_deadlocks_stop :
    Deadlocked (Machine.run (act plainSetup) (Threads.atRest startedGateway)
      [.callStop, .stopLocks, .datagram (some {}) {}, .stopReachesUdp]).1 :=
  ⟨rfl, {}, {}, rfl⟩

end SomeipGateway.Zenoh
