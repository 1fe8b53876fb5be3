import SomeipGateway.Grpc.Gateway

/-! Frames on their way through a sink. Whatever the other threads do, a stream
only ever makes the moves of `EventStream.step`; its queue is first-in first-out
along these, and so it is in the gateway. -/
namespace SomeipGateway.Grpc

open Lib

/-! ### What a log says about frames -/

def accepted (log : List Event) : List EventFrame :=
  log.filterMap fun
    | .accepted frame => some frame
    | _ => none

def popped (log : List Event) : List EventFrame :=
  log.filterMap fun
    | .popped frame => some frame
    | _ => none

def written (log : List Event) : List EventFrame :=
  log.filterMap fun
    | .written frame => some frame
    | _ => none

theorem accepted_append (first second : List Event) :
    accepted (first ++ second) = accepted first ++ accepted second := List.filterMap_append

theorem popped_append (first second : List Event) :
    popped (first ++ second) = popped first ++ popped second := List.filterMap_append

theorem written_append (first second : List Event) :
    written (first ++ second) = written first ++ written second := List.filterMap_append

/-! ### One stream -/

/-- The frames of a stream that no `Write` has confirmed yet. -/
def EventStream.unwritten (stream : EventStream) : List EventFrame :=
  match stream.phase with
  | .writing frame => frame :: stream.sink.pending
  | _ => stream.sink.pending

/-- The loop has not been left. -/
def Phase.beforeExit : Phase → Bool
  | .unopened => true
  | .registered => true
  | .looping => true
  | .writing _ => true
  | _ => false

namespace EventStream

/-- Everything a step can do: nothing that shows, or one of seven events. -/
inductive Moves (stream : EventStream) : EventStream → List Event → Prop where
  | quiet (next : EventStream) (sink : next.sink = stream.sink)
      (forward : next.phase.beforeExit = true → stream.phase.beforeExit = true)
      (idle : next.phase.beforeExit = true → next.unwritten = stream.unwritten)
      (ended : stream.phase = .returned → next.phase = .returned) :
      Moves stream next []
  | accept (frame : EventFrame) :
      Moves stream
        { stream with sink := { stream.sink with pending := stream.sink.pending ++ [frame] } }
        [.accepted frame]
  | pop (frame : EventFrame) (rest : List EventFrame) (looping : stream.phase = .looping)
      (front : stream.sink.pending = frame :: rest) :
      Moves stream
        { stream with sink := { stream.sink with pending := rest }, phase := .writing frame }
        [.popped frame]
  | write (frame : EventFrame) (writing : stream.phase = .writing frame) :
      Moves stream (stream.enter .looping) [.written frame]
  | leave (exit : LoopExit) (inside : stream.phase.beforeExit = true)
      (drained : exit = .closed → stream.phase = .looping ∧ stream.sink.pending = []) :
      Moves stream (stream.enter .leaving) [.left exit]
  | finish (status : Status) :
      Moves stream { stream with sink := { stream.sink with closed := true }, phase := .returned }
        [.returned status]

theorem moves_refl (stream : EventStream) : Moves stream stream [] :=
  .quiet stream rfl id (fun _ => rfl) id

theorem deliverEventFrame_moves (stream : EventStream) (frame : EventFrame) :
    Moves stream (stream.deliverEventFrame frame).1 (stream.deliverEventFrame frame).2 := by
  unfold deliverEventFrame
  split_ifs
  · exact stream.moves_refl
  · exact .accept frame

theorem iterate_moves (stream : EventStream) (cancelled : Bool)
    (looping : stream.phase = .looping) :
    Moves stream (stream.iterate cancelled).1 (stream.iterate cancelled).2 := by
  have hinside : stream.phase.beforeExit = true := by
    rw [looping]
    rfl
  unfold iterate
  cases cancelled with
  | true => exact .leave .cancelled hinside nofun
  | false =>
      dsimp only [Bool.false_eq_true, ↓reduceIte]
      cases hpending : stream.sink.pending with
      | nil =>
          cases hclosed : stream.sink.closed with
          | true => exact .leave .closed hinside fun _ => ⟨looping, hpending⟩
          | false => exact stream.moves_refl
      | cons frame rest => exact .pop frame rest looping hpending

/-- A change of phase alone, past the loop. -/
theorem moves_past {stream : EventStream} {next : Phase} (phase : Phase)
    (hphase : stream.phase = phase) (hnext : next.beforeExit = false)
    (hreturned : phase ≠ .returned) : Moves stream (stream.enter next) [] := by
  refine .quiet _ rfl (fun h => ?_) (fun h => ?_) (fun h => ?_)
  · cases hnext.symm.trans h
  · cases hnext.symm.trans h
  · cases hreturned (hphase.symm.trans h)

theorem step_moves (stream : EventStream) (action : Action) :
    Moves stream (stream.step action).1 (stream.step action).2 := by
  unfold step
  split
  · rename_i key hphase
    refine .quiet _ rfl (fun _ => ?_) (fun _ => ?_) (fun h => ?_)
    · rw [hphase]
      rfl
    · simp only [unwritten, hphase]
    · cases hphase.symm.trans h
  · exact stream.moves_refl
  · exact stream.deliverEventFrame_moves _
  · rename_i hphase
    refine .quiet _ rfl (fun _ => ?_) (fun _ => ?_) (fun h => ?_)
    · rw [hphase]
      rfl
    · simp only [unwritten, hphase, enter]
    · cases hphase.symm.trans h
  · exact moves_past .registered ‹_› rfl nofun
  · exact stream.iterate_moves _ ‹_›
  · exact .write _ ‹_›
  · rename_i hphase
    refine .leave .writeFailed ?_ nofun
    rw [hphase]
    rfl
  · exact moves_past .leaving ‹_› rfl nofun
  · exact moves_past .unsubscribed ‹_› rfl nofun
  · exact moves_past .refused ‹_› rfl nofun
  · exact .finish _
  · exact stream.moves_refl

namespace Moves

variable {stream next : EventStream} {events : List Event}

theorem at_most_one (h : Moves stream next events) :
    events = [] ∨ ∃ event, events = [event] := by
  cases h with
  | quiet _ sink forward idle ended => exact .inl rfl
  | accept frame => exact .inr ⟨_, rfl⟩
  | pop frame rest looping front => exact .inr ⟨_, rfl⟩
  | write frame writing => exact .inr ⟨_, rfl⟩
  | leave exit before drained => exact .inr ⟨_, rfl⟩
  | finish status => exact .inr ⟨_, rfl⟩

theorem ledger (h : Moves stream next events) :
    popped events ++ next.sink.pending = stream.sink.pending ++ accepted events := by
  cases h with
  | quiet _ sink forward idle ended =>
      rw [sink]
      simp [popped, accepted]
  | accept frame => rfl
  | pop frame rest looping front =>
      rw [front]
      simp [popped, accepted]
  | write frame writing => simp [popped, accepted, enter]
  | leave exit before drained => simp [popped, accepted, enter]
  | finish status => simp [popped, accepted]

/-- Up to the exit from the loop, a frame in hand is as good as pending. -/
theorem unwritten (h : Moves stream next events) (inside : next.phase.beforeExit = true) :
    stream.phase.beforeExit = true ∧
      written events ++ next.unwritten = stream.unwritten ++ accepted events := by
  cases h with
  | quiet _ sink forward idle ended =>
      refine ⟨forward inside, ?_⟩
      rw [idle inside]
      simp [written, accepted]
  | accept frame =>
      refine ⟨inside, ?_⟩
      unfold EventStream.unwritten
      cases stream.phase with
      | _ => simp [written, accepted]
  | pop frame rest looping front =>
      refine ⟨by rw [looping]; rfl, ?_⟩
      simp [EventStream.unwritten, looping, front, written, accepted]
  | write frame writing =>
      refine ⟨by rw [writing]; rfl, ?_⟩
      simp [EventStream.unwritten, writing, written, accepted, enter]
  | leave exit before drained => cases inside
  | finish status => cases inside

theorem closed_exit (h : Moves stream next [.left .closed]) :
    stream.phase = .looping ∧ stream.sink.pending = [] := by
  cases h with
  | leave exit before drained => exact drained rfl

end Moves

/-! ### A stream along its run -/

theorem run_ledger (stream : EventStream) (actions : List Action) :
    popped (Machine.run step stream actions).2 ++
        (Machine.run step stream actions).1.sink.pending =
      stream.sink.pending ++ accepted (Machine.run step stream actions).2 := by
  refine Machine.run_history step
    (fun now log => popped log ++ now.sink.pending = stream.sink.pending ++ accepted log)
    ?_ stream [] actions ?_
  · intro now log action ih
    have hmove := (now.step_moves action).ledger
    rw [popped_append, accepted_append, List.append_assoc, hmove, ← List.append_assoc, ih,
      List.append_assoc]
  · simp [popped, accepted]

theorem run_unwritten (stream : EventStream) (actions : List Action)
    (inside : (Machine.run step stream actions).1.phase.beforeExit = true) :
    written (Machine.run step stream actions).2 ++ (Machine.run step stream actions).1.unwritten =
      stream.unwritten ++ accepted (Machine.run step stream actions).2 := by
  refine Machine.run_history step
    (fun now log => now.phase.beforeExit = true →
      written log ++ now.unwritten = stream.unwritten ++ accepted log)
    ?_ stream [] actions ?_ inside
  · intro now log action ih hinside
    obtain ⟨hbefore, hmove⟩ := (now.step_moves action).unwritten hinside
    rw [written_append, accepted_append, List.append_assoc, hmove, ← List.append_assoc, ih hbefore,
      List.append_assoc]
  · intro _
    simp [written, accepted]

/-- A loop that finds its sink closed has written all that the sink ever took. -/
theorem run_closed_exit (stream : EventStream) {actions : List Action} {before after : List Event}
    (h : (Machine.run step stream actions).2 = before ++ .left .closed :: after) :
    written before = stream.unwritten ++ accepted before := by
  have hone (now : EventStream) (action : Action) := (now.step_moves action).at_most_one
  obtain ⟨first, action, hfirst, hexit⟩ := Machine.run_split hone h
  have hmove := (Machine.run step stream first).1.step_moves action
  rw [hexit] at hmove
  obtain ⟨hlooping, hempty⟩ := hmove.closed_exit
  have hwritten := run_unwritten stream first (by rw [hlooping]; rfl)
  rw [hfirst, EventStream.unwritten, hlooping, hempty, List.append_nil] at hwritten
  exact hwritten

end EventStream

/-! ### The streams of a gateway -/

/-- What happened to the stream `id`. -/
def eventsOf (id : StreamId) (log : List Output) : List Event :=
  log.filterMap fun output => if output.1 = id then some output.2 else none

/-- Between two states of the gateway, the stream `id` made moves of its own. -/
def Follows (id : StreamId) (before after : GrpcGateway) (log : List Output) : Prop :=
  ∃ actions, after.streams id = (Machine.run EventStream.step (before.streams id) actions).1 ∧
    eventsOf id log = (Machine.run EventStream.step (before.streams id) actions).2

theorem Follows.unmoved {id : StreamId} {before after : GrpcGateway}
    (h : after.streams id = before.streams id) : Follows id before after [] := ⟨[], h, rfl⟩

@[simp] theorem act_streams_self (gw : GrpcGateway) (id : StreamId) (action : Action) :
    (act gw id action).1.streams id = ((gw.streams id).step action).1 :=
  Function.update_self ..

theorem act_streams_of_ne (gw : GrpcGateway) {id other : StreamId} (action : Action)
    (h : other ≠ id) : (act gw id action).1.streams other = gw.streams other :=
  Function.update_of_ne h ..

theorem eventsOf_act_self (gw : GrpcGateway) (id : StreamId) (action : Action) :
    eventsOf id (act gw id action).2 = ((gw.streams id).step action).2 := by
  simp [eventsOf, act, List.filterMap_map]

theorem eventsOf_act_of_ne (gw : GrpcGateway) {id other : StreamId} (action : Action)
    (h : other ≠ id) : eventsOf other (act gw id action).2 = [] := by
  simp [eventsOf, act, List.filterMap_map, h.symm]

theorem act_follows (gw : GrpcGateway) (id other : StreamId) (action : Action) :
    Follows other gw (act gw id action).1 (act gw id action).2 := by
  by_cases h : other = id
  · subst h
    refine ⟨[action], ?_, ?_⟩
    · exact act_streams_self gw other action
    · rw [eventsOf_act_self, Machine.run_cons, Machine.run_nil, List.append_nil]
  · refine ⟨[], act_streams_of_ne gw action h, ?_⟩
    exact eventsOf_act_of_ne gw action h

section

variable (setup : Setup)

theorem stop_streams (gw : GrpcGateway) : (stop gw).2.streams = gw.streams := by
  unfold stop
  split_ifs <;> rfl

theorem onSomeipMessage_follows (gw : GrpcGateway) (msg : Message) (id : StreamId) :
    Follows id gw (onSomeipMessage setup gw msg).2.1 (onSomeipMessage setup gw msg).2.2 := by
  unfold onSomeipMessage
  split_ifs
  · exact Machine.run_project (fun gw other => act gw other (.deliver (messageFrame msg)))
      EventStream.step (fun gw => gw.streams id) _
      (fun gw other => act_follows gw other id (.deliver (messageFrame msg))) gw _
  · exact .unmoved rfl

theorem step_follows (gw : GrpcGateway) (input : Input) (id : StreamId) :
    Follows id gw (step setup gw input).1 (step setup gw input).2 := by
  cases input with
  | start outcome => exact .unmoved (congrFun (start_calls setup outcome gw).1 id)
  | stop =>
      simp only [step]
      split_ifs
      · exact .unmoved (congrFun (stop_streams gw) id)
      · exact .unmoved rfl
  | addServiceMapping mapping => exact .unmoved rfl
  | someipMessage msg => exact onSomeipMessage_follows setup gw msg id
  | openStream key =>
      simp only [step]
      split_ifs
      · exact act_follows { gw with opened := gw.opened + 1 } gw.opened id _
      · exact .unmoved rfl
  | action other action =>
      simp only [step]
      split_ifs
      · exact act_follows gw other id action
      · exact .unmoved rfl
  | notification group n =>
      simp only [step]
      split
      · exact .unmoved rfl
      · exact act_follows gw _ id _

/-- Along a run of the gateway each stream makes a run of its own. -/
theorem run_follows (gw : GrpcGateway) (inputs : List Input) (id : StreamId) :
    Follows id gw (Machine.run (step setup) gw inputs).1 (Machine.run (step setup) gw inputs).2 :=
  Machine.run_project (step setup) EventStream.step (fun gw => gw.streams id) _
    (fun gw input => step_follows setup gw input id) gw inputs

def streamLog (gw : GrpcGateway) (inputs : List Input) (id : StreamId) : List Event :=
  eventsOf id (Machine.run (step setup) gw inputs).2

/-- First-in first-out without loss, for every stream of every run from whatever
state: frames popped and pending are those accepted, in order, and a loop that
ends neither cancelled nor by a failed `Write` has written them all. In a new
gateway no frame is pending, and what stands left of `accepted` is empty. -/
theorem stream_delivery_fifo (gw : GrpcGateway) (inputs : List Input) (id : StreamId) :
    popped (streamLog setup gw inputs id) ++
        ((Machine.run (step setup) gw inputs).1.streams id).sink.pending =
      (gw.streams id).sink.pending ++ accepted (streamLog setup gw inputs id) ∧
    ∀ before after, streamLog setup gw inputs id = before ++ .left .closed :: after →
      written before = (gw.streams id).unwritten ++ accepted before := by
  obtain ⟨actions, hstream, hlog⟩ := run_follows setup gw inputs id
  unfold streamLog
  rw [hstream, hlog]
  refine ⟨EventStream.run_ledger (gw.streams id) actions, fun before after hexit => ?_⟩
  exact EventStream.run_closed_exit (gw.streams id) hexit

end

example (frame : EventFrame) :
    (Machine.run EventStream.step
      { sink := { closed := true, pending := [frame] }, phase := .looping }
      [.iterate false, .write true, .iterate false]).2 =
        [.popped frame, .written frame, .left .closed] := rfl

end SomeipGateway.Grpc
