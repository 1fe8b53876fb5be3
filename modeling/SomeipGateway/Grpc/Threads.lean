import SomeipGateway.Grpc.Delivery
import SomeipGateway.Lib.Threads

/-! The threads of a `GrpcGateway` and its mutexes: any number of stream and unary
handlers, threads of the host, threads of the event subscriber, and `stop()`, which
waits for the handlers. Every `lock_guard` is a lock and an unlock of its own, so
other threads come in between wherever the language lets them. -/
namespace SomeipGateway.Grpc

open Lib

/-- The mutexes. `subscriberMu` is whatever the `EventSubscriber` guards its
callbacks with. -/
inductive Lock where
  | mappingsMutex
  | channelsMu
  | vehicleServersMu
  | subscriberMu
  | streamMu
  | sinkMu (id : StreamId)
deriving DecidableEq

inductive Thread where
  | streamHandler (id : StreamId)
  | unaryHandler (call : Nat)
  | host (n : Nat)
  | subscriber (n : Nat)
  | stopper
deriving DecidableEq

/-- What the threads share; `unaries` counts the unary calls taken so far. -/
structure Shared where
  gw : GrpcGateway := {}
  unaries : Nat := 0

/-- A piece of code under one mutex. -/
inductive Job where
  | registerEventStream (id : StreamId) (key : EventStreamKey)
  | subscribeEventgroup (id : StreamId) (accepted : Bool)
  | popFrame (id : StreamId)
  | unsubscribeEventgroup (id : StreamId)
  | unregisterEventStream (id : StreamId)
  | channelForTarget
  | findVehicleServer
  | registerVehicleRpcServer
  | addServiceMapping (mapping : ServiceMapping)
  | findMapping (msg : Message)
  | broadcastNotification (msg : Message) (instanceId : UInt16)
  | notify (group : Eventgroup) (n : EventNotification)
  | clearChannels
  | clearStreams
deriving DecidableEq

def Job.lock : Job → Lock
  | .registerEventStream _ _ => .streamMu
  | .subscribeEventgroup _ _ => .subscriberMu
  | .popFrame id => .sinkMu id
  | .unsubscribeEventgroup _ => .subscriberMu
  | .unregisterEventStream _ => .streamMu
  | .channelForTarget => .channelsMu
  | .findVehicleServer => .vehicleServersMu
  | .registerVehicleRpcServer => .vehicleServersMu
  | .addServiceMapping _ => .mappingsMutex
  | .findMapping _ => .mappingsMutex
  | .broadcastNotification _ _ => .streamMu
  | .notify _ _ => .subscriberMu
  | .clearChannels => .channelsMu
  | .clearStreams => .streamMu

/-- What is held around a `deliver_event_frame`: nothing, or the mutex of the
caller. -/
inductive Outer where
  | nothing
  | registry
  | subscriber
deriving DecidableEq

def Outer.locks : Outer → List Lock
  | .nothing => []
  | .registry => [.streamMu]
  | .subscriber => [.subscriberMu]

/-- Where a thread goes after it has given a mutex back. -/
inductive Next where
  | between
  | popFrame (id : StreamId)
  | broadcastNotification (msg : Message) (instanceId : UInt16)
  | clearStreams
  | stopped
deriving DecidableEq

inductive Pc where
  | resting
  | between
  | enter (job : Job)
  | inside (job : Job)
  | leave (lock : Lock) (next : Next)
  | visiting (outer : Outer) (frame : EventFrame) (ids : List StreamId)
  | delivering (outer : Outer) (frame : EventFrame) (id : StreamId) (ids : List StreamId)
  | pushing (outer : Outer) (frame : EventFrame) (id : StreamId) (ids : List StreamId)
  | delivered (outer : Outer) (frame : EventFrame) (id : StreamId) (ids : List StreamId)
  | visited (frame : EventFrame)
  | recording (outer : Outer) (frame : EventFrame)
  | closing (outer : Outer)
  | shutdown
  | releasing
  | joining
  | stopped
deriving DecidableEq

def Next.pc : Next → Pc
  | .between => .between
  | .popFrame id => .enter (.popFrame id)
  | .broadcastNotification msg instanceId => .enter (.broadcastNotification msg instanceId)
  | .clearStreams => .enter .clearStreams
  | .stopped => .stopped

/-- The mutexes held at a point of the code, the last taken first. -/
def Pc.holds : Pc → List Lock
  | .inside job => [job.lock]
  | .leave lock _ => [lock]
  | .visiting outer _ _ => outer.locks
  | .delivering outer _ _ _ => outer.locks
  | .pushing outer _ id _ => .sinkMu id :: outer.locks
  | .delivered outer _ id _ => .sinkMu id :: outer.locks
  | .visited _ => [.streamMu]
  | .recording outer _ => outer.locks
  | .closing outer => outer.locks
  | _ => []

/-- What a thread at rest is called for. -/
inductive Entry where
  | streamSomeIpEvents (key : EventStreamKey)
  | unarySomeIp (forwards : Bool)
  | onSomeipMessage (msg : Message)
  | addServiceMapping (mapping : ServiceMapping)
  | registerVehicleRpcServer
  | notification (group : Eventgroup) (n : EventNotification)
  | start (outcome : StartOutcome)
  | stop

/-- What the surroundings answer to a turn; each piece of code reads what it asks
for. -/
structure Answer where
  entry : Option Entry := none
  subscribed : Bool := true
  cancelled : Bool := false
  /-- `wait_for` goes to sleep. -/
  sleeps : Bool := false
  writeSucceeds : Bool := true

/-- What becomes of the shared state, what is seen of it, and where the thread
stands then. -/
abbrev Turn := (Shared × List Output) × Pc

def Shared.goto (d : Shared) (pc : Pc) : Turn := ((d, []), pc)

/-- A piece of a stream's handler, followed by `pc`. -/
def Shared.acts (d : Shared) (id : StreamId) (action : Action) (pc : Pc) : Turn :=
  let acted := act d.gw id action
  (({ d with gw := acted.1 }, acted.2), pc)

section

variable (setup : Setup) (guarded : Bool)

/-- A thread at rest is called. `guarded` is whether the subscriber holds its mutex
while it runs a callback. -/
def begins (thread : Thread) (d : Shared) (entry : Option Entry) : Turn :=
  match thread, entry with
  | .streamHandler id, some (.streamSomeIpEvents key) =>
      if d.gw.grpcServer ∧ d.gw.opened = id then
        { d with gw := { d.gw with opened := id + 1 } }.goto (.enter (.registerEventStream id key))
      else d.goto .resting
  | .unaryHandler call, some (.unarySomeIp forwards) =>
      if d.gw.grpcServer ∧ d.unaries = call then
        { d with unaries := call + 1 }.goto
          (.enter (if forwards then .channelForTarget else .findVehicleServer))
      else d.goto .resting
  | .host _, some (.onSomeipMessage msg) =>
      if msg.messageType = .notification then d.goto (.enter (.findMapping msg))
      else { d with gw := (onSomeipMessage setup d.gw msg).2.1 }.goto .resting
  | .host _, some (.addServiceMapping mapping) => d.goto (.enter (.addServiceMapping mapping))
  | .host _, some .registerVehicleRpcServer => d.goto (.enter .registerVehicleRpcServer)
  | .subscriber _, some (.notification group n) =>
      if guarded then d.goto (.enter (.notify group n))
      else
        match d.gw.eventSubscriber.callbacks group with
        | none => d.goto .resting
        | some id => d.goto (.visiting .nothing (messageFrame (notificationMessage n)) [id])
  | .stopper, some (.start outcome) => { d with gw := (start setup outcome d.gw).2 }.goto .resting
  | .stopper, some .stop =>
      -- `Shutdown` takes no more calls and cancels those under way
      if d.gw.base.running then { d with gw := { d.gw with grpcServer := false } }.goto .shutdown
      else d.goto .resting
  | _, _ => d.goto .resting

/-- What a handler does between two pieces of code under a mutex. -/
def continues (thread : Thread) (d : Shared) (answer : Answer) : Turn :=
  match thread with
  | .streamHandler id =>
      match (d.gw.streams id).phase with
      | .unopened => d.goto .resting
      | .registered => d.goto (.enter (.subscribeEventgroup id answer.subscribed))
      | .looping =>
          if answer.cancelled then d.acts id (.iterate true) .between
          else d.goto (.enter (.popFrame id))
      | .writing _ => d.acts id (.write answer.writeSucceeds) .between
      | .leaving => d.goto (.enter (.unsubscribeEventgroup id))
      | .unsubscribed => d.goto (.enter (.unregisterEventStream id))
      | .refused => d.goto (.enter (.unregisterEventStream id))
      | .unregistered _ => d.acts id .close .resting
      | .returned => d.goto .resting
  -- the other threads take no further mutex
  | _ => d.goto .resting

/-- What is done under the mutex of a job. Channels and vehicle servers are no part
of what the streams share. -/
def perform (d : Shared) (answer : Answer) (job : Job) : Turn :=
  match job with
  | .registerEventStream id key => d.acts id (.opens key) (.leave job.lock .between)
  | .subscribeEventgroup id accepted => d.acts id (.subscribe accepted) (.leave job.lock .between)
  | .popFrame id =>
      let sink := (d.gw.streams id).sink
      if answer.sleeps && sink.pending.isEmpty && !sink.closed then
        d.goto (.leave job.lock (.popFrame id))
      else d.acts id (.iterate false) (.leave job.lock .between)
  | .unsubscribeEventgroup id => d.acts id .unsubscribe (.leave job.lock .between)
  | .unregisterEventStream id => d.acts id .unregister (.leave job.lock .between)
  | .channelForTarget => d.goto (.leave job.lock .between)
  | .findVehicleServer => d.goto (.leave job.lock .between)
  | .registerVehicleRpcServer => d.goto (.leave job.lock .between)
  | .addServiceMapping mapping =>
      { d with gw := { d.gw with base := d.gw.base.addServiceMapping mapping } }.goto
        (.leave job.lock .between)
  | .findMapping msg =>
      let inst :=
        match findMappingForService d.gw.base.serviceMappings msg.serviceId 0 with
        | some mapping => mapping.someipInstanceId
        | none => 0
      d.goto (.leave job.lock (.broadcastNotification msg inst))
  | .broadcastNotification msg instanceId =>
      let entries := d.gw.streamSubscribers.filter fun entry =>
        entry.1.serviceId == msg.serviceId.toUInt32 && entry.1.instanceId == instanceId.toUInt32
      d.goto (.visiting .registry (messageFrame msg) (entries.map Prod.snd))
  | .notify group n =>
      match d.gw.eventSubscriber.callbacks group with
      | none => d.goto (.leave job.lock .between)
      | some id => d.goto (.visiting .subscriber (messageFrame (notificationMessage n)) [id])
  | .clearChannels => d.goto (.leave job.lock .clearStreams)
  | .clearStreams =>
      { d with gw := { d.gw with streamSubscribers := [] } }.goto (.leave job.lock .stopped)

/-- The next sink that gets the frame. The registry holds its sinks weakly, a
callback does not. -/
def visits (d : Shared) (outer : Outer) (frame : EventFrame) : List StreamId → Turn
  | [] => d.goto (if outer = .registry then .visited frame else .recording outer frame)
  | id :: rest =>
      if outer = .registry ∧ d.gw.expired id then d.goto (.visiting outer frame rest)
      else d.goto (.delivering outer frame id rest)

def recordFrame (gw : GrpcGateway) (frame : EventFrame) : GrpcGateway :=
  { gw with base := gw.base.recordSomeipToExternal (setup.byteSizeLong frame.envelope) }

def releaseComponents (gw : GrpcGateway) : GrpcGateway :=
  { gw with
    grpcService := false
    sdClient := none
    sdServer := none
    eventSubscriber := {}
    rpcClient := {}
    e2eProtection := false }

/-- The calls that `Shutdown` waits for. -/
def handlers (thread : Thread) (d : Shared) : List Thread :=
  match thread with
  | .stopper =>
      (List.range d.gw.opened).map .streamHandler ++ (List.range d.unaries).map .unaryHandler
  | _ => []

def subscriberThreads (count : Nat) : Thread → Shared → List Thread
  | .stopper, _ => (List.range count).map .subscriber
  | _, _ => []

/-- `count` is the number of threads that the subscriber joins when it is shut
down. -/
def code (count : Nat) : Threads.Code Thread Pc Lock Shared Answer Output where
  rests pc := pc = .resting
  instr thread pc :=
    match pc with
    | .resting => .work fun d answer => begins setup guarded thread d answer.entry
    | .between => .work fun d answer => continues thread d answer
    | .enter job => .lock job.lock (.inside job)
    | .inside job => .work fun d answer => perform d answer job
    | .leave lock next => .unlock lock next.pc
    | .visiting outer frame ids => .work fun d _ => visits d outer frame ids
    | .delivering outer frame id ids => .lock (.sinkMu id) (.pushing outer frame id ids)
    | .pushing outer frame id ids =>
        .work fun d _ => d.acts id (.deliver frame) (.delivered outer frame id ids)
    | .delivered outer frame id ids => .unlock (.sinkMu id) (.visiting outer frame ids)
    | .visited frame => .unlock .streamMu (.recording .nothing frame)
    | .recording outer frame =>
        .work fun d _ => { d with gw := recordFrame setup d.gw frame }.goto (.closing outer)
    | .closing .nothing => .work fun d _ => d.goto .resting
    | .closing .registry => .unlock .streamMu .resting
    | .closing .subscriber => .unlock .subscriberMu .resting
    | .shutdown => .await (handlers thread) .releasing
    | .releasing => .work fun d _ => { d with gw := releaseComponents d.gw }.goto .joining
    | .joining => .await (subscriberThreads count thread) (.enter .clearChannels)
    | .stopped =>
        .work fun d _ =>
          { d with gw := { d.gw with base := d.gw.base.setRunning false } }.goto .resting

end

/-! ### The order of the mutexes -/

def Lock.rank : Lock → Nat
  | .sinkMu _ => 1
  | _ => 0

def Thread.level : Thread → Nat
  | .stopper => 1
  | _ => 0

section

variable (setup : Setup) (guarded : Bool) (count : Nat)

theorem holds_next (next : Next) : next.pc.holds = [] := by
  cases next <;> rfl

theorem holds_begins (thread : Thread) (d : Shared) (entry : Option Entry) :
    (begins setup guarded thread d entry).2.holds = [] := by
  unfold begins
  split
  · split_ifs <;> rfl
  · split_ifs <;> rfl
  · split_ifs <;> rfl
  · rfl
  · rfl
  · split_ifs
    · rfl
    · split <;> rfl
  · rfl
  · split_ifs <;> rfl
  · rfl

theorem holds_continues (thread : Thread) (d : Shared) (answer : Answer) :
    (continues thread d answer).2.holds = [] := by
  cases thread with
  | streamHandler id =>
      cases hphase : (d.gw.streams id).phase with
      | looping =>
          simp only [continues, hphase]
          split_ifs <;> rfl
      | _ =>
          simp only [continues, hphase]
          rfl
  | _ => rfl

theorem holds_perform (d : Shared) (answer : Answer) (job : Job) :
    (perform d answer job).2.holds = [job.lock] := by
  cases job with
  | popFrame id =>
      unfold perform
      dsimp only
      split_ifs <;> rfl
  | notify group n =>
      unfold perform
      dsimp only
      split <;> rfl
  | _ => rfl

theorem holds_visits (d : Shared) (outer : Outer) (frame : EventFrame) (ids : List StreamId) :
    (visits d outer frame ids).2.holds = outer.locks := by
  cases ids with
  | nil =>
      rw [visits]
      split_ifs with houter
      · rw [houter]
        rfl
      · rfl
  | cons id rest =>
      rw [visits]
      split_ifs <;> rfl

theorem sinkMu_above (id : StreamId) (outer : Outer) :
    ∀ held ∈ outer.locks, held.rank < (Lock.sinkMu id).rank := by
  cases outer <;> simp [Outer.locks, Lock.rank]

theorem sinkMu_notMem (id : StreamId) (outer : Outer) : .sinkMu id ∉ outer.locks := by
  cases outer <;> simp [Outer.locks]

theorem level_handlers (thread : Thread) (d : Shared) :
    ∀ other ∈ handlers thread d, other.level < thread.level := by
  cases thread with
  | stopper =>
      intro other hmem
      rcases List.mem_append.mp hmem with hmem | hmem
      · obtain ⟨id, -, rfl⟩ := List.mem_map.mp hmem
        exact Nat.zero_lt_one
      · obtain ⟨call, -, rfl⟩ := List.mem_map.mp hmem
        exact Nat.zero_lt_one
  | _ => exact List.forall_mem_nil _

theorem level_subscriberThreads (thread : Thread) (d : Shared) :
    ∀ other ∈ subscriberThreads count thread d, other.level < thread.level := by
  cases thread with
  | stopper =>
      intro other hmem
      obtain ⟨n, -, rfl⟩ := List.mem_map.mp hmem
      exact Nat.zero_lt_one
  | _ => exact List.forall_mem_nil _

/-- Sinks are locked last, and nobody but `stop()` waits for other threads. -/
theorem code_disciplined :
    Threads.Disciplined (code setup guarded count) Pc.holds Lock.rank Thread.level where
  resting pc hrests := by
    have hresting : pc = .resting := by simpa [code] using hrests
    rw [hresting]
    rfl
  lock thread pc lock next hinstr := by
    cases pc with
    | enter job =>
        cases hinstr
        exact ⟨rfl, rfl, List.forall_mem_nil _⟩
    | delivering outer frame id ids =>
        cases hinstr
        exact ⟨rfl, rfl, sinkMu_above id outer⟩
    | closing outer => cases outer <;> cases hinstr
    | _ => cases hinstr
  unlock thread pc lock next hinstr := by
    cases pc with
    | leave held after =>
        cases hinstr
        rw [holds_next]
        exact ⟨rfl, List.not_mem_nil⟩
    | delivered outer frame id ids =>
        cases hinstr
        exact ⟨rfl, sinkMu_notMem id outer⟩
    | visited frame =>
        cases hinstr
        exact ⟨rfl, List.not_mem_nil⟩
    | closing outer =>
        cases outer with
        | nothing => cases hinstr
        | registry =>
            cases hinstr
            exact ⟨rfl, List.not_mem_nil⟩
        | subscriber =>
            cases hinstr
            exact ⟨rfl, List.not_mem_nil⟩
    | _ => cases hinstr
  work thread pc run hinstr d answer := by
    cases pc with
    | resting =>
        cases hinstr
        exact holds_begins setup guarded thread d answer.entry
    | between =>
        cases hinstr
        exact holds_continues thread d answer
    | inside job =>
        cases hinstr
        exact holds_perform d answer job
    | visiting outer frame ids =>
        cases hinstr
        exact holds_visits d outer frame ids
    | pushing outer frame id ids =>
        cases hinstr
        rfl
    | recording outer frame =>
        cases hinstr
        rfl
    | closing outer =>
        cases outer <;> cases hinstr
        rfl
    | releasing =>
        cases hinstr
        rfl
    | stopped =>
        cases hinstr
        rfl
    | _ => cases hinstr
  await thread pc others next hinstr := by
    cases pc with
    | shutdown =>
        cases hinstr
        exact ⟨rfl, rfl, level_handlers thread⟩
    | joining =>
        cases hinstr
        exact ⟨rfl, rfl, level_subscriberThreads count thread⟩
    | closing outer => cases outer <;> cases hinstr
    | _ => cases hinstr

/-! ### The streams -/

/-- The stream `id` made moves of its own in a turn. -/
def Shared.Follows (d : Shared) (id : StreamId) (turn : Turn) : Prop :=
  Grpc.Follows id d.gw turn.1.1.gw turn.1.2

theorem Shared.goto_follows {d d' : Shared} (id : StreamId) (pc : Pc)
    (h : d'.gw.streams = d.gw.streams) : d.Follows id (d'.goto pc) :=
  .unmoved (congrFun h id)

theorem Shared.acts_follows (d : Shared) (id other : StreamId) (action : Action) (pc : Pc) :
    d.Follows other (d.acts id action pc) := act_follows d.gw id other action

theorem begins_follows (thread : Thread) (d : Shared) (entry : Option Entry) (id : StreamId) :
    d.Follows id (begins setup guarded thread d entry) := by
  unfold begins
  split
  · split_ifs <;> exact d.goto_follows id _ rfl
  · split_ifs <;> exact d.goto_follows id _ rfl
  · split_ifs with hnotification
    · exact d.goto_follows id _ rfl
    · apply Shared.goto_follows
      rw [onSomeipMessage, if_neg hnotification]
  · exact d.goto_follows id _ rfl
  · exact d.goto_follows id _ rfl
  · split_ifs
    · exact d.goto_follows id _ rfl
    · split <;> exact d.goto_follows id _ rfl
  · exact d.goto_follows id _ (start_calls setup _ d.gw).1
  · split_ifs <;> exact d.goto_follows id _ rfl
  · exact d.goto_follows id _ rfl

theorem continues_follows (thread : Thread) (d : Shared) (answer : Answer) (id : StreamId) :
    d.Follows id (continues thread d answer) := by
  cases thread with
  | streamHandler own =>
      cases hphase : (d.gw.streams own).phase with
      | looping =>
          simp only [continues, hphase]
          split_ifs
          · exact d.acts_follows own id _ _
          · exact d.goto_follows id _ rfl
      | writing frame =>
          simp only [continues, hphase]
          exact d.acts_follows own id _ _
      | unregistered status =>
          simp only [continues, hphase]
          exact d.acts_follows own id _ _
      | _ =>
          simp only [continues, hphase]
          exact d.goto_follows id _ rfl
  | _ => exact d.goto_follows id _ rfl

theorem perform_follows (d : Shared) (answer : Answer) (job : Job) (id : StreamId) :
    d.Follows id (perform d answer job) := by
  cases job with
  | registerEventStream other key => exact d.acts_follows other id _ _
  | subscribeEventgroup other accepted => exact d.acts_follows other id _ _
  | popFrame other =>
      unfold perform
      dsimp only
      split_ifs
      · exact d.goto_follows id _ rfl
      · exact d.acts_follows other id _ _
  | unsubscribeEventgroup other => exact d.acts_follows other id _ _
  | unregisterEventStream other => exact d.acts_follows other id _ _
  | notify group n =>
      unfold perform
      dsimp only
      split <;> exact d.goto_follows id _ rfl
  | _ => exact d.goto_follows id _ rfl

theorem visits_follows (d : Shared) (outer : Outer) (frame : EventFrame) (ids : List StreamId)
    (id : StreamId) : d.Follows id (visits d outer frame ids) := by
  cases ids with
  | nil => exact d.goto_follows id _ rfl
  | cons first rest =>
      rw [visits]
      split_ifs <;> exact d.goto_follows id _ rfl

theorem turn_follows (id : StreamId) (thread : Thread) (pc : Pc) (d : Shared) (answer : Answer) :
    d.Follows id ((code setup guarded count).turn thread pc d answer) := by
  cases pc with
  | resting => exact begins_follows setup guarded thread d answer.entry id
  | between => exact continues_follows thread d answer id
  | inside job => exact perform_follows d answer job id
  | visiting outer frame ids => exact visits_follows d outer frame ids id
  | pushing outer frame other ids => exact d.acts_follows other id _ _
  | closing outer => cases outer <;> exact d.goto_follows id _ rfl
  | _ => exact d.goto_follows id _ rfl

end

end SomeipGateway.Grpc
