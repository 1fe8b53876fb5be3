import SomeipGateway.Lib.Machine
import SomeipGateway.Ros2.Gateway

/-! Restarting. `stop()` shuts the components down and keeps the objects;
`start()` creates those that are missing and initialises all that are there,
except the event subscriber, which it initialises only when it creates it. -/
namespace SomeipGateway.Ros2

open Lib

/-! ### Components by name -/

inductive ComponentName where
  | udpTransport
  | rpcClient
  | rpcServer (serviceId : UInt16)
  | sdClient
  | sdServer
  | eventPublisher (serviceId instanceId : UInt16)
  | eventSubscriber
deriving DecidableEq

section

variable {σ κ : Type} (setup : Setup σ κ)

def Ros2Gateway.component (gw : Ros2Gateway σ) : ComponentName → Option Component
  | .udpTransport => gw.udpTransport
  | .rpcClient => gw.rpcClient
  | .rpcServer serviceId => gw.rpcServers serviceId
  | .sdClient => gw.sdClient
  | .sdServer => gw.sdServer
  | .eventPublisher serviceId instanceId => gw.eventPublishers (serviceId, instanceId)
  | .eventSubscriber => gw.eventSubscriber

/-- The set of components in the initialised state. -/
def Ros2Gateway.initialised (gw : Ros2Gateway σ) : Set ComponentName :=
  { name | ∃ component, gw.component name = some component ∧ component.initialised = true }

/-- The components that `start()` creates if they are missing. -/
def creates (config : Ros2Config κ) : ComponentName → Bool
  | .udpTransport => config.enableUdpTransport
  | .rpcClient => config.enableRpcClient
  | .rpcServer _ => false
  | .sdClient => config.enableSdClient
  | .sdServer => config.enableSdServer
  | .eventPublisher _ _ => false
  | .eventSubscriber => config.enableEventSubscriber

/-- There is such a component, or the next start creates it. -/
def Provided (gw : Ros2Gateway σ) (name : ComponentName) : Prop :=
  (gw.component name).isSome = true ∨ creates setup.config name = true

theorem isSome_ownIf (enabled : Bool) (component : Option Component) :
    (ownIf enabled component).isSome = (component.isSome || enabled) := by
  cases component with
  | none => cases enabled <;> rfl
  | some component => cases enabled <;> rfl

/-! ### What a call does to a component -/

theorem stop_component (gw : Ros2Gateway σ) (name : ComponentName) :
    (stop gw).2.component name = (gw.component name).map Component.shutdown := by
  cases name <;> rfl

/-- What `start()` does to the components: nothing but making a transport if it
fails, and otherwise the same to all of them but the subscriber. -/
theorem start_components (outcome : StartOutcome) (gw : Ros2Gateway σ) :
    ((start setup outcome gw).1 ≠ .success ∧
      ∀ name, (start setup outcome gw).2.component name =
        ownIf (name == .udpTransport && creates setup.config name) (gw.component name)) ∨
    ((start setup outcome gw).1 = .success ∧
      (∀ name, name ≠ .eventSubscriber → (start setup outcome gw).2.component name =
        (ownIf (creates setup.config name) (gw.component name)).map Component.initialise) ∧
      (start setup outcome gw).2.eventSubscriber =
        if setup.config.enableEventSubscriber && gw.eventSubscriber.isNone then
          some { initialised := true }
        else gw.eventSubscriber) := by
  unfold start
  dsimp only
  by_cases hfailed : (ownIf setup.config.enableUdpTransport gw.udpTransport).isSome = true ∧
      outcome.udpStart ≠ .success
  · rw [if_pos hfailed]
    refine .inl ⟨hfailed.2, fun name => ?_⟩
    cases name <;> rfl
  · rw [if_neg hfailed]
    refine .inr ⟨rfl, fun name hname => ?_, rfl⟩
    cases name with
    | eventSubscriber => exact absurd rfl hname
    | _ => rfl

theorem start_provided (outcome : StartOutcome) (gw : Ros2Gateway σ) (name : ComponentName) :
    Provided setup (start setup outcome gw).2 name ↔ Provided setup gw name := by
  unfold Provided
  obtain ⟨-, hcomponents⟩ | ⟨-, hcomponents, hsubscriber⟩ := start_components setup outcome gw
  · rw [hcomponents, isSome_ownIf, Bool.or_eq_true, Bool.and_eq_true]
    tauto
  · by_cases hname : name = .eventSubscriber
    · subst hname
      simp only [Ros2Gateway.component, creates, hsubscriber]
      cases setup.config.enableEventSubscriber <;> simp
    · rw [hcomponents name hname, Option.isSome_map, isSome_ownIf, Bool.or_eq_true]
      tauto

theorem stop_provided (gw : Ros2Gateway σ) (name : ComponentName) :
    Provided setup (stop gw).2 name ↔ Provided setup gw name := by
  unfold Provided
  rw [stop_component, Option.isSome_map]

/-- An event subscriber that is there is initialised. -/
def SubscriberReady (gw : Ros2Gateway σ) : Prop :=
  ∀ subscriber, gw.eventSubscriber = some subscriber → subscriber.initialised = true

theorem mem_initialised_start {outcome : StartOutcome} {gw : Ros2Gateway σ}
    (h : (start setup outcome gw).1 = .success) (name : ComponentName) :
    name ∈ (start setup outcome gw).2.initialised ↔
      Provided setup gw name ∧ (name = .eventSubscriber → SubscriberReady gw) := by
  obtain ⟨hfailed, -⟩ | ⟨-, hcomponents, hsubscriber⟩ := start_components setup outcome gw
  · exact absurd h hfailed
  · unfold Ros2Gateway.initialised Provided SubscriberReady
    rw [Set.mem_ofPred_eq]
    by_cases hname : name = .eventSubscriber
    · subst hname
      simp only [Ros2Gateway.component, creates, hsubscriber]
      cases gw.eventSubscriber with
      | none => simp
      | some subscriber => simp
    · rw [hcomponents name hname, ← Bool.or_eq_true, ← isSome_ownIf]
      cases ownIf (creates setup.config name) (gw.component name) with
      | none => simp
      | some component => simp [hname, Component.initialise]

/-! ### Cycles of `start()` and `stop()` -/

inductive LifecycleCall where
  | start (outcome : StartOutcome)
  | stop

def LifecycleCall.toCall : LifecycleCall → Call
  | .start outcome => .start outcome
  | .stop => .stop

def lifecycleStep (gw : Ros2Gateway σ) (cycle : LifecycleCall) : Ros2Gateway σ × List Effect :=
  ownCall setup gw cycle.toCall

/-- A `stop()` finds no event subscriber to shut down. -/
def SparesSubscriber (gw : Ros2Gateway σ) : LifecycleCall → Prop
  | .start _ => True
  | .stop => gw.eventSubscriber = none

theorem lifecycleStep_provided (gw : Ros2Gateway σ) (cycle : LifecycleCall)
    (name : ComponentName) :
    Provided setup (lifecycleStep setup gw cycle).1 name ↔ Provided setup gw name := by
  cases cycle with
  | start outcome => exact start_provided setup outcome gw name
  | stop => exact stop_provided setup gw name

theorem run_provided (gw : Ros2Gateway σ) (cycles : List LifecycleCall) (name : ComponentName) :
    Provided setup (Machine.run (lifecycleStep setup) gw cycles).1 name ↔
      Provided setup gw name := by
  induction cycles generalizing gw with
  | nil => exact Iff.rfl
  | cons cycle rest ih => exact (ih _).trans (lifecycleStep_provided setup gw cycle name)

theorem start_subscriberReady_iff (outcome : StartOutcome) (gw : Ros2Gateway σ) :
    SubscriberReady (start setup outcome gw).2 ↔ SubscriberReady gw := by
  unfold SubscriberReady
  obtain ⟨-, hcomponents⟩ | ⟨-, -, hsubscriber⟩ := start_components setup outcome gw
  · have hsubscriber : (start setup outcome gw).2.eventSubscriber = gw.eventSubscriber :=
      hcomponents .eventSubscriber
    rw [hsubscriber]
  · rw [hsubscriber]
    cases gw.eventSubscriber with
    | none => cases setup.config.enableEventSubscriber <;> simp
    | some subscriber => simp

theorem stop_subscriberReady_iff (gw : Ros2Gateway σ) :
    SubscriberReady (stop gw).2 ↔ gw.eventSubscriber = none := by
  unfold SubscriberReady
  cases hsubscriber : gw.eventSubscriber with
  | none => simp [stop, implStop, hsubscriber]
  | some subscriber => simp [stop, implStop, hsubscriber, Component.shutdown]

/-- Once shut down, the subscriber stays so; hence the last state tells whether
some `stop()` found one. -/
theorem subscriberReady_run_iff {gw : Ros2Gateway σ} (h : SubscriberReady gw)
    (cycles : List LifecycleCall) :
    SubscriberReady (Machine.run (lifecycleStep setup) gw cycles).1 ↔
      Machine.Along (lifecycleStep setup) SparesSubscriber gw cycles := by
  have hinv (gw : Ros2Gateway σ) (cycle : LifecycleCall) (_ : True) : True := trivial
  apply Machine.last_iff_along (lifecycleStep setup) hinv _ _ gw cycles trivial h
  · intro gw cycle _ hready
    cases cycle with
    | start outcome => exact (start_subscriberReady_iff setup outcome gw).mp hready
    | stop =>
        intro subscriber hsubscriber
        have hnone := (stop_subscriberReady_iff gw).mp hready
        rw [hsubscriber] at hnone
        cases hnone
  · intro gw cycle _ hready
    cases cycle with
    | start outcome =>
        exact iff_of_true ((start_subscriberReady_iff setup outcome gw).mpr hready) trivial
    | stop => exact stop_subscriberReady_iff gw

/-! ### Fresh gateways -/

/-- The calls that configure a gateway or attach something to it. -/
def Call.attaches : Call → Bool
  | .start _ => false
  | .stop => false
  | .someipMessage _ _ => false
  | .injectRos2Message _ _ => false
  | _ => true

/-- A newly constructed gateway with its attachments. -/
def attached (e2e : σ) (attachments : List Call) : Ros2Gateway σ :=
  (Machine.run (ownCall setup) { e2e } attachments).1

theorem attached_subscriberReady (e2e : σ) {attachments : List Call}
    (h : ∀ attachment ∈ attachments, attachment.attaches = true) :
    SubscriberReady (attached setup e2e attachments) := by
  apply Machine.run_invariant_along (ownCall setup) _ _ attachments _
    (Machine.along_of_forall fun _ attachment hmem => h attachment hmem)
  · intro gw attachment hready hattaches
    cases attachment with
    | start outcome => cases hattaches
    | stop => cases hattaches
    | someipMessage msg creates => cases hattaches
    | injectRos2Message topic payload => cases hattaches
    | subscribeSomeipEventgroup =>
        simp only [ownCall, subscribeSomeipEventgroup]
        split_ifs with hnone
        · intro subscriber hsubscriber
          cases hsubscriber
          rfl
        · exact hready
    | _ => exact hready
  · intro subscriber hsubscriber
    cases hsubscriber

/-- After any `start()` and `stop()` calls, a successful start leaves the
components initialised that a first start would have, exactly if no `stop()`
has met an event subscriber. -/
theorem restart_as_fresh_iff (e2e : σ) (attachments : List Call)
    (hattachments : ∀ attachment ∈ attachments, attachment.attaches = true)
    (cycles : List LifecycleCall) (outcome first : StartOutcome) :
    let fresh := attached setup e2e attachments
    let gw := (Machine.run (lifecycleStep setup) fresh cycles).1
    (start setup outcome gw).1 = .success → (start setup first fresh).1 = .success →
      ((start setup outcome gw).2.initialised = (start setup first fresh).2.initialised ↔
        Machine.Along (lifecycleStep setup) SparesSubscriber fresh cycles) := by
  intro fresh gw hsuccess hfirst
  have hready : SubscriberReady fresh := attached_subscriberReady setup e2e hattachments
  have hprovided := run_provided setup fresh cycles
  rw [← subscriberReady_run_iff setup hready]
  constructor
  · intro hsame subscriber hsubscriber
    -- the subscriber is there, so the first start has it initialised as well
    have hthere := (hprovided .eventSubscriber).mp (.inl (by
      simp only [Ros2Gateway.component, hsubscriber, Option.isSome_some]))
    have hmem := (mem_initialised_start setup hfirst _).mpr ⟨hthere, fun _ => hready⟩
    rw [← hsame] at hmem
    exact ((mem_initialised_start setup hsuccess _).mp hmem).2 rfl subscriber hsubscriber
  · intro hstill
    ext name
    rw [mem_initialised_start setup hsuccess, mem_initialised_start setup hfirst, hprovided]
    exact and_congr_right fun _ => ⟨fun _ _ => hready, fun _ _ => hstill⟩

end

/-! ### One cycle -/

def noSubscriberSetup : Setup Unit Unit :=
  { plainSetup with config := { enableEventSubscriber := false, enableSdClient := true } }

theorem restart_without_subscriber :
    (start noSubscriberSetup {} (Machine.run (lifecycleStep noSubscriberSetup)
        (attached noSubscriberSetup () []) [.start {}, .stop]).1).2.initialised =
      (start noSubscriberSetup {} (attached noSubscriberSetup () [])).2.initialised :=
  (restart_as_fresh_iff noSubscriberSetup () [] (by simp) [.start {}, .stop] {} {} rfl rfl).mpr
    ⟨trivial, rfl, trivial⟩

/-- With the default configuration, the event subscriber is not initialised after
start, stop and start. -/
theorem restarted_subscriber_not_initialised :
    (start plainSetup {} (Machine.run (lifecycleStep plainSetup) (attached plainSetup () [])
        [.start {}, .stop]).1).1 = .success ∧
      (start plainSetup {} (Machine.run (lifecycleStep plainSetup) (attached plainSetup () [])
          [.start {}, .stop]).1).2.initialised ≠
        (start plainSetup {} (attached plainSetup () [])).2.initialised := by
  refine ⟨rfl, fun hsame => ?_⟩
  have hmem : ComponentName.eventSubscriber ∈
      (start plainSetup {} (attached plainSetup () [])).2.initialised := ⟨_, rfl, rfl⟩
  rw [← hsame] at hmem
  obtain ⟨subscriber, hsubscriber, hinitialised⟩ := hmem
  cases hsubscriber
  cases hinitialised

end SomeipGateway.Ros2
