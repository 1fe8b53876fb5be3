import Mathlib.Data.List.Nodup
import SomeipGateway.Dds.Traffic

/-! Gateways in one DDS domain. A sample that a writer offers flies to every reader of
its topic that requests no more than the writer offers, waits there until the reader
takes it, and may be lost in both places. -/
namespace SomeipGateway.Dds

open Lib

variable {ι σ κ : Type}

/-! ### The domain -/

def DdsReliabilityKind.level : DdsReliabilityKind → Nat
  | .bestEffort => 0
  | .reliable => 1

def DdsDurabilityKind.level : DdsDurabilityKind → Nat
  | .volatile => 0
  | .transientLocal => 1
  | .persistent => 2

/-- The rule of DDS for the two policies that must fit: no less is offered than is
requested. -/
def compatible (offered requested : DdsQosProfile) : Bool :=
  requested.reliability.level ≤ offered.reliability.level &&
    requested.durability.level ≤ offered.durability.level

def Writer.matches (writer : Writer) (reader : Reader) : Bool :=
  writer.topic == reader.topic && compatible writer.qos reader.qos

/-- A written sample as a reader gets it. -/
def BridgeSample.received (sample : BridgeSample) : ReceivedSample where
  serviceId := sample.serviceId
  instanceId := sample.instanceId
  methodOrEventId := sample.methodOrEventId
  messageType := sample.messageType
  payload := .buffer sample.payload

/-- `flying` is on the way from one gateway to the reader of a topic at another,
`waiting` what the reader has not taken yet, with the gateway it came from. -/
structure DomainState (ι σ : Type) where
  gateways : ι → DdsGateway σ
  flying : ι → ι → Text → List ReceivedSample := fun _ _ _ => []
  waiting : ι → Text → List (ι × ReceivedSample) := fun _ _ => []

inductive DomainInput (ι : Type) where
  | start (site : ι) (outcome : StartOutcome)
  | stop (site : ι)
  | addServiceMapping (site : ι) (mapping : ServiceMapping)
  | onSomeipMessage (site : ι) (outcome : WriteOutcome) (msg : Message)
  | readerPass (site : ι) (sink : Bool)
  | arrive (source site : ι) (topic : Text)
  | lose (source site : ι) (topic : Text) (position : Nat)
  | evict (site : ι) (topic : Text) (position : Nat)

def DdsGateway.reads (gw : DdsGateway σ) (topic : Text) : Bool :=
  gw.readers.any fun reader => reader.topic == topic

/-- The reader thread is there and goes on. -/
def DdsGateway.reading (gw : DdsGateway σ) : Bool := gw.readerThread && !gw.readerStop

def writesOf (outputs : List Output) : List Write :=
  outputs.filterMap fun
    | .written _ write => some write
    | _ => none

/-- Those of the writes that reach a reader of the topic at this gateway. -/
def DdsGateway.reachedBy (gw : DdsGateway σ) (topic : Text) (writes : List Write) :
    List ReceivedSample :=
  (writes.filter fun write => write.writer.topic = topic ∧
    gw.readers.any fun reader => write.writer.matches reader).map fun write =>
      write.sample.received

section

variable [DecidableEq ι] (setups : ι → Setup σ κ)

def DomainState.setFlying (state : DomainState ι σ) (source site : ι) (topic : Text)
    (samples : List ReceivedSample) : DomainState ι σ :=
  { state with
    flying := fun source' site' topic' =>
      if source' = source ∧ site' = site ∧ topic' = topic then samples
      else state.flying source' site' topic' }

def DomainState.setWaiting (state : DomainState ι σ) (site : ι) (topic : Text)
    (samples : List (ι × ReceivedSample)) : DomainState ι σ :=
  { state with
    waiting := fun site' topic' =>
      if site' = site ∧ topic' = topic then samples else state.waiting site' topic' }

/-- A sample goes to every reader in the domain that the writer reaches, those of the
writing gateway included. -/
def offer (state : DomainState ι σ) (source : ι) (writes : List Write) : DomainState ι σ :=
  { state with
    flying := fun source' site topic =>
      if source' = source then
        state.flying source' site topic ++ (state.gateways site).reachedBy topic writes
      else state.flying source' site topic }

/-- A call at one gateway. What is for a reader goes with the reader. -/
def callAt (state : DomainState ι σ) (site : ι) (call : Call) :
    DomainState ι σ × List (ι × Output) :=
  let now := step (setups site) (state.gateways site) call
  ({ gateways := Function.update state.gateways site now.1
     flying := fun source other topic =>
      if other = site ∧ !now.1.reads topic then [] else state.flying source other topic
     waiting := fun other topic =>
      if other = site ∧ !now.1.reads topic then [] else state.waiting other topic },
    now.2.map fun output => (site, output))

/-- A turn of the reader loop, with what waits for the readers. -/
def DomainState.turn (state : DomainState ι σ) (site : ι) (sink : Bool) : Call :=
  .readerPass sink fun topic =>
    ((state.waiting site topic).map Prod.snd).map fun s => { sample := some s }

/-- At most two of the samples that wait for a reader are taken. -/
def passAt (state : DomainState ι σ) (site : ι) (sink : Bool) :
    DomainState ι σ × List (ι × Output) :=
  let now := callAt setups state site (state.turn site sink)
  ({ now.1 with
      waiting := fun other topic =>
        if other = site ∧ (state.gateways site).reading then
          (now.1.waiting other topic).drop 2
        else now.1.waiting other topic },
    now.2)

def domainStep (state : DomainState ι σ) :
    DomainInput ι → DomainState ι σ × List (ι × Output)
  | .start site outcome => callAt setups state site (.start outcome)
  | .stop site => callAt setups state site .stop
  | .addServiceMapping site mapping => callAt setups state site (.addServiceMapping mapping)
  | .onSomeipMessage site outcome msg =>
      let now := callAt setups state site (.onSomeipMessage outcome msg)
      (offer now.1 site (writesOf (now.2.map Prod.snd)), now.2)
  | .readerPass site sink => passAt setups state site sink
  | .arrive source site topic =>
      match state.flying source site topic with
      | [] => (state, [])
      | sample :: rest =>
          ((state.setFlying source site topic rest).setWaiting site topic
            (state.waiting site topic ++ [(source, sample)]), [])
  | .lose source site topic position =>
      (state.setFlying source site topic
        ((state.flying source site topic).eraseIdx position), [])
  | .evict site topic position =>
      (state.setWaiting site topic ((state.waiting site topic).eraseIdx position), [])

end

/-! ### What a log says -/

section

variable [DecidableEq ι]

/-- Those that come from one gateway. -/
def samplesOf (source : ι) (samples : List (ι × ReceivedSample)) : List ReceivedSample :=
  (samples.filter fun entry => entry.1 = source).map Prod.snd

/-- The samples that the sink of a gateway got from the reader of a topic. -/
def deliveredAt (site : ι) (topic : Text) (log : List (ι × Output)) : List ReceivedSample :=
  log.filterMap fun entry =>
    match entry.2 with
    | .delivered _ reader sample =>
        if entry.1 = site ∧ reader.topic = topic then some sample else none
    | _ => none

/-- The samples that a gateway wrote to a topic through writers that offer
reliability. -/
def reliableOn (source : ι) (topic : Text) (log : List (ι × Output)) : List ReceivedSample :=
  log.filterMap fun entry =>
    match entry.2 with
    | .written _ write =>
        if entry.1 = source ∧ write.writer.topic = topic ∧
            write.writer.qos.reliability = .reliable then
          some write.sample.received
        else none
    | _ => none

theorem samplesOf_append (source : ι) (first second : List (ι × ReceivedSample)) :
    samplesOf source (first ++ second) = samplesOf source first ++ samplesOf source second := by
  rw [samplesOf, List.filter_append, List.map_append]
  rfl

theorem samplesOf_sublist (source : ι) {fewer samples : List (ι × ReceivedSample)}
    (h : List.Sublist fewer samples) :
    List.Sublist (samplesOf source fewer) (samplesOf source samples) :=
  (h.filter _).map _

theorem deliveredAt_append (site : ι) (topic : Text) (first second : List (ι × Output)) :
    deliveredAt site topic (first ++ second) =
      deliveredAt site topic first ++ deliveredAt site topic second := List.filterMap_append

theorem reliableOn_append (source : ι) (topic : Text) (first second : List (ι × Output)) :
    reliableOn source topic (first ++ second) =
      reliableOn source topic first ++ reliableOn source topic second :=
  List.filterMap_append

end

/-! ### A turn of the reader loop -/

def passOutputs (sink : Bool) (takes : Text → List TakenSample) (reader : Reader) : List Output :=
  ((takes reader.topic).take 2).flatMap fun taken =>
    match taken.validData, taken.sample with
    | true, some s => if sink then [.delivered s.message reader s] else []
    | _, _ => []

theorem drainReader_outputs (sink : Bool) (takes : Text → List TakenSample) (gw : DdsGateway σ)
    (reader : Reader) : (drainReader sink takes gw reader).2 = passOutputs sink takes reader := by
  apply Machine.run_outputs
  intro now taken
  obtain ⟨_ | _, _ | s⟩ := taken <;> rfl

theorem readerPass_outputs (sink : Bool) (takes : Text → List TakenSample) (gw : DdsGateway σ) :
    (readerPass sink takes gw).2 =
      if gw.reading then gw.readers.flatMap (passOutputs sink takes) else [] := by
  have hreading : (!gw.readerThread || gw.readerStop) = !gw.reading := by
    unfold DdsGateway.reading
    cases gw.readerThread <;> cases gw.readerStop <;> rfl
  rw [readerPass, hreading]
  cases gw.reading with
  | false => rfl
  | true => exact Machine.run_outputs (drainReader_outputs sink takes) gw gw.readers

theorem SameEntities.reading {gw now : DdsGateway σ} (h : SameEntities gw now) :
    now.reading = gw.reading := by
  have hsame := congrArg DdsGateway.reading h
  exact hsame

theorem SameEntities.reads {gw now : DdsGateway σ} (h : SameEntities gw now) (topic : Text) :
    now.reads topic = gw.reads topic := by
  have hsame := congrArg (DdsGateway.reads · topic) h
  exact hsame

/-- What one reader hands over. -/
theorem passOutputs_waiting (sink : Bool) (waiting : Text → List ReceivedSample)
    (reader : Reader) :
    passOutputs sink (fun topic => (waiting topic).map fun s => { sample := some s }) reader =
      if sink then
        ((waiting reader.topic).take 2).map fun s => .delivered s.message reader s
      else [] := by
  unfold passOutputs
  rw [← List.map_take, List.flatMap_map]
  cases sink with
  | false => exact List.flatMap_eq_nil_iff.mpr fun _ _ => rfl
  | true => exact (List.map_eq_flatMap ..).symm

section

variable [DecidableEq ι]

theorem deliveredAt_passOutputs (site : ι) (topic : Text) (sink : Bool)
    (waiting : Text → List ReceivedSample) (reader : Reader) :
    deliveredAt site topic ((passOutputs sink
        (fun topic => (waiting topic).map fun s => { sample := some s }) reader).map
          fun output => (site, output)) =
      if sink ∧ reader.topic = topic then (waiting topic).take 2 else [] := by
  rw [passOutputs_waiting]
  cases sink with
  | false => rfl
  | true =>
      by_cases htopic : reader.topic = topic
      · subst htopic
        generalize (waiting reader.topic).take 2 = taken
        simp [deliveredAt, Function.comp_def]
      · generalize (waiting reader.topic).take 2 = taken
        simp [deliveredAt, htopic]

/-- Each topic has one reader, so a turn hands over the first two samples of it. -/
theorem deliveredAt_readers (site : ι) (topic : Text) (sink : Bool)
    (waiting : Text → List ReceivedSample) {readers : List Reader}
    (hnodup : (readers.map Reader.topic).Nodup) :
    deliveredAt site topic ((readers.flatMap (passOutputs sink
        fun topic => (waiting topic).map fun s => { sample := some s })).map
          fun output => (site, output)) =
      if sink ∧ topic ∈ readers.map Reader.topic then (waiting topic).take 2 else [] := by
  induction readers with
  | nil => simp [deliveredAt]
  | cons reader rest ih =>
      obtain ⟨hnew, hrest⟩ := List.nodup_cons.mp hnodup
      rw [List.flatMap_cons, List.map_append, deliveredAt_append, deliveredAt_passOutputs,
        ih hrest]
      cases sink with
      | false => simp
      | true =>
          by_cases htopic : reader.topic = topic
          · subst htopic
            simp [hnew]
          · have hother : topic ≠ reader.topic := Ne.symm htopic
            simp [htopic, hother]

end

/-! ### Readers and writers of a gateway -/

/-- One reader for a topic, and every reader asks for reliability. -/
structure ReadersSound (readers : List Reader) : Prop where
  reliable : ∀ reader ∈ readers, reader.qos.reliability = .reliable
  topics : (readers.map Reader.topic).Nodup

theorem ReadersSound.nil : ReadersSound [] := ⟨List.forall_mem_nil _, List.nodup_nil⟩

theorem ReadersSound.put {readers : List Reader} (h : ReadersSound readers) {reader : Reader}
    (hreader : reader.qos.reliability = .reliable) : ReadersSound (putReader readers reader) := by
  constructor
  · intro other hother
    rcases List.mem_append.mp hother with hkept | hnew
    · exact h.reliable other (List.mem_filter.mp hkept).1
    · exact List.mem_singleton.mp hnew ▸ hreader
  · have hnew : reader.topic ∉
        (readers.filter fun r => r.topic != reader.topic).map Reader.topic := by
      simp
    have hkept := h.topics.sublist
      ((List.filter_sublist (p := fun r : Reader => r.topic != reader.topic)).map Reader.topic)
    rw [putReader, List.map_append, List.map_singleton]
    exact List.nodup_append.mpr ⟨hkept, List.nodup_singleton _, by
      intro topic htopic other hother
      rw [List.mem_singleton.mp hother]
      rintro rfl
      exact hnew htopic⟩

theorem qosForServiceMapping_reader (mapping : ServiceMapping) :
    (qosForServiceMapping mapping false).reliability = .reliable := by
  unfold qosForServiceMapping
  cases shouldForwardToSomeip mapping <;> rfl

theorem createReaders_sound (outcome : StartOutcome) (index : Nat) (mappings : List ServiceMapping)
    {readers : List Reader} (h : ReadersSound readers) :
    ReadersSound (createReaders outcome index mappings readers) := by
  induction mappings generalizing index readers with
  | nil => exact h
  | cons mapping rest ih =>
      apply ih
      split_ifs
      · exact h
      · exact h
      · exact h.put (qosForServiceMapping_reader mapping)

/-- What a call can do to the readers. -/
theorem step_readers (setup : Setup σ κ) (gw : DdsGateway σ) (call : Call) :
    (step setup gw call).1.readers = gw.readers ∨ (step setup gw call).1.readers = [] ∨
      ∃ outcome mappings, (step setup gw call).1.readers =
        createReaders outcome 0 mappings gw.readers := by
  cases call with
  | start outcome =>
      obtain ⟨-, -, heq⟩ | ⟨-, ⟨-, heq⟩ | ⟨-, -, heq⟩ | ⟨-, -, heq⟩⟩ := start_cases outcome gw
      · exact .inl (by rw [step, heq])
      · exact .inl (by rw [step, heq])
      · exact .inl (by rw [step, heq])
      · exact .inr (.inr ⟨outcome, gw.base.serviceMappings, by rw [step, heq]⟩)
  | stop => exact .inr (.inl rfl)
  | addServiceMapping mapping => exact .inl rfl
  | onSomeipMessage outcome msg => exact .inl (onSomeipMessage_keeps setup outcome gw msg).1
  | readerPass sink takes => exact .inl (readerPass_keeps sink takes gw).1
  | injectDdsSample sink payload serviceId instanceId methodId messageTypeByte => exact .inl rfl

theorem step_readersSound (setup : Setup σ κ) {gw : DdsGateway σ} (call : Call)
    (h : ReadersSound gw.readers) : ReadersSound (step setup gw call).1.readers := by
  obtain hsame | hnone | ⟨outcome, mappings, hcreated⟩ := step_readers setup gw call
  · rw [hsame]
    exact h
  · rw [hnone]
    exact .nil
  · rw [hcreated]
    exact createReaders_sound outcome 0 mappings h

/-- Only a reliable writer reaches a reader that asks for reliability. -/
theorem matches_reliable {writer : Writer} {reader : Reader}
    (hreader : reader.qos.reliability = .reliable) (h : writer.matches reader = true) :
    writer.qos.reliability = .reliable := by
  unfold Writer.matches compatible at h
  rw [hreader] at h
  cases hoffered : writer.qos.reliability with
  | reliable => rfl
  | bestEffort =>
      rw [hoffered] at h
      simp [DdsReliabilityKind.level] at h

theorem ensureWriter_qos {P : DdsQosProfile → Prop} {writers : List Writer}
    (h : ∀ writer ∈ writers, P writer.qos) (outcome : WriteOutcome) (topic : Text)
    {qos : DdsQosProfile} (hqos : P qos) :
    (∀ writer ∈ (ensureWriter outcome writers topic qos).1, P writer.qos) ∧
      ∀ writer ∈ (ensureWriter outcome writers topic qos).2, P writer.qos := by
  unfold ensureWriter
  cases hfind : writers.find? fun w => w.topic == topic with
  | some found =>
      refine ⟨fun writer hwriter => ?_, h⟩
      cases hwriter
      exact h found (List.mem_of_find?_eq_some hfind)
  | none =>
      dsimp only
      split_ifs
      · refine ⟨fun writer hwriter => ?_, fun writer hwriter => ?_⟩
        · cases hwriter
          exact hqos
        · rcases List.mem_append.mp hwriter with hkept | hnew
          · exact h writer hkept
          · exact List.mem_singleton.mp hnew ▸ hqos
      · refine ⟨fun writer hwriter => ?_, h⟩
        cases hwriter

theorem writeSomeip_qos {P : DdsQosProfile → Prop} {setup : Setup σ κ} (gw : DdsGateway σ)
    (h : ∀ writer ∈ gw.writers, P writer.qos) (outcome : WriteOutcome) (msg : Message)
    (hmsg : P (assignedQos setup msg)) (topic : Text) (mapping : ServiceMapping)
    (instanceId : UInt16) :
    let done := writeSomeip setup outcome gw msg topic mapping instanceId
    (∀ writer ∈ done.2.1.writers, P writer.qos) ∧ ∀ write ∈ done.2.2, P write.writer.qos := by
  have hensured := ensureWriter_qos h outcome topic hmsg
  intro done
  unfold assignedQos at hensured
  simp only [done, writeSomeip]
  by_cases hparticipant : gw.participant ≤ 0
  · rw [if_pos hparticipant]
    exact ⟨h, List.forall_mem_nil _⟩
  · rw [if_neg hparticipant]
    generalize ensureWriter outcome gw.writers topic _ = ensured at hensured ⊢
    obtain ⟨_ | writer, writers⟩ := ensured
    · exact ⟨hensured.2, List.forall_mem_nil _⟩
    · by_cases halloc : !msg.payload.isEmpty ∧ !outcome.alloc
      · simp only [if_pos halloc]
        exact ⟨hensured.2, List.forall_mem_nil _⟩
      · simp only [if_neg halloc]
        cases outcome.write with
        | false => exact ⟨hensured.2, List.forall_mem_nil _⟩
        | true =>
            refine ⟨hensured.2, fun write hwrite => ?_⟩
            rw [List.mem_singleton.mp hwrite]
            exact hensured.1 writer rfl

theorem onSomeipMessage_qos {P : DdsQosProfile → Prop} {setup : Setup σ κ} {gw : DdsGateway σ}
    (h : ∀ writer ∈ gw.writers, P writer.qos) (outcome : WriteOutcome) {msg : Message}
    (hmsg : P (assignedQos setup msg)) :
    let done := onSomeipMessage setup outcome gw msg
    (∀ writer ∈ done.2.1.writers, P writer.qos) ∧ ∀ write ∈ done.2.2, P write.writer.qos := by
  intro done
  simp only [done, onSomeipMessage]
  generalize admitOutbound setup.e2e setup.config.useE2e setup.config.e2eConfig
    setup.config.defaultSomeipInstanceId gw.base gw.e2e msg = admitted
  obtain ⟨result | mapping, base, e2e⟩ := admitted
  · exact ⟨h, List.forall_mem_nil _⟩
  · have hwrite := writeSomeip_qos { gw with base, e2e } h outcome
      (outboundMessage msg mapping) (by rwa [assignedQos_outboundMessage])
      (resolveDdsTopic msg mapping) mapping mapping.someipInstanceId
    dsimp only at hwrite ⊢
    split_ifs
    · exact hwrite
    · exact hwrite

/-- Only a message adds writers. -/
theorem step_writers {P : DdsQosProfile → Prop} {setup : Setup σ κ} {gw : DdsGateway σ}
    (h : ∀ writer ∈ gw.writers, P writer.qos) (call : Call)
    (hmsg : ∀ outcome msg, call = .onSomeipMessage outcome msg → P (assignedQos setup msg)) :
    (∀ writer ∈ (step setup gw call).1.writers, P writer.qos) ∧
      ∀ msg write, .written msg write ∈ (step setup gw call).2 → P write.writer.qos := by
  cases call with
  | start outcome =>
      refine ⟨?_, fun _ _ hmem => absurd hmem List.not_mem_nil⟩
      obtain ⟨-, -, heq⟩ | ⟨-, ⟨-, heq⟩ | ⟨-, -, heq⟩ | ⟨-, -, heq⟩⟩ := start_cases outcome gw <;>
      · rw [step, heq]
        exact h
  | stop => exact ⟨List.forall_mem_nil _, fun _ _ hmem => absurd hmem List.not_mem_nil⟩
  | addServiceMapping mapping => exact ⟨h, fun _ _ hmem => absurd hmem List.not_mem_nil⟩
  | onSomeipMessage outcome msg =>
      obtain ⟨hwriters, hwrites⟩ := onSomeipMessage_qos h outcome (hmsg outcome msg rfl)
      refine ⟨hwriters, fun other write hmem => ?_⟩
      obtain ⟨source, hsource, heq⟩ := List.mem_map.mp hmem
      cases heq
      exact hwrites write hsource
  | readerPass sink takes =>
      constructor
      · exact (readerPass_entities sink takes gw).writers ▸ h
      · intro msg write hmem
        obtain ⟨_, _, _, heq⟩ := mem_readerPass hmem
        cases heq
  | injectDdsSample sink payload serviceId instanceId methodId messageTypeByte =>
      refine ⟨h, fun msg write hmem => ?_⟩
      cases sink <;> simp [step, injectDdsSample, deliverInboundFromDds] at hmem

end SomeipGateway.Dds
