import SomeipGateway.Dds.Lifecycle
import SomeipGateway.Dds.Topics
import SomeipGateway.Instances

/-! What goes through the DDS entities of a gateway. Writers are kept by topic
while the profile belongs to the message, so a topic shared by messages of
several kinds keeps the profile of the first. Readers belong to mappings, but
the ids of what they deliver are those in the sample. -/
namespace SomeipGateway.Dds

open Lib

section

variable {σ κ : Type} (setup : Setup σ κ)

/-! ### Readers -/

/-- The message that a sample describes, with the ids the sample carries. -/
def ReceivedSample.message (s : ReceivedSample) : Message :=
  bridgeSampleToSomeip s.serviceId s.instanceId s.methodOrEventId s.messageType s.payload.bytes

/-- Nothing but the counters differs. -/
def SameEntities (gw now : DdsGateway σ) : Prop :=
  { now with base := { now.base with stats := gw.base.stats } } = gw

theorem SameEntities.trans {first second third : DdsGateway σ} (h : SameEntities first second)
    (h' : SameEntities second third) : SameEntities first third := by
  unfold SameEntities at *
  rw [← h, ← h']

theorem SameEntities.readers {gw now : DdsGateway σ} (h : SameEntities gw now) :
    now.readers = gw.readers := by
  have hsame := congrArg DdsGateway.readers h
  exact hsame

theorem SameEntities.writers {gw now : DdsGateway σ} (h : SameEntities gw now) :
    now.writers = gw.writers := by
  have hsame := congrArg DdsGateway.writers h
  exact hsame

/-- A turn changes nothing but the counters. -/
theorem readerPass_entities (sink : Bool) (takes : Text → List TakenSample) (gw : DdsGateway σ) :
    SameEntities gw (readerPass sink takes gw).1 := by
  have htake (reader : Reader) (now : DdsGateway σ) (taken : TakenSample) :
      SameEntities now (takeSample sink reader now taken).1 := by
    obtain ⟨_ | _, _ | s⟩ := taken <;> rfl
  have hdrain (reader : Reader) (now : DdsGateway σ) :
      SameEntities now (drainReader sink takes now reader).1 := by
    apply Machine.run_invariant (takeSample sink reader)
    · exact fun later taken hlater => hlater.trans (htake reader later taken)
    · rfl
  unfold readerPass
  split_ifs
  · rfl
  · apply Machine.run_invariant (drainReader sink takes)
    · exact fun later reader hlater => hlater.trans (hdrain reader later)
    · rfl

def KeepsEntities (gw gw' : DdsGateway σ) : Prop :=
  gw'.readers = gw.readers ∧ gw'.base.serviceMappings = gw.base.serviceMappings

theorem readerPass_keeps (sink : Bool) (takes : Text → List TakenSample) (gw : DdsGateway σ) :
    KeepsEntities gw (readerPass sink takes gw).1 := by
  have hsame := readerPass_entities sink takes gw
  have hmappings := congrArg (fun gw : DdsGateway σ => gw.base.serviceMappings) hsame
  exact ⟨hsame.readers, hmappings⟩

theorem mem_takeSample {sink : Bool} {reader : Reader} {gw : DdsGateway σ} {taken : TakenSample}
    {out : Output} (h : out ∈ (takeSample sink reader gw taken).2) :
    ∃ s, out = .delivered (ReceivedSample.message s) reader s := by
  obtain ⟨_ | _, _ | s⟩ := taken
  · cases h
  · cases h
  · cases h
  · cases sink with
    | false => cases h
    | true => exact ⟨s, List.mem_singleton.mp h⟩

/-- A turn of the reader loop delivers, through a reader of the map, the message
that some sample describes. -/
theorem mem_readerPass {sink : Bool} {takes : Text → List TakenSample} {gw : DdsGateway σ}
    {out : Output} (h : out ∈ (readerPass sink takes gw).2) :
    ∃ reader ∈ gw.readers, ∃ s, out = .delivered (ReceivedSample.message s) reader s := by
  unfold readerPass at h
  split_ifs at h
  · cases h
  · obtain ⟨before, reader, after, hreaders, hdrained⟩ := Machine.mem_run.mp h
    obtain ⟨_, taken, _, _, htaken⟩ := Machine.mem_run.mp hdrained
    refine ⟨reader, ?_, mem_takeSample htaken⟩
    rw [hreaders]
    exact List.mem_append_right before List.mem_cons_self

/-- Each reader was created for an inbound mapping of the list. -/
def ReadersMapped (gw : DdsGateway σ) : Prop :=
  ∀ reader ∈ gw.readers, reader.via ∈ gw.base.serviceMappings ∧
    shouldForwardToSomeip reader.via = true ∧ reader.topic = readerTopic reader.via

theorem createReaders_mapped {mappings : List ServiceMapping} (outcome : StartOutcome)
    (index : Nat) (rest : List ServiceMapping) (readers : List Reader)
    (hrest : ∀ m ∈ rest, m ∈ mappings)
    (h : ∀ reader ∈ readers, reader.via ∈ mappings ∧ shouldForwardToSomeip reader.via = true ∧
      reader.topic = readerTopic reader.via) :
    ∀ reader ∈ createReaders outcome index rest readers, reader.via ∈ mappings ∧
      shouldForwardToSomeip reader.via = true ∧ reader.topic = readerTopic reader.via := by
  induction rest generalizing index readers with
  | nil => exact h
  | cons mapping rest ih =>
      have hmapping := hrest mapping List.mem_cons_self
      apply ih (index + 1) _ fun m hm => hrest m (List.mem_cons_of_mem _ hm)
      intro reader hreader
      split_ifs at hreader with hskip hfailed
      · exact h reader hreader
      · exact h reader hreader
      · rcases List.mem_append.mp hreader with hkept | hnew
        · exact h reader (List.mem_filter.mp hkept).1
        · cases List.mem_singleton.mp hnew
          exact ⟨hmapping, by simpa using hskip, rfl⟩

theorem ReadersMapped.keeps {gw gw' : DdsGateway σ} (h : ReadersMapped gw)
    (hkeeps : KeepsEntities gw gw') : ReadersMapped gw' := by
  unfold ReadersMapped
  rw [hkeeps.1, hkeeps.2]
  exact h

theorem writeSomeip_keeps (outcome : WriteOutcome) (gw : DdsGateway σ) (msg : Message)
    (topic : Text) (mapping : ServiceMapping) (instanceId : UInt16) :
    KeepsEntities gw (writeSomeip setup outcome gw msg topic mapping instanceId).2.1 := by
  unfold writeSomeip
  by_cases hparticipant : gw.participant ≤ 0
  · rw [if_pos hparticipant]
    exact ⟨rfl, rfl⟩
  · rw [if_neg hparticipant]
    dsimp only
    generalize ensureWriter outcome gw.writers topic _ = ensured
    obtain ⟨_ | writer, writers⟩ := ensured
    · exact ⟨rfl, rfl⟩
    · by_cases halloc : !msg.payload.isEmpty ∧ !outcome.alloc
      · simp only [if_pos halloc]
        exact ⟨rfl, rfl⟩
      · simp only [if_neg halloc]
        cases outcome.write with
        | false => exact ⟨rfl, rfl⟩
        | true => exact ⟨rfl, rfl⟩

theorem onSomeipMessage_keeps (outcome : WriteOutcome) (gw : DdsGateway σ) (msg : Message) :
    KeepsEntities gw (onSomeipMessage setup outcome gw msg).2.1 := by
  have hbase := (admitOutbound_base setup.e2e setup.config.useE2e setup.config.e2eConfig
    setup.config.defaultSomeipInstanceId gw.base gw.e2e msg).2
  unfold onSomeipMessage
  dsimp only
  generalize admitOutbound setup.e2e setup.config.useE2e setup.config.e2eConfig
    setup.config.defaultSomeipInstanceId gw.base gw.e2e msg = admitted at hbase ⊢
  obtain ⟨result | mapping, base, e2e⟩ := admitted
  · exact ⟨rfl, hbase⟩
  · have hwrite := writeSomeip_keeps setup outcome { gw with base, e2e }
      (outboundMessage msg mapping) (resolveDdsTopic msg mapping) mapping mapping.someipInstanceId
    dsimp only
    split_ifs
    · exact ⟨hwrite.1, hwrite.2.trans hbase⟩
    · exact ⟨hwrite.1, hwrite.2.trans hbase⟩

theorem start_mapped (outcome : StartOutcome) {gw : DdsGateway σ} (h : ReadersMapped gw) :
    ReadersMapped (start outcome gw).2 ∧
      (start outcome gw).2.base.serviceMappings = gw.base.serviceMappings := by
  obtain ⟨-, -, heq⟩ | ⟨-, ⟨-, heq⟩ | ⟨-, -, heq⟩ | ⟨-, -, heq⟩⟩ := start_cases outcome gw
  · rw [heq]
    exact ⟨h, rfl⟩
  · rw [heq]
    exact ⟨h, rfl⟩
  · rw [heq]
    exact ⟨h, rfl⟩
  · rw [heq]
    exact ⟨createReaders_mapped outcome 0 gw.base.serviceMappings gw.readers (fun _ hm => hm) h,
      rfl⟩

/-- What a step keeps of the readers and adds to the mappings. -/
theorem step_mapped (gw : DdsGateway σ) (call : Call) (h : ReadersMapped gw) :
    ReadersMapped (step setup gw call).1 ∧
      gw.base.serviceMappings ⊆ (step setup gw call).1.base.serviceMappings := by
  cases call with
  | start outcome =>
      obtain ⟨hmapped, hmappings⟩ := start_mapped outcome h
      exact ⟨hmapped, fun _ hm => hmappings ▸ hm⟩
  | stop => exact ⟨fun _ hreader => absurd hreader List.not_mem_nil, List.Subset.refl _⟩
  | addServiceMapping mapping =>
      refine ⟨fun reader hreader => ?_, List.subset_append_left _ _⟩
      obtain ⟨hmem, hrest⟩ := h reader hreader
      exact ⟨List.mem_append_left _ hmem, hrest⟩
  | onSomeipMessage outcome msg =>
      have hkeeps := onSomeipMessage_keeps setup outcome gw msg
      exact ⟨h.keeps hkeeps, fun _ hm => hkeeps.2 ▸ hm⟩
  | readerPass sink takes =>
      have hkeeps := readerPass_keeps sink takes gw
      exact ⟨h.keeps hkeeps, fun _ hm => hkeeps.2 ▸ hm⟩
  | injectDdsSample sink payload serviceId instanceId methodId messageTypeByte =>
      exact ⟨h, List.Subset.refl _⟩

theorem mem_step_delivered {gw : DdsGateway σ} {call : Call} {msg : Message} {reader : Reader}
    {sample : ReceivedSample} (h : .delivered msg reader sample ∈ (step setup gw call).2) :
    reader ∈ gw.readers ∧ msg = sample.message := by
  cases call with
  | readerPass sink takes =>
      obtain ⟨source, hmem, s, heq⟩ := mem_readerPass h
      cases heq
      exact ⟨hmem, rfl⟩
  | onSomeipMessage outcome msg => simp [step] at h
  | injectDdsSample sink payload serviceId instanceId methodId messageTypeByte =>
      cases sink <;> simp [step, injectDdsSample, deliverInboundFromDds] at h
  | _ => cases h

/-- The readers and everything delivered so far come from inbound mappings. -/
def DeliveredMapped (gw : DdsGateway σ) (log : List Output) : Prop :=
  ReadersMapped gw ∧ ∀ msg reader sample, .delivered msg reader sample ∈ log →
    reader.via ∈ gw.base.serviceMappings ∧ shouldForwardToSomeip reader.via = true ∧
      reader.topic = readerTopic reader.via ∧ msg = sample.message

theorem step_deliveredMapped (gw : DdsGateway σ) (log : List Output) (call : Call)
    (h : DeliveredMapped gw log) :
    DeliveredMapped (step setup gw call).1 (log ++ (step setup gw call).2) := by
  obtain ⟨hreaders, hlog⟩ := h
  obtain ⟨hreaders', hgrow⟩ := step_mapped setup gw call hreaders
  refine ⟨hreaders', fun msg reader sample hmem => ?_⟩
  rcases List.mem_append.mp hmem with hbefore | hnow
  · obtain ⟨hvia, hrest⟩ := hlog msg reader sample hbefore
    exact ⟨hgrow hvia, hrest⟩
  · obtain ⟨hreader, hmessage⟩ := mem_step_delivered setup hnow
    obtain ⟨hvia, hforward, htopic⟩ := hreaders reader hreader
    exact ⟨hgrow hvia, hforward, htopic, hmessage⟩

/-- For every run of a new gateway: what `reader_loop` hands to the sink was taken
from a reader created for an inbound mapping, and carries the service, method and
type of its sample, with client 0 and session 1. -/
theorem delivered_from_inbound_reader (mappings : List ServiceMapping) (e2e : σ)
    (udpTransport : Bool) (calls : List Call) (msg : Message) (reader : Reader)
    (sample : ReceivedSample)
    (hmem : .delivered msg reader sample ∈
      (Machine.run (step setup) (fresh mappings e2e udpTransport) calls).2) :
    reader.via ∈ (Machine.run (step setup) (fresh mappings e2e udpTransport)
        calls).1.base.serviceMappings ∧
      shouldForwardToSomeip reader.via = true ∧ reader.topic = readerTopic reader.via ∧
      msg = { serviceId := sample.serviceId, methodId := sample.methodOrEventId, clientId := 0
              sessionId := 1, messageType := ⟨sample.messageType⟩
              payload := sample.payload.bytes } := by
  have hstart : DeliveredMapped (fresh mappings e2e udpTransport) [] :=
    ⟨fun _ hreader => absurd hreader List.not_mem_nil, fun _ _ _ h => absurd h List.not_mem_nil⟩
  have hrun := Machine.run_history (step setup) DeliveredMapped (step_deliveredMapped setup)
    (fresh mappings e2e udpTransport) [] calls hstart
  exact hrun.2 msg reader sample hmem

/-! ### Writers -/

/-- The profile `qos_for_someip_message` assigns, with the hint `write_someip` gives it. -/
def assignedQos (msg : Message) : DdsQosProfile :=
  qosForSomeipMessage msg
    (setup.config.assumeTcpSemanticsForRpc && setup.cls.isRequest msg.messageType)

def writerFor (gw : DdsGateway σ) (msg : Message) (mapping : ServiceMapping) : Option Writer :=
  gw.writers.find? fun w => w.topic == resolveDdsTopic msg mapping

/-- The writer `write_someip` ends up with: the one kept for the topic, or a new one. -/
def usedWriter (outcome : WriteOutcome) (gw : DdsGateway σ) (msg : Message)
    (mapping : ServiceMapping) : Writer :=
  (writerFor gw msg mapping).getD
    { topic := resolveDdsTopic msg mapping, handle := outcome.createWriter
      qos := assignedQos setup msg }

theorem assignedQos_outboundMessage (msg : Message) (mapping : ServiceMapping) :
    assignedQos setup (outboundMessage msg mapping) = assignedQos setup msg := by
  unfold outboundMessage
  split_ifs <;> rfl

/-- The kinds of messages that `qos_for_someip_message` tells apart. -/
inductive MessageKind where
  | event
  | call
  | other
deriving DecidableEq

def messageKind (msg : Message) : MessageKind :=
  if msg.messageType = .notification then .event
  else if msg.messageType = .request ∨ msg.messageType = .response ∨
      msg.messageType = .error then .call
  else .other

def MessageKind.qos : MessageKind → DdsQosProfile
  | .event => { reliability := .bestEffort, historyDepth := 1 }
  | .call => { reliability := .reliable, historyDepth := 16 }
  | .other => { reliability := .bestEffort, historyDepth := 8 }

/-- The hint is given for requests only, so it never makes an event reliable. -/
theorem assignedQos_eq (msg : Message) : assignedQos setup msg = (messageKind msg).qos := by
  unfold assignedQos qosForSomeipMessage messageKind
  by_cases hevent : msg.messageType = .notification
  · have hclass := setup.cls.notification_not_isRequest
    rw [if_pos hevent, if_pos hevent, hevent, hclass, Bool.and_false]
    rfl
  · rw [if_neg hevent, if_neg hevent]
    split_ifs
    · rfl
    · rfl

theorem assignedQos_eq_iff (msg first : Message) :
    assignedQos setup first = assignedQos setup msg ↔ messageKind first = messageKind msg := by
  rw [assignedQos_eq, assignedQos_eq]
  generalize messageKind first = kind
  generalize messageKind msg = kind'
  cases kind <;> cases kind' <;> decide

theorem assignedQos_reliable_iff (msg : Message) :
    (assignedQos setup msg).reliability = .reliable ↔
      msg.messageType = .request ∨ msg.messageType = .response ∨ msg.messageType = .error := by
  rw [assignedQos_eq]
  unfold messageKind
  by_cases hevent : msg.messageType = .notification
  · rw [if_pos hevent, hevent]
    decide
  · rw [if_neg hevent]
    split_ifs with htype
    · exact iff_of_true rfl htype
    · exact iff_of_false nofun htype

theorem onSomeipMessage_writers (outcome : WriteOutcome) (gw : DdsGateway σ) (msg : Message) :
    (onSomeipMessage setup outcome gw msg).2.2.map Write.writer =
      (admittedVia (admitOutbound setup.e2e setup.config.useE2e setup.config.e2eConfig
        setup.config.defaultSomeipInstanceId gw.base gw.e2e msg).1
        fun mapping => gw.canWrite outcome msg mapping).map (usedWriter setup outcome gw msg) := by
  apply map_onSomeipMessage (usedWriter setup outcome gw msg) setup outcome gw msg
  intro base e2e mapping
  have hqos := assignedQos_outboundMessage setup msg mapping
  rw [writeSomeip_writes, apply_ite (List.map Write.writer)]
  unfold assignedQos at hqos
  rw [hqos]
  rfl

/-- Every message goes out with its own profile, and so with a reliable one if
it belongs to a call. -/
def WrittenAsAssigned : Output → Prop
  | .written msg write =>
      write.writer.qos = assignedQos setup msg ∧
        (msg.messageType = .request ∨ msg.messageType = .response ∨ msg.messageType = .error →
          write.writer.qos.reliability = .reliable)
  | _ => True

/-- A message that is going to be written finds no writer for its topic, or one
with its own profile. -/
def FindsOwnProfile (gw : DdsGateway σ) : Call → Prop
  | .onSomeipMessage outcome msg =>
      ∀ mapping writer,
        (admitOutbound setup.e2e setup.config.useE2e setup.config.e2eConfig
          setup.config.defaultSomeipInstanceId gw.base gw.e2e msg).1 = .ok mapping →
        gw.canWrite outcome msg mapping = true →
        writerFor gw msg mapping = some writer → writer.qos = assignedQos setup msg
  | _ => True

theorem usedWriter_qos_iff (outcome : WriteOutcome) (gw : DdsGateway σ) (msg : Message)
    (mapping : ServiceMapping) :
    (usedWriter setup outcome gw msg mapping).qos = assignedQos setup msg ↔
      ∀ writer, writerFor gw msg mapping = some writer → writer.qos = assignedQos setup msg := by
  unfold usedWriter
  cases writerFor gw msg mapping with
  | none => simp
  | some writer => simp

theorem step_written_iff (gw : DdsGateway σ) (call : Call) :
    (∀ out ∈ (step setup gw call).2, WrittenAsAssigned setup out) ↔
      FindsOwnProfile setup gw call := by
  cases call with
  | start outcome => simp [step, FindsOwnProfile]
  | stop => simp [step, FindsOwnProfile]
  | addServiceMapping mapping => simp [step, FindsOwnProfile]
  | onSomeipMessage outcome msg =>
      have hwriters := onSomeipMessage_writers setup outcome gw msg
      have hused (writer : Writer) :
          (∃ write ∈ (onSomeipMessage setup outcome gw msg).2.2, write.writer = writer) ↔
            ∃ mapping, ((admitOutbound setup.e2e setup.config.useE2e setup.config.e2eConfig
                setup.config.defaultSomeipInstanceId gw.base gw.e2e msg).1 = .ok mapping ∧
              gw.canWrite outcome msg mapping = true) ∧
              usedWriter setup outcome gw msg mapping = writer := by
        rw [← List.mem_map, hwriters, List.mem_map]
        simp only [mem_admittedVia]
      constructor
      · intro h mapping writer hmapping hcan hwriter
        obtain ⟨write, hwrite, hsame⟩ := (hused _).mpr ⟨mapping, ⟨hmapping, hcan⟩, rfl⟩
        have hassigned := (h (.written msg write) (List.mem_map_of_mem hwrite)).1
        rw [hsame] at hassigned
        exact (usedWriter_qos_iff setup outcome gw msg mapping).mp hassigned writer hwriter
      · intro h out hout
        obtain ⟨write, hwrite, rfl⟩ := List.mem_map.mp hout
        obtain ⟨mapping, ⟨hmapping, hcan⟩, hsame⟩ := (hused _).mp ⟨write, hwrite, rfl⟩
        have hassigned : write.writer.qos = assignedQos setup msg := by
          rw [← hsame, usedWriter_qos_iff]
          exact fun writer hwriter => h mapping writer hmapping hcan hwriter
        refine ⟨hassigned, fun hrpc => ?_⟩
        rw [hassigned]
        exact (assignedQos_reliable_iff setup msg).mpr hrpc
  | readerPass sink takes =>
      refine iff_of_true (fun out hout => ?_) trivial
      obtain ⟨reader, -, s, rfl⟩ := mem_readerPass hout
      trivial
  | injectDdsSample sink payload serviceId instanceId methodId messageTypeByte =>
      refine iff_of_true (fun out hout => ?_) trivial
      cases sink with
      | false => cases hout
      | true =>
          cases List.mem_singleton.mp hout
          trivial

/-! The writer of a topic is that of the first message on it since the last `stop()`. -/

/-- The messages since the last `stop()` for which a writer could be created, each
with its topic. -/
def remember (history : List (Text × Message)) (gw : DdsGateway σ) :
    Call → List (Text × Message)
  | .stop => []
  | .onSomeipMessage outcome msg =>
      match (admitOutbound setup.e2e setup.config.useE2e setup.config.e2eConfig
        setup.config.defaultSomeipInstanceId gw.base gw.e2e msg).1 with
      | .error _ => history
      | .ok mapping =>
          if 0 < gw.participant ∧ 0 < outcome.createWriter then
            history ++ [(resolveDdsTopic msg mapping, msg)]
          else history
  | _ => history

def firstOn (history : List (Text × Message)) (topic : Text) : Option Message :=
  (history.find? fun entry => entry.1 == topic).map Prod.snd

/-- The gateway with the history of its run. -/
def recordedStep : DdsGateway σ × List (Text × Message) → Call →
    (DdsGateway σ × List (Text × Message)) × List Output :=
  Machine.noting (step setup) (remember setup)

/-- Every writer has the profile of the first message on its topic. -/
def CachesFirst (writers : List Writer) (history : List (Text × Message)) : Prop :=
  ∀ topic, (writers.find? fun w => w.topic == topic).map Writer.qos =
    (firstOn history topic).map (assignedQos setup)

/-- A message that is going to be written is of the kind of the first message on
its topic. -/
def SameKindAsFirst (recorded : DdsGateway σ × List (Text × Message)) : Call → Prop
  | .onSomeipMessage outcome msg =>
      ∀ mapping first,
        (admitOutbound setup.e2e setup.config.useE2e setup.config.e2eConfig
          setup.config.defaultSomeipInstanceId recorded.1.base recorded.1.e2e msg).1 =
            .ok mapping →
        recorded.1.canWrite outcome msg mapping = true →
        firstOn recorded.2 (resolveDdsTopic msg mapping) = some first →
        messageKind first = messageKind msg
  | _ => True

theorem firstOn_append (history : List (Text × Message)) (topic : Text) (msg : Message)
    (other : Text) :
    firstOn (history ++ [(topic, msg)]) other =
      (firstOn history other).or (if topic = other then some msg else none) := by
  unfold firstOn
  rw [List.find?_append, Option.map_or, List.find?_singleton]
  by_cases htopic : topic = other
  · simp [htopic]
  · simp [htopic]

/-- The first message on a topic stays the first. -/
theorem firstOn_append_of_some {history : List (Text × Message)} {topic : Text} {first : Message}
    (h : firstOn history topic = some first) (msg : Message) (other : Text) :
    firstOn (history ++ [(topic, msg)]) other = firstOn history other := by
  rw [firstOn_append]
  by_cases hsame : topic = other
  · rw [← hsame, h]
    rfl
  · rw [if_neg hsame, Option.or_none]

/-- A message leaves the cached writers and the history in keeping, whether it finds a
writer, gets one or fails to. -/
theorem CachesFirst.ensureWriter {writers : List Writer} {history : List (Text × Message)}
    (h : CachesFirst setup writers history) (outcome : WriteOutcome) (topic : Text)
    (msg : Message) :
    CachesFirst setup (ensureWriter outcome writers topic (assignedQos setup msg)).2
      (if 0 < outcome.createWriter then history ++ [(topic, msg)] else history) := by
  intro other
  have hother := h other
  unfold Dds.ensureWriter
  cases hfind : writers.find? fun w => w.topic == topic with
  | some writer =>
      have htopic := h topic
      rw [hfind] at htopic
      obtain ⟨first, hfirst, -⟩ := Option.map_eq_some_iff.mp htopic.symm
      dsimp only
      rw [hother]
      split_ifs
      · rw [firstOn_append_of_some hfirst]
      · rfl
  | none =>
      by_cases hcreated : 0 < outcome.createWriter
      · dsimp only
        rw [if_pos hcreated, if_pos hcreated, firstOn_append, List.find?_append, Option.map_or,
          hother, List.find?_singleton, Option.map_or]
        by_cases hsame : topic = other
        · simp [hsame]
        · simp [hsame]
      · dsimp only
        rw [if_neg hcreated, if_neg hcreated]
        exact hother

theorem writeSomeip_writers (outcome : WriteOutcome) (gw : DdsGateway σ) (msg : Message)
    (topic : Text) (mapping : ServiceMapping) (instanceId : UInt16) :
    (writeSomeip setup outcome gw msg topic mapping instanceId).2.1.writers =
      if 0 < gw.participant then
        (ensureWriter outcome gw.writers topic (assignedQos setup msg)).2
      else gw.writers := by
  unfold writeSomeip assignedQos
  by_cases hparticipant : gw.participant ≤ 0
  · rw [if_pos hparticipant, if_neg (Int.not_lt.mpr hparticipant)]
  · rw [if_neg hparticipant, if_pos (Int.not_le.mp hparticipant)]
    dsimp only
    generalize ensureWriter outcome gw.writers topic _ = ensured
    obtain ⟨_ | writer, writers⟩ := ensured
    · rfl
    · dsimp only
      split_ifs
      · rfl
      · rfl
      · rfl

theorem onSomeipMessage_cachesFirst {gw : DdsGateway σ} {history : List (Text × Message)}
    (h : CachesFirst setup gw.writers history) (outcome : WriteOutcome) (msg : Message) :
    CachesFirst setup (onSomeipMessage setup outcome gw msg).2.1.writers
      (remember setup history gw (.onSomeipMessage outcome msg)) := by
  unfold onSomeipMessage
  dsimp only [remember]
  generalize admitOutbound setup.e2e setup.config.useE2e setup.config.e2eConfig
    setup.config.defaultSomeipInstanceId gw.base gw.e2e msg = admitted
  obtain ⟨result | mapping, base, e2e⟩ := admitted
  · exact h
  · have hwriters := writeSomeip_writers setup outcome { gw with base, e2e }
      (outboundMessage msg mapping) (resolveDdsTopic msg mapping) mapping mapping.someipInstanceId
    rw [assignedQos_outboundMessage] at hwriters
    dsimp only at hwriters ⊢
    rw [apply_ite (fun answer : Result × DdsGateway σ × List Write => answer.2.1.writers), ite_self,
      hwriters]
    by_cases hparticipant : 0 < gw.participant
    · simp only [hparticipant, true_and, ↓reduceIte]
      exact h.ensureWriter setup outcome (resolveDdsTopic msg mapping) msg
    · simp only [hparticipant, false_and, ↓reduceIte]
      exact h

theorem recordedStep_cachesFirst (recorded : DdsGateway σ × List (Text × Message)) (call : Call)
    (h : CachesFirst setup recorded.1.writers recorded.2) :
    CachesFirst setup (recordedStep setup recorded call).1.1.writers
      (recordedStep setup recorded call).1.2 := by
  obtain ⟨gw, history⟩ := recorded
  cases call with
  | start outcome =>
      have hwriters : (start outcome gw).2.writers = gw.writers := by
        obtain ⟨-, -, heq⟩ | ⟨-, ⟨-, heq⟩ | ⟨-, -, heq⟩ | ⟨-, -, heq⟩⟩ := start_cases outcome gw <;>
          rw [heq]
      change CachesFirst setup (start outcome gw).2.writers history
      rw [hwriters]
      exact h
  | stop => exact fun topic => rfl
  | addServiceMapping mapping => exact h
  | onSomeipMessage outcome msg => exact onSomeipMessage_cachesFirst setup h outcome msg
  | readerPass sink takes =>
      change CachesFirst setup (readerPass sink takes gw).1.writers history
      rw [(readerPass_entities sink takes gw).writers]
      exact h
  | injectDdsSample sink payload serviceId instanceId methodId messageTypeByte => exact h

theorem findsOwnProfile_iff {gw : DdsGateway σ} {history : List (Text × Message)}
    (h : CachesFirst setup gw.writers history) (call : Call) :
    FindsOwnProfile setup gw call ↔ SameKindAsFirst setup (gw, history) call := by
  cases call with
  | onSomeipMessage outcome msg =>
      refine forall_congr' fun mapping => ?_
      have hcached := h (resolveDdsTopic msg mapping)
      unfold writerFor
      cases hwriter : gw.writers.find? fun w => w.topic == resolveDdsTopic msg mapping with
      | none =>
          rw [hwriter] at hcached
          have hnone := Option.map_eq_none_iff.mp hcached.symm
          simp [hnone]
      | some writer =>
          rw [hwriter] at hcached
          obtain ⟨first, hfirst, hqos⟩ := Option.map_eq_some_iff.mp hcached.symm
          have hsame : writer.qos = assignedQos setup msg ↔ messageKind first = messageKind msg := by
            rw [← hqos, assignedQos_eq_iff]
          constructor
          · intro hall first' hok hcan hfirst'
            cases hfirst.symm.trans hfirst'
            exact hsame.mp (hall writer hok hcan rfl)
          · intro hall writer' hok hcan heq
            cases heq
            exact hsame.mpr (hall first hok hcan hfirst)
  | _ => exact Iff.rfl

/-- For every run of a new gateway: each message is written with exactly the
profile assigned to it, calls reliably, exactly if each message that is written is
of the kind of the first message for which its topic could get a writer since the
last `stop()`. -/
theorem written_as_assigned_iff (mappings : List ServiceMapping) (e2e : σ) (udpTransport : Bool)
    (calls : List Call) :
    (∀ out ∈ (Machine.run (step setup) (fresh mappings e2e udpTransport) calls).2,
        WrittenAsAssigned setup out) ↔
      Machine.Along (recordedStep setup) (SameKindAsFirst setup)
        (fresh mappings e2e udpTransport, []) calls := by
  have houtputs := Machine.run_noting (step setup) (remember setup)
    (fresh mappings e2e udpTransport, []) calls
  rw [← houtputs]
  apply Machine.forall_output_iff_of_invariant (recordedStep setup)
    fun recorded => CachesFirst setup recorded.1.writers recorded.2
  · exact recordedStep_cachesFirst setup
  · intro recorded call h
    exact (step_written_iff setup recorded.1 call).trans (findsOwnProfile_iff setup h call)
  · exact fun topic => rfl

end

def doorMapping : ServiceMapping where
  someipServiceId := 0x6001
  someipInstanceId := 0x0001
  someipMethodIds := [0x0001]
  someipEventGroupIds := [0x0001]
  externalIdentifier := Text.ascii "vehicle/door"

def doorEvent : Message where
  serviceId := 0x6001
  methodId := 0x8001
  messageType := .notification

def doorRequest : Message where
  serviceId := 0x6001
  methodId := 0x0001
  messageType := .request

/-- The topic's writer was created for an event: the request goes out best effort. -/
theorem request_after_event_not_reliable :
    ¬ ∀ out ∈ (Machine.run (step plainSetup) (fresh [doorMapping] () false)
        [.start {}, .onSomeipMessage {} doorEvent, .onSomeipMessage {} doorRequest]).2,
      WrittenAsAssigned plainSetup out := by
  intro h
  have hrequest := h (.written doorRequest
    { writer :=
        { topic := Text.ascii "vehicle/door", handle := 1
          qos := { reliability := .bestEffort, historyDepth := 1 } }
      sample :=
        { serviceId := 0x6001, instanceId := 0x0001, methodOrEventId := 0x0001
          messageType := 0x00, payload := [] }
      via := doorMapping }) (by decide)
  exact absurd (hrequest.2 (.inl rfl)) (by decide)

def strangeSample : ReceivedSample where
  serviceId := 0x7777
  instanceId := 0x0009
  methodOrEventId := 0x0001
  messageType := 0x00
  payload := .buffer [1]

def doorReader : Reader where
  topic := Text.ascii "vehicle/door"
  handle := 1
  qos := { reliability := .reliable, historyDepth := 16 }
  via := doorMapping

def strangeCalls : List Call := [.start {}, .readerPass true fun _ => [{ sample := strangeSample }]]

theorem strange_delivered :
    .delivered strangeSample.message doorReader strangeSample ∈
      (Machine.run (step plainSetup) (fresh [doorMapping] () false) strangeCalls).2 := by
  decide

theorem delivered_from_door_reader :
    doorMapping ∈ (Machine.run (step plainSetup) (fresh [doorMapping] () false)
        strangeCalls).1.base.serviceMappings ∧
      shouldForwardToSomeip doorMapping = true ∧
      Text.ascii "vehicle/door" = readerTopic doorMapping ∧
      strangeSample.message =
        { serviceId := 0x7777, methodId := 0x0001, clientId := 0, sessionId := 1
          messageType := .request, payload := [1] } :=
  delivered_from_inbound_reader plainSetup [doorMapping] () false strangeCalls
    strangeSample.message doorReader strangeSample strange_delivered

/-- A sample on the door topic is delivered under the service id it claims. -/
theorem strange_service_delivered :
    ¬ ∀ (mappings : List ServiceMapping) (calls : List Call) (msg : Message) (reader : Reader)
      (sample : ReceivedSample),
      .delivered msg reader sample ∈
        (Machine.run (step plainSetup) (fresh mappings () false) calls).2 →
      msg.serviceId = reader.via.someipServiceId ∧
        sample.instanceId = reader.via.someipInstanceId := by
  intro h
  have hids := h [doorMapping] strangeCalls strangeSample.message doorReader strangeSample
    strange_delivered
  exact absurd hids.1 (by decide)

end SomeipGateway.Dds
