import SomeipGateway.Dds.Gateway

/-! Reader topics against writer topics. A default reader topic carries `m` where
a writer topic carries `event` or `method`, so a gateway never reads what another
one with the same mappings writes, unless an external identifier spells it out. -/
namespace SomeipGateway.Dds

open Lib

/-- The topic a message is written to through a mapping without an external
identifier, spelled out. -/
def writtenTopic (mapping : ServiceMapping) (type : MessageType) (id : UInt16) : Text :=
  Text.ascii "opensomeip/svc/" ++ formatServiceId mapping.someipServiceId ++
    Text.ascii "/inst/" ++ formatServiceId mapping.someipInstanceId ++
    (if type = .notification then Text.ascii "/event/" else Text.ascii "/method/") ++
    formatServiceId id

theorem resolveDdsTopic_of_empty {mapping : ServiceMapping}
    (hempty : mapping.externalIdentifier = []) (msg : Message) :
    resolveDdsTopic msg mapping = writtenTopic mapping msg.messageType msg.methodId := by
  by_cases htype : msg.messageType = .notification
  · simp [resolveDdsTopic, hempty, buildDdsTopicFor, topicWithKind, writtenTopic, htype, Text.ascii]
  · simp [resolveDdsTopic, hempty, buildDdsTopicFor, topicWithKind, writtenTopic, htype, Text.ascii]

theorem length_writtenTopic (mapping : ServiceMapping) (type : MessageType) (id : UInt16) :
    (writtenTopic mapping type id).length = if type = .notification then 46 else 47 := by
  by_cases htype : type = .notification
  · simp only [writtenTopic, if_pos htype, List.length_append, length_formatServiceId]
    rfl
  · simp only [writtenTopic, if_neg htype, List.length_append, length_formatServiceId]
    rfl

theorem length_buildDdsTopic (serviceId instanceId methodId : UInt16) :
    (buildDdsTopic serviceId instanceId methodId).length = 42 := by
  simp only [buildDdsTopic, topicWithKind, List.length_append, length_formatServiceId]
  rfl

/-- Only an external identifier can name a topic that is written by default. -/
theorem readerTopic_eq_writtenTopic (reading writing : ServiceMapping) (type : MessageType)
    (id : UInt16) :
    readerTopic reading = writtenTopic writing type id ↔
      reading.externalIdentifier = writtenTopic writing type id := by
  have hlength := length_writtenTopic writing type id
  cases hext : reading.externalIdentifier with
  | nil =>
      simp only [readerTopic, hext, List.isEmpty_nil, ↓reduceIte]
      constructor
      · intro h
        have hread := length_buildDdsTopic reading.someipServiceId reading.someipInstanceId
          (readerMethodId reading)
        rw [h, hlength] at hread
        split_ifs at hread <;> omega
      · intro h
        rw [← h] at hlength
        simp only [List.length_nil] at hlength
        split_ifs at hlength
  | cons c rest => simp [readerTopic, hext]

theorem mem_putReader_topic (readers : List Reader) (reader : Reader) (topic : Text) :
    (∃ r ∈ putReader readers reader, r.topic = topic) ↔
      (∃ r ∈ readers, r.topic = topic) ∨ reader.topic = topic := by
  simp only [putReader, List.mem_append, List.mem_filter, List.mem_singleton, bne_iff_ne]
  constructor
  · rintro ⟨r, ⟨hmem, -⟩ | rfl, htopic⟩
    · exact .inl ⟨r, hmem, htopic⟩
    · exact .inr htopic
  · rintro (⟨r, hmem, htopic⟩ | htopic)
    · by_cases hsame : r.topic = reader.topic
      · exact ⟨reader, .inr rfl, hsame ▸ htopic⟩
      · exact ⟨r, .inl ⟨hmem, hsame⟩, htopic⟩
    · exact ⟨reader, .inr rfl, htopic⟩

/-- The reader loop: a topic has a reader exactly when it had one before or an
inbound mapping of the list with that reader topic got one. -/
theorem mem_createReaders_topic (outcome : StartOutcome) (mappings : List ServiceMapping)
    (index : Nat) (readers : List Reader) (topic : Text) :
    (∃ r ∈ createReaders outcome index mappings readers, r.topic = topic) ↔
      (∃ r ∈ readers, r.topic = topic) ∨
        ∃ k mapping, mappings[k]? = some mapping ∧ shouldForwardToSomeip mapping = true ∧
          0 < outcome.createReader (index + k) ∧ readerTopic mapping = topic := by
  induction mappings generalizing index readers with
  | nil => simp [createReaders]
  | cons mapping rest ih =>
      have hsplit : (∃ k other, (mapping :: rest)[k]? = some other ∧
            shouldForwardToSomeip other = true ∧ 0 < outcome.createReader (index + k) ∧
            readerTopic other = topic) ↔
          (shouldForwardToSomeip mapping = true ∧ 0 < outcome.createReader index ∧
            readerTopic mapping = topic) ∨
          ∃ k other, rest[k]? = some other ∧ shouldForwardToSomeip other = true ∧
            0 < outcome.createReader (index + 1 + k) ∧ readerTopic other = topic := by
        constructor
        · rintro ⟨_ | k, other, hother, hrest⟩
          · cases hother
            exact .inl hrest
          · rw [show index + (k + 1) = index + 1 + k by omega] at hrest
            exact .inr ⟨k, other, by simpa using hother, hrest⟩
        · rintro (hhere | ⟨k, other, hother, hrest⟩)
          · exact ⟨0, mapping, rfl, hhere⟩
          · rw [show index + 1 + k = index + (k + 1) by omega] at hrest
            exact ⟨k + 1, other, by simpa using hother, hrest⟩
      rw [createReaders, ih, hsplit, ← or_assoc]
      refine or_congr ?_ Iff.rfl
      cases hforward : shouldForwardToSomeip mapping with
      | false => simp
      | true =>
          by_cases hcreated : outcome.createReader index ≤ 0
          · have hnot : ¬ 0 < outcome.createReader index := by omega
            simp [hcreated, hnot]
          · have hpos : 0 < outcome.createReader index := by omega
            simp [hcreated, hpos, mem_putReader_topic]

/-- A topic written by default has a reader on another gateway exactly when that
gateway has a participant and an inbound mapping whose external identifier is
that very text, and the reader was created. -/
theorem written_topic_has_reader_iff {σ : Type} (mappings : List ServiceMapping) (e2e : σ)
    (udpTransport : Bool) (outcome : StartOutcome) (mapping : ServiceMapping)
    (hempty : mapping.externalIdentifier = []) (msg : Message) :
    (∃ reader ∈ (implStart outcome (fresh mappings e2e udpTransport)).2.readers,
        reader.topic = resolveDdsTopic msg mapping) ↔
      0 < outcome.participant ∧
        ∃ k other, mappings[k]? = some other ∧ shouldForwardToSomeip other = true ∧
          0 < outcome.createReader k ∧
          other.externalIdentifier = writtenTopic mapping msg.messageType msg.methodId := by
  rw [resolveDdsTopic_of_empty hempty]
  by_cases hpos : 0 < outcome.participant
  · have hreaders : (implStart outcome (fresh mappings e2e udpTransport)).2.readers =
        createReaders outcome 0 mappings [] := by
      simp [implStart, fresh, Int.not_le.mpr hpos]
    rw [hreaders, mem_createReaders_topic]
    simp [hpos, readerTopic_eq_writtenTopic]
  · have hreaders : (implStart outcome (fresh mappings e2e udpTransport)).2.readers = [] := by
      simp [implStart, fresh, Int.not_lt.mp hpos]
    simp [hreaders, hpos]

theorem named_topic_has_reader :
    let door : ServiceMapping :=
      { someipServiceId := 0x6001, someipInstanceId := 0x0001, someipMethodIds := [0x0001] }
    let request : Message := { serviceId := 0x6001, methodId := 0x0001, messageType := .request }
    let named : ServiceMapping :=
      { someipServiceId := 0x6001, someipInstanceId := 0x0001
        externalIdentifier := writtenTopic door .request 0x0001 }
    ∃ reader ∈ (implStart {} (fresh [door, named] () false)).2.readers,
      reader.topic = resolveDdsTopic request door :=
  (written_topic_has_reader_iff _ _ _ _ _ rfl _).mpr ⟨by decide, 1, _, rfl, rfl, by decide, rfl⟩

/-- A request through a bidirectional mapping of the default instance: everything
starts, and nobody reads the topic. -/
theorem written_topic_has_no_reader :
    let door : ServiceMapping :=
      { someipServiceId := 0x6001, someipInstanceId := 0x0001, someipMethodIds := [0x0001] }
    let request : Message := { serviceId := 0x6001, methodId := 0x0001, messageType := .request }
    door.direction = .bidirectional ∧ door.externalIdentifier = [] ∧
      door.someipInstanceId = plainSetup.config.defaultSomeipInstanceId ∧
      (implStart {} (fresh [door] () false)).1 = .success ∧
      ¬ ∃ reader ∈ (implStart {} (fresh [door] () false)).2.readers,
        reader.topic = resolveDdsTopic request door := by
  decide

end SomeipGateway.Dds
