import SomeipGateway.Iceoryx2.Gateway

/-! Samples that were cut off on their way. Every field is checked when it is
read, and the length of the payload tells how much must follow; it is written
modulo 2 ^ 32. -/
namespace SomeipGateway.Iceoryx2

open Lib

section

variable {wire : WireFormat}

theorem exact_header (hwire : wire.Lawful) (hwhole : wire.Whole) :
    Codec.Exact (deserializeHeader wire) (serializeHeader wire) := by
  have huint8 : Codec.Exact _ _ := ⟨hwire.uint8, hwhole.uint8⟩
  have huint16 : Codec.Exact _ _ := ⟨hwire.uint16, hwhole.uint16⟩
  have huint32 : Codec.Exact _ _ := ⟨hwire.uint32, hwhole.uint32⟩
  have hstring : Codec.Exact _ _ := ⟨hwire.string, hwhole.string⟩
  exact huint8.seq <| huint8.seq <| huint16.seq <| huint16.seq <| huint16.seq <| huint8.seq <|
    huint8.seq <| huint16.seq <| huint16.seq <| hstring.seq huint32

/-! ### Cuts that are noticed -/

/-- The length field tells the length of the payload, or one that no reader
takes. -/
def Iceoryx2Envelope.LengthTold (env : Iceoryx2Envelope) : Prop :=
  env.payload.length < 2 ^ 32 ∨ maxPayloadLength < env.payload.length % 2 ^ 32

theorem payloadLen_header (env : Iceoryx2Envelope) :
    (Header.payloadLen env.header).toNat = env.payload.length % 2 ^ 32 := UInt32.toNat_ofNat'

theorem deserializeEnvelope_cut (hwire : wire.Lawful) (hwhole : wire.Whole)
    {env : Iceoryx2Envelope} (htold : env.LengthTold) {data : Bytes}
    (hdata : data <+: serializeEnvelope wire [] env) (hne : data ≠ serializeEnvelope wire [] env) :
    deserializeEnvelope wire data 0 = none := by
  rw [serializeEnvelope_eq] at hdata hne
  have hbody := hwire.uint8.prefix_many env.payload
    (serializeHeader wire (wire.serializeUint32 [] Iceoryx2Envelope.kMagic) env.header)
  have hhead := (lawful_header hwire).prefix_of hbody
  rw [deserializeEnvelope_eq]
  by_cases hmagic : wire.serializeUint32 [] Iceoryx2Envelope.kMagic <+: data
  · have hread := hwire.uint32.read_eq hmagic
    rw [List.length_nil] at hread
    simp only [hread, guard, Option.bind_eq_bind, Option.bind_some, ↓reduceIte, Option.pure_def]
    by_cases hheader : serializeHeader wire
        (wire.serializeUint32 [] Iceoryx2Envelope.kMagic) env.header <+: data
    · simp only [(lawful_header hwire).read_eq hheader, Option.bind_some, payloadLen_header]
      rcases htold with hshort | hlarge
      · have huint8 : Codec.Exact _ _ := ⟨hwire.uint8, hwhole.uint8⟩
        rw [Nat.mod_eq_of_lt hshort, huint8.readMany_eq_none hheader hdata hne]
        simp only [Option.bind_none, Option.bind_fun_none]
      · rw [if_neg (Nat.not_le_of_lt hlarge)]
        rfl
    · obtain ⟨hshort, hcut⟩ := Codec.cut_of_not_prefix hbody hdata hheader
      rw [(exact_header hwire hwhole).whole _ _ _ hmagic hshort hcut]
      rfl
  · obtain ⟨hshort, hcut⟩ := Codec.cut_of_not_prefix hhead hdata hmagic
    have hrefused := hwhole.uint32 [] _ data List.nil_prefix hshort hcut
    rw [List.length_nil] at hrefused
    rw [hrefused]
    rfl

/-! ### Cuts that are not -/

/-- The envelope with as much of its payload as the length field tells of. -/
def Iceoryx2Envelope.told (env : Iceoryx2Envelope) : Iceoryx2Envelope :=
  { env with payload := env.payload.take (env.payload.length % 2 ^ 32) }

theorem length_payload_told (env : Iceoryx2Envelope) :
    env.told.payload.length = env.payload.length % 2 ^ 32 := by
  show (env.payload.take _).length = _
  rw [List.length_take, Nat.min_eq_left (Nat.mod_le _ _)]

theorem header_told (env : Iceoryx2Envelope) : env.told.header = env.header := by
  have hlength : UInt32.ofNat env.told.payload.length = UInt32.ofNat env.payload.length := by
    rw [← UInt32.toNat_inj, UInt32.toNat_ofNat', UInt32.toNat_ofNat', length_payload_told,
      Nat.mod_mod]
  simp only [Iceoryx2Envelope.header, hlength]
  rfl

/-- What is written for an envelope goes on where its told part ends. -/
theorem serializeEnvelope_told (env : Iceoryx2Envelope) :
    serializeEnvelope wire [] env =
      Codec.writeMany wire.serializeUint8 (serializeEnvelope wire [] env.told)
        (env.payload.drop (env.payload.length % 2 ^ 32)) := by
  rw [serializeEnvelope_eq, serializeEnvelope_eq, header_told, ← Codec.writeMany_append]
  exact congrArg _ (List.take_append_drop _ env.payload).symm

theorem told_isInitial (hwire : wire.Lawful) (env : Iceoryx2Envelope) :
    serializeEnvelope wire [] env.told <+: serializeEnvelope wire [] env := by
  rw [serializeEnvelope_told env]
  exact hwire.uint8.prefix_many _ _

theorem told_ne (hwire : wire.Lawful) {env : Iceoryx2Envelope}
    (hlong : 2 ^ 32 ≤ env.payload.length) :
    serializeEnvelope wire [] env.told ≠ serializeEnvelope wire [] env := by
  intro hsame
  have hlength := hwire.uint8.length_many (env.payload.drop (env.payload.length % 2 ^ 32))
    (serializeEnvelope wire [] env.told)
  rw [← serializeEnvelope_told env, hsame, List.length_drop] at hlength
  omega

theorem parseSample_told (hwire : wire.Lawful) {env : Iceoryx2Envelope}
    (hsmall : env.payload.length % 2 ^ 32 ≤ maxPayloadLength) :
    parseSample wire (serializeEnvelope wire [] env.told) = some env.told := by
  have hread := deserializeEnvelope_serializeEnvelope hwire env.told
    (by rw [length_payload_told]; exact hsmall) [] []
  rw [List.append_nil, List.length_nil] at hread
  rw [parseSample, hread]
  rfl

end

/-! ### Cut samples at the gateway -/

section

variable (setup : Setup)

/-- Whatever is missing at the end of a sample, nothing happens but that one
translation error is counted. -/
def RefusesCuts (env : Iceoryx2Envelope) : Prop :=
  ∀ data, data <+: serializeEnvelope setup.wire [] env →
    data ≠ serializeEnvelope setup.wire [] env →
      parseSample setup.wire data = none ∧
        ∀ gw name answer, injectIceoryx2Sample setup gw name data answer =
          ({ gw with base := gw.base.recordTranslationError }, [])

theorem injectIceoryx2Sample_refused {data : Bytes} (h : parseSample setup.wire data = none)
    (gw : Iceoryx2Gateway) (name : Text) (answer : RpcSyncResult) :
    injectIceoryx2Sample setup gw name data answer =
      ({ gw with base := gw.base.recordTranslationError }, []) := by
  unfold injectIceoryx2Sample
  rw [h]

/-- For every envelope: all its cut samples are refused exactly if its payload is
shorter than 2 ^ 32 bytes, or so long that the length field exceeds 16 MiB even
modulo 2 ^ 32. -/
theorem cut_samples_refused_iff (hwire : setup.wire.Lawful) (hwhole : setup.wire.Whole)
    (env : Iceoryx2Envelope) :
    RefusesCuts setup env ↔
      env.payload.length < 2 ^ 32 ∨ 16 * 1024 * 1024 < env.payload.length % 2 ^ 32 := by
  constructor
  · intro h
    by_contra hbad
    rw [not_or, Nat.not_lt, Nat.not_lt] at hbad
    have hrefused := (h _ (told_isInitial hwire env) (told_ne hwire hbad.1)).1
    cases (parseSample_told hwire hbad.2).symm.trans hrefused
  · intro htold data hdata hne
    have hrefused : parseSample setup.wire data = none := by
      rw [parseSample, deserializeEnvelope_cut hwire hwhole htold hdata hne]
      rfl
    exact ⟨hrefused, injectIceoryx2Sample_refused setup hrefused⟩

end

def plainSetup : Setup where
  config := {}
  cls := .exact
  wire := .bigEndian

theorem cut_samples_refused_short :
    RefusesCuts plainSetup { serviceId := 0x1234, payload := [1, 2, 3] } :=
  (cut_samples_refused_iff plainSetup WireFormat.bigEndian_lawful WireFormat.bigEndian_whole
    { serviceId := 0x1234, payload := [1, 2, 3] }).mpr (.inl (by decide))

def fourGibEnvelope : Iceoryx2Envelope where
  serviceId := 0x1234
  payload := List.replicate (2 ^ 32) 0

/-- A payload of 2 ^ 32 bytes is announced as empty: a sample cut behind the
length field is taken for a whole one. -/
theorem cut_behind_length_accepted :
    (∃ data, data <+: serializeEnvelope plainSetup.wire [] fourGibEnvelope ∧
      data ≠ serializeEnvelope plainSetup.wire [] fourGibEnvelope ∧
      parseSample plainSetup.wire data = some { serviceId := 0x1234 }) ∧
    ¬RefusesCuts plainSetup fourGibEnvelope := by
  have hwire : plainSetup.wire.Lawful := WireFormat.bigEndian_lawful
  have hlength : fourGibEnvelope.payload.length = 2 ^ 32 := List.length_replicate
  have hsmall : fourGibEnvelope.payload.length % 2 ^ 32 ≤ maxPayloadLength := by
    rw [hlength]
    decide
  have hparsed := parseSample_told hwire hsmall
  have htold : fourGibEnvelope.told = { serviceId := 0x1234 } := by
    simp only [Iceoryx2Envelope.told, hlength, Nat.mod_self, List.take_zero]
    rfl
  have hne := told_ne hwire hlength.ge
  refine ⟨⟨_, told_isInitial hwire fourGibEnvelope, hne, htold ▸ hparsed⟩, fun h => ?_⟩
  have hrefused := (h _ (told_isInitial hwire fourGibEnvelope) hne).1
  cases hparsed.symm.trans hrefused

end SomeipGateway.Iceoryx2
