import SomeipGateway.Lib.KeyExpr
import SomeipGateway.Zenoh.Echo

/-! Which keys the pattern of an instance selects. -/
namespace SomeipGateway.Zenoh

open Lib

/-- Zenoh's own matching, chunk by chunk. -/
def KeyMatching.chunkwise : KeyMatching where
  covers := KeyExpr.covers
  final_wildcard stem key hstem := by
    apply KeyExpr.covers_final
    intro hstar
    exact (hstem _ hstar).1 rfl

theorem buildRpcKey_eq_stem (keyPrefix : Text) (serviceId instanceId methodId : UInt16) :
    buildRpcKey keyPrefix serviceId instanceId methodId =
      instanceStem keyPrefix serviceId instanceId ++ Text.ascii "/" ++
        (Text.ascii "rpc/" ++ formatServiceId methodId) := by
  have hrpc : Text.ascii "/rpc/" = Text.ascii "/" ++ Text.ascii "rpc/" := by decide
  simp only [buildRpcKey, instanceStem, hrpc, List.append_assoc]

theorem length_instanceStem (keyPrefix : Text) (serviceId instanceId : UInt16) :
    (instanceStem keyPrefix serviceId instanceId).length = keyPrefix.length + 14 := by
  have hslash : (Text.ascii "/").length = 1 := rfl
  simp only [instanceStem, List.length_append, length_formatServiceId, hslash]

theorem instanceStem_injective {keyPrefix : Text} {s i s' i' : UInt16}
    (h : instanceStem keyPrefix s i = instanceStem keyPrefix s' i') : s = s' ∧ i = i' := by
  have hlength : (keyPrefix ++ Text.ascii "/" ++ formatServiceId s ++ Text.ascii "/").length =
      (keyPrefix ++ Text.ascii "/" ++ formatServiceId s' ++ Text.ascii "/").length := by
    simp only [List.length_append, length_formatServiceId]
  have hsplit := List.append_inj h hlength
  have hservice := List.append_cancel_left (List.append_cancel_right hsplit.1)
  exact ⟨formatServiceId_injective hservice, formatServiceId_injective hsplit.2⟩

/-- Stems have one length, so that one instance's stem is not the beginning of
another's key. -/
theorem covers_stem_iff (matching : KeyMatching) {keyPrefix : Text}
    (hplain : WildcardFree keyPrefix) (s i s' i' : UInt16) (rest : Text) :
    matching.covers (buildInstancePattern keyPrefix s i)
        (instanceStem keyPrefix s' i' ++ Text.ascii "/" ++ rest) = true ↔ s' = s ∧ i' = i := by
  have hpattern : buildInstancePattern keyPrefix s i =
      instanceStem keyPrefix s i ++ Text.ascii "/**" := rfl
  have hslash : (Text.ascii "/").length = 1 := rfl
  have hstem := length_instanceStem keyPrefix s i
  have hstem' := length_instanceStem keyPrefix s' i'
  rw [hpattern, matching.final_wildcard _ _ (wildcardFree_instanceStem hplain s i)]
  constructor
  · rintro (heq | hcovered)
    · have hlength := congrArg List.length heq
      simp only [List.length_append, hslash, hstem, hstem'] at hlength
      omega
    · have hbegin := List.prefix_of_prefix_length_le hcovered (List.prefix_append _ rest)
        (by simp only [List.length_append, hslash, hstem, hstem', Nat.le_refl])
      have hsame := hbegin.eq_of_length (by simp only [List.length_append, hslash, hstem, hstem'])
      have hids := instanceStem_injective (List.append_cancel_right hsame)
      exact ⟨hids.1.symm, hids.2.symm⟩
  · rintro ⟨rfl, rfl⟩
    exact .inr (List.prefix_append _ rest)

/-- Behind the prefix, `liveliness` stands where patterns have an id. -/
theorem covers_buildLivelinessKey (matching : KeyMatching) {keyPrefix : Text}
    (hplain : WildcardFree keyPrefix) (s i s' i' : UInt16) :
    matching.covers (buildInstancePattern keyPrefix s i)
      (buildLivelinessKey keyPrefix s' i') = false := by
  have hpattern : buildInstancePattern keyPrefix s i =
      instanceStem keyPrefix s i ++ Text.ascii "/**" := rfl
  have hbegin : ¬ instanceStem keyPrefix s i <+: buildLivelinessKey keyPrefix s' i' := by
    intro h
    simp only [instanceStem, buildLivelinessKey, List.append_assoc,
      List.prefix_append_right_inj] at h
    rw [formatServiceId_eq s] at h
    have hfirst := (List.cons_prefix_cons.mp h).2
    exact absurd (List.cons_prefix_cons.mp hfirst).1 (by decide)
  rw [← Bool.not_eq_true, hpattern,
    matching.final_wildcard _ _ (wildcardFree_instanceStem hplain s i)]
  rintro (heq | hcovered)
  · exact hbegin (by rw [heq])
  · exact hbegin ((List.prefix_append _ _).trans hcovered)

/-- The pattern of an instance selects the event and RPC keys of that instance and
no others, and no liveliness key. -/
theorem instance_pattern_selects (matching : KeyMatching) {keyPrefix : Text}
    (hplain : WildcardFree keyPrefix) (s i : UInt16) :
    (∀ s' i' m, matching.covers (buildInstancePattern keyPrefix s i)
        (buildKeyExpr keyPrefix s' i' m) = true ↔ s' = s ∧ i' = i) ∧
      (∀ s' i' m, matching.covers (buildInstancePattern keyPrefix s i)
        (buildRpcKey keyPrefix s' i' m) = true ↔ s' = s ∧ i' = i) ∧
      ∀ s' i', matching.covers (buildInstancePattern keyPrefix s i)
        (buildLivelinessKey keyPrefix s' i') = false := by
  refine ⟨fun s' i' m => ?_, fun s' i' m => ?_, fun s' i' => ?_⟩
  · rw [buildKeyExpr_eq_stem]
    exact covers_stem_iff matching hplain s i s' i' _
  · rw [buildRpcKey_eq_stem]
    exact covers_stem_iff matching hplain s i s' i' _
  · exact covers_buildLivelinessKey matching hplain s i s' i'

theorem someip_pattern_selects :
    let pattern := buildInstancePattern (Text.ascii "someip") 0x4000 0x0002
    KeyExpr.covers pattern (buildKeyExpr (Text.ascii "someip") 0x4000 0x0002 0x8003) = true ∧
      KeyExpr.covers pattern (buildRpcKey (Text.ascii "someip") 0x4000 0x0003 0x0001) ≠ true ∧
      KeyExpr.covers pattern (buildLivelinessKey (Text.ascii "someip") 0x4000 0x0002) = false := by
  have hplain : WildcardFree (Text.ascii "someip") := wildcardFree_of_all rfl
  obtain ⟨hevent, hrpc, hliveliness⟩ :=
    instance_pattern_selects .chunkwise hplain 0x4000 0x0002
  refine ⟨(hevent 0x4000 0x0002 0x8003).mpr ⟨rfl, rfl⟩, ?_, hliveliness 0x4000 0x0002⟩
  intro hcovered
  exact absurd ((hrpc 0x4000 0x0003 0x0001).mp hcovered).2 (by decide)

end SomeipGateway.Zenoh
