import SomeipGateway.Common.GatewayBase

/-! The first half of `on_someip_message` that the MQTT, D-Bus, DDS and ROS 2
gateways share: a SOME/IP message names no instance, so the mapping is looked up
under a configured default instance and then under instance 1. -/
namespace SomeipGateway

def outboundMapping (mappings : List ServiceMapping) (defaultInstance serviceId : UInt16) :
    Option ServiceMapping :=
  match findMappingForService mappings serviceId defaultInstance with
  | some m => some m
  | none => findMappingForService mappings serviceId 0x0001

/-- The instance a message without one is taken to be for: the default, if the
service is mapped under it. -/
def chosenInstance (mappings : List ServiceMapping) (defaultInstance serviceId : UInt16) : UInt16 :=
  if mappings.any fun m => m.someipServiceId == serviceId && m.someipInstanceId == defaultInstance
  then defaultInstance else 0x0001

/-- The early returns before a message is forwarded through a mapping. -/
def routeVia (running : Bool) (found : Option ServiceMapping) (permits : ServiceMapping → Bool) :
    Except Result ServiceMapping :=
  if !running then .error .notInitialized
  else
    match found with
    | none => .error .serviceNotFound
    | some mapping => if !permits mapping then .error .success else .ok mapping

/-- The mapping a message is forwarded through, or the result of an early return. -/
def outboundRoute (base : GatewayBase) (defaultInstance : UInt16) (msg : Message) :
    Except Result ServiceMapping :=
  if !base.running then .error .notInitialized
  else
    match outboundMapping base.serviceMappings defaultInstance msg.serviceId with
    | none => .error .serviceNotFound
    | some mapping =>
        if !shouldForwardToExternal mapping then .error .success else .ok mapping

section E2E

variable {σ κ : Type}

def validateInbound (e2e : E2EProtection σ κ) (useE2e : Bool) (e2eConfig : Option κ) (state : σ)
    (msg : Message) : Result × σ :=
  match useE2e, e2eConfig with
  | true, some config => e2e.validate state msg config
  | _, _ => (.success, state)

/-- Route and validation together: the mapping or the early result, and the base
and protection state afterwards. -/
def admitOutbound (e2e : E2EProtection σ κ) (useE2e : Bool) (e2eConfig : Option κ)
    (defaultInstance : UInt16) (base : GatewayBase) (state : σ) (msg : Message) :
    Except Result ServiceMapping × GatewayBase × σ :=
  match outboundRoute base defaultInstance msg with
  | .error result => (.error result, base, state)
  | .ok mapping =>
      let (verdict, state) := validateInbound e2e useE2e e2eConfig state msg
      if verdict ≠ .success then (.error verdict, base.recordTranslationError, state)
      else (.ok mapping, base, state)

end E2E

/-- The message every event-group callback rebuilds; the instance id is dropped. -/
def notificationMessage (n : EventNotification) : Message where
  serviceId := n.serviceId
  methodId := n.eventId
  clientId := n.clientId
  sessionId := n.sessionId
  messageType := .notification
  payload := n.eventData

theorem outboundMapping_eq (mappings : List ServiceMapping) (defaultInstance serviceId : UInt16) :
    outboundMapping mappings defaultInstance serviceId =
      findMappingForService mappings serviceId
        (chosenInstance mappings defaultInstance serviceId) := by
  unfold outboundMapping chosenInstance
  cases hfind : findMappingForService mappings serviceId defaultInstance with
  | some m =>
      have hany : (mappings.any fun m =>
          m.someipServiceId == serviceId && m.someipInstanceId == defaultInstance) = true :=
        List.isSome_find?.symm.trans (congrArg Option.isSome hfind)
      rw [if_pos hany]
      exact hfind.symm
  | none =>
      have hany : (mappings.any fun m =>
          m.someipServiceId == serviceId && m.someipInstanceId == defaultInstance) = false :=
        List.isSome_find?.symm.trans (congrArg Option.isSome hfind)
      rw [if_neg (ne_true_of_eq_false hany)]

theorem outboundMapping_some {mappings : List ServiceMapping} {defaultInstance serviceId : UInt16}
    {mapping : ServiceMapping}
    (h : outboundMapping mappings defaultInstance serviceId = some mapping) :
    mapping ∈ mappings ∧ mapping.someipServiceId = serviceId ∧
      mapping.someipInstanceId = chosenInstance mappings defaultInstance serviceId := by
  rw [outboundMapping_eq] at h
  exact findMappingForService_some h

theorem routeVia_ok {running : Bool} {found : Option ServiceMapping}
    {permits : ServiceMapping → Bool} {mapping : ServiceMapping} :
    routeVia running found permits = .ok mapping ↔
      running = true ∧ found = some mapping ∧ permits mapping = true := by
  unfold routeVia
  cases running with
  | false => simp
  | true =>
      cases found with
      | none => simp
      | some found =>
          cases hpermits : permits found with
          | false =>
              simp only [hpermits, Bool.not_true, Bool.not_false, Bool.false_eq_true, ↓reduceIte,
                reduceCtorEq, true_and, false_iff, not_and]
              rintro h
              cases h
              simp [hpermits]
          | true =>
              simp only [hpermits, Bool.not_true, Bool.false_eq_true, ↓reduceIte, true_and]
              constructor
              · intro h
                cases h
                exact ⟨rfl, hpermits⟩
              · rintro ⟨h, -⟩
                cases h
                rfl

theorem outboundRoute_ok {base : GatewayBase} {defaultInstance : UInt16} {msg : Message}
    {mapping : ServiceMapping} :
    outboundRoute base defaultInstance msg = .ok mapping ↔
      base.running = true ∧
      outboundMapping base.serviceMappings defaultInstance msg.serviceId = some mapping ∧
      shouldForwardToExternal mapping = true :=
  routeVia_ok

theorem admitOutbound_ok {σ κ : Type} (e2e : E2EProtection σ κ) (useE2e : Bool)
    (e2eConfig : Option κ) (defaultInstance : UInt16) (base : GatewayBase) (state : σ)
    (msg : Message) (mapping : ServiceMapping) :
    (admitOutbound e2e useE2e e2eConfig defaultInstance base state msg).1 = .ok mapping ↔
      outboundRoute base defaultInstance msg = .ok mapping ∧
        (validateInbound e2e useE2e e2eConfig state msg).1 = .success := by
  unfold admitOutbound
  cases outboundRoute base defaultInstance msg with
  | error result => simp
  | ok found =>
      by_cases hverdict : (validateInbound e2e useE2e e2eConfig state msg).1 = .success
      · simp [hverdict]
      · simp [hverdict]

/-- Admission touches the base at most by counting a translation error. -/
theorem admitOutbound_leaves {σ κ : Type} (e2e : E2EProtection σ κ) (useE2e : Bool)
    (e2eConfig : Option κ) (defaultInstance : UInt16) (base : GatewayBase) (state : σ)
    (msg : Message) :
    let admitted := admitOutbound e2e useE2e e2eConfig defaultInstance base state msg
    admitted.2.1 = base ∨ admitted.2.1 = base.recordTranslationError := by
  unfold admitOutbound
  cases outboundRoute base defaultInstance msg with
  | error result => exact .inl rfl
  | ok found =>
      dsimp only
      split_ifs
      · exact .inr rfl
      · exact .inl rfl

theorem admitOutbound_base {σ κ : Type} (e2e : E2EProtection σ κ) (useE2e : Bool)
    (e2eConfig : Option κ) (defaultInstance : UInt16) (base : GatewayBase) (state : σ)
    (msg : Message) :
    let admitted := admitOutbound e2e useE2e e2eConfig defaultInstance base state msg
    admitted.2.1.running = base.running ∧
      admitted.2.1.serviceMappings = base.serviceMappings := by
  intro admitted
  rcases admitOutbound_leaves e2e useE2e e2eConfig defaultInstance base state msg with h | h
  · rw [h]
    exact ⟨rfl, rfl⟩
  · rw [h]
    exact ⟨rfl, rfl⟩

theorem admitOutbound_counters {σ κ : Type} (e2e : E2EProtection σ κ) (useE2e : Bool)
    (e2eConfig : Option κ) (defaultInstance : UInt16) (base : GatewayBase) (state : σ)
    (msg : Message) :
    let admitted := admitOutbound e2e useE2e e2eConfig defaultInstance base state msg
    admitted.2.1.stats.messagesSomeipToExternal = base.stats.messagesSomeipToExternal ∧
      admitted.2.1.stats.bytesSomeipToExternal = base.stats.bytesSomeipToExternal := by
  intro admitted
  rcases admitOutbound_leaves e2e useE2e e2eConfig defaultInstance base state msg with h | h
  · rw [h]
    exact ⟨rfl, rfl⟩
  · rw [h]
    exact ⟨rfl, rfl⟩

/-! ### Notifications and their instance -/

structure Addressed (mappings : List ServiceMapping) (n : EventNotification)
    (via : ServiceMapping) : Prop where
  registered : via ∈ mappings
  service : via.someipServiceId = n.serviceId
  inst : via.someipInstanceId = n.instanceId

/-- The first mapping of the service and the chosen instance is one for the way
out, and is going to be used. -/
def LetsOut (mappings : List ServiceMapping) (defaultInstance serviceId : UInt16)
    (used : ServiceMapping → Prop) : Prop :=
  ∃ m, findMappingForService mappings serviceId
      (chosenInstance mappings defaultInstance serviceId) = some m ∧
    m.direction ≠ .externalToSomeip ∧ used m

/-- If anything is let out at all, the notification is of the chosen instance. -/
def GuessesInstance (mappings : List ServiceMapping) (defaultInstance : UInt16)
    (n : EventNotification) (used : ServiceMapping → Prop) : Prop :=
  LetsOut mappings defaultInstance n.serviceId used →
    n.instanceId = chosenInstance mappings defaultInstance n.serviceId

/-- The mappings through which a gateway publishes once a mapping is admitted
and its channel is open. -/
def admittedVia (admitted : Except Result ServiceMapping) (reaches : ServiceMapping → Bool) :
    List ServiceMapping :=
  match admitted with
  | .error _ => []
  | .ok mapping => if reaches mapping then [mapping] else []

theorem mem_admittedVia {admitted : Except Result ServiceMapping}
    {reaches : ServiceMapping → Bool} {via : ServiceMapping} :
    via ∈ admittedVia admitted reaches ↔ admitted = .ok via ∧ reaches via = true := by
  cases admitted with
  | error result => simp [admittedVia]
  | ok mapping =>
      simp only [admittedVia, Except.ok.injEq]
      split_ifs with hreaches
      · simp only [List.mem_singleton]
        constructor
        · rintro rfl
          exact ⟨rfl, hreaches⟩
        · rintro ⟨rfl, -⟩
          rfl
      · simp only [List.not_mem_nil, false_iff, not_and]
        rintro rfl
        exact hreaches

/-- What gets out is what the first mapping lets out; `accepted` is what the
gateway demands beyond the route. -/
theorem mem_admittedVia_iff {base : GatewayBase} (hrun : base.running = true)
    (defaultInstance : UInt16) (msg : Message) {admitted : Except Result ServiceMapping}
    {accepted : Prop}
    (hadmitted : ∀ m, admitted = .ok m ↔ outboundRoute base defaultInstance msg = .ok m ∧ accepted)
    (reaches : ServiceMapping → Bool) (via : ServiceMapping) :
    via ∈ admittedVia admitted reaches ↔
      findMappingForService base.serviceMappings msg.serviceId
          (chosenInstance base.serviceMappings defaultInstance msg.serviceId) = some via ∧
        via.direction ≠ .externalToSomeip ∧ accepted ∧ reaches via = true := by
  rw [mem_admittedVia, hadmitted, outboundRoute_ok, outboundMapping_eq, hrun,
    shouldForwardToExternal_iff_ne]
  simp only [true_and, and_assoc]

/-- A notification is published to the right instance exactly when the guess is
right. -/
theorem addressed_iff {base : GatewayBase} (hrun : base.running = true) (defaultInstance : UInt16)
    (n : EventNotification) {admitted : Except Result ServiceMapping} {accepted : Prop}
    (hadmitted : ∀ m, admitted = .ok m ↔
      outboundRoute base defaultInstance (notificationMessage n) = .ok m ∧ accepted)
    (reaches : ServiceMapping → Bool) :
    (∀ via ∈ admittedVia admitted reaches, Addressed base.serviceMappings n via) ↔
      GuessesInstance base.serviceMappings defaultInstance n
        fun m => accepted ∧ reaches m = true := by
  have hmem := mem_admittedVia_iff hrun defaultInstance (notificationMessage n) hadmitted reaches
  constructor
  · rintro h ⟨m, hfind, hout⟩
    rw [← (h m ((hmem m).mpr ⟨hfind, hout⟩)).inst]
    exact (findMappingForService_some hfind).2.2
  · intro h via hvia
    obtain ⟨hfind, hout⟩ := (hmem via).mp hvia
    obtain ⟨hregistered, hservice, hinstance⟩ := findMappingForService_some hfind
    exact ⟨hregistered, hservice, hinstance.trans (h ⟨via, hfind, hout⟩).symm⟩

end SomeipGateway
