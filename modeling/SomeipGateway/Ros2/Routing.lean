import SomeipGateway.Ros2.Gateway

/-! Which mapping an inbound topic is taken for. The lookup stops at the first
identifier that is the topic or a path above it, so a mapping can stand in the
way of another one that was registered later. -/
namespace SomeipGateway.Ros2

open Lib

/-- The identifier of one mapping is a path above the identifier of the other. -/
def shadows (m : ServiceMapping) (other : ServiceMapping) : Bool :=
  (other.externalIdentifier ++ ['/'.toUInt8]).isPrefixOf m.externalIdentifier

/-- The mappings registered before the one with this identifier. -/
def registeredBefore (mappings : List ServiceMapping) (m : ServiceMapping) :
    List ServiceMapping :=
  mappings.takeWhile fun other => other.externalIdentifier != m.externalIdentifier

/-- If a path above the identifier of `m` was registered before it, then the first
such mapping lets the topic in and stands for the same method of the same service. -/
def Unshadowed (mappings : List ServiceMapping) (m : ServiceMapping) : Prop :=
  ∀ other, (registeredBefore mappings m).find? (shadows m) = some other →
    shouldForwardToSomeip other = true ∧ other.someipServiceId = m.someipServiceId ∧
      commandMethodForMapping other = commandMethodForMapping m

/-! ### The lookup -/

theorem isPrefixOf_and_slash {path topic : Text} (hne : path ≠ topic) :
    (path.isPrefixOf topic &&
        (topic.length == path.length || topic[path.length]? == some '/'.toUInt8)) =
      (path ++ ['/'.toUInt8]).isPrefixOf topic := by
  apply Bool.eq_iff_iff.mpr
  simp only [Bool.and_eq_true, Bool.or_eq_true, beq_iff_eq, List.isPrefixOf_iff_prefix]
  constructor
  · rintro ⟨⟨rest, rfl⟩, hlength | hslash⟩
    · have hrest : rest = [] := by
        rw [List.length_append] at hlength
        exact List.length_eq_zero_iff.mp (by omega)
      rw [hrest, List.append_nil] at hne
      exact absurd rfl hne
    · rw [List.getElem?_append_right (Nat.le_refl _), Nat.sub_self] at hslash
      cases rest with
      | nil => cases hslash
      | cons c rest =>
          cases hslash
          exact ⟨rest, by simp⟩
  · rintro ⟨rest, rfl⟩
    refine ⟨⟨'/'.toUInt8 :: rest, by simp⟩, .inr ?_⟩
    simp

/-- Where all identifiers are different, the first path above the topic that was
registered before its own mapping takes it, and otherwise its own mapping does. -/
theorem findMappingByRosTopic_own {mappings : List ServiceMapping} {m : ServiceMapping}
    (hnonempty : ∀ other ∈ mappings, other.externalIdentifier ≠ [])
    (hdistinct : (mappings.map ServiceMapping.externalIdentifier).Nodup) (hm : m ∈ mappings) :
    findMappingByRosTopic mappings m.externalIdentifier =
      some (((registeredBefore mappings m).find? (shadows m)).getD m) := by
  induction mappings with
  | nil => cases hm
  | cons first rest ih =>
      rw [List.map_cons, List.nodup_cons] at hdistinct
      have hfirst := hnonempty first List.mem_cons_self
      by_cases hown : first.externalIdentifier = m.externalIdentifier
      · have hsame : first = m := by
          rcases List.mem_cons.mp hm with hhead | htail
          · exact hhead.symm
          · exact absurd (List.mem_map.mpr ⟨m, htail, hown.symm⟩) hdistinct.1
        subst hsame
        simp [findMappingByRosTopic, registeredBefore]
      · have hrest : m ∈ rest := by
          rcases List.mem_cons.mp hm with hhead | htail
          · exact absurd (congrArg ServiceMapping.externalIdentifier hhead.symm) hown
          · exact htail
        have htail := ih (fun other hother => hnonempty other (List.mem_cons_of_mem _ hother))
          hdistinct.2 hrest
        have hmatch := isPrefixOf_and_slash hown
        unfold findMappingByRosTopic registeredBefore at htail ⊢
        rw [List.find?_cons, List.takeWhile_cons, if_pos (by simpa using hown), List.find?_cons]
        have hempty : first.externalIdentifier.isEmpty = false := by simpa using hfirst
        simp only [beq_eq_false_iff_ne.mpr hown, hempty, Bool.false_or, Bool.not_false,
          Bool.true_and, hmatch, shadows]
        cases (first.externalIdentifier ++ ['/'.toUInt8]).isPrefixOf m.externalIdentifier with
        | true => rfl
        | false => exact htail

/-! ### Requests -/

section

variable {σ κ : Type} (setup : Setup σ κ)

/-- An injected message becomes one request for the mapping `m`, handed to the
sink; protection, where it is configured, is the last thing done to it. -/
def HandsOver (gw : Ros2Gateway σ) (session : UInt16) (m : ServiceMapping) (payload : Bytes) :
    Prop :=
  ∃ request,
    (injectRos2Message setup gw session m.externalIdentifier payload).2.2.2 = [request] ∧
    request.target = .sink ∧ request.built.messageType = .request ∧
    request.built.serviceId = m.someipServiceId ∧
    request.built.methodId = m.someipMethodIds.headD 0x0001 ∧ request.built.payload = payload ∧
    request.sent = (protectOutbound setup gw.e2e request.built).1 ∧
    (setup.config.useE2e = false → request.sent = request.built)

theorem protectOutbound_off (hoff : setup.config.useE2e = false) (state : σ) (msg : Message) :
    (protectOutbound setup state msg).1 = msg := by
  simp [protectOutbound, hoff]

theorem injectRos2Message_found {gw : Ros2Gateway σ} {topic : Text} {found : ServiceMapping}
    (hrunning : gw.base.running = true)
    (hfound : findMappingByRosTopic gw.base.serviceMappings topic = some found)
    (session : UInt16) (payload : Bytes) :
    (injectRos2Message setup gw session topic payload).2.2.2 =
      if shouldForwardToSomeip found then
        let req : Message :=
          { serviceId := found.someipServiceId, methodId := commandMethodForMapping found
            clientId := setup.config.rpcClientId, sessionId := session, messageType := .request
            payload }
        [{ built := req, sent := (protectOutbound setup gw.e2e req).1, target := gw.target
           via := found }]
      else [] := by
  unfold injectRos2Message inboundRoute routeVia
  simp only [hrunning, hfound, Bool.not_true, Bool.false_eq_true, ↓reduceIte]
  cases shouldForwardToSomeip found with
  | true => rfl
  | false => rfl

/-- For every running gateway with a sink and without an RPC client, whatever its
mappings: a topic reaches its own mapping exactly if no path above it was
registered before, or the first such mapping stands for the same method. -/
theorem own_mapping_reached_iff {gw : Ros2Gateway σ} (hrunning : gw.base.running = true)
    (hclient : gw.rpcClient = none) (hsink : gw.outboundSink = true)
    (hnonempty : ∀ other ∈ gw.base.serviceMappings, other.externalIdentifier ≠ [])
    (hdistinct : (gw.base.serviceMappings.map ServiceMapping.externalIdentifier).Nodup)
    {m : ServiceMapping} (hm : m ∈ gw.base.serviceMappings)
    (hinbound : shouldForwardToSomeip m = true) (session : UInt16) (payload : Bytes) :
    HandsOver setup gw session m payload ↔ Unshadowed gw.base.serviceMappings m := by
  have hfound := findMappingByRosTopic_own hnonempty hdistinct hm
  have hissued := injectRos2Message_found setup hrunning hfound session payload
  have htarget : gw.target = .sink := by simp [Ros2Gateway.target, hclient, hsink]
  unfold HandsOver Unshadowed
  rw [hissued]
  cases (registeredBefore gw.base.serviceMappings m).find? (shadows m) with
  | none =>
      refine iff_of_true ?_ (by simp)
      rw [Option.getD_none, if_pos hinbound]
      exact ⟨_, rfl, htarget, rfl, rfl, rfl, rfl, rfl,
        fun hoff => protectOutbound_off setup hoff gw.e2e _⟩
  | some other =>
      simp only [Option.getD_some, Option.some.injEq, forall_eq']
      cases hforward : shouldForwardToSomeip other with
      | false => simp
      | true =>
          simp only [↓reduceIte, List.cons.injEq, and_true, true_and]
          constructor
          · rintro ⟨request, rfl, -, -, hservice, hmethod, -⟩
            exact ⟨hservice, hmethod⟩
          · rintro ⟨hservice, hmethod⟩
            exact ⟨_, rfl, htarget, rfl, hservice, hmethod, rfl, rfl,
              fun hoff => protectOutbound_off setup hoff gw.e2e _⟩

end

/-- Requests go to the sink: no RPC client is created at the start. -/
def sinkSetup : Setup Unit Unit :=
  { plainSetup with config := { enableRpcClient := false } }

/-- Two command topics, one a path above the other. -/
def armMapping : ServiceMapping where
  someipServiceId := 0x4000
  someipInstanceId := 0x0001
  someipMethodIds := [0x0010]
  externalIdentifier := Text.ascii "/cmd/arm"

def gripperMapping : ServiceMapping where
  someipServiceId := 0x4001
  someipInstanceId := 0x0001
  someipMethodIds := [0x0020]
  externalIdentifier := Text.ascii "/cmd/arm/gripper"

def commandGateway (mappings : List ServiceMapping) : Ros2Gateway Unit where
  base := { running := true, serviceMappings := mappings }
  e2e := ()
  outboundSink := true

theorem own_mapping_reached_gripper :
    HandsOver sinkSetup (commandGateway [gripperMapping, armMapping]) 1 gripperMapping [7] := by
  refine (own_mapping_reached_iff sinkSetup rfl rfl rfl (by decide) (by decide) (by decide)
    (by decide) 1 [7]).mpr ?_
  intro other hother
  have hnone : (registeredBefore [gripperMapping, armMapping] gripperMapping).find?
      (shadows gripperMapping) = none := by decide
  cases hnone.symm.trans hother

/-- Registered after the path above it, the gripper's topic moves the arm. -/
theorem gripper_topic_moves_arm :
    ¬ ∀ (mappings : List ServiceMapping) (m : ServiceMapping) (payload : Bytes),
      (∀ other ∈ mappings, other.externalIdentifier ≠ []) →
      (mappings.map ServiceMapping.externalIdentifier).Nodup → m ∈ mappings →
      shouldForwardToSomeip m = true →
      HandsOver sinkSetup (commandGateway mappings) 1 m payload := by
  intro h
  obtain ⟨request, hissued, -, -, hservice, -⟩ := h [armMapping, gripperMapping] gripperMapping [7]
    (by decide) (by decide) (by decide) (by decide)
  cases hissued
  exact absurd hservice (by decide)

end SomeipGateway.Ros2
