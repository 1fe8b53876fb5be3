import SomeipGateway.Someip.Message

/-! `GatewayBase`: service mappings, forwarding directions and counters shared
by every gateway. Pointers into the mapping table are read as values. -/
namespace SomeipGateway

open Lib

inductive GatewayDirection where
  | someipToExternal
  | externalToSomeip
  | bidirectional
deriving DecidableEq

/-- `TranslationMode` is an enumeration over a byte that decoders also cast to. -/
structure TranslationMode where
  byte : UInt8
deriving DecidableEq

def TranslationMode.opaqueMode : TranslationMode := ⟨0⟩
def TranslationMode.typedMode : TranslationMode := ⟨1⟩

structure ServiceMapping where
  someipServiceId : UInt16 := 0
  someipInstanceId : UInt16 := 0
  someipMethodIds : List UInt16 := []
  someipEventGroupIds : List UInt16 := []
  externalIdentifier : Text := []
  direction : GatewayDirection := .bidirectional
  mode : TranslationMode := .opaqueMode
deriving DecidableEq

/-- The counters wrap at 64 bits as `fetch_add` does. -/
structure GatewayStats where
  messagesSomeipToExternal : UInt64 := 0
  messagesExternalToSomeip : UInt64 := 0
  translationErrors : UInt64 := 0
  bytesSomeipToExternal : UInt64 := 0
  bytesExternalToSomeip : UInt64 := 0
deriving DecidableEq

namespace GatewayStats

def recordSomeipToExternal (stats : GatewayStats) (bytes : Nat) : GatewayStats :=
  { stats with
    messagesSomeipToExternal := stats.messagesSomeipToExternal + 1
    bytesSomeipToExternal := stats.bytesSomeipToExternal + UInt64.ofNat bytes }

def recordExternalToSomeip (stats : GatewayStats) (bytes : Nat) : GatewayStats :=
  { stats with
    messagesExternalToSomeip := stats.messagesExternalToSomeip + 1
    bytesExternalToSomeip := stats.bytesExternalToSomeip + UInt64.ofNat bytes }

def recordTranslationError (stats : GatewayStats) : GatewayStats :=
  { stats with translationErrors := stats.translationErrors + 1 }

end GatewayStats

def shouldForwardToExternal (mapping : ServiceMapping) : Bool :=
  mapping.direction == .someipToExternal || mapping.direction == .bidirectional

def shouldForwardToSomeip (mapping : ServiceMapping) : Bool :=
  mapping.direction == .externalToSomeip || mapping.direction == .bidirectional

/-- `find_mapping_for_service`: the first mapping registered for the pair. -/
def findMappingForService (mappings : List ServiceMapping)
    (serviceId instanceId : UInt16) : Option ServiceMapping :=
  mappings.find? fun m =>
    m.someipServiceId == serviceId && m.someipInstanceId == instanceId

structure GatewayBase where
  running : Bool := false
  stats : GatewayStats := {}
  serviceMappings : List ServiceMapping := []
deriving DecidableEq

namespace GatewayBase

def addServiceMapping (base : GatewayBase) (mapping : ServiceMapping) : GatewayBase :=
  { base with serviceMappings := base.serviceMappings ++ [mapping] }

def setRunning (base : GatewayBase) (running : Bool) : GatewayBase :=
  { base with running := running }

def recordSomeipToExternal (base : GatewayBase) (bytes : Nat) : GatewayBase :=
  { base with stats := base.stats.recordSomeipToExternal bytes }

def recordExternalToSomeip (base : GatewayBase) (bytes : Nat) : GatewayBase :=
  { base with stats := base.stats.recordExternalToSomeip bytes }

def recordTranslationError (base : GatewayBase) : GatewayBase :=
  { base with stats := base.stats.recordTranslationError }

@[simp] theorem setRunning_running (base : GatewayBase) (running : Bool) :
    (base.setRunning running).running = running := rfl

@[simp] theorem setRunning_serviceMappings (base : GatewayBase) (running : Bool) :
    (base.setRunning running).serviceMappings = base.serviceMappings := rfl

@[simp] theorem recordSomeipToExternal_running (base : GatewayBase) (bytes : Nat) :
    (base.recordSomeipToExternal bytes).running = base.running := rfl

@[simp] theorem recordSomeipToExternal_serviceMappings (base : GatewayBase) (bytes : Nat) :
    (base.recordSomeipToExternal bytes).serviceMappings = base.serviceMappings := rfl

@[simp] theorem recordExternalToSomeip_running (base : GatewayBase) (bytes : Nat) :
    (base.recordExternalToSomeip bytes).running = base.running := rfl

@[simp] theorem recordExternalToSomeip_serviceMappings (base : GatewayBase) (bytes : Nat) :
    (base.recordExternalToSomeip bytes).serviceMappings = base.serviceMappings := rfl

@[simp] theorem recordTranslationError_running (base : GatewayBase) :
    base.recordTranslationError.running = base.running := rfl

@[simp] theorem recordTranslationError_serviceMappings (base : GatewayBase) :
    base.recordTranslationError.serviceMappings = base.serviceMappings := rfl

end GatewayBase

theorem shouldForwardToExternal_iff {mapping : ServiceMapping} :
    shouldForwardToExternal mapping = true ↔
      mapping.direction = .someipToExternal ∨ mapping.direction = .bidirectional := by
  simp [shouldForwardToExternal]

theorem shouldForwardToExternal_iff_ne {mapping : ServiceMapping} :
    shouldForwardToExternal mapping = true ↔ mapping.direction ≠ .externalToSomeip := by
  cases h : mapping.direction <;> simp [shouldForwardToExternal, h]

theorem shouldForwardToSomeip_iff {mapping : ServiceMapping} :
    shouldForwardToSomeip mapping = true ↔
      mapping.direction = .externalToSomeip ∨ mapping.direction = .bidirectional := by
  simp [shouldForwardToSomeip]

theorem shouldForwardToSomeip_iff_ne {mapping : ServiceMapping} :
    shouldForwardToSomeip mapping = true ↔ mapping.direction ≠ .someipToExternal := by
  cases h : mapping.direction <;> simp [shouldForwardToSomeip, h]

theorem findMappingForService_some {mappings : List ServiceMapping}
    {serviceId instanceId : UInt16} {mapping : ServiceMapping}
    (h : findMappingForService mappings serviceId instanceId = some mapping) :
    mapping ∈ mappings ∧ mapping.someipServiceId = serviceId ∧
      mapping.someipInstanceId = instanceId := by
  have hfound := List.find?_some h
  simp only [Bool.and_eq_true, beq_iff_eq] at hfound
  exact ⟨List.mem_of_find?_eq_some h, hfound⟩

end SomeipGateway
