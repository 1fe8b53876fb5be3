import Mathlib.Data.List.Induction
import SomeipGateway.Grpc.Broadcast

/-! The registry of streams by itself: a multimap of weak pointers under any
sequence of registrations, unregistrations and sinks that expire. -/
namespace SomeipGateway.Grpc

open Lib

/-- `stream_subscribers_` and which sinks have expired. -/
structure StreamRegistry where
  subscribers : List (EventStreamKey × StreamId) := []
  expired : StreamId → Bool := fun _ => false

inductive RegistryCall where
  | register (key : EventStreamKey) (sink : StreamId)
  | unregister (key : EventStreamKey) (sink : StreamId)
  /-- The last owner of the sink lets go of it. -/
  | expire (sink : StreamId)

namespace StreamRegistry

def step (registry : StreamRegistry) : RegistryCall → StreamRegistry
  | .register key sink =>
      { registry with subscribers := registerEventStream registry.subscribers key sink }
  | .unregister key sink =>
      { registry with
        subscribers := unregisterEventStream registry.expired registry.subscribers key sink }
  | .expire sink => { registry with expired := Function.update registry.expired sink true }

def run (registry : StreamRegistry) (calls : List RegistryCall) : StreamRegistry :=
  calls.foldl step registry

theorem run_concat (registry : StreamRegistry) (calls : List RegistryCall) (call : RegistryCall) :
    registry.run (calls ++ [call]) = (registry.run calls).step call := List.foldl_concat ..

theorem step_register (registry : StreamRegistry) (key : EventStreamKey) (sink : StreamId) :
    (registry.step (.register key sink)).subscribers =
      Multimap.emplace EventStreamKey.lt registry.subscribers key sink := rfl

theorem step_unregister (registry : StreamRegistry) (key : EventStreamKey) (sink : StreamId) :
    (registry.step (.unregister key sink)).subscribers =
      Multimap.eraseRange EventStreamKey.lt (fun other => registry.expired other || other == sink)
        registry.subscribers key := rfl

end StreamRegistry

/-- Registered under the key by one of the calls, and not unregistered under it by
any later one. -/
def RegisteredSince (calls : List RegistryCall) (key : EventStreamKey) (sink : StreamId) : Prop :=
  ∃ before after, calls = before ++ .register key sink :: after ∧ .unregister key sink ∉ after

theorem registeredSince_concat (calls : List RegistryCall) (call : RegistryCall)
    (key : EventStreamKey) (sink : StreamId) :
    RegisteredSince (calls ++ [call]) key sink ↔
      call = .register key sink ∨
        call ≠ .unregister key sink ∧ RegisteredSince calls key sink := by
  constructor
  · rintro ⟨before, after, hcalls, hkept⟩
    rcases List.eq_nil_or_concat after with rfl | ⟨later, last, rfl⟩
    · exact .inl (List.append_singleton_inj.mp hcalls).2
    · rw [List.concat_eq_append, ← List.cons_append, ← List.append_assoc] at hcalls
      obtain ⟨rfl, rfl⟩ := List.append_singleton_inj.mp hcalls
      rw [List.concat_eq_append, List.mem_append, List.mem_singleton, not_or] at hkept
      exact .inr ⟨fun h => hkept.2 h.symm, before, later, rfl, hkept.1⟩
  · rintro (rfl | ⟨hother, before, after, rfl, hkept⟩)
    · exact ⟨calls, [], rfl, List.not_mem_nil⟩
    · refine ⟨before, after ++ [call], by simp, ?_⟩
      rw [List.mem_append, List.mem_singleton, not_or]
      exact ⟨hkept, fun h => hother h.symm⟩

/-- The entries are in the order of the map, and those of live sinks are what the
calls say. -/
structure Mirrors (registry : StreamRegistry) (calls : List RegistryCall) : Prop where
  ordered : Multimap.Ordered EventStreamKey.lt registry.subscribers
  listed : ∀ key sink, registry.expired sink = false →
    ((key, sink) ∈ registry.subscribers ↔ RegisteredSince calls key sink)

theorem Mirrors.step {registry : StreamRegistry} {calls : List RegistryCall}
    (h : Mirrors registry calls) (call : RegistryCall) :
    Mirrors (registry.step call) (calls ++ [call]) := by
  cases call with
  | register key sink =>
      refine ⟨?_, fun key' sink' hlive => ?_⟩
      · rw [StreamRegistry.step_register]
        exact Multimap.emplace_ordered EventStreamKey.lt_strictOrder h.ordered key sink
      · rw [registeredSince_concat, ← h.listed key' sink' hlive, StreamRegistry.step_register,
          (Multimap.emplace_perm _ _ _ _).mem_iff, List.mem_cons]
        simp [eq_comm]
  | unregister key sink =>
      refine ⟨?_, fun key' sink' hlive => ?_⟩
      · rw [StreamRegistry.step_unregister]
        exact h.ordered.sublist (Multimap.eraseRange_sublist ..)
      · have hlive : registry.expired sink' = false := hlive
        rw [registeredSince_concat, ← h.listed key' sink' hlive, StreamRegistry.step_unregister,
          Multimap.mem_eraseRange EventStreamKey.lt_strictOrder _ h.ordered]
        have hgone : (key' = key ∧ (registry.expired sink' || sink' == sink) = true) ↔
            RegistryCall.unregister key sink = .unregister key' sink' := by
          rw [hlive, Bool.false_or, beq_iff_eq, RegistryCall.unregister.injEq, eq_comm,
            eq_comm (a := sink)]
        simp only [reduceCtorEq, false_or, ne_eq, ← hgone]
        exact and_comm
  | expire sink =>
      refine ⟨h.ordered, fun key' sink' hlive => ?_⟩
      have hlive' : registry.expired sink' = false := by
        by_cases hsame : sink' = sink
        · rw [hsame] at hlive
          simp [StreamRegistry.step] at hlive
        · simpa [StreamRegistry.step, Function.update_of_ne hsame] using hlive
      rw [registeredSince_concat, ← h.listed key' sink' hlive']
      simp [StreamRegistry.step]

theorem run_mirrors (expired : StreamId → Bool) (calls : List RegistryCall) :
    Mirrors (StreamRegistry.run { expired } calls) calls := by
  induction calls using List.reverseRecOn with
  | nil =>
      refine ⟨List.Pairwise.nil, fun key sink _ => iff_of_false List.not_mem_nil ?_⟩
      rintro ⟨before, after, hcalls, -⟩
      simp at hcalls
  | append_singleton calls call ih =>
      rw [StreamRegistry.run_concat]
      exact ih.step call

/-- After any calls, whatever had expired before them: unregistering takes out the
entries of the key that are expired or of the sink, and leaves the others in their
order; and a live sink is listed where it is registered, and nowhere else. -/
theorem stream_registry_exact (expired : StreamId → Bool) (calls : List RegistryCall)
    (key : EventStreamKey) (sink : StreamId) :
    let registry := StreamRegistry.run { expired } calls
    (registry.step (.unregister key sink)).subscribers =
        registry.subscribers.filter (fun entry =>
          !(entry.1 == key && (registry.expired entry.2 || entry.2 == sink))) ∧
      (registry.expired sink = false →
        ((key, sink) ∈ registry.subscribers ↔ RegisteredSince calls key sink)) := by
  have hmirrors := run_mirrors expired calls
  refine ⟨?_, hmirrors.listed key sink⟩
  rw [StreamRegistry.step_unregister]
  exact Multimap.eraseRange_eq_filter EventStreamKey.lt_strictOrder _ hmirrors.ordered key

/-- A key of which one sink has expired and another one has left. -/
theorem registry_of_three_sinks :
    let key : EventStreamKey := ⟨0x1234, 1, 1⟩
    let calls : List RegistryCall :=
      [.register key 0, .register key 1, .register key 2, .expire 1, .unregister key 2]
    (StreamRegistry.run {} calls).expired 0 = false ∧ RegisteredSince calls key 0 := by
  refine ⟨by decide, ?_⟩
  exact ((stream_registry_exact (fun _ => false) _ _ 0).2 (by decide)).mp (by decide)

end SomeipGateway.Grpc
