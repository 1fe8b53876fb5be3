import SomeipGateway.Lib.Path
import SomeipGateway.Ros2.Gateway

/-! The topics the gateway publishes on, against the rules of ROS 2 for names. The
ids are printed with a leading `0x`, and no token of a name begins with a digit. -/
namespace SomeipGateway.Ros2

open Lib

def isToken (token : Text) : Bool :=
  Path.isWord token && !token.head?.any Text.isDigit

def hasTokens (name : Text) : Bool := (Path.elements name).all isToken

/-- Tokens between slashes, with or without a slash in front of them. -/
def ValidTopicName (name : Text) : Prop :=
  hasTokens (if name.head? = some Path.slash then name.tail else name) = true

/-- What may be configured as a namespace: nothing, the root, or tokens with any
number of slashes behind them. -/
def ValidNamespace (ns : Text) : Prop :=
  ns = [] ∨ ns = [Path.slash] ∨
    ∃ lead tokens count, (lead = [] ∨ lead = [Path.slash]) ∧ hasTokens tokens = true ∧
      ns = lead ++ tokens ++ List.replicate count Path.slash

theorem hex4_eq (v : UInt16) :
    hex4 v = '0'.toUInt8 :: 'x'.toUInt8 :: (Text.padded 4 16 v.toNat).map toUpper := rfl

theorem toUpper_digit_ne_slash : ∀ n < 16, toUpper (Text.digit n) ≠ Path.slash := by decide

theorem slash_notMem_hex4 (v : UInt16) : Path.slash ∉ hex4 v := by
  have hv : v.toNat < 65536 := v.toNat_lt
  rw [hex4_eq, Text.padded_hex4]
  simp only [List.map_cons, List.map_nil, List.mem_cons, List.not_mem_nil, or_false, not_or]
  refine ⟨by decide, by decide, ?_, ?_, ?_, ?_⟩
  all_goals exact (toUpper_digit_ne_slash _ (by omega)).symm

theorem isToken_hex4 (v : UInt16) : isToken (hex4 v) = false := by
  have hfirst : (hex4 v).head?.any Text.isDigit = true := by
    rw [hex4_eq]
    rfl
  rw [isToken, hfirst, Bool.not_true, Bool.and_false]

theorem hasTokens_hex4 (front : Text) (v : UInt16) :
    hasTokens (front ++ Path.slash :: hex4 v) = false := by
  rw [hasTokens, Path.elements_append, List.all_append,
    Path.elements_of_notMem (slash_notMem_hex4 v), List.all_cons, isToken_hex4, Bool.false_and,
    Bool.and_false]

/-- A name whose last element is an id. -/
theorem not_validTopicName_hex4 (front : Text) (v : UInt16) :
    ¬ ValidTopicName (front ++ Path.slash :: hex4 v) := by
  unfold ValidTopicName
  cases front with
  | nil =>
      have hid : hasTokens (hex4 v) = false := by
        rw [hasTokens, Path.elements_of_notMem (slash_notMem_hex4 v), List.all_cons, isToken_hex4,
          Bool.false_and]
      rw [List.nil_append, List.head?_cons, if_pos rfl, List.tail_cons, hid]
      exact Bool.false_ne_true
  | cons c rest =>
      rw [List.cons_append, List.head?_cons, List.tail_cons]
      split_ifs
      · rw [hasTokens_hex4]
        exact Bool.false_ne_true
      · rw [← List.cons_append, hasTokens_hex4]
        exact Bool.false_ne_true

/-- Under no prefix and no namespace and for no ids is the topic a valid name. -/
theorem ros2_topic_never_valid {σ κ : Type} (setup : Setup σ κ)
    (serviceId instanceId eventId : UInt16) :
    ¬ ValidTopicName (buildRos2Topic setup serviceId instanceId eventId) := by
  have hevent : Text.ascii "/event/" = Text.ascii "/event" ++ [Path.slash] := by decide
  rw [buildRos2Topic, hevent, ← List.append_assoc, List.append_assoc _ [Path.slash]]
  exact not_validTopicName_hex4 _ eventId

/-- The gateway's own test builds the topic `/adas/someip/0x6001/0x0001/event/0x8001`. -/
theorem adas_topic_invalid :
    ¬ ∀ (setup : Setup Unit Unit) (serviceId instanceId eventId : UInt16),
      hasTokens setup.config.topicPrefix = true → ValidNamespace setup.config.rosNamespace →
      ValidTopicName (buildRos2Topic setup serviceId instanceId eventId) := by
  intro h
  let setup : Setup Unit Unit :=
    { config := { topicPrefix := Text.ascii "someip", rosNamespace := Text.ascii "/adas" }
      e2e := { validate := fun state _ _ => (.success, state)
               protect := fun state msg _ => (msg, state) } }
  have hnamespace : ValidNamespace (Text.ascii "/adas") :=
    .inr (.inr ⟨[Path.slash], Text.ascii "adas", 0, .inr rfl, by decide, by decide⟩)
  have hvalid := h setup 0x6001 0x0001 0x8001 (by decide) hnamespace
  exact absurd hvalid (by unfold ValidTopicName; decide)

end SomeipGateway.Ros2
