import SomeipGateway.Dbus.Names

/-! The object paths of the services, against the rules of the D-Bus specification
for paths. Unlike the names, they put a word in front of every id. -/
namespace SomeipGateway.Dbus

open Lib

/-- What may be configured as a prefix: words with a slash in front of them or not
and any number behind them, or nothing but slashes. -/
def PathPrefix (p : Text) : Prop :=
  ∃ lead base count, (lead = [] ∨ lead = [Path.slash]) ∧
    (base = [] ∨ Path.hasWords base = true) ∧ p = lead ++ base ++ List.replicate count Path.slash

/-- A slash in front of each element, and every element a word. So no element is
empty, and no slash stands at the end. -/
structure ValidObjectPath (path : Text) : Prop where
  starts : path.head? = some Path.slash
  elements : Path.hasWords path.tail = true

/-! ### The prefix -/

/-- A prefix that is left alone: it begins with a slash and does not end with one. -/
theorem normalizePathPrefix_eq_self {p : Text} (hstarts : p.head? = some Path.slash)
    (hends : p.getLast? ≠ some Path.slash) : normalizePathPrefix p = p := by
  have hne : p ≠ [] := by
    rintro rfl
    cases hstarts
  have htrim : p.rdropWhile (· == '/'.toUInt8) = p := Path.trimEnd_eq_self hends
  rw [normalizePathPrefix, htrim, if_neg (by simpa using hne)]
  exact if_neg (not_not.mpr hstarts)

theorem normalizePathPrefix_ends (p : Text) :
    (normalizePathPrefix p).head? = some Path.slash ∧
      (normalizePathPrefix p).getLast? ≠ some Path.slash := by
  have hlast : (p.rdropWhile (· == '/'.toUInt8)).getLast? ≠ some Path.slash :=
    Path.trimEnd_getLast? _ p
  unfold normalizePathPrefix
  generalize p.rdropWhile (· == '/'.toUInt8) = trimmed at hlast
  cases trimmed with
  | nil => exact ⟨by decide, by decide⟩
  | cons c rest =>
      dsimp only
      rw [if_neg (by simp)]
      split_ifs with hhead
      · refine ⟨rfl, ?_⟩
        rw [List.getLast?_cons_cons]
        exact hlast
      · exact ⟨not_not.mp hhead, hlast⟩

theorem normalizePathPrefix_idempotent (p : Text) :
    normalizePathPrefix (normalizePathPrefix p) = normalizePathPrefix p := by
  obtain ⟨hstarts, hends⟩ := normalizePathPrefix_ends p
  exact normalizePathPrefix_eq_self hstarts hends

theorem head?_of_hasWords {base : Text} (h : Path.hasWords base = true) :
    base.head? ≠ some Path.slash := by
  intro hhead
  obtain ⟨rest, rfl⟩ := List.head?_eq_some_iff.mp hhead
  have hfirst := Path.hasWords_append [] rest
  rw [List.nil_append, h, Path.hasWords_nil, Bool.false_and] at hfirst
  contradiction

theorem getLast?_of_hasWords {base : Text} (h : Path.hasWords base = true) :
    base.getLast? ≠ some Path.slash := by
  intro hlast
  obtain ⟨front, rfl⟩ := List.getLast?_eq_some_iff.mp hlast
  rw [Path.hasWords_concat_slash] at h
  contradiction

/-- Whatever the shape of the prefix, it becomes a slash and words. -/
theorem PathPrefix.normalized {p : Text} (h : PathPrefix p) :
    ∃ words, Path.hasWords words = true ∧ normalizePathPrefix p = Path.slash :: words := by
  obtain ⟨lead, base, count, hlead, hbase, rfl⟩ := h
  have htrim : (lead ++ base ++ List.replicate count Path.slash).rdropWhile (· == '/'.toUInt8) =
      Path.trimEnd Path.slash (lead ++ base) := Path.trimEnd_replicate _ _ _
  unfold normalizePathPrefix
  rw [htrim]
  rcases hbase with rfl | hwords
  · have hnothing : Path.trimEnd Path.slash (lead ++ []) = [] := by
      rcases hlead with rfl | rfl
      · decide
      · decide
    rw [hnothing]
    exact ⟨Text.ascii "com/opensomeip", by decide, by decide⟩
  · have hne : base ≠ [] := by
      rintro rfl
      rw [Path.hasWords_nil] at hwords
      contradiction
    have hlast : (lead ++ base).getLast? ≠ some Path.slash := by
      rw [List.getLast?_append_of_ne_nil _ hne]
      exact getLast?_of_hasWords hwords
    rw [Path.trimEnd_eq_self hlast]
    refine ⟨base, hwords, ?_⟩
    dsimp only
    rw [if_neg (by simp [hne])]
    rcases hlead with rfl | rfl
    · exact if_pos (head?_of_hasWords hwords)
    · exact if_neg (not_not.mpr rfl)

/-! ### Paths -/

/-- An id behind a word is a word. -/
theorem isWord_append_toHex4 {word : Text} (hne : word ≠ [])
    (hword : word.all Path.isWordChar = true) (v : UInt16) :
    Path.isWord (word ++ toHex4 v) = true := by
  have hv : v.toNat < 65536 := v.toNat_lt
  have hdigits : (toHex4 v).all Path.isWordChar = true := by
    rw [toHex4, Text.padded_hex4, List.all_eq_true]
    intro c hc
    simp only [List.mem_cons, List.not_mem_nil, or_false] at hc
    rcases hc with rfl | rfl | rfl | rfl <;> exact Path.isWordChar_digit _ (by omega)
  rw [Path.isWord, List.all_append, hword, hdigits]
  simp [hne]

theorem buildObjectPath_eq (config : DbusConfig) (serviceId instanceId : UInt16) :
    buildObjectPath config serviceId instanceId =
      normalizePathPrefix config.objectPathPrefix ++
        Path.slash :: (Text.ascii "svc_" ++ toHex4 serviceId ++
          Path.slash :: (Text.ascii "inst_" ++ toHex4 instanceId)) := by
  have hsvc : Text.ascii "/svc_" = Path.slash :: Text.ascii "svc_" := by decide
  have hinst : Text.ascii "/inst_" = Path.slash :: Text.ascii "inst_" := by decide
  simp only [buildObjectPath, hsvc, hinst, List.append_assoc, List.cons_append]

theorem buildObjectPath_valid {config : DbusConfig} (h : PathPrefix config.objectPathPrefix)
    (serviceId instanceId : UInt16) :
    ValidObjectPath (buildObjectPath config serviceId instanceId) := by
  obtain ⟨words, hwords, hnormalized⟩ := h.normalized
  have hsvc : Path.hasWords (Text.ascii "svc_" ++ toHex4 serviceId) = true :=
    Path.hasWords_of_word (isWord_append_toHex4 (by decide) (by decide) serviceId)
  have hinst : Path.hasWords (Text.ascii "inst_" ++ toHex4 instanceId) = true :=
    Path.hasWords_of_word (isWord_append_toHex4 (by decide) (by decide) instanceId)
  rw [buildObjectPath_eq, hnormalized]
  refine ⟨rfl, ?_⟩
  rw [List.cons_append, List.tail_cons, Path.hasWords_append, Path.hasWords_append, hwords, hsvc,
    hinst]
  rfl

theorem buildObjectPath_injective (config : DbusConfig)
    {serviceId instanceId serviceId' instanceId' : UInt16}
    (h : buildObjectPath config serviceId instanceId =
      buildObjectPath config serviceId' instanceId') :
    serviceId = serviceId' ∧ instanceId = instanceId' := by
  rw [buildObjectPath_eq, buildObjectPath_eq] at h
  have htail := List.tail_eq_of_cons_eq (List.append_cancel_left h)
  rw [List.append_assoc, List.append_assoc] at htail
  have hids := List.append_cancel_left htail
  obtain ⟨hservice, hrest⟩ := List.append_inj hids
    (by rw [length_toHex4, length_toHex4])
  have hinstance := List.append_cancel_left (List.tail_eq_of_cons_eq hrest)
  exact ⟨Text.padded_hex4_injective hservice, Text.padded_hex4_injective hinstance⟩

/-- For every prefix of the allowed shapes: normalising it again changes nothing,
every path under it is valid, and no two pairs of ids share one. -/
theorem object_paths_valid_and_unambiguous (config : DbusConfig)
    (h : PathPrefix config.objectPathPrefix) :
    normalizePathPrefix (normalizePathPrefix config.objectPathPrefix) =
        normalizePathPrefix config.objectPathPrefix ∧
      (∀ serviceId instanceId, ValidObjectPath (buildObjectPath config serviceId instanceId)) ∧
      ∀ serviceId instanceId serviceId' instanceId',
        buildObjectPath config serviceId instanceId =
          buildObjectPath config serviceId' instanceId' →
        serviceId = serviceId' ∧ instanceId = instanceId' :=
  ⟨normalizePathPrefix_idempotent _, buildObjectPath_valid h,
    fun _ _ _ _ hsame => buildObjectPath_injective config hsame⟩

theorem object_path_of_relative_prefix :
    ValidObjectPath (buildObjectPath { objectPathPrefix := Text.ascii "com/example//" }
      0x1234 0x0001) :=
  (object_paths_valid_and_unambiguous { objectPathPrefix := Text.ascii "com/example//" }
    ⟨[], Text.ascii "com/example", 2, .inl rfl, .inr (by decide), by decide⟩).2.1 0x1234 0x0001

end SomeipGateway.Dbus
