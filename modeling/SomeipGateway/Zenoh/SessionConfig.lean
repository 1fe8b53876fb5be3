import SomeipGateway.Lib.JsonText

/-! The session fields of `ZenohConfig` and the document `to_json5` makes of them
for the Zenoh library. -/
namespace SomeipGateway.Zenoh

open Lib

inductive ZenohSessionMode where
  | peer
  | client
  | router
deriving DecidableEq

structure ZenohShmConfig where
  enabled : Bool := false
  thresholdBytes : UInt64 := 32768
deriving DecidableEq

structure SessionConfig where
  mode : ZenohSessionMode := .peer
  connectEndpoints : List Text := []
  listenEndpoints : List Text := []
  shm : ZenohShmConfig := {}
deriving DecidableEq

def modeField : ZenohSessionMode → Text
  | .peer => Text.ascii "\"mode\":\"peer\""
  | .client => Text.ascii "\"mode\":\"client\""
  | .router => Text.ascii "\"mode\":\"router\""

/-- The inner loop over the characters of an endpoint, between its quotes. -/
def quotedEndpoint (endpoint : Text) : Text :=
  Text.ascii "\"" ++
    (endpoint.flatMap fun c =>
      (if c = Json.quote ∨ c = Json.backslash then Text.ascii "\\" else []) ++ [c]) ++
    Text.ascii "\""

/-- One turn of the loop over the endpoints. -/
def endpointItem (turn : Text × Nat) : Text :=
  (if turn.2 > 0 then Text.ascii "," else []) ++ quotedEndpoint turn.1

def endpointList (endpoints : List Text) : Text := endpoints.zipIdx.flatMap endpointItem

def toJson5 (config : SessionConfig) : Text :=
  Text.ascii "\x7b" ++
  modeField config.mode ++
  Text.ascii ",\"connect\":\x7b\"endpoints\":[" ++
  endpointList config.connectEndpoints ++
  Text.ascii "]\x7d,\"listen\":\x7b\"endpoints\":[" ++
  endpointList config.listenEndpoints ++
  Text.ascii "]\x7d,\"transport\":\x7b\"shared_memory\":\x7b" ++
  Text.ascii "\"enabled\":" ++
    (if config.shm.enabled then Text.ascii "true" else Text.ascii "false") ++
  Text.ascii ",\"threshold\":" ++ Text.numeral 10 config.shm.thresholdBytes.toNat ++
    Text.ascii "\x7d\x7d\x7d" ++
  Text.ascii "\x7d"

/-- One JSON object and nothing else, with the configured endpoints and
shared-memory settings in their places. -/
def Describes (config : SessionConfig) (text : Text) : Prop :=
  ∃ members : List (Text × Json.Value), Json.Document (.object members) text ∧
    (Json.Value.object members).path [Text.ascii "connect", Text.ascii "endpoints"] =
      some (.array (config.connectEndpoints.map .string)) ∧
    (Json.Value.object members).path [Text.ascii "listen", Text.ascii "endpoints"] =
      some (.array (config.listenEndpoints.map .string)) ∧
    (Json.Value.object members).path
        [Text.ascii "transport", Text.ascii "shared_memory", Text.ascii "enabled"] =
      some (.bool config.shm.enabled) ∧
    (Json.Value.object members).path
        [Text.ascii "transport", Text.ascii "shared_memory", Text.ascii "threshold"] =
      some (.number (Text.numeral 10 config.shm.thresholdBytes.toNat))

/-! ### Endpoints -/

theorem flatMap_endpointItem (endpoints : List Text) (k : Nat) :
    (endpoints.zipIdx (k + 1)).flatMap endpointItem =
      endpoints.flatMap fun endpoint => Json.comma :: quotedEndpoint endpoint := by
  induction endpoints generalizing k with
  | nil => rfl
  | cons endpoint rest ih =>
      rw [List.zipIdx_cons, List.flatMap_cons, List.flatMap_cons, ih (k + 1), endpointItem,
        if_pos (Nat.succ_pos k)]
      rfl

theorem endpointList_cons (first : Text) (rest : List Text) :
    endpointList (first :: rest) =
      quotedEndpoint first ++
        rest.flatMap fun endpoint => Json.comma :: quotedEndpoint endpoint := by
  rw [endpointList, List.zipIdx_cons, List.flatMap_cons, flatMap_endpointItem, endpointItem,
    if_neg (Nat.lt_irrefl 0), List.nil_append]

/-- Whatever the endpoint, its quotes close again: the two bytes that could end
the string too early are escaped. -/
theorem scan_inside_escaped (endpoint : Text) :
    Json.scan .inside (endpoint.flatMap fun c =>
      (if c = Json.quote ∨ c = Json.backslash then Text.ascii "\\" else []) ++ [c]) =
        (.inside, 0) := by
  induction endpoint with
  | nil => rfl
  | cons c rest ih =>
      rw [List.flatMap_cons]
      split_ifs with hspecial
      · exact (Json.scan_inside_escape c _).trans ih
      · rw [not_or] at hspecial
        exact (Json.scan_inside_cons hspecial.1 hspecial.2).trans ih

theorem level_quotedEndpoint (endpoint : Text) : Json.Level (quotedEndpoint endpoint) :=
  Json.scan_quoted (scan_inside_escaped endpoint)

theorem level_endpointList (endpoints : List Text) : Json.Level (endpointList endpoints) := by
  cases endpoints with
  | nil => rfl
  | cons first rest =>
      rw [endpointList_cons]
      apply (level_quotedEndpoint first).append
      induction rest with
      | nil => rfl
      | cons endpoint rest ih =>
          rw [List.flatMap_cons]
          exact ((level_quotedEndpoint endpoint).cons (by decide)).append ih

/-! ### The brace too many -/

theorem scan_toJson5 (config : SessionConfig) :
    Json.scan .outside (toJson5 config) = (.outside, -1) := by
  have hopen : Json.scan .outside (Text.ascii "\x7b") = (.outside, 1) := by decide
  have hmode : Json.scan .outside (modeField config.mode) = (.outside, 0) := by
    cases config.mode <;> decide
  have hconnect : Json.scan .outside (Text.ascii ",\"connect\":\x7b\"endpoints\":[") =
      (.outside, 2) := by decide
  have hlisten : Json.scan .outside (Text.ascii "]\x7d,\"listen\":\x7b\"endpoints\":[") =
      (.outside, 0) := by decide
  have htransport :
      Json.scan .outside (Text.ascii "]\x7d,\"transport\":\x7b\"shared_memory\":\x7b") =
        (.outside, 0) := by decide
  have henabled : Json.scan .outside (Text.ascii "\"enabled\":") = (.outside, 0) := by decide
  have hflag : Json.scan .outside
      (if config.shm.enabled then Text.ascii "true" else Text.ascii "false") = (.outside, 0) := by
    cases config.shm.enabled <;> decide
  have hthreshold : Json.scan .outside (Text.ascii ",\"threshold\":") = (.outside, 0) := by decide
  have hnumeral := (Json.isInteger_numeral config.shm.thresholdBytes.toNat).1.level
  have hclose : Json.scan .outside (Text.ascii "\x7d\x7d\x7d") = (.outside, -3) := by decide
  have hextra : Json.scan .outside (Text.ascii "\x7d") = (.outside, -1) := by decide
  have hconnectList := level_endpointList config.connectEndpoints
  have hlistenList := level_endpointList config.listenEndpoints
  unfold Json.Level at hnumeral hconnectList hlistenList
  simp only [toJson5, Json.scan_append, hopen, hmode, hconnect, hlisten, htransport, henabled,
    hflag, hthreshold, hnumeral, hclose, hextra, hconnectList, hlistenList]
  rfl

/-- The document `to_json5` writes describes no configuration at all: it closes
one brace more than it opens. -/
theorem toJson5_describes_nothing (config : SessionConfig) :
    ¬ Describes config (toJson5 config) := by
  rintro ⟨members, hdocument, -⟩
  have hlevel := hdocument.level
  rw [Json.Level, scan_toJson5] at hlevel
  exact absurd hlevel (by decide)

def edgeConfig : SessionConfig where
  mode := .client
  connectEndpoints := [Text.ascii "tcp/edge-zenoh:7447"]
  listenEndpoints := [Text.ascii "tcp/0.0.0.0:0"]
  shm := { enabled := true, thresholdBytes := 4096 }

theorem edgeConfig_not_described : ¬ Describes edgeConfig (toJson5 edgeConfig) := by
  rintro ⟨members, hdocument, -⟩
  have hlevel := hdocument.level
  rw [Json.Level, scan_toJson5] at hlevel
  exact absurd hlevel (by decide)

/-! ### Without it -/

def Printable (text : Text) : Prop := ∀ c ∈ text, 0x20 ≤ c ∧ c ≤ 0x7e

theorem chars_escaped {endpoint : Text} (h : Printable endpoint) :
    Json.Chars endpoint (endpoint.flatMap fun c =>
      (if c = Json.quote ∨ c = Json.backslash then Text.ascii "\\" else []) ++ [c]) := by
  induction endpoint with
  | nil => exact .nil
  | cons c rest ih =>
      have hrest := ih fun d hd => h d (List.mem_cons_of_mem _ hd)
      rw [List.flatMap_cons]
      split_ifs with hspecial
      · refine .escape ?_ hrest
        rcases hspecial with rfl | rfl <;> decide
      · rw [not_or] at hspecial
        exact .plain (h c List.mem_cons_self).1 hspecial.1 hspecial.2 hrest

theorem derives_quotedEndpoint {endpoint : Text} (h : Printable endpoint) :
    Json.Derives (.elements [.string endpoint]) (quotedEndpoint endpoint) :=
  (Json.Derives.string (chars_escaped h)).bare

theorem derives_endpoints {first : Text} {rest : List Text}
    (h : ∀ endpoint ∈ first :: rest, Printable endpoint) :
    Json.Derives (.elements ((first :: rest).map .string)) (endpointList (first :: rest)) := by
  rw [endpointList_cons]
  induction rest generalizing first with
  | nil =>
      rw [List.flatMap_nil, List.append_nil]
      exact derives_quotedEndpoint (h first List.mem_cons_self)
  | cons second rest ih =>
      rw [List.flatMap_cons, List.map_cons]
      apply Json.Derives.element (derives_quotedEndpoint (h first List.mem_cons_self))
      exact ih fun endpoint hmem => h endpoint (List.mem_cons_of_mem _ hmem)

theorem derives_endpointList {endpoints : List Text}
    (h : ∀ endpoint ∈ endpoints, Printable endpoint) :
    Json.Derives (.value (.array (endpoints.map .string)))
      (Json.openBracket :: (endpointList endpoints ++ [Json.closeBracket])) := by
  cases endpoints with
  | nil => exact .emptyArray Json.Space.nil
  | cons first rest => exact .array (derives_endpoints h)

theorem derives_modeField (mode : ZenohSessionMode) :
    ∃ name, Json.Derives (.members [(Text.ascii "mode", .string name)]) (modeField mode) := by
  cases mode with
  | peer =>
      exact ⟨Text.ascii "peer",
        Json.derives_member (by decide) (.string (Json.chars_self (by decide)))⟩
  | client =>
      exact ⟨Text.ascii "client",
        Json.derives_member (by decide) (.string (Json.chars_self (by decide)))⟩
  | router =>
      exact ⟨Text.ascii "router",
        Json.derives_member (by decide) (.string (Json.chars_self (by decide)))⟩

/-- The connect and listen fields. -/
theorem derives_endpointsField {name : Text} {endpoints : List Text}
    (hname : name.all Json.isVerbatim = true)
    (h : ∀ endpoint ∈ endpoints, Printable endpoint) :
    Json.Derives
      (.members [(name, .object [(Text.ascii "endpoints", .array (endpoints.map .string))])])
      (Json.quote :: (name ++ [Json.quote]) ++ Json.colon :: (Text.ascii "\x7b\"endpoints\":[" ++
        endpointList endpoints ++ Text.ascii "]\x7d")) := by
  have hfield : Json.Derives (.members [(Text.ascii "endpoints", .array (endpoints.map .string))])
      _ := Json.derives_member (by decide) (derives_endpointList h)
  have hobject := Json.derives_member hname (.object hfield)
  simp only [List.append_assoc, List.cons_append] at hobject ⊢
  exact hobject

theorem derives_transportField (shm : ZenohShmConfig) :
    Json.Derives
      (.members [(Text.ascii "transport", .object [(Text.ascii "shared_memory", .object
        [(Text.ascii "enabled", .bool shm.enabled),
          (Text.ascii "threshold", .number (Text.numeral 10 shm.thresholdBytes.toNat))])])])
      (Text.ascii "\"transport\":\x7b\"shared_memory\":\x7b" ++
        Text.ascii "\"enabled\":" ++
          (if shm.enabled then Text.ascii "true" else Text.ascii "false") ++
        Text.ascii ",\"threshold\":" ++ Text.numeral 10 shm.thresholdBytes.toNat ++
        Text.ascii "\x7d\x7d") := by
  have hnumber := Json.isNumber_of_isInteger (Json.isInteger_numeral shm.thresholdBytes.toNat)
  have henabled : Json.Derives (.members [(Text.ascii "enabled", .bool shm.enabled)]) _ :=
    Json.derives_member (by decide) (.bool shm.enabled)
  have hthreshold : Json.Derives (.members
      [(Text.ascii "threshold", .number (Text.numeral 10 shm.thresholdBytes.toNat))]) _ :=
    Json.derives_member (by decide) (.number hnumber)
  have hshm : Json.Derives (.members [(Text.ascii "shared_memory", _)]) _ :=
    Json.derives_member (by decide) (.object (.member henabled hthreshold))
  have htransport : Json.Derives (.members [(Text.ascii "transport", _)]) _ :=
    Json.derives_member (by decide) (.object hshm)
  have hopen : Text.ascii "\"transport\":\x7b\"shared_memory\":\x7b" =
      Json.quote :: (Text.ascii "transport" ++ [Json.quote]) ++ Json.colon :: Json.openBrace ::
        (Json.quote :: (Text.ascii "shared_memory" ++ [Json.quote]) ++
          [Json.colon, Json.openBrace]) := by decide
  have hflag : Text.ascii "\"enabled\":" =
      Json.quote :: (Text.ascii "enabled" ++ [Json.quote]) ++ [Json.colon] := by decide
  have hlimit : Text.ascii ",\"threshold\":" =
      Json.comma :: Json.quote :: (Text.ascii "threshold" ++ [Json.quote]) ++ [Json.colon] := by
    decide
  have hclose : Text.ascii "\x7d\x7d" = [Json.closeBrace, Json.closeBrace] := by decide
  rw [hopen, hflag, hlimit, hclose]
  simp only [List.append_assoc, List.cons_append, List.nil_append] at htransport ⊢
  exact htransport

/-- The document but for its last brace is what was meant: the fragments, the
separators and the escapes fit together for all endpoints. -/
theorem toJson5_dropLast_describes (config : SessionConfig)
    (hconnect : ∀ endpoint ∈ config.connectEndpoints, Printable endpoint)
    (hlisten : ∀ endpoint ∈ config.listenEndpoints, Printable endpoint) :
    Describes config (toJson5 config).dropLast := by
  obtain ⟨name, hmode⟩ := derives_modeField config.mode
  have hconnectField : Json.Derives (.members [(Text.ascii "connect", _)]) _ :=
    derives_endpointsField (by decide) hconnect
  have hlistenField : Json.Derives (.members [(Text.ascii "listen", _)]) _ :=
    derives_endpointsField (by decide) hlisten
  have htransport := derives_transportField config.shm
  have hobject := (Json.Derives.object
    (.member hmode (.member hconnectField (.member hlistenField htransport)))).bare
  have hlast : (toJson5 config).dropLast = _ := List.dropLast_concat
  have hopen : Text.ascii "\x7b" = [Json.openBrace] := by decide
  have hconnectOpen : Text.ascii ",\"connect\":\x7b\"endpoints\":[" =
      Json.comma :: Json.quote :: (Text.ascii "connect" ++ [Json.quote]) ++
        Json.colon :: Text.ascii "\x7b\"endpoints\":[" := by decide
  have hlistenOpen : Text.ascii "]\x7d,\"listen\":\x7b\"endpoints\":[" =
      Text.ascii "]\x7d" ++ Json.comma :: Json.quote :: (Text.ascii "listen" ++ [Json.quote]) ++
        Json.colon :: Text.ascii "\x7b\"endpoints\":[" := by decide
  have htransportOpen : Text.ascii "]\x7d,\"transport\":\x7b\"shared_memory\":\x7b" =
      Text.ascii "]\x7d" ++
        Json.comma :: Text.ascii "\"transport\":\x7b\"shared_memory\":\x7b" := by decide
  have hclose : Text.ascii "\x7d\x7d\x7d" = Text.ascii "\x7d\x7d" ++ [Json.closeBrace] := by
    decide
  rw [hlast, hopen, hconnectOpen, hlistenOpen, htransportOpen, hclose]
  simp only [List.append_assoc, List.cons_append, List.nil_append] at hobject ⊢
  exact ⟨_, hobject, rfl, rfl, rfl, rfl⟩

end SomeipGateway.Zenoh
