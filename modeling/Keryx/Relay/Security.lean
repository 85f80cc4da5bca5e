import Keryx.Relay.Auth

/-! Where the node tokens come from, when the relay starts and again on a signal. -/

namespace Keryx.Relay
open Keryx.Core Relational

structure NodeTokenEntry where
  nodeId : String
  token : String

structure NodeTokenFile where
  tokens : List NodeTokenEntry
  revokedNodes : List String

structure SecurityConfig where
  nodeTokensPath : Option String
  nodeTokens : List NodeTokenEntry
  revokedNodes : List String

namespace NodeTokenAuth

def default : NodeTokenAuth := ⟨.empty, []⟩

def insertEntry (tokens : Table (Prod.fst : NodeId × String → NodeId)) (entry : NodeTokenEntry) :
    Except String (Table (Prod.fst : NodeId × String → NodeId)) := do
  let nodeId ← (validateIdentifier .nodeId entry.nodeId).mapError fun _ => s!"invalid node_id {entry.nodeId}"
  if (Protobuf.utf8 (trim entry.token)).length < 16 then
    throw s!"node token for {nodeId.value} must be at least 16 bytes"
  return tokens.put (nodeId, trim entry.token)

def revokedNode (value : String) : Except String NodeId :=
  (validateIdentifier .nodeId value).mapError fun _ => s!"invalid revoked node_id {value}"

def fromEntries (entries : List NodeTokenEntry) (revokedNodes : List String) : Except String NodeTokenAuth := do
  let tokens ← entries.foldlM insertEntry .empty
  let revokedNodes ← revokedNodes.mapM revokedNode
  return ⟨tokens, revokedNodes⟩

def extend (auth additional : NodeTokenAuth) : NodeTokenAuth where
  tokens := additional.tokens.rows.foldl Table.put auth.tokens
  revokedNodes := auth.revokedNodes ++ additional.revokedNodes

/-- Publishes what was loaded. A failure to load comes first, and leaves the tokens as they are. -/
def replace (loaded : Except String NodeTokenAuth) : Session NodeTokenAuth String Unit := fun current =>
  match loaded with
  | .ok replacement => (.ok (), replacement)
  | .error failure => (.error failure, current)

end NodeTokenAuth

section
-- What is read at a path, if it can be read and parsed.
variable (tokenFile : String → Except String NodeTokenFile)

namespace NodeTokenAuth

def load (path : String) : Except String NodeTokenAuth := do
  let file ← tokenFile path
  fromEntries file.tokens file.revokedNodes

def reloadFromPath (path : String) : Session NodeTokenAuth String Unit := replace (load tokenFile path)

end NodeTokenAuth

namespace SecurityConfig

def loadNodeTokenAuth (config : SecurityConfig) : Except String NodeTokenAuth := do
  let auth ← match config.nodeTokensPath with
    | some path => NodeTokenAuth.load tokenFile path
    | none => pure NodeTokenAuth.default
  let inline ← NodeTokenAuth.fromEntries config.nodeTokens config.revokedNodes
  return auth.extend inline

def reloadNodeTokenAuth (config : SecurityConfig) : Session NodeTokenAuth String Unit :=
  NodeTokenAuth.replace (config.loadNodeTokenAuth tokenFile)

end SecurityConfig

end

/-- The token of a node in a list: the last entry that names the node counts. -/
def configuredToken (entries : List NodeTokenEntry) (node : NodeId) : Option String :=
  (entries.reverse.find? fun entry => trim entry.nodeId = node.value).map fun entry => trim entry.token

/-- Who may authenticate, as a file and the configuration beside it say. -/
structure Decides (file : NodeTokenFile) (tokens : List NodeTokenEntry) (revoked : List String) (auth : NodeTokenAuth) :
    Prop where
  accepts : ∀ node presented, auth.authenticate node presented = .ok () ↔
    node.value ∉ file.revokedNodes.map trim ∧ node.value ∉ revoked.map trim ∧
      (configuredToken tokens node).or (configuredToken file.tokens node) = some presented

def SecurityConfig.readTokens (config : SecurityConfig) (tokenFile : String → Except String NodeTokenFile) :
    Except String NodeTokenFile :=
  match config.nodeTokensPath with
  | some path => tokenFile path
  | none => .ok ⟨[], []⟩

section
variable {entries : List NodeTokenEntry} {auth additional : NodeTokenAuth} {node : NodeId}
  {tokens after : Table (Prod.fst : NodeId × String → NodeId)}

theorem insertEntry_find {entry : NodeTokenEntry} (success : NodeTokenAuth.insertEntry tokens entry = .ok after) :
    (after.find node).map Prod.snd =
      if trim entry.nodeId = node.value then some (trim entry.token) else (tokens.find node).map Prod.snd := by
  simp only [NodeTokenAuth.insertEntry, except_bind_ok, except_mapError_ok] at success
  obtain ⟨nodeId, parsed, success⟩ := success
  split at success
  · cases success
  obtain rfl := except_pure_ok.mp success
  have own := validateIdentifier_trim parsed
  rw [Table.find_put]
  by_cases same : node = nodeId
  · rw [if_pos same, if_pos (by rw [same, own])]
    rfl
  · rw [if_neg same, if_neg]
    intro equal
    apply same
    apply Identifier.eq_of_value
    rw [own, equal]

theorem configuredToken_cons (entry : NodeTokenEntry) (entries : List NodeTokenEntry) (node : NodeId) :
    configuredToken (entry :: entries) node = (configuredToken entries node).or
      (if trim entry.nodeId = node.value then some (trim entry.token) else none) := by
  unfold configuredToken
  rw [List.reverse_cons, List.find?_append]
  cases entries.reverse.find? fun entry => trim entry.nodeId = node.value with
  | some found => rfl
  | none =>
    by_cases named : trim entry.nodeId = node.value
    · simp [named]
    · simp [named]

theorem foldlM_insertEntry (success : entries.foldlM NodeTokenAuth.insertEntry tokens = .ok after) (node : NodeId) :
    (after.find node).map Prod.snd = (configuredToken entries node).or ((tokens.find node).map Prod.snd) := by
  induction entries generalizing tokens with
  | nil =>
    obtain rfl := except_pure_ok.mp success
    rfl
  | cons entry entries ih =>
    rw [List.foldlM_cons] at success
    obtain ⟨middle, inserted, success⟩ := except_bind_ok.mp success
    rw [ih success, insertEntry_find inserted, configuredToken_cons, Option.or_assoc]
    split
    · rfl
    · rfl

theorem mapM_revokedNode {values : List String} {revoked : List NodeId}
    (success : values.mapM NodeTokenAuth.revokedNode = .ok revoked) (node : NodeId) :
    node ∈ revoked ↔ node.value ∈ values.map trim := by
  induction values generalizing revoked with
  | nil =>
    obtain rfl := except_pure_ok.mp success
    simp
  | cons value values ih =>
    rw [List.mapM_cons] at success
    obtain ⟨first, parsed, success⟩ := except_bind_ok.mp success
    obtain ⟨rest, parsedRest, success⟩ := except_bind_ok.mp success
    obtain rfl := except_pure_ok.mp success
    have own := validateIdentifier_trim (except_mapError_ok.mp parsed)
    rw [List.mem_cons, List.map_cons, List.mem_cons, ih parsedRest, ← own]
    exact or_congr ⟨congrArg _, Identifier.eq_of_value⟩ Iff.rfl

theorem fromEntries_spec {revoked : List String} (success : NodeTokenAuth.fromEntries entries revoked = .ok auth)
    (node : NodeId) : (auth.tokens.find node).map Prod.snd = configuredToken entries node ∧
      (node ∈ auth.revokedNodes ↔ node.value ∈ revoked.map trim) := by
  simp only [NodeTokenAuth.fromEntries, except_bind_ok, except_pure_ok] at success
  obtain ⟨tokens, inserted, nodes, parsed, rfl⟩ := success
  refine ⟨?_, mapM_revokedNode parsed node⟩
  rw [foldlM_insertEntry inserted]
  exact Option.or_none

theorem authenticate_ok {presented : String} :
    auth.authenticate node presented = .ok () ↔
      node ∉ auth.revokedNodes ∧ (auth.tokens.find node).map Prod.snd = some presented := by
  unfold NodeTokenAuth.authenticate
  rw [NodeTokenAuth.authenticateOptional_ok]
  refine and_congr Iff.rfl ?_
  rw [Option.map_eq_some_iff]
  constructor
  · intro held
    obtain ⟨token, found, same⟩ := held
    exact ⟨_, found, (Option.some.inj same).symm⟩
  · intro held
    obtain ⟨⟨own, token⟩, found, rfl⟩ := held
    obtain rfl : own = node := Table.find_key found
    exact ⟨_, found, rfl⟩

theorem extend_decides {file : NodeTokenFile} {revoked : List String}
    (first : NodeTokenAuth.fromEntries file.tokens file.revokedNodes = .ok auth)
    (second : NodeTokenAuth.fromEntries entries revoked = .ok additional) :
    Decides file entries revoked (auth.extend additional) := by
  constructor
  intro node presented
  obtain ⟨fileToken, fileRevoked⟩ := fromEntries_spec first node
  obtain ⟨inlineToken, inlineRevoked⟩ := fromEntries_spec second node
  rw [authenticate_ok]
  simp only [NodeTokenAuth.extend]
  rw [Table.find_putAll, List.mem_append, fileRevoked, inlineRevoked, not_or, and_assoc, Option.map_or, inlineToken,
    fileToken]

theorem fromEntries_nil : NodeTokenAuth.fromEntries [] [] = .ok NodeTokenAuth.default := rfl

theorem fromEntries_decides {file : NodeTokenFile}
    (success : NodeTokenAuth.fromEntries file.tokens file.revokedNodes = .ok auth) : Decides file [] [] auth := by
  have extended := extend_decides success fromEntries_nil
  have same : auth.extend NodeTokenAuth.default = auth :=
    congrArg (NodeTokenAuth.mk auth.tokens) (List.append_nil auth.revokedNodes)
  rw [same] at extended
  exact extended

variable {tokenFile : String → Except String NodeTokenFile} {config : SecurityConfig}

theorem loadNodeTokenAuth_decides (success : config.loadNodeTokenAuth tokenFile = .ok auth) :
    ∃ file, config.readTokens tokenFile = .ok file ∧ Decides file config.nodeTokens config.revokedNodes auth := by
  unfold SecurityConfig.loadNodeTokenAuth at success
  unfold SecurityConfig.readTokens
  cases configured : config.nodeTokensPath with
  | none =>
    simp only [configured, except_bind_ok, except_pure_ok] at success
    obtain ⟨_, rfl, inline, parsed, rfl⟩ := success
    exact ⟨⟨[], []⟩, rfl, extend_decides fromEntries_nil parsed⟩
  | some path =>
    simp only [configured, NodeTokenAuth.load, except_bind_ok, except_pure_ok] at success
    obtain ⟨loaded, ⟨file, read, loads⟩, inline, parsed, rfl⟩ := success
    exact ⟨file, read, extend_decides loads parsed⟩

theorem replace_ok {loaded : Except String NodeTokenAuth} {current published : NodeTokenAuth}
    (success : NodeTokenAuth.replace loaded current = (.ok (), published)) : loaded = .ok published := by
  cases loaded with
  | error failure => cases success
  | ok replacement =>
    cases success
    rfl

theorem replace_error {loaded : Except String NodeTokenAuth} {current published : NodeTokenAuth} {failure : String}
    (failed : NodeTokenAuth.replace loaded current = (.error failure, published)) : published = current := by
  cases loaded with
  | error reason =>
    cases failed
    rfl
  | ok replacement => cases failed

/-- Who may authenticate after a load or a reload is what the sources say, with revocation first. A reload that fails
changes no decision. -/
theorem node_tokens_decide (tokenFile : String → Except String NodeTokenFile) (config : SecurityConfig) :
    (∀ auth, config.loadNodeTokenAuth tokenFile = .ok auth →
      ∃ file, config.readTokens tokenFile = .ok file ∧ Decides file config.nodeTokens config.revokedNodes auth) ∧
    (∀ current auth, config.reloadNodeTokenAuth tokenFile current = (.ok (), auth) →
      ∃ file, config.readTokens tokenFile = .ok file ∧ Decides file config.nodeTokens config.revokedNodes auth) ∧
    (∀ path auth, NodeTokenAuth.load tokenFile path = .ok auth →
      ∃ file, tokenFile path = .ok file ∧ Decides file [] [] auth) ∧
    (∀ path current auth, NodeTokenAuth.reloadFromPath tokenFile path current = (.ok (), auth) →
      ∃ file, tokenFile path = .ok file ∧ Decides file [] [] auth) ∧
    ∀ current failure auth, (config.reloadNodeTokenAuth tokenFile current = (.error failure, auth) ∨
        ∃ path, NodeTokenAuth.reloadFromPath tokenFile path current = (.error failure, auth)) →
      ∀ node presented, auth.authenticateOptional node presented = current.authenticateOptional node presented := by
  have loads : ∀ path auth, NodeTokenAuth.load tokenFile path = .ok auth →
      ∃ file, tokenFile path = .ok file ∧ Decides file [] [] auth := by
    intro path auth success
    obtain ⟨file, read, success⟩ := except_bind_ok.mp success
    exact ⟨file, read, fromEntries_decides success⟩
  refine ⟨fun auth success => loadNodeTokenAuth_decides success, ?_, loads, ?_, ?_⟩
  · intro current auth success
    exact loadNodeTokenAuth_decides (replace_ok success)
  · intro path current auth success
    exact loads path auth (replace_ok success)
  · intro current failure auth failed node presented
    rcases failed with failed | ⟨path, failed⟩
    · rw [replace_error failed]
    · rw [replace_error failed]

end

def sampleNode : NodeId := .literal "edge" (.refl true)

/-- The file gives the node a token, and the configuration gives it another and revokes it. -/
def revokedSample : SecurityConfig :=
  ⟨some "node-tokens.toml", [⟨" edge ", "inline-token-0123456789"⟩], ["edge"]⟩

def sampleTokenFile : String → Except String NodeTokenFile := fun _ => .ok ⟨[⟨"edge", "token-0123456789"⟩], []⟩

theorem revoked_sample_refused : ∃ auth, revokedSample.loadNodeTokenAuth sampleTokenFile = .ok auth ∧
    auth.authenticate sampleNode "inline-token-0123456789" ≠ .ok () := by
  obtain ⟨auth, loaded⟩ : ∃ auth, revokedSample.loadNodeTokenAuth sampleTokenFile = .ok auth := ⟨_, rfl⟩
  obtain ⟨file, _, decides⟩ := (node_tokens_decide sampleTokenFile revokedSample).1 auth loaded
  refine ⟨auth, loaded, ?_⟩
  intro accepted
  exact ((decides.accepts _ _).mp accepted).2.1 (by decide)

end Keryx.Relay
