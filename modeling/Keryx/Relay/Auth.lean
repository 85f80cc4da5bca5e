import Mathlib.Data.Nat.Bitwise
import Keryx.Daemon.Status

/-! Who calls the relay.
A node names itself and presents its token in the metadata of a call. -/

namespace Keryx.Relay
open Keryx.Core Proto Relational
open Daemon (Status)

/-- Compares all bytes, whether or not an earlier one differs. -/
def constantTimeEq (left right : Bytes) : Bool :=
  (List.range (max left.length right.length)).foldl
    (fun diff index => diff ||| (left.getD index 0 ^^^ right.getD index 0).toNat) (left.length ^^^ right.length) = 0

theorem foldl_or_eq_zero (bits : Nat → Nat) (indices : List Nat) (start : Nat) :
    indices.foldl (fun diff index => diff ||| bits index) start = 0 ↔ start = 0 ∧ ∀ index ∈ indices, bits index = 0 := by
  induction indices generalizing start with
  | nil => simp
  | cons index indices ih =>
    rw [List.foldl_cons, ih, Nat.or_eq_zero_iff, List.forall_mem_cons, and_assoc]

theorem xor_toNat_eq_zero (left right : UInt8) : (left ^^^ right).toNat = 0 ↔ left = right := by
  constructor
  · intro zero
    have none : left ^^^ right = 0 := UInt8.toNat_inj.mp zero
    exact UInt8.xor_eq_zero_iff.mp none
  · rintro rfl
    rw [UInt8.xor_self]
    rfl

theorem constantTimeEq_iff (left right : Bytes) : constantTimeEq left right = true ↔ left = right := by
  unfold constantTimeEq
  rw [decide_eq_true_eq, foldl_or_eq_zero, Nat.xor_eq_zero_iff]
  constructor
  · rintro ⟨length, bytes⟩
    apply List.ext_getElem length
    intro index first second
    have same := (xor_toNat_eq_zero _ _).mp (bytes index (List.mem_range.mpr (Nat.lt_of_lt_of_le first (Nat.le_max_left _ _))))
    rw [List.getD_eq_getElem _ _ first, List.getD_eq_getElem _ _ second] at same
    exact same
  · rintro rfl
    exact ⟨rfl, fun index _ => (xor_toNat_eq_zero _ _).mpr rfl⟩

inductive NodeAuthFailure where
  | unknownNode | missingToken | invalidToken | revokedNode
deriving DecidableEq, Repr

def NodeAuthFailure.reason : NodeAuthFailure → String
  | .unknownNode => "unknown_node"
  | .missingToken => "missing_token"
  | .invalidToken => "invalid_token"
  | .revokedNode => "revoked_node"

/-- The tokens of the nodes and the nodes that may not use theirs, as they are at one time. -/
structure NodeTokenAuth where
  tokens : Table (Prod.fst : NodeId × String → NodeId)
  revokedNodes : List NodeId

namespace NodeTokenAuth

def isConfigured (auth : NodeTokenAuth) : Bool := !auth.tokens.rows.isEmpty

def authenticateOptional (auth : NodeTokenAuth) (nodeId : NodeId) (presentedToken : Option String) :
    Except NodeAuthFailure Unit :=
  if nodeId ∈ auth.revokedNodes then .error .revokedNode
  else match auth.tokens.find nodeId with
    | none => .error .unknownNode
    | some (_, expected) =>
      match presentedToken with
      | none => .error .missingToken
      | some presented =>
        if constantTimeEq (Protobuf.utf8 expected) (Protobuf.utf8 presented) then .ok () else .error .invalidToken

def authenticate (auth : NodeTokenAuth) (nodeId : NodeId) (presentedToken : String) : Except NodeAuthFailure Unit :=
  auth.authenticateOptional nodeId (some presentedToken)

theorem authenticateOptional_ok {auth : NodeTokenAuth} {nodeId : NodeId} {presentedToken : Option String} :
    auth.authenticateOptional nodeId presentedToken = .ok () ↔
      nodeId ∉ auth.revokedNodes ∧ ∃ token, auth.tokens.find nodeId = some (nodeId, token) ∧ presentedToken = some token := by
  unfold authenticateOptional
  split
  · rename_i revoked
    exact iff_of_false (by rintro ⟨⟩) fun allowed => allowed.1 revoked
  · rename_i allowed
    cases found : auth.tokens.find nodeId with
    | none => simp
    | some row =>
      obtain ⟨own, expected⟩ := row
      obtain rfl : own = nodeId := Table.find_key found
      cases presentedToken with
      | none => simp
      | some presented =>
        simp only [Option.some.injEq, Prod.mk.injEq, true_and, exists_eq_left', allowed, not_false_eq_true]
        split
        · rename_i same
          exact iff_of_true rfl (Protobuf.utf8_inj ((constantTimeEq_iff _ _).mp same)).symm
        · rename_i different
          refine iff_of_false (by rintro ⟨⟩) ?_
          intro same
          rw [same] at different
          exact different ((constantTimeEq_iff _ _).mpr rfl)

end NodeTokenAuth

/-- A metadata value, which need not be readable as text. -/
inductive MetadataValue where
  | text (value : String)
  | binary
deriving DecidableEq

def MetadataValue.toStr : MetadataValue → Option String
  | .text value => some value
  | .binary => none

structure Metadata where
  nodeId : Option MetadataValue
  nodeToken : Option MetadataValue
deriving DecidableEq

/-- The registered features of each peer, and the tokens, as a call finds them. -/
structure RelayHealthService where
  registry : Option (PeerId → List String)
  nodeAuth : Option NodeTokenAuth

def unauthenticated (message : String) : Status := ⟨.unauthenticated, message⟩

def orElseStatus {α : Type} (status : Status) : Option α → Except Status α
  | none => .error status
  | some value => .ok value

def nodeIdOf (value : String) : Except Status NodeId :=
  (validateIdentifier .nodeId value).mapError fun error =>
    .invalidArgument s!"invalid node id: {Daemon.validationText error}"

def authenticated (outcome : Except NodeAuthFailure Unit) : Except Status Unit :=
  outcome.mapError fun failure => unauthenticated s!"node authentication failed: {failure.reason}"

namespace RelayHealthService

def configuredAuth (service : RelayHealthService) : Except Status NodeTokenAuth :=
  orElseStatus (unauthenticated "node authentication is not configured for mutations")
    (service.nodeAuth.filter NodeTokenAuth.isConfigured)

def authenticateMetadataOnly (service : RelayHealthService) (metadata : Metadata) : Except Status String := do
  let auth ← service.configuredAuth
  let metadataNodeId ← orElseStatus (unauthenticated "node id metadata is required")
    (((metadata.nodeId.bind MetadataValue.toStr).map trim).filter (· ≠ ""))
  let token := metadata.nodeToken.bind MetadataValue.toStr
  let nodeId ← nodeIdOf metadataNodeId
  authenticated (auth.authenticateOptional nodeId token)
  return metadataNodeId

/-- Besides, the node must be the one that the body claims to speak for. -/
def authenticateRequest (service : RelayHealthService) (metadata : Metadata) (claimedNodeId : String) :
    Except Status String := do
  if trim claimedNodeId = "" then throw (.invalidArgument "source node id is required")
  let metadataNodeId ← service.authenticateMetadataOnly metadata
  if metadataNodeId ≠ trim claimedNodeId then
    throw ⟨.permissionDenied, "claimed source node does not match authenticated node metadata"⟩
  return metadataNodeId

end RelayHealthService

def nodeIdFromMetadata (metadata : Metadata) : Except Status String :=
  match metadata.nodeId with
  | none => .error (unauthenticated "ConnectNode requires x-keryx-node-id metadata")
  | some value =>
    match value.toStr with
    | none => .error (.invalidArgument "ConnectNode node metadata must be ASCII")
    | some text =>
      if trim text = "" then .error (.invalidArgument "ConnectNode node id cannot be empty") else .ok (trim text)

/-- The call presents the configured token of a node, which is not revoked. -/
structure Presents (service : RelayHealthService) (metadata : Metadata) (node : String) : Prop where
  token : ∃ auth nodeId token, service.nodeAuth = some auth ∧ nodeId.value = node ∧ nodeId ∉ auth.revokedNodes ∧
    auth.tokens.find nodeId = some (nodeId, token) ∧ metadata.nodeToken = some (.text token)
  named : ∃ value, metadata.nodeId = some (.text value) ∧ trim value = node

theorem orElseStatus_ok {α : Type} {status : Status} {value : Option α} {result : α} :
    orElseStatus status value = .ok result ↔ value = some result := by
  cases value <;> simp [orElseStatus]

theorem toStr_some {value : Option MetadataValue} {text : String} (read : value.bind MetadataValue.toStr = some text) :
    value = some (.text text) := by
  obtain ⟨stored, rfl, same⟩ := Option.bind_eq_some_iff.mp read
  cases stored with
  | text value =>
    cases same
    rfl
  | binary => cases same

section
variable {service : RelayHealthService} {metadata : Metadata} {node claimed : String}

theorem authenticateMetadataOnly_presents (success : service.authenticateMetadataOnly metadata = .ok node) :
    Presents service metadata node := by
  simp only [RelayHealthService.authenticateMetadataOnly, except_bind_ok, except_pure_ok,
    RelayHealthService.configuredAuth, orElseStatus_ok, Option.filter_eq_some_iff, Option.map_eq_some_iff, nodeIdOf,
    authenticated, except_mapError_ok] at success
  obtain ⟨auth, ⟨configured, _⟩, _, ⟨⟨value, read, rfl⟩, _⟩, nodeId, parsed, _, accepted, rfl⟩ := success
  obtain ⟨allowed, token, expected, presented⟩ := NodeTokenAuth.authenticateOptional_ok.mp accepted
  refine ⟨⟨auth, nodeId, token, configured, ?_, allowed, expected, toStr_some presented⟩, value, toStr_some read, rfl⟩
  exact (validateIdentifier_trim parsed).trans (trim_trim value)

theorem authenticateRequest_presents (success : service.authenticateRequest metadata claimed = .ok node) :
    Presents service metadata node ∧ node = trim claimed := by
  unfold RelayHealthService.authenticateRequest at success
  split at success
  · cases success
  simp only at success
  obtain ⟨own, authenticated, success⟩ := except_bind_ok.mp success
  split at success
  · cases success
  rename_i same
  obtain rfl : own = node := except_pure_ok.mp success
  exact ⟨authenticateMetadataOnly_presents authenticated, not_not.mp same⟩

theorem Presents.trimmed (presents : Presents service metadata node) : trim node = node ∧ node ≠ "" := by
  obtain ⟨_, nodeId, _, _, rfl, _⟩ := presents.token
  exact ⟨trim_value nodeId, nodeId.value_ne_empty⟩

end

end Keryx.Relay
