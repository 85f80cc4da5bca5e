import Keryx.Relay.Isolation
import Keryx.Relay.Security

/-! Node tokens and streams together. The tokens may be replaced between the check of a call and its stream. -/

namespace Keryx.Relay
open Keryx.Core Proto Relational Concurrent

/-- The tokens, the nodes let in without a stream yet, and the owner of each stream. -/
structure GuardedState where
  auth : NodeTokenAuth
  opening : List String
  relay : PeerState
  owners : List String

inductive GuardedEvent where
  | reload (tokenFile : String → Except String NodeTokenFile) (config : SecurityConfig)
  /-- ConnectNode checks who calls. -/
  | authenticate (registry : Option (PeerId → List String)) (metadata : Metadata)
  /-- Anything happens to the shared state; a stream is opened only for a call that was let in. -/
  | relay (op : RelayOp)

namespace GuardedState

def start (auth : NodeTokenAuth) : GuardedState := ⟨auth, [], .empty, []⟩

def onRelay (state : GuardedState) : RelayOp → GuardedState
  | .connectNode node =>
    if node ∈ state.opening then
      { state with
        opening := state.opening.erase node
        relay := Relay.step state.relay (.connectNode node)
        owners := state.owners ++ [node] }
    else state
  | op => { state with relay := Relay.step state.relay op }

def step (state : GuardedState) : GuardedEvent → GuardedState
  | .reload tokenFile config => { state with auth := (config.reloadNodeTokenAuth tokenFile state.auth).2 }
  | .authenticate registry metadata =>
    match connectingNode ⟨registry, some state.auth⟩ metadata with
    | .ok node => { state with opening := state.opening ++ [node] }
    | .error _ => state
  | .relay op => state.onRelay op

def Receives (before after : GuardedState) (node : String) (frame : RelayFrame) : Prop :=
  ∃ number items, after.owners[number]? = some node ∧
    (after.relay.streams number).sent = (before.relay.streams number).sent ++ items ∧ .ok frame ∈ items

/-- A reload revokes only nodes that have no stream, and no call on the way to one. -/
def Spares (state : GuardedState) : GuardedEvent → Prop
  | .reload tokenFile config =>
    ∀ node ∈ (config.reloadNodeTokenAuth tokenFile state.auth).2.revokedNodes,
      node.value ∉ state.opening ∧ state.relay.connectedNodes.find node.value = none
  | _ => True

/-- Revoked nodes have no stream and get none, and every stream in use is of the node that uses it. -/
structure Barred (state : GuardedState) : Prop where
  barred : ∀ node ∈ state.auth.revokedNodes,
    node.value ∉ state.opening ∧ state.relay.connectedNodes.find node.value = none
  owned : ∀ node connected, state.relay.connectedNodes.find node = some (node, connected) →
    state.owners[connected.sender]? = some node
  count : state.owners.length = state.relay.streamCount
  attended : state.relay.Attended

variable {state : GuardedState}

theorem start_barred (auth : NodeTokenAuth) : (start auth).Barred where
  barred := fun _ _ => ⟨List.not_mem_nil, rfl⟩
  owned := fun _ _ found => by cases found
  count := rfl
  attended := empty_attended

def opened (state : GuardedState) (node : String) : GuardedState where
  auth := state.auth
  opening := state.opening.erase node
  relay := Relay.step state.relay (.connectNode node)
  owners := state.owners ++ [node]

theorem onRelay_cases (state : GuardedState) (op : RelayOp) :
    state.onRelay op = state ∨ (∃ node ∈ state.opening, state.onRelay op = state.opened node) ∨
      (Flows state.relay (state.relay.admits op) (Relay.step state.relay op) ∧
        state.onRelay op = { state with relay := Relay.step state.relay op }) := by
  rcases step_flows state.relay op with ⟨node, rfl⟩ | flows
  · simp only [onRelay]
    split
    · rename_i waiting
      exact .inr (.inl ⟨node, waiting, rfl⟩)
    · exact .inl rfl
  · cases op with
    | connectNode node =>
      simp only [onRelay]
      split
      · rename_i waiting
        exact .inr (.inl ⟨node, waiting, rfl⟩)
      · exact .inl rfl
    | _ => exact .inr (.inr ⟨flows, rfl⟩)

variable {node : String}

theorem connectingNode_allowed {registry : Option (PeerId → List String)} {metadata : Metadata} {auth : NodeTokenAuth}
    (success : connectingNode ⟨registry, some auth⟩ metadata = .ok node) :
    ∀ revoked ∈ auth.revokedNodes, revoked.value ≠ node := by
  obtain ⟨configured, nodeId, _, same, rfl, allowed, _⟩ := (connectingNode_presents success).token
  cases same
  intro revoked member equal
  rw [Identifier.eq_of_value equal] at member
  exact allowed member

theorem Barred.reloads (barred : state.Barred) (auth : NodeTokenAuth)
    (spared : ∀ node ∈ auth.revokedNodes,
      node.value ∉ state.opening ∧ state.relay.connectedNodes.find node.value = none) :
    Barred { state with auth } :=
  ⟨spared, barred.owned, barred.count, barred.attended⟩

theorem Barred.admits (barred : state.Barred) (allowed : ∀ revoked ∈ state.auth.revokedNodes, revoked.value ≠ node) :
    Barred { state with opening := state.opening ++ [node] } := by
  refine ⟨?_, barred.owned, barred.count, barred.attended⟩
  intro revoked member
  obtain ⟨outside, offline⟩ := barred.barred revoked member
  refine ⟨?_, offline⟩
  intro opening
  rcases List.mem_append.mp opening with earlier | new
  · exact outside earlier
  · exact allowed revoked member (List.mem_singleton.mp new)

theorem Barred.opens (barred : state.Barred) (waiting : node ∈ state.opening) : (state.opened node).Barred := by
  have opened := connectNode_opened node barred.attended.sound
  obtain ⟨generation, connectedNodes⟩ := opened.connected
  have nodes : (Relay.step state.relay (.connectNode node)).connectedNodes =
      state.relay.connectedNodes.put (node, ⟨generation, state.relay.streamCount⟩) := connectedNodes
  refine ⟨?_, ?_, ?_, ?_⟩
  · intro revoked member
    obtain ⟨outside, offline⟩ := barred.barred revoked member
    have different : revoked.value ≠ node := by
      intro same
      rw [same] at outside
      exact outside waiting
    refine ⟨fun still => outside (List.mem_of_mem_erase still), ?_⟩
    show (Relay.step state.relay (.connectNode node)).connectedNodes.find revoked.value = none
    rw [nodes, Table.find_put_ne state.relay.connectedNodes _ different]
    exact offline
  · intro other connected found
    change (Relay.step state.relay (.connectNode node)).connectedNodes.find other = _ at found
    show (state.owners ++ [node])[connected.sender]? = some other
    rw [nodes] at found
    by_cases same : other = node
    · subst same
      rw [Table.find_put_self state.relay.connectedNodes (other, ⟨generation, state.relay.streamCount⟩)] at found
      cases found
      rw [← barred.count, List.getElem?_append_right (Nat.le_refl _), Nat.sub_self]
      rfl
    · rw [Table.find_put_ne state.relay.connectedNodes _ same] at found
      have earlier := barred.owned other connected found
      obtain ⟨inside, _⟩ := List.getElem?_eq_some_iff.mp earlier
      rw [List.getElem?_append_left inside]
      exact earlier
  · have count : (Relay.step state.relay (.connectNode node)).streamCount = state.relay.streamCount + 1 := opened.count
    show (state.owners ++ [node]).length = (Relay.step state.relay (.connectNode node)).streamCount
    rw [count, List.length_append, List.length_singleton, barred.count]
  · exact step_attended barred.attended (.connectNode node)

theorem Barred.relays {after : PeerState} (barred : state.Barred)
    (connected : ∀ node row, after.connectedNodes.find node = some row →
      state.relay.connectedNodes.find node = some row)
    (count : after.streamCount = state.relay.streamCount) (attended : after.Attended) :
    Barred { state with relay := after } := by
  refine ⟨?_, ?_, ?_, attended⟩
  · intro revoked member
    obtain ⟨outside, offline⟩ := barred.barred revoked member
    refine ⟨outside, ?_⟩
    cases found : after.connectedNodes.find revoked.value with
    | none => rfl
    | some row =>
      have earlier := connected _ row found
      rw [offline] at earlier
      cases earlier
  · intro node row found
    exact barred.owned node row (connected _ _ found)
  · rw [count]
    exact barred.count

theorem flows_connected {before after : PeerState} {admitted : Option (String × RelayFrame)}
    (flows : Flows before admitted after) :
    (∀ node row, after.connectedNodes.find node = some row → before.connectedNodes.find node = some row) ∧
      after.streamCount = before.streamCount := by
  cases admitted with
  | none => exact ⟨Eased.connected flows, Eased.count flows⟩
  | some arrival => exact ⟨fun _ _ found => Arrives.connected flows found, Arrives.count flows⟩

theorem flows_grows {before after : PeerState} {admitted : Option (String × RelayFrame)} {number : Nat}
    (flows : Flows before admitted after) (grown : (after.streams number).sent ≠ (before.streams number).sent) :
    ∃ target connected, before.connectedNodes.find target = some (target, connected) ∧ connected.sender = number := by
  cases admitted with
  | none =>
    rcases Eased.streams flows number with same | ⟨_, target, connected, found, sender, _⟩
    · exact absurd same grown
    · exact ⟨target, connected, found, sender⟩
  | some arrival =>
    rcases Arrives.said flows number with same | ⟨connected, found, sender, _⟩
    · exact absurd same grown
    · exact ⟨_, connected, found, sender⟩

theorem step_barred {event : GuardedEvent} (barred : state.Barred) (spared : state.Spares event) :
    (state.step event).Barred := by
  cases event with
  | reload tokenFile config => exact barred.reloads _ spared
  | authenticate registry metadata =>
    simp only [step]
    split
    · rename_i node success
      exact barred.admits (connectingNode_allowed success)
    · exact barred
  | relay op =>
    show (state.onRelay op).Barred
    rcases onRelay_cases state op with same | ⟨node, waiting, same⟩ | ⟨flows, same⟩
    · rw [same]
      exact barred
    · rw [same]
      exact barred.opens waiting
    · rw [same]
      obtain ⟨connected, count⟩ := flows_connected flows
      exact barred.relays connected count (step_attended barred.attended op)

theorem Receives.grows {before after : GuardedState} {frame : RelayFrame}
    (receives : Receives before after node frame) :
    ∃ number, after.owners[number]? = some node ∧
      (after.relay.streams number).sent ≠ (before.relay.streams number).sent := by
  obtain ⟨number, items, owner, grown, member⟩ := receives
  refine ⟨number, owner, ?_⟩
  intro same
  rw [same] at grown
  rw [List.self_eq_append_right.mp grown] at member
  cases member

theorem Barred.silent {event : GuardedEvent} {node : NodeId} {frame : RelayFrame} (barred : state.Barred)
    (revoked : node ∈ state.auth.revokedNodes) : ¬ Receives state (state.step event) node.value frame := by
  intro receives
  obtain ⟨number, owner, grown⟩ := receives.grows
  obtain ⟨outside, offline⟩ := barred.barred node revoked
  cases event with
  | reload tokenFile config => exact grown rfl
  | authenticate registry metadata =>
    simp only [step] at grown
    split at grown
    · exact grown rfl
    · exact grown rfl
  | relay op =>
    change (state.onRelay op).owners[number]? = some node.value at owner
    change ((state.onRelay op).relay.streams number).sent ≠ _ at grown
    rcases onRelay_cases state op with same | ⟨other, waiting, same⟩ | ⟨flows, same⟩
    · rw [same] at grown
      exact grown rfl
    · rw [same] at owner grown
      by_cases new : number = state.relay.streamCount
      · change (state.owners ++ [other])[number]? = some node.value at owner
        rw [new, ← barred.count, List.getElem?_append_right (Nat.le_refl _), Nat.sub_self] at owner
        cases owner
        exact outside waiting
      · have others := (connectNode_opened other barred.attended.sound).others number new
        exact grown (congrArg Channel.sent others)
    · rw [same] at owner grown
      obtain ⟨target, connected, found, rfl⟩ := flows_grows flows grown
      have user := barred.owned target connected found
      change state.owners[connected.sender]? = some node.value at owner
      rw [owner] at user
      cases user
      rw [offline] at found
      cases found

end GuardedState

/-- Where every reload revokes only nodes without a stream, a node receives nothing while it is revoked. -/
theorem revoked_nodes_stop_receiving (auth : NodeTokenAuth) (events : List GuardedEvent)
    (spared : Run.Along GuardedState.step GuardedState.Spares (.start auth) events) :
    ∀ passed event rest, events = passed ++ event :: rest →
      ∀ node ∈ (Run.run GuardedState.step (.start auth) passed).auth.revokedNodes, ∀ frame,
        ¬ GuardedState.Receives (Run.run GuardedState.step (.start auth) passed)
          (Run.run GuardedState.step (.start auth) (passed ++ [event])) node.value frame := by
  intro passed event rest split node revoked frame
  rw [split] at spared
  have barred := Run.invariant (fun _ _ barred spared => GuardedState.step_barred barred spared)
    (GuardedState.start_barred auth) (Run.along_append.mp spared).1
  rw [Run.run_append]
  exact barred.silent revoked

def sampleAuth : NodeTokenAuth := ⟨Table.empty.put (sampleNode, "token-0123456789"), []⟩

def openSampleStream : List GuardedEvent :=
  [.authenticate none ⟨some (.text "edge"), some (.text "token-0123456789")⟩, .relay (.connectNode "edge")]

def publishSampleTask : RelayOp :=
  .publishTaskFrame "origin" "edge" "task-1" publishedSample publishedSample taskFrame ⟨"relay-frame-1", 5⟩

/-- The node is revoked, and the task that is published next is still sent to it. -/
theorem revoked_node_still_receives :
    ¬ ∀ (auth : NodeTokenAuth) (first rest : List GuardedEvent) (tokenFile : String → Except String NodeTokenFile)
      (config : SecurityConfig) (op : RelayOp) (node : NodeId) (frame : RelayFrame),
      node ∈ (Run.run GuardedState.step (.start auth) (first ++ [.reload tokenFile config])).auth.revokedNodes →
      node ∈ (Run.run GuardedState.step (.start auth) (first ++ .reload tokenFile config :: rest)).auth.revokedNodes →
      ¬ GuardedState.Receives
        (Run.run GuardedState.step (.start auth) (first ++ .reload tokenFile config :: rest))
        (Run.run GuardedState.step (.start auth) (first ++ .reload tokenFile config :: rest ++ [.relay op]))
        node.value frame := by
  intro never
  refine never sampleAuth openSampleStream [] sampleTokenFile revokedSample publishSampleTask sampleNode taskFrame
    (by decide) (by decide) ⟨0, [.ok taskFrame], rfl, rfl, List.mem_singleton_self _⟩

def revokeAfterStream : List GuardedEvent :=
  openSampleStream ++ [.relay (.disconnectNode "edge"), .reload sampleTokenFile revokedSample]

theorem revokeAfterStream_spares :
    Run.Along GuardedState.step GuardedState.Spares (.start sampleAuth)
      (revokeAfterStream ++ [.relay publishSampleTask]) := by
  have spares : ∀ node ∈ (revokedSample.reloadNodeTokenAuth sampleTokenFile sampleAuth).2.revokedNodes,
      node.value ∉ (Run.run GuardedState.step (.start sampleAuth)
        (openSampleStream ++ [.relay (.disconnectNode "edge")])).opening ∧
      (Run.run GuardedState.step (.start sampleAuth)
        (openSampleStream ++ [.relay (.disconnectNode "edge")])).relay.connectedNodes.find node.value = none := by
    decide
  exact ⟨trivial, trivial, trivial, spares, trivial, trivial⟩

/-- The task that is published then waits in the mailbox. -/
theorem disconnected_node_silent :
    Run.Along GuardedState.step GuardedState.Spares (.start sampleAuth)
        (revokeAfterStream ++ [.relay publishSampleTask]) ∧
      ∀ frame, ¬ GuardedState.Receives (Run.run GuardedState.step (.start sampleAuth) revokeAfterStream)
        (Run.run GuardedState.step (.start sampleAuth) (revokeAfterStream ++ [.relay publishSampleTask])) "edge" frame :=
  ⟨revokeAfterStream_spares,
    revoked_nodes_stop_receiving sampleAuth _ revokeAfterStream_spares revokeAfterStream _ [] rfl sampleNode (by decide)⟩

end Keryx.Relay
