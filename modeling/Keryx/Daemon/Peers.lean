import Keryx.Daemon.Routing

/-! The peers a daemon knows: those connected to it, those the relay can reach, and itself. -/

namespace Keryx.Daemon
open Keryx.Core Relational

structure PeerInfo where
  peerId : PeerId
  connected : Bool
  isLocal : Bool
deriving DecidableEq

namespace PeerDirectory

def new (localPeerId : PeerId) : PeerDirectory := ⟨localPeerId, [], []⟩

def setMember (peers : List String) (peerId : PeerId) (member : Bool) : List String :=
  if member then peers.insert peerId.value else peers.erase peerId.value

def setConnectedPeer (peerId : PeerId) (connected : Bool) (peers : PeerDirectory) : PeerDirectory :=
  { peers with connectedPeers := setMember peers.connectedPeers peerId connected }

def setRoutablePeer (peerId : PeerId) (routable : Bool) (peers : PeerDirectory) : PeerDirectory :=
  { peers with relayRoutablePeers := setMember peers.relayRoutablePeers peerId routable }

def setRegisteredPeer (peers : PeerDirectory) (registered : String) : PeerDirectory :=
  match validateIdentifier .peerId (trim registered) with
  | .ok peerId => peers.setRoutablePeer peerId true
  | .error _ => peers

/-- Discovered peers can be reached over the relay, if there is one. -/
def discoverSkills (relayEndpoint : Option String) (registrations : List String) (peers : PeerDirectory) :
    PeerDirectory :=
  if relayEndpoint.isSome then registrations.foldl setRegisteredPeer peers else peers

def entry (connected : Bool) (value : String) : Option PeerInfo :=
  match validateIdentifier .peerId value with
  | .ok peerId => some ⟨peerId, connected, false⟩
  | .error _ => none

/-- The sets come in some order. -/
def listPeers (localPeerId : PeerId) (connected routable : List String) : List PeerInfo :=
  let seen := connected.filter fun value => (entry true value).isSome
  let peers := connected.filterMap (entry true) ++ (routable.filter (· ∉ seen)).filterMap (entry false) ++
    [⟨localPeerId, true, true⟩]
  peers.insertionSort fun left right => left.peerId.value ≤ right.peerId.value

inductive Update where
  | connected (peerId : PeerId) (connected : Bool)
  | routable (peerId : PeerId) (routable : Bool)
  | discovered (relayEndpoint : Option String) (registrations : List String)

def update (peers : PeerDirectory) : Update → PeerDirectory
  | .connected peerId connected => peers.setConnectedPeer peerId connected
  | .routable peerId routable => peers.setRoutablePeer peerId routable
  | .discovered relayEndpoint registrations => peers.discoverSkills relayEndpoint registrations

/-- Each value is an id, and none comes twice. -/
structure Ids (values : List String) : Prop where
  valid : ∀ value ∈ values, ∃ peerId : PeerId, peerId.value = value
  distinct : values.Nodup

section
variable {values : List String}

theorem Ids.setMember (ids : Ids values) (peerId : PeerId) (member : Bool) : Ids (setMember values peerId member) := by
  unfold PeerDirectory.setMember
  split
  · refine ⟨?_, ids.distinct.insert⟩
    intro value listed
    rcases List.mem_insert_iff.mp listed with rfl | old
    · exact ⟨peerId, rfl⟩
    · exact ids.valid value old
  · exact ⟨fun value listed => ids.valid value (List.mem_of_mem_erase listed), ids.distinct.erase _⟩

theorem Ids.perm {order : List String} (ids : Ids values) (perm : order.Perm values) : Ids order :=
  ⟨fun value listed => ids.valid value (perm.mem_iff.mp listed), perm.nodup_iff.mpr ids.distinct⟩

theorem Ids.entries (ids : Ids values) (connected : Bool) :
    (values.filterMap (entry connected)).map (·.peerId.value) = values := by
  rw [List.map_filterMap]
  refine (List.filterMap_congr ?_).trans List.filterMap_some
  intro value listed
  obtain ⟨peerId, rfl⟩ := ids.valid value listed
  rw [entry, validateIdentifier_value]
  rfl

theorem entry_remote {connected : Bool} {value : String} {info : PeerInfo} (read : entry connected value = some info) :
    info.isLocal = false := by
  unfold entry at read
  split at read
  · cases read
    rfl
  · cases read

theorem Ids.seen (ids : Ids values) (connected : Bool) :
    values.filter (fun value => (entry connected value).isSome) = values := by
  refine List.filter_eq_self.mpr ?_
  intro value listed
  obtain ⟨peerId, rfl⟩ := ids.valid value listed
  rw [entry, validateIdentifier_value]
  rfl

end

structure Sound (localPeerId : PeerId) (peers : PeerDirectory) : Prop where
  self : peers.localPeerId = localPeerId
  connected : Ids peers.connectedPeers
  routable : Ids peers.relayRoutablePeers

section
variable {localPeerId : PeerId} {peers : PeerDirectory}

theorem new_sound (localPeerId : PeerId) : (new localPeerId).Sound localPeerId :=
  ⟨rfl, ⟨nofun, List.nodup_nil⟩, ⟨nofun, List.nodup_nil⟩⟩

theorem Sound.setRoutablePeer (sound : peers.Sound localPeerId) (peerId : PeerId) (routable : Bool) :
    (peers.setRoutablePeer peerId routable).Sound localPeerId :=
  ⟨sound.self, sound.connected, sound.routable.setMember peerId routable⟩

theorem Sound.setRegisteredPeer (sound : peers.Sound localPeerId) (registered : String) :
    (peers.setRegisteredPeer registered).Sound localPeerId := by
  unfold PeerDirectory.setRegisteredPeer
  split
  · exact sound.setRoutablePeer _ true
  · exact sound

theorem Sound.discoverSkills (sound : peers.Sound localPeerId) (relayEndpoint : Option String)
    (registrations : List String) : (peers.discoverSkills relayEndpoint registrations).Sound localPeerId := by
  unfold PeerDirectory.discoverSkills
  split
  · exact List.foldlRecOn registrations PeerDirectory.setRegisteredPeer sound
      fun _ kept registered _ => kept.setRegisteredPeer registered
  · exact sound

theorem run_sound (localPeerId : PeerId) (updates : List Update) :
    (Run.run update (new localPeerId) updates).Sound localPeerId := by
  refine Run.always (Sound localPeerId) ?_ (new_sound localPeerId) updates
  intro peers next sound
  cases next with
  | connected peerId connected => exact ⟨sound.self, sound.connected.setMember peerId connected, sound.routable⟩
  | routable peerId routable => exact sound.setRoutablePeer peerId routable
  | discovered relayEndpoint registrations => exact sound.discoverSkills relayEndpoint registrations

end

/-- The list of a set of peers, one of whom is the daemon itself. -/
structure Lists (localPeerId : PeerId) (connected routable : List String) (listed : List PeerInfo) : Prop where
  ascending : listed.Pairwise fun left right => left.peerId.value ≤ right.peerId.value
  once : (listed.map (·.peerId)).Nodup
  self : listed.filter (·.isLocal) = [⟨localPeerId, true, true⟩]
  complete : ∀ value, value ∈ connected ∨ value ∈ routable → ∃ info ∈ listed, info.peerId.value = value

theorem lists_iff {localPeerId : PeerId} {connected routable : List String} (connectedIds : Ids connected)
    (routableIds : Ids routable) :
    Lists localPeerId connected routable (listPeers localPeerId connected routable) ↔
      localPeerId.value ∉ connected ∧ localPeerId.value ∉ routable := by
  unfold listPeers
  simp only
  rw [connectedIds.seen]
  have others : Ids (routable.filter (· ∉ connected)) :=
    ⟨fun value listed => routableIds.valid value (List.mem_of_mem_filter listed), routableIds.distinct.filter _⟩
  generalize stored : connected.filterMap (entry true) ++ (routable.filter (· ∉ connected)).filterMap (entry false) =
    remote
  have values : remote.map (·.peerId.value) = connected ++ routable.filter (· ∉ connected) := by
    rw [← stored, List.map_append, connectedIds.entries, others.entries]
  have foreign : remote.filter (·.isLocal) = [] := by
    rw [List.filter_eq_nil_iff, ← stored]
    intro info listed
    rcases List.mem_append.mp listed with shown | shown
    all_goals
      obtain ⟨value, _, read⟩ := List.mem_filterMap.mp shown
      exact Bool.not_eq_true _ ▸ entry_remote read
  have total : Std.Total fun left right : PeerInfo => left.peerId.value ≤ right.peerId.value :=
    ⟨fun left right => le_total left.peerId.value right.peerId.value⟩
  have trans : IsTrans PeerInfo fun left right => left.peerId.value ≤ right.peerId.value := ⟨fun _ _ _ => le_trans⟩
  have sorted := List.perm_insertionSort (fun left right : PeerInfo => left.peerId.value ≤ right.peerId.value)
    (remote ++ [⟨localPeerId, true, true⟩])
  have once : ((remote ++ [(⟨localPeerId, true, true⟩ : PeerInfo)]).map (·.peerId)).Nodup ↔
      localPeerId.value ∉ connected ∧ localPeerId.value ∉ routable := by
    have disjoint : (connected ++ routable.filter (· ∉ connected)).Nodup := by
      refine connectedIds.distinct.append others.distinct ?_
      intro value shown other
      exact of_decide_eq_true (List.mem_filter.mp other).2 shown
    have injective : Function.Injective (Identifier.value : PeerId → String) := fun _ _ => Identifier.eq_of_value
    rw [← List.nodup_map_iff injective, List.map_map, List.map_append, List.perm_append_comm.nodup_iff]
    refine List.nodup_cons.trans ?_
    change localPeerId.value ∉ remote.map (·.peerId.value) ∧ (remote.map (·.peerId.value)).Nodup ↔ _
    rw [values, and_iff_left disjoint, List.mem_append, not_or, List.mem_filter, decide_eq_true_eq]
    refine and_congr_right fun absent => not_congr ?_
    exact and_iff_left absent
  constructor
  · exact fun lists => once.mp ((sorted.map _).nodup_iff.mp lists.once)
  · intro absent
    refine ⟨List.pairwise_insertionSort _ _, (sorted.map _).nodup_iff.mpr (once.mpr absent), ?_, ?_⟩
    · refine List.perm_singleton.mp ((sorted.filter _).trans ?_)
      rw [List.filter_append, foreign]
      exact .refl _
    · intro value known
      have among : value ∈ remote.map (·.peerId.value) := by
        rw [values, List.mem_append, List.mem_filter, decide_eq_true_eq]
        by_cases shown : value ∈ connected
        · exact .inl shown
        · exact .inr ⟨known.resolve_left shown, shown⟩
      obtain ⟨info, listed, same⟩ := List.mem_map.mp among
      exact ⟨info, sorted.mem_iff.mpr (List.mem_append_left _ listed), same⟩

end PeerDirectory

/-- The peers are listed as a set exactly if the daemon itself is not among those connected or routable. -/
theorem listed_peers_form_a_set (localPeerId : PeerId) (updates between : List PeerDirectory.Update)
    (connected routable : List String)
    (connectedOrder : connected.Perm
      (Run.run PeerDirectory.update (PeerDirectory.new localPeerId) updates).connectedPeers)
    (routableOrder : routable.Perm
      (Run.run PeerDirectory.update (PeerDirectory.new localPeerId) (updates ++ between)).relayRoutablePeers) :
    PeerDirectory.Lists localPeerId connected routable (PeerDirectory.listPeers localPeerId connected routable) ↔
      localPeerId.value ∉ connected ∧ localPeerId.value ∉ routable :=
  PeerDirectory.lists_iff ((PeerDirectory.run_sound localPeerId updates).connected.perm connectedOrder)
    ((PeerDirectory.run_sound localPeerId (updates ++ between)).routable.perm routableOrder)

def edgePeer : PeerId := .literal "edge" (.refl true)

/-- The daemon discovers its own registration, and lists itself twice. -/
theorem discovery_lists_the_daemon_twice :
    ((PeerDirectory.new edgePeer).update (.discovered (some "relay") ["edge"])).relayRoutablePeers = ["edge"] ∧
      PeerDirectory.listPeers edgePeer [] ["edge"] = [⟨edgePeer, false, false⟩, ⟨edgePeer, true, true⟩] := by
  decide

theorem discovered_worker_is_listed :
    PeerDirectory.Lists edgePeer [] ["worker"] (PeerDirectory.listPeers edgePeer [] ["worker"]) :=
  (listed_peers_form_a_set edgePeer [.discovered (some "relay") ["worker"]] [] [] ["worker"] (.refl _)
    (.of_eq (by decide))).mpr (by decide)

end Keryx.Daemon
