import Mathlib.Data.Rat.Defs
import Mathlib.Data.List.Nodup

/-! # OpenFlow messages as a Valve emits them

A Valve answers every event with a list of OpenFlow messages per Valve. The messages it builds
itself (`flowmod`, `flowdel`, `flowdrop`, `flowcontroller` on a named table, and packet-outs)
keep the table, match, priority and instructions `valve.py` gives them. Messages returned by a
manager or a helper module outside `valve.py` are one opaque `ext` entry naming the call, the
Valve whose manager answered, and its arguments: the order of those entries is the order of
the calls.
-/

namespace Faucet

/-- Epoch time in seconds. The code's floats are taken as exact rationals. -/
abbrev Time := ℚ

abbrev PortNo := ℕ
abbrev Vid := ℕ
abbrev DpId := ℕ
/-- An Ethernet address as its 48-bit integer. -/
abbrev Mac := ℕ

/-- `ether.ETH_TYPE_LLDP`. -/
def ethTypeLldp : ℕ := 0x88cc
/-- `ether.ETH_TYPE_SLOW`, the slow protocols (LACP) type. -/
def ethTypeSlow : ℕ := 0x8809
/-- `valve_packet.LLDP_MAC_NEAREST_BRIDGE`, 01:80:c2:00:00:0e. -/
def lldpMacNearestBridge : Mac := 0x0180c200000e
/-- `valve_packet.BRIDGE_GROUP_MASK`, ff:ff:ff:ff:ff:f0. -/
def bridgeGroupMask : Mac := 0xfffffffffff0
/-- `valve_packet.SLOW_PROTOCOL_MULTICAST`, 01:80:c2:00:00:02. -/
def slowProtocolMulticast : Mac := 0x0180c2000002
/-- `valve_packet.LACP_SIZE`, the bytes of an LACP PDU a packet-in carries. -/
def lacpSize : ℕ := 124

/-- `ofp.OFPPR_ADD`, `ofp.OFPPR_DELETE` and `ofp.OFPPR_MODIFY`: the reasons of a port-status
message in OpenFlow 1.3. -/
def ofpprAdd : ℕ := 0
def ofpprDelete : ℕ := 1
def ofpprModify : ℕ := 2
/-- `ofp.OFPR_ACTION`: a packet-in sent by an output-to-controller action. -/
def ofprAction : ℕ := 1

/-- The tables `valve.py` names: `self.dp.tables[name]`, `self.dp.classification_table()`,
or `valve_table.wildcard_table`. -/
inductive Table where
  | named (name : String)
  | classification
  | wildcard
deriving DecidableEq, Repr

/-- `self.dp.tables['vlan']`. -/
abbrev Table.vlan : Table := .named "vlan"
/-- `self.dp.tables['copro']`. -/
abbrev Table.copro : Table := .named "copro"
/-- `self.dp.tables['vlan_acl']`. -/
abbrev Table.vlanAcl : Table := .named "vlan_acl"

/-- The VLAN field of a match: `NullVLAN()` (untagged) or a VLAN. -/
inductive VlanMatch where
  | null
  | vid (vid : Vid)
deriving DecidableEq, Repr

/-- The match fields `valve.py` sets. -/
structure Match where
  inPort : Option PortNo := none
  vlan : Option VlanMatch := none
  ethType : Option ℕ := none
  ethDst : Option Mac := none
  ethDstMask : Option Mac := none
deriving DecidableEq, Repr

inductive Action where
  | output (port : PortNo)
  /-- `valve_of.push_vlan_act(vlan_table, vid)`. -/
  | pushVlan (vid : Vid)
  | popVlan
  | setExternalForwardingRequested
  | setNoExternalForwardingRequested
deriving DecidableEq, Repr

inductive Inst where
  | applyActions (actions : List Action)
  | goto (table : Table)
  /-- `table.goto_miss(miss_table)`. -/
  | gotoMiss (table : Table)
  /-- `self.pipeline.accept_to_classification()`. -/
  | acceptToClassification
deriving DecidableEq, Repr

/-- The managers `_get_managers` yields, in its order. -/
inductive Manager where
  | pipeline
  | host
  | route (ipv : ℕ)
  | flood
  | acl
deriving DecidableEq, Repr

/-- A call outside `valve.py` whose returned messages a Valve passes on. -/
inductive ExtCall where
  | initialiseTables (manager : Manager)
  | addPort (manager : Manager) (port : PortNo)
  | delPort (manager : Manager) (port : PortNo)
  | addVlan (manager : Manager) (vid : Vid)
  /-- `flood_manager.update_vlan(vlan)`, also with `None` for a port without a native VLAN. -/
  | floodUpdateVlan (vid : Option Vid)
  | aclCreateTunnel
  | aclColdStartPort (port : PortNo)
  | expirePortNexthops (ipv : ℕ) (port : PortNo)
  /-- `host_manager.expire_hosts_from_vlan(vlan, now)`, and unless `dp.idle_dst` the deletion
  of each expired host. -/
  | expireHostsFromVlan (vid : Vid) (deleteHosts : Bool)
  | resolveExpireHosts (ipv : ℕ) (vid : Vid)
  /-- What the route manager of an IP version returned for `advertise(vlan)`. -/
  | routeAdvertise (ipv : ℕ) (vid : Vid)
  | groupsDeleteAll
  | dot1xNfvSwPortUp
  | dot1xPortUp (port : PortNo)
  | dot1xPortDown (port : PortNo)
deriving DecidableEq, Repr

/-- An LACP PDU as `valve_packet.parse_lacp_pkt` returns it; `str` of two PDUs is equal
exactly when their fields are. -/
structure LacpPdu where
  actorSystem : Mac
  actorKey : ℕ
  actorPort : ℕ
  actorSystemPriority : ℕ
  actorPortPriority : ℕ
  actorStateDefaulted : ℕ
  actorStateExpired : ℕ
  actorStateTimeout : ℕ
  actorStateCollecting : ℕ
  actorStateDistributing : ℕ
  actorStateAggregation : ℕ
  actorStateSynchronization : ℕ
  actorStateActivity : ℕ
deriving DecidableEq, Repr

/-- The packets a Valve builds for a packet-out. -/
inductive Packet where
  /-- `valve_packet.lacp_reqreply`: our LAG and port, our actor state bits, and the partner
  fields copied from the PDU being answered, if any. -/
  | lacpReqreply (lag : ℕ) (port : PortNo) (activity collecting distributing : Bool)
      (partner : Option LacpPdu)
  /-- `valve_packet.lldp_beacon` on a port with the given TTL. -/
  | lldpBeacon (port : PortNo) (ttl : Time)
deriving DecidableEq, Repr

inductive OfMsg where
  | flowmod (table : Table) (fields : Match) (priority : ℕ) (inst : List Inst)
  | flowdel (table : Table) (fields : Match) (priority : Option ℕ) (strict : Bool)
  | flowdrop (table : Table) (fields : Match) (priority : ℕ)
  | flowcontroller (table : Table) (fields : Match) (priority : ℕ) (maxLen : ℕ)
  | packetout (port : PortNo) (pkt : Packet)
  /-- `valve_of.table_features`, carrying `str` of each table's features. -/
  | tableFeatures (body : List String)
  /-- `valve_of.faucet_async`. -/
  | faucetAsync (packetIn portStatus notifyFlowRemoved : Bool)
  | meterdel
  /-- A configured meter's `entry_msg`. -/
  | meterEntry (meter : ℕ)
  | controllerPpsMeterdel
  | controllerPpsMeteradd (pps : ℕ)
  /-- What `call` on the managers of the Valve of `valve` returned. -/
  | ext (valve : DpId) (call : ExtCall)
deriving DecidableEq, Repr

/-- A `defaultdict(list)`, in insertion order. -/
abbrev DefaultList (κ α : Type) := List (κ × List α)

/-- `d[key].extend(items)`: reading the key creates it, even for no items. -/
def DefaultList.extend {κ α : Type} [DecidableEq κ] (d : DefaultList κ α) (key : κ)
    (items : List α) : DefaultList κ α :=
  if d.any (·.1 = key) then
    d.map fun entry => if entry.1 = key then (entry.1, entry.2 ++ items) else entry
  else d ++ [(key, items)]

/-- The messages of an event for each Valve, `ofmsgs_by_valve`. -/
abbrev OfmsgsByValve := DefaultList DpId OfMsg

namespace DefaultList

variable {κ α : Type} [DecidableEq κ] {d : DefaultList κ α} {key : κ}

/-- Extending a key not yet in the map adds it last. -/
theorem extend_fresh (fresh : key ∉ d.map (·.1)) (items : List α) :
    d.extend key items = d ++ [(key, items)] := by
  rw [extend, if_neg]
  simpa using fun items mem => fresh (List.mem_map.mpr ⟨(key, items), mem, rfl⟩)

/-- Extending the key added last appends to its items. -/
theorem extend_last (fresh : key ∉ d.map (·.1)) (first more : List α) :
    (d ++ [(key, first)]).extend key more = d ++ [(key, first ++ more)] := by
  rw [extend, if_pos (by simp), List.map_append]
  congr 1
  · exact (List.map_congr_left fun entry mem =>
      if_neg fun same => fresh (List.mem_map.mpr ⟨entry, mem, same⟩)).trans (List.map_id _)
  · simp

/-- A loop of extensions of the key added last appends all their items. -/
theorem foldl_extend_last {β : Type} (fresh : key ∉ d.map (·.1)) (f : β → List α) :
    ∀ (items : List β) (first : List α),
      items.foldl (fun acc item => acc.extend key (f item)) (d ++ [(key, first)]) =
        d ++ [(key, first ++ items.flatMap f)]
  | [], first => by simp
  | item :: items, first => by
    rw [List.foldl_cons, extend_last fresh, foldl_extend_last fresh f items, List.flatMap_cons,
      List.append_assoc]

/-- Extending adds its items to the values, and nothing else. -/
theorem mem_extend {x : α} (items : List α) :
    x ∈ (d.extend key items).flatMap (·.2) ↔ x ∈ d.flatMap (·.2) ∨ x ∈ items := by
  unfold extend
  split
  · rename_i present
    obtain ⟨entry, mem, same⟩ := List.any_eq_true.mp present
    simp only [List.mem_flatMap, List.mem_map]
    constructor
    · rintro ⟨_, ⟨e, memE, rfl⟩, memX⟩
      split at memX
      · rcases List.mem_append.mp memX with memX | memX
        · exact .inl ⟨e, memE, memX⟩
        · exact .inr memX
      · exact .inl ⟨e, memE, memX⟩
    · rintro (⟨e, memE, memX⟩ | memX)
      · refine ⟨_, ⟨e, memE, rfl⟩, ?_⟩
        split <;> simp [memX]
      · refine ⟨_, ⟨entry, mem, rfl⟩, ?_⟩
        simp_all
  · simp [or_comm]

/-- Extending at the first key, when no later entry has it, appends to that entry. -/
theorem extend_cons_self {ys : List α} {rest : DefaultList κ α} (fresh : key ∉ rest.map (·.1))
    (items : List α) :
    extend ((key, ys) :: rest) key items = (key, ys ++ items) :: rest := by
  rw [extend, if_pos (by simp), List.map_cons, if_pos rfl]
  congr 1
  exact (List.map_congr_left fun entry mem =>
    if_neg fun same => fresh (List.mem_map.mpr ⟨entry, mem, same⟩)).trans (List.map_id _)

/-- Extending at another key than the first entry's leaves that entry. -/
theorem extend_cons_ne {other : κ} {ys : List α} {rest : DefaultList κ α} (ne : other ≠ key)
    (items : List α) :
    extend ((other, ys) :: rest) key items = (other, ys) :: rest.extend key items := by
  unfold extend
  by_cases present : rest.any (·.1 = key) <;> simp [present, ne]

/-- Extending adds the key once, if it is new. -/
theorem keys_extend (items : List α) :
    (d.extend key items).map (·.1) = if key ∈ d.map (·.1) then d.map (·.1) else d.map (·.1) ++ [key] := by
  unfold extend
  split
  · rename_i present
    rw [if_pos (by simpa using present), List.map_map]
    exact List.map_congr_left fun entry _ => by dsimp only [Function.comp]; split <;> rfl
  · rename_i absent
    rw [if_neg (by simpa using absent)]
    simp

theorem mem_keys_extend {other : κ} (items : List α) :
    other ∈ (d.extend key items).map (·.1) ↔ other ∈ d.map (·.1) ∨ other = key := by
  rw [keys_extend]
  split
  · exact ⟨.inl, fun mem => mem.elim id fun same => same ▸ ‹_›⟩
  · simp

/-- With its keys distinct, extending adds the items to the values up to order. -/
theorem flatMap_extend_perm (items : List α) :
    ∀ d : DefaultList κ α, (d.map (·.1)).Nodup →
      List.Perm ((d.extend key items).flatMap (·.2)) (d.flatMap (·.2) ++ items)
  | [], _ => by simp [extend]
  | (other, ys) :: rest, distinct => by
    rw [List.map_cons, List.nodup_cons] at distinct
    by_cases here : other = key
    · subst here
      rw [extend_cons_self distinct.1]
      simp only [List.flatMap_cons, List.append_assoc]
      exact (List.perm_append_left_iff _).mpr List.perm_append_comm
    · rw [extend_cons_ne here]
      simp only [List.flatMap_cons, List.append_assoc]
      exact (List.perm_append_left_iff _).mpr (flatMap_extend_perm items rest distinct.2)

theorem keys_nodup_extend (distinct : (d.map (·.1)).Nodup) (items : List α) :
    ((d.extend key items).map (·.1)).Nodup := by
  rw [keys_extend]
  split
  · exact distinct
  · exact distinct.append (List.nodup_singleton key) (List.disjoint_singleton.mpr ‹_›)

/-- Grouping a list into a defaultdict, `for x in xs: if p(x): d[key(x)].append(x)`, keeps the
keys distinct and adds the selected elements to the values, up to order. -/
theorem foldl_group_perm {β : Type} (group : β → κ) (p : β → Prop) [DecidablePred p] :
    ∀ (xs : List β) (d : DefaultList κ β), (d.map (·.1)).Nodup →
      let grouped := xs.foldl (fun d x => if p x then d.extend (group x) [x] else d) d
      (grouped.map (·.1)).Nodup ∧
        List.Perm (grouped.flatMap (·.2)) (d.flatMap (·.2) ++ xs.filter p)
  | [], d, distinct => ⟨distinct, by simp⟩
  | x :: xs, d, distinct => by
    dsimp only
    rw [List.foldl_cons]
    split
    · rename_i selected
      obtain ⟨keys, perm⟩ := foldl_group_perm group p xs _ (keys_nodup_extend distinct [x])
      refine ⟨keys, perm.trans ?_⟩
      rw [List.filter_cons_of_pos (by simpa using selected)]
      exact ((flatMap_extend_perm [x] d distinct).append_right _).trans (by simp)
    · rename_i skipped
      rw [List.filter_cons_of_neg (by simpa using skipped)]
      exact foldl_group_perm group p xs d distinct

end DefaultList

end Faucet
