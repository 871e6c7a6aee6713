import Faucet.Model.Valve

/-! # Gauges

`update_metrics` exports each VLAN's host, ban and neighbour counts and, for each of its ports,
the port's ban count, its host count on the VLAN, and one `learned_macs` series per learned host,
indexed in sorted order. `_port_highwater` remembers how many indices were last written, so that
indices no longer used are zeroed.
-/

namespace Faucet

/-- Modelled from the spec: `port.hosts(vlans=[vlan])` (in `port.py`), the VLAN's cached hosts
on the port. -/
def portVlanHosts (vlanDyn : VlanDyn) (portNo : PortNo) : List HostCacheEntry :=
  vlanDyn.hostCache.filter (·.port = portNo)

/-- `sorted(hosts)` by `HostCacheEntry.__lt__` (a parameter: `vlan.py` is not part of the
repository), as the stable insertion sort. -/
def sortHosts (lt : HostCacheEntry → HostCacheEntry → Bool) (hosts : List HostCacheEntry) :
    List HostCacheEntry :=
  hosts.insertionSort fun a b => !lt b a

namespace Valve

/-- `_update_vlan(vlan, now, rate_limited)`: export the VLAN's counts, unless rate limited
within `metrics_rate_limit_sec` of the last export; whether it exported. -/
def updateVlan (v : Valve) (vlan : VlanConfig) (now : Time) (rateLimited : Bool) : Valve × Bool :=
  let vlanDyn := v.dyn.vlan vlan.vid
  if truthyTime vlanDyn.dynLastUpdatedMetricsSec ∧ rateLimited = true ∧
      vlanDyn.dynLastUpdatedMetricsSec.any (now - · < v.dp.metricsRateLimitSec) then (v, false)
  else
    let counts := (v.setVar (.vlanHostsLearned vlan.vid) vlanDyn.hostCache.length).setVar
      (.vlanLearnBans vlan.vid) vlanDyn.dynLearnBanCount
    (vlan.ipvs.foldl (fun v ipv => v.setVar (.vlanNeighbors vlan.vid ipv)
      (vlanDyn.neighCacheCount ipv)) counts, true)

/-- Zero `learned_macs{n=i}` of a port on a VLAN for each index `i` of `indices`. -/
def zeroLearnedMacs (v : Valve) (portNo : PortNo) (vid : Vid) (indices : List ℕ) : Valve :=
  indices.foldl (fun v i => v.setVar (.learnedMacs portNo vid i) 0) v

/-- Set `learned_macs{n=i}` of a port on a VLAN to the `i`-th host of `hosts`. -/
def writeLearnedMacs (v : Valve) (portNo : PortNo) (vid : Vid) (hosts : List HostCacheEntry) :
    Valve :=
  hosts.enum.foldl (fun v entry => v.setVar (.learnedMacs portNo vid entry.1) entry.2.ethSrcInt) v

/-- `_update_port(vlan, port)`: export the port's counts and, when its hosts on the VLAN may have
changed, zero the indices from the new host count up to the high water, then write each host in
sorted order and mark the port's stats fresh. -/
def updatePort (v : Valve) (lt : HostCacheEntry → HostCacheEntry → Bool) (vlan : VlanConfig)
    (port : PortConfig) : Valve :=
  let vlanDyn := v.dyn.vlan vlan.vid
  let hosts := portVlanHosts vlanDyn port.number
  let counts := (v.setVar (.portLearnBans port.number) (v.dyn.port port.number).dynLearnBanCount).setVar
    (.portVlanHostsLearned port.number vlan.vid) hosts.length
  let highwater := v.portHighwater vlan.vid port.number
  let statsStale := (vlanDyn.hostCacheStatsStale port.number).getD true
  if highwater = hosts.length ∧ statsStale = false then counts
  else
    let zeroed := if highwater > hosts.length then
        counts.zeroLearnedMacs port.number vlan.vid
          (List.range' hosts.length (highwater + 1 - hosts.length))
      else counts
    let marked := { zeroed with
      portHighwater := Function.update zeroed.portHighwater vlan.vid
        (Function.update (zeroed.portHighwater vlan.vid) port.number hosts.length) }
    let written := marked.writeLearnedMacs port.number vlan.vid (sortHosts lt hosts)
    { written with dyn := written.dyn.setVlan vlan.vid { written.dyn.vlan vlan.vid with
      hostCacheStatsStale := Function.update (written.dyn.vlan vlan.vid).hostCacheStatsStale
        port.number (some false) } }

/-- Modelled from the spec: a change of a VLAN's host cache by the host manager (in
`valve_host.py`), which replaces the cached hosts and marks stale the stats of the ports it names. -/
def hostsChanged (v : Valve) (vid : Vid) (hostCache : List HostCacheEntry) (marked : List PortNo) :
    Valve :=
  { v with dyn := v.dyn.setVlan vid { v.dyn.vlan vid with
    hostCache := hostCache
    hostCacheStatsStale := fun portNo =>
      if portNo ∈ marked then some true else (v.dyn.vlan vid).hostCacheStatsStale portNo } }

/-- Record the time of a VLAN's last export. -/
def setLastUpdatedMetrics (v : Valve) (vid : Vid) (now : Time) : Valve :=
  { v with dyn := v.dyn.setVlan vid { v.dyn.vlan vid with dynLastUpdatedMetricsSec := some now } }

/-- `update_metrics(now, updated_port, rate_limited)`; also returns the (VID, port) pairs
`_update_port` ran on, in order. -/
def updateMetrics (v : Valve) (lt : HostCacheEntry → HostCacheEntry → Bool) (now : Time)
    (updatedPort : Option PortConfig) (rateLimited : Bool) : Valve × List (Vid × PortNo) :=
  match updatedPort with
  | some port =>
    (port.vlans.filterMap v.dp.vlan?).foldl (fun (acc : Valve × List (Vid × PortNo)) vlan =>
      let exported := acc.1.updateVlan vlan now rateLimited
      if exported.2 then
        ((exported.1.updatePort lt vlan port).setLastUpdatedMetrics vlan.vid now,
          acc.2 ++ [(vlan.vid, port.number)])
      else (exported.1, acc.2)) (v, [])
  | none =>
    v.dp.vlans.foldl (fun (acc : Valve × List (Vid × PortNo)) vlan =>
      let exported := acc.1.updateVlan vlan now rateLimited
      if exported.2 then
        let ports := vlan.ports.filterMap exported.1.dp.port?
        ((ports.foldl (fun v port => v.updatePort lt vlan port) exported.1).setLastUpdatedMetrics
            vlan.vid now,
          acc.2 ++ ports.map fun port => (vlan.vid, port.number))
      else (exported.1, acc.2)) (v, [])

end Valve

end Faucet
