import Faucet.Model.Valve

/-! # Advertising and gateway resolution

`advertise` and `resolve_gateways` ask every route manager, IPv4 before IPv6, for its messages
on every VLAN in turn. `advertise` does so at most once per `advertise_interval`, timed by
`_last_advertise_sec` as `fast_advertise` is by `_last_fast_advertise_sec`; `resolve_gateways`
only while the DP runs. What a route manager answers is not part of the repository, and may be
no message at all (an IPv4 route manager advertises nothing). Both answer for this Valve only,
and with no entry when nothing is sent.
-/

namespace Faucet

/-- What the route manager of an IP version (`valve_route.py`, not part of the repository)
answers for a VLAN, from the Valve's state: `route_manager.advertise(vlan)`, or
`route_manager.resolve_gateways(vlan, now)`. It may be no message. -/
abbrev RouteAnswer := ℕ → Valve → VlanConfig → List OfMsg

namespace Valve

/-- The answers of every route manager on every VLAN, route managers outermost. -/
def routeManagerCalls (v : Valve) (answer : RouteAnswer) : List OfMsg :=
  v.dp.routeIpvs.flatMap fun ipv => v.dp.vlans.flatMap (answer ipv v)

/-- `advertise(now)`: once per `advertise_interval`, each route manager's advertisement on each
VLAN. -/
def advertise (v : Valve) (routeAdvertise : RouteAnswer) (now : Time) : Valve × OfmsgsByValve :=
  if v.dp.advertiseInterval = 0 ∨ now - v.lastAdvertiseSec < v.dp.advertiseInterval then (v, [])
  else
    let v := { v with lastAdvertiseSec := now }
    let ofmsgs := v.routeManagerCalls routeAdvertise
    if ofmsgs = [] then (v, []) else (v, [(v.dp.dpId, ofmsgs)])

/-- `resolve_gateways(now)`: while the DP runs, each route manager's resolution of the gateways
of each VLAN. -/
def resolveGateways (v : Valve) (routeResolveGateways : Time → RouteAnswer) (now : Time) :
    OfmsgsByValve :=
  let ofmsgs := if v.dyn.dynRunning then v.routeManagerCalls (routeResolveGateways now) else []
  if ofmsgs = [] then [] else [(v.dp.dpId, ofmsgs)]

end Valve

end Faucet
