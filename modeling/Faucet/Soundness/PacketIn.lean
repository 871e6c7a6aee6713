import Faucet.Soundness.PortStatus
import Faucet.Model.PacketIn
import Mathlib.Data.List.Sort

/-! # Packet-ins: the learning rate limit and the VLAN check

`rate_limit_packet_ins` restarts its count whenever `now` differs at all from the previous call,
so a call is refused exactly when `ignore_learn_ins` divides the number of calls, counting back
from it, made at exactly its `now`. With times in whole seconds that never go back, that is the
number of calls in its second; with sub-second times, calls in one second do not share a count.

On a stacked DP, `parse_pkt_meta` accepts a packet from a non-stack port on a VLAN only when the
VLAN is among the port's tagged VLANs or is its native VLAN. The VLAN-table flows of the port
push its untagged traffic to its 802.1X VLAN when one is assigned, and that VLAN is neither: its
packets are dropped.
-/

namespace Faucet

namespace Valve

section RateLimit

variable (v : Valve) (now : Time)

@[simp] theorem rateLimitPacketIns_dp : (v.rateLimitPacketIns now).1.dp = v.dp := by
  unfold rateLimitPacketIns; dsimp only; split_ifs <;> rfl

@[simp] theorem rateLimitPacketIns_lastPacketInSec :
    (v.rateLimitPacketIns now).1.lastPacketInSec = now := by
  unfold rateLimitPacketIns; dsimp only; split_ifs <;> simp_all [incVar, setVar]

theorem rateLimitPacketIns_packetInCountSec : (v.rateLimitPacketIns now).1.packetInCountSec =
    if v.lastPacketInSec = now then v.packetInCountSec + 1 else 1 := by
  unfold rateLimitPacketIns; dsimp only; split_ifs <;> simp_all [incVar, setVar]

/-- A call is refused when `ignore_learn_ins` is set and divides the count after it. -/
theorem rateLimitPacketIns_snd : (v.rateLimitPacketIns now).2 =
    decide (v.dp.ignoreLearnIns ≠ 0 ∧
      (v.rateLimitPacketIns now).1.packetInCountSec % v.dp.ignoreLearnIns = 0) := by
  unfold rateLimitPacketIns; dsimp only; split_ifs <;> simp_all [incVar, setVar]

end RateLimit

end Valve

/-- The Valve after `rate_limit_packet_ins` at each of some times, in order. -/
def rateLimitRun (v : Valve) (nows : List Time) : Valve :=
  nows.foldl (fun v now => (v.rateLimitPacketIns now).1) v

/-- How many calls, counting back from the last, were made at exactly `now`. -/
def trailingAt (nows : List Time) (now : Time) : ℕ :=
  (nows.reverse.takeWhile (· = now)).length

@[simp] theorem rateLimitRun_dp (v : Valve) (nows : List Time) : (rateLimitRun v nows).dp = v.dp := by
  induction nows generalizing v with
  | nil => rfl
  | cons now nows ih => exact (ih _).trans (Valve.rateLimitPacketIns_dp v now)

theorem rateLimitRun_append_singleton (v : Valve) (nows : List Time) (now : Time) :
    rateLimitRun v (nows ++ [now]) = ((rateLimitRun v nows).rateLimitPacketIns now).1 := by
  simp [rateLimitRun]

theorem trailingAt_append_self (nows : List Time) (now : Time) :
    trailingAt (nows ++ [now]) now = trailingAt nows now + 1 := by
  simp [trailingAt]

theorem trailingAt_of_getLast_ne {nows : List Time} {now : Time}
    (other : ∀ last ∈ nows.getLast?, last ≠ now) : trailingAt nows now = 0 := by
  unfold trailingAt
  rw [← List.head?_reverse] at other
  cases reversed : nows.reverse with
  | nil => rfl
  | cons last _ =>
    rw [reversed] at other
    simp [other last rfl]

/-- From a zero count, after a run of calls the count is the number of calls, counting back from
the last, made at the time of the last. -/
theorem rateLimitRun_packetInCountSec (v : Valve) (start : v.packetInCountSec = 0)
    (nows : List Time) :
    (rateLimitRun v nows).packetInCountSec = trailingAt nows (rateLimitRun v nows).lastPacketInSec ∧
      ∀ last ∈ nows.getLast?, last = (rateLimitRun v nows).lastPacketInSec := by
  induction nows using List.reverseRecOn with
  | nil => exact ⟨start, by simp⟩
  | append_singleton nows now ih =>
    rw [rateLimitRun_append_singleton, Valve.rateLimitPacketIns_packetInCountSec, Valve.rateLimitPacketIns_lastPacketInSec,
      trailingAt_append_self]
    refine ⟨?_, by simp⟩
    split
    · rename_i same
      rw [ih.1, same]
    · rename_i other
      rw [trailingAt_of_getLast_ne fun last mem => (ih.2 last mem).trans_ne other]

/-- From a zero count, a call is refused exactly when `ignore_learn_ins` is set and divides the
number of calls, counting back from it, made at exactly its time. -/
theorem rateLimitRun_snd (v : Valve) (start : v.packetInCountSec = 0) (earlier : List Time)
    (now : Time) :
    ((rateLimitRun v earlier).rateLimitPacketIns now).2 =
      decide (v.dp.ignoreLearnIns ≠ 0 ∧ trailingAt (earlier ++ [now]) now % v.dp.ignoreLearnIns = 0) := by
  have counted := (rateLimitRun_packetInCountSec v start (earlier ++ [now])).1
  rw [rateLimitRun_append_singleton, Valve.rateLimitPacketIns_lastPacketInSec] at counted
  rw [Valve.rateLimitPacketIns_snd, rateLimitRun_dp, counted]

/-- After `dp_init`, `rate_limit_packet_ins(now)` refuses a packet-in exactly when
`ignore_learn_ins` is set and divides the number of calls, counting back from this one, made at
exactly this `now`; never when `ignore_learn_ins` is 0. -/
theorem rateLimitPacketIns_trailing (v : Valve) (newDp : Option DPConfig) (earlier : List Time)
    (now : Time) :
    ((rateLimitRun (v.dpInit newDp) earlier).rateLimitPacketIns now).2 =
      decide ((v.dpInit newDp).dp.ignoreLearnIns ≠ 0 ∧
        trailingAt (earlier ++ [now]) now % (v.dpInit newDp).dp.ignoreLearnIns = 0) :=
  rateLimitRun_snd _ rfl earlier now

/-- The DP of `oneVlanPortValve`, refusing every second packet-in for learning. -/
def rateValve : Valve :=
  { oneVlanPortValve with dp := { oneVlanPortValve.dp with ignoreLearnIns := 2 } }

/-- 1.5 s. -/
def oneAndAHalf : Time := ⟨3, 2, by decide, by decide⟩

/-- 1.75 s. -/
def oneAndThreeQuarters : Time := ⟨7, 4, by decide, by decide⟩

/-- Two packet-ins in the first second, at 1.5 s and 1.75 s, with `ignore_learn_ins` 2 after
`dp_init`: the second is the second call of its whole second, yet it is not refused. -/
theorem rateValve_same_second_allowed :
    Rat.floor oneAndAHalf = Rat.floor oneAndThreeQuarters ∧
      ([oneAndAHalf, oneAndThreeQuarters].filter fun t =>
        Rat.floor t = Rat.floor oneAndThreeQuarters).length % rateValve.dp.ignoreLearnIns = 0 ∧
      ((rateLimitRun (rateValve.dpInit none) [oneAndAHalf]).rateLimitPacketIns
        oneAndThreeQuarters).2 = false := by
  decide

/-- Over whole seconds that never go back, the calls counting back from the last that were made
at its time are all the calls made in its second. -/
theorem trailingAt_whole_seconds (seconds : List ℕ) (now : ℕ)
    (sorted : (seconds ++ [now]).Sorted (· ≤ ·)) :
    trailingAt ((seconds ++ [now]).map (↑)) now =
      (((seconds ++ [now]).map (↑)).filter fun t : Time => Rat.floor t = Rat.floor now).length := by
  have floor_cast : ∀ n : ℕ, Rat.floor (n : Time) = n := fun n =>
    (if_pos (Rat.den_natCast n) : Rat.floor (n : Time) = (n : Time).num).trans (Rat.num_natCast n)
  have below : ∀ t ∈ (seconds ++ [now]).reverse, t ≤ now := fun t mem => by
    rcases List.mem_append.mp (List.mem_reverse.mp mem) with mem | mem
    · exact (List.pairwise_append.mp sorted).2.2 t mem now (List.mem_singleton_self _)
    · exact (List.mem_singleton.mp mem).le
  have antitone : ((seconds ++ [now]).reverse).Sorted (· ≥ ·) := List.pairwise_reverse.mpr sorted
  suffices suffix : ∀ r : List ℕ, r.Sorted (· ≥ ·) → (∀ t ∈ r, t ≤ now) →
      r.takeWhile (· = now) = r.filter (· = now) by
    unfold trailingAt
    rw [← List.map_reverse, List.takeWhile_map, List.length_map, List.filter_map, List.length_map,
      ← List.length_reverse (List.filter _ _), ← List.filter_reverse]
    simp only [Function.comp_def, Rat.natCast_inj, floor_cast, Int.natCast_inj]
    exact congrArg List.length (suffix _ antitone below)
  intro r
  induction r with
  | nil => exact fun _ _ => rfl
  | cons t r ih =>
    intro sorted bounded
    rw [List.sorted_cons] at sorted
    by_cases here : t = now
    · simp [here, ih sorted.2 fun s mem => bounded s (List.mem_cons_of_mem _ mem)]
    · have absent : ∀ s ∈ r, s ≠ now := fun s mem => by
        have := sorted.1 s mem
        have := bounded t (List.mem_cons_self _ _)
        omega
      simpa [here] using absent

/-- After `dp_init`, over packet-ins at whole seconds that never go back, a call is refused
exactly when `ignore_learn_ins` is set and divides the number of calls so far in its second. -/
theorem rateLimitPacketIns_whole_seconds (v : Valve) (newDp : Option DPConfig)
    (seconds : List ℕ) (now : ℕ) (sorted : (seconds ++ [now]).Sorted (· ≤ ·)) :
    ((rateLimitRun (v.dpInit newDp) (seconds.map (↑))).rateLimitPacketIns now).2 =
      decide ((v.dpInit newDp).dp.ignoreLearnIns ≠ 0 ∧
        (((seconds ++ [now]).map (↑)).filter fun t : Time =>
          Rat.floor t = Rat.floor now).length % (v.dpInit newDp).dp.ignoreLearnIns = 0) := by
  rw [rateLimitRun_snd _ rfl, ← trailingAt_whole_seconds seconds now sorted, List.map_append,
    List.map_singleton]

theorem rateValve_whole_seconds :
    ((rateLimitRun (rateValve.dpInit none) (([1, 1] : List ℕ).map (↑))).rateLimitPacketIns
        ((2 : ℕ) : Time)).2 =
      decide ((rateValve.dpInit none).dp.ignoreLearnIns ≠ 0 ∧
        ((([1, 1] ++ [2] : List ℕ).map (↑)).filter fun t : Time =>
          Rat.floor t = Rat.floor ((2 : ℕ) : Time)).length %
            (rateValve.dpInit none).dp.ignoreLearnIns = 0) :=
  rateLimitPacketIns_whole_seconds rateValve none [1, 1] 2 (by decide)

/-- A packet-in from a port of the DP that passes the checks of `parse_pkt_meta` other than the
VLAN ones: a running DP, an accepted cookie, an output-action reason, a nonzero port, data whose
header parses, and a unicast, nonzero source. -/
structure PassesOtherChecks (v : Valve) (parsePacketInPkt : ParsePacketInPkt) (msg : PacketInMsg)
    (port : PortConfig) (header : EthHeader) : Prop where
  running : v.dyn.dynRunning = true
  cookie : v.dp.strictPacketInCookie = true → v.dp.cookie = msg.cookie
  reason : msg.reason = ofprAction
  inPort : msg.inPort = some port.number
  mem : port ∈ v.dp.ports
  nonzero : port.number ≠ 0
  data : msg.data ≠ []
  parsed : parsePacketInPkt msg.data = some header
  unicast : macAddrIsUnicast header.ethSrc = true
  nonzeroSrc : macAddrAllZeros header.ethSrc = false

namespace Valve

section VlanCheck

variable {v : Valve} {parsePacketInPkt : ParsePacketInPkt} {msg : PacketInMsg} {port : PortConfig}
  {header : EthHeader} {vlan : VlanConfig}

/-- A packet-in that passes the other checks, tagged with the VID of a VLAN of the DP other than
the global VLAN, is accepted on that VLAN unless the DP is stacked, the port is not a stack port,
and the VLAN is neither one of its tagged VLANs nor its native VLAN. -/
theorem parsePktMeta_tagged (checks : PassesOtherChecks v parsePacketInPkt msg port header)
    (mem : vlan ∈ v.dp.vlans) (notGlobal : vlan.vid ≠ v.dp.globalVlan)
    (tagged : header.vlanVid = some vlan.vid) :
    v.parsePktMeta parsePacketInPkt msg =
      if v.dp.stack = true ∧ port.stack = none ∧ vlan.vid ∉ port.taggedVlans ∧
          some vlan.vid ≠ port.nativeVlan then none
      else some ⟨port, some vlan, header.ethSrc, header.ethDst, header.ethType⟩ := by
  have received : v.parseRcvPacket port header =
      ⟨port, some vlan, header.ethSrc, header.ethDst, header.ethType⟩ := by
    simp [parseRcvPacket, tagged, notGlobal, v.dp.vlan?_of_mem mem]
  have known : (header.vlanVid.any fun vid => vid ∉ v.dp.vlans.map (·.vid) ∧
      vid ≠ v.dp.globalVlan) = false := by
    simp only [tagged, Option.any_some, decide_eq_false_iff_not, not_and, not_not]
    exact fun absent => absurd (List.mem_map_of_mem _ mem) absent
  have cookie : ¬(v.dp.strictPacketInCookie = true ∧ v.dp.cookie ≠ msg.cookie) :=
    fun ⟨strict, other⟩ => other (checks.cookie strict)
  unfold parsePktMeta
  rw [if_neg (by simp [checks.running]), if_neg cookie, if_neg (not_not.mpr checks.reason),
    checks.inPort]
  simp only [v.dp.port?_of_mem checks.mem, checks.nonzero, checks.data, checks.parsed, known,
    received, checks.unicast, checks.nonzeroSrc]
  simp

/-- The VLAN-table flow `_port_add_vlans` installs for a port's 802.1X VLAN. -/
theorem portAddRules_mem_dot1x (mem : vlan ∈ v.dp.vlans)
    (assigned : (v.dyn.port port.number).dynDot1xNativeVlan = some vlan.vid) (mirrorAct : List Action) :
    v.portAddVlanRules port vlan mirrorAct ∈ v.portAddVlans port mirrorAct := by
  simp [portAddVlans, assigned, v.dp.vlan?_of_mem mem]

end VlanCheck

end Valve

/-- On a stacked DP, a packet-in from a non-stack port, tagged with the VID of the port's 802.1X
VLAN, which is neither one of its tagged VLANs nor its native VLAN, and passing every other
check, is dropped by `parse_pkt_meta`, although `_port_add_vlans` admits the port's untagged
traffic to that VLAN. -/
theorem dot1xVlan_packetIn_dropped (v : Valve) (parsePacketInPkt : ParsePacketInPkt)
    (msg : PacketInMsg) (port : PortConfig) (header : EthHeader) (vlan : VlanConfig)
    (checks : PassesOtherChecks v parsePacketInPkt msg port header) (stacked : v.dp.stack = true)
    (nonStack : port.stack = none) (mem : vlan ∈ v.dp.vlans) (notGlobal : vlan.vid ≠ v.dp.globalVlan)
    (assigned : (v.dyn.port port.number).dynDot1xNativeVlan = some vlan.vid)
    (notTagged : vlan.vid ∉ port.taggedVlans) (notNative : port.nativeVlan ≠ some vlan.vid)
    (tagged : header.vlanVid = some vlan.vid) :
    v.portAddVlanRules port vlan port.mirrorActions ∈ v.portAddVlans port port.mirrorActions ∧
      v.parsePktMeta parsePacketInPkt msg = none := by
  refine ⟨Valve.portAddRules_mem_dot1x mem assigned _, ?_⟩
  rw [Valve.parsePktMeta_tagged checks mem notGlobal tagged,
    if_pos ⟨stacked, nonStack, notTagged, Ne.symm notNative⟩]

/-- A running stacked DP with port 1, untagged on VLAN 100, and VLANs 100 and 200. -/
def stackValve : Valve :=
  { oneVlanPortValve with
    dp := { oneVlanPortValve.dp with
      stack := true
      vlans := [{ vid := 100, name := "office", ports := [1] }, { vid := 200, name := "guest", ports := [] }]
      vlans_nodup := by decide }
    dyn := ⟨fun _ => {}, fun _ => {}, ∅, true, none⟩ }

/-- `stackValve` with 802.1X VLAN 200 assigned to port 1. -/
def dot1xStackValve : Valve :=
  { stackValve with dyn := { stackValve.dyn with port := fun _ => { dynDot1xNativeVlan := some 200 } } }

/-- A packet-in from port 1, for an output action, with the DP's cookie. -/
def portOnePacketIn : PacketInMsg := ⟨0, ofprAction, some 1, [1]⟩

/-- A parser that finds a header from source 2 tagged with VID 200. -/
def guestHeader : ParsePacketInPkt := fun _ => some ⟨2, 1, 0x0800, some 200⟩

/-- A parser that finds a header from source 2 tagged with VID 100. -/
def officeHeader : ParsePacketInPkt := fun _ => some ⟨2, 1, 0x0800, some 100⟩

theorem dot1xStackValve_dropped :
    dot1xStackValve.portAddVlanRules { number := 1, nativeVlan := some 100 }
        { vid := 200, name := "guest", ports := [] }
        ({ number := 1, nativeVlan := some 100 } : PortConfig).mirrorActions ∈
      dot1xStackValve.portAddVlans { number := 1, nativeVlan := some 100 }
        ({ number := 1, nativeVlan := some 100 } : PortConfig).mirrorActions ∧
    dot1xStackValve.parsePktMeta guestHeader portOnePacketIn = none :=
  dot1xVlan_packetIn_dropped dot1xStackValve guestHeader portOnePacketIn _ ⟨2, 1, 0x0800, some 200⟩ _
    ⟨rfl, fun _ => rfl, rfl, rfl, by decide, by decide, by decide, rfl, by decide, by decide⟩
    rfl rfl (by decide) (by decide) rfl (by decide) (by decide) rfl

/-- On the stacked DP, port 1 has 802.1X VLAN 200: its VLAN-table flow pushes VID 200 on its
untagged traffic, yet a packet-in from it tagged 200 is dropped. -/
theorem dot1xStackValve_guest_dropped :
    dot1xStackValve.portAddVlanRules { number := 1, nativeVlan := some 100 }
        { vid := 200, name := "guest", ports := [] }
        ({ number := 1, nativeVlan := some 100 } : PortConfig).mirrorActions ∈
      dot1xStackValve.portAddVlans { number := 1, nativeVlan := some 100 }
        ({ number := 1, nativeVlan := some 100 } : PortConfig).mirrorActions ∧
    dot1xStackValve.parsePktMeta guestHeader portOnePacketIn = none := by
  decide

end Faucet
