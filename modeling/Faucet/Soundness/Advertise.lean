import Faucet.Model.Advertise
import Faucet.Soundness.Lacp
import Mathlib.Data.List.Chain
import Mathlib.Tactic.Linarith

/-! # Periodic handlers keep to their interval

`advertise` and `fast_advertise` each time themselves with a timer, the time they last ran: a
call less than the interval after it, or any call while the interval is unset, changes nothing
and sends nothing, and any other call restarts the timer at its own time (`Periodic`). Over any
run of calls, at any times and in any order, the calls that send are therefore calls of the run,
each at least the interval after the one before and the first at least the interval after the
timer's start; so a run whose timer ends at `finish` sent at most once per interval since the
start, and no call of the run is a whole interval past `finish` (`SpacedSends`). Where every due
call sends, as `advertise` does where some route manager always answers on some VLAN (the IPv6
one's router advertisements), the timer ends at the last call that sent. Where no route manager
answers, as on a DP with only an IPv4 one, a due call restarts the timer and sends nothing.
-/

namespace Faucet

/-- What a run of a periodic handler guarantees, for calls at `calls` of which those at `sent`
sent messages, with the timer at `start` before the run and at `finish` after it. -/
structure SpacedSends (calls : List Time) (start interval : Time) (sent : List Time)
    (finish : Time) : Prop where
  /-- Every send is one of the calls, in order. -/
  sublist : sent.Sublist calls
  /-- Each send is at least the interval after the one before, the first after `start`. -/
  spaced : (start :: sent).Chain' fun earlier later => earlier + interval ≤ later
  /-- The timer ends at least one interval per send after `start`. -/
  bound : start + sent.length * interval ≤ finish
  /-- No call is a whole interval past the timer the run ends with. -/
  lag : interval ≠ 0 → ∀ t ∈ calls, t < finish + interval

namespace SpacedSends

variable {calls sent : List Time} {start interval finish t : Time}

theorem start_le (spaced : SpacedSends calls start interval sent finish) (nonneg : 0 ≤ interval) :
    start ≤ finish := by
  have sends : (0 : Time) ≤ sent.length * interval := mul_nonneg (Nat.cast_nonneg _) nonneg
  linarith [spaced.bound]

/-- A call that finds the timer not due adds nothing to the run's sends. -/
theorem skip (rest : SpacedSends calls start interval sent finish) (nonneg : 0 ≤ interval)
    (gate : interval = 0 ∨ t - start < interval) :
    SpacedSends (t :: calls) start interval sent finish where
  sublist := rest.sublist.cons t
  spaced := rest.spaced
  bound := rest.bound
  lag set := by
    rintro u (_ | ⟨_, mem⟩)
    · have recent := gate.resolve_left set
      linarith [rest.start_le nonneg]
    · exact rest.lag set u mem

/-- A call at `t` that finds the timer due and restarts it there, sending or not. -/
theorem restart (rest : SpacedSends calls t interval sent finish) (nonneg : 0 ≤ interval)
    (set : interval ≠ 0) (due : start + interval ≤ t) (sends : Bool) :
    SpacedSends (t :: calls) start interval (if sends then t :: sent else sent) finish := by
  have atStart := rest.start_le nonneg
  have lag : ∀ u ∈ t :: calls, u < finish + interval := by
    rintro u (_ | ⟨_, mem⟩)
    · linarith [lt_of_le_of_ne nonneg (Ne.symm set)]
    · exact rest.lag set u mem
  cases sends with
  | true =>
    simp only [if_true]
    refine ⟨rest.sublist.cons₂ t, .cons due rest.spaced, ?_, fun _ => lag⟩
    simp only [List.length_cons, Nat.cast_succ]
    linarith [rest.bound]
  | false =>
    simp only [Bool.false_eq_true, if_false]
    refine ⟨rest.sublist.cons t, ?_, ?_, fun _ => lag⟩
    · cases sent with
      | nil => exact .nil
      | cons first sent =>
        obtain ⟨next, spaced⟩ := List.chain'_cons.mp rest.spaced
        exact .cons (by linarith) spaced
    · linarith [rest.bound]

end SpacedSends

section Periodic

variable {α : Type} (step : Valve → α → Valve × OfmsgsByValve) (time : α → Time)
  (timer : Valve → Time) (interval : DPConfig → Time)

/-- A handler gated by a timer: while the interval is unset or less than it has passed since
the timer's time, a call changes nothing and sends nothing; any other call restarts the timer at
the call's time. No call changes the DP, so the interval stays. -/
structure Periodic : Prop where
  dp_step : ∀ v a, (step v a).1.dp = v.dp
  idle : ∀ v a, interval v.dp = 0 ∨ time a - timer v < interval v.dp → step v a = (v, [])
  restart : ∀ v a, ¬(interval v.dp = 0 ∨ time a - timer v < interval v.dp) →
    timer (step v a).1 = time a

/-- A run of a handler over its calls: the Valve after them, and the times of the calls that
sent messages. -/
def periodicRun : Valve → List α → Valve × List Time
  | v, [] => (v, [])
  | v, a :: calls =>
    let rest := periodicRun (step v a).1 calls
    (rest.1, if (step v a).2 = [] then rest.2 else time a :: rest.2)

variable {step time timer interval}

theorem periodicRun_dp (periodic : Periodic step time timer interval) :
    ∀ (calls : List α) (v : Valve), (periodicRun step time v calls).1.dp = v.dp
  | [], _ => rfl
  | a :: calls, v => (periodicRun_dp periodic calls _).trans (periodic.dp_step v a)

/-- Over any run, the handler's sends keep to its interval. -/
theorem Periodic.spacedSends (periodic : Periodic step time timer interval) :
    ∀ (calls : List α) (v : Valve), 0 ≤ interval v.dp →
      SpacedSends (calls.map time) (timer v) (interval v.dp) (periodicRun step time v calls).2
        (timer (periodicRun step time v calls).1)
  | [], _, _ => ⟨.slnil, .nil, by simp [periodicRun], fun _ _ => by simp⟩
  | a :: calls, v, nonneg => by
    by_cases gate : interval v.dp = 0 ∨ time a - timer v < interval v.dp
    · have rest := periodic.spacedSends calls v nonneg
      simp only [periodicRun, periodic.idle v a gate, if_true]
      exact rest.skip nonneg gate
    · have due := not_or.mp gate
      have rest := periodic.spacedSends calls (step v a).1 (by rwa [periodic.dp_step])
      rw [periodic.dp_step, periodic.restart v a gate] at rest
      simp only [periodicRun, List.map_cons]
      have restarted := rest.restart nonneg due.1 (by linarith [not_lt.mp due.2])
        (decide ((step v a).2 ≠ []))
      by_cases silent : (step v a).2 = [] <;> simpa [silent] using restarted

/-- Where every due call sends, the timer ends at the last call that sent. -/
theorem Periodic.finish_eq_last (periodic : Periodic step time timer interval) (dp : DPConfig)
    (sends : ∀ v a, v.dp = dp → ¬(interval v.dp = 0 ∨ time a - timer v < interval v.dp) →
      (step v a).2 ≠ []) :
    ∀ (calls : List α) (v : Valve), v.dp = dp →
      timer (periodicRun step time v calls).1 =
        (timer v :: (periodicRun step time v calls).2).getLast (List.cons_ne_nil _ _)
  | [], _, _ => rfl
  | a :: calls, v, onDp => by
    have rest := periodic.finish_eq_last dp sends calls (step v a).1 ((periodic.dp_step v a).trans onDp)
    by_cases gate : interval v.dp = 0 ∨ time a - timer v < interval v.dp
    · simpa only [periodicRun, periodic.idle v a gate, if_true] using rest
    · simp only [periodicRun, if_neg (sends v a onDp gate), rest, periodic.restart v a gate]
      exact (List.getLast_cons (List.cons_ne_nil _ _)).symm

end Periodic

namespace Valve

theorem advertise_periodic (routeAdvertise : RouteAnswer) :
    Periodic (fun v now => v.advertise routeAdvertise now) id (·.lastAdvertiseSec)
      (·.advertiseInterval) where
  dp_step v now := by simp only [advertise]; split_ifs <;> rfl
  idle v now gate := if_pos gate
  restart v now gate := by
    simp only [advertise, id, if_neg (show ¬(_ ∨ now - v.lastAdvertiseSec < _) from gate)]
    split_ifs <;> rfl

theorem fastAdvertise_periodic :
    Periodic (fun v (call : Time × List PortConfig) => v.fastAdvertise call.1 call.2) Prod.fst
      (·.lastFastAdvertiseSec) (·.fastAdvertiseInterval) where
  dp_step v call := (fastAdvertise_frame v call.1 call.2).1.dp
  idle v call gate := if_pos gate
  restart v call gate := by
    rw [fastAdvertise_fst, if_neg gate]
    exact foldl_rel (fun v w => w.lastFastAdvertiseSec = v.lastFastAdvertiseSec) (fun _ => rfl)
      (fun first second => second.trans first) (fun w (port : PortConfig) => w.setPortDyn port.number
        { w.dyn.port port.number with dynLastLldpBeaconTime := some call.1 }) (fun _ _ => rfl) _ _

theorem routeManagerCalls_ne_nil (v : Valve) (answer : RouteAnswer)
    (answers : ∃ ipv ∈ v.dp.routeIpvs, ∃ vlan ∈ v.dp.vlans, answer ipv v vlan ≠ []) :
    v.routeManagerCalls answer ≠ [] := by
  obtain ⟨ipv, routed, vlan, member, answered⟩ := answers
  obtain ⟨msg, mem⟩ := List.exists_mem_of_ne_nil _ answered
  exact List.ne_nil_of_mem
    (List.mem_flatMap.mpr ⟨ipv, routed, List.mem_flatMap.mpr ⟨vlan, member, mem⟩⟩)

/-- Where some route manager answers on some VLAN, a due `advertise` sends. -/
theorem advertise_sends (v : Valve) (routeAdvertise : RouteAnswer) (now : Time)
    (answers : ∃ ipv ∈ v.dp.routeIpvs, ∃ vlan ∈ v.dp.vlans,
      routeAdvertise ipv { v with lastAdvertiseSec := now } vlan ≠ [])
    (due : ¬(v.dp.advertiseInterval = 0 ∨ now - v.lastAdvertiseSec < v.dp.advertiseInterval)) :
    (v.advertise routeAdvertise now).2 ≠ [] := by
  simp only [advertise, if_neg due]
  rw [if_neg (routeManagerCalls_ne_nil { v with lastAdvertiseSec := now } _ answers)]
  exact List.cons_ne_nil _ _

end Valve

/-- Over any run of `advertise` calls, at any times, the calls that send are calls of the run,
each at least `advertise_interval` after the one before (the first after the timer's start), at
most one per interval, and no call is a whole interval past the final timer; where some route
manager answers on some VLAN of the DP whatever the Valve's state, the timer ends at the last
call that sent. Any run of `fast_advertise` calls keeps to `fast_advertise_interval` the same
way. -/
theorem periodicHandlers_spaced (v : Valve) (routeAdvertise : RouteAnswer) (nows : List Time)
    (calls : List (Time × List PortConfig))
    (nonneg : 0 ≤ v.dp.advertiseInterval ∧ 0 ≤ v.dp.fastAdvertiseInterval) :
    SpacedSends nows v.lastAdvertiseSec v.dp.advertiseInterval
        (periodicRun (fun w now => w.advertise routeAdvertise now) id v nows).2
        (periodicRun (fun w now => w.advertise routeAdvertise now) id v nows).1.lastAdvertiseSec ∧
      ((∃ ipv ∈ v.dp.routeIpvs, ∃ vlan ∈ v.dp.vlans, ∀ w : Valve, w.dp = v.dp →
          routeAdvertise ipv w vlan ≠ []) →
        (periodicRun (fun w now => w.advertise routeAdvertise now) id v nows).1.lastAdvertiseSec =
          (v.lastAdvertiseSec ::
            (periodicRun (fun w now => w.advertise routeAdvertise now) id v nows).2).getLast
            (List.cons_ne_nil _ _)) ∧
      SpacedSends (calls.map Prod.fst) v.lastFastAdvertiseSec v.dp.fastAdvertiseInterval
        (periodicRun (fun w call => w.fastAdvertise call.1 call.2) Prod.fst v calls).2
        (periodicRun (fun w call => w.fastAdvertise call.1 call.2) Prod.fst v calls).1.lastFastAdvertiseSec :=
  ⟨by simpa using (Valve.advertise_periodic routeAdvertise).spacedSends nows v nonneg.1,
    fun ⟨ipv, routed, vlan, member, answered⟩ =>
      (Valve.advertise_periodic routeAdvertise).finish_eq_last v.dp
        (fun w now onDp due => Valve.advertise_sends w routeAdvertise now
          ⟨ipv, onDp ▸ routed, vlan, onDp ▸ member, answered _ onDp⟩ due) nows v rfl,
    Valve.fastAdvertise_periodic.spacedSends calls v nonneg.2⟩

/-- Route managers as FAUCET's answer `advertise`: the IPv6 one with a router advertisement on
each VLAN, the IPv4 one with nothing. -/
def ipv6Advertise : RouteAnswer := fun ipv v vlan =>
  if ipv = 6 then [.ext v.dp.dpId (.routeAdvertise ipv vlan.vid)] else []

/-- DP 1 with IPv4 and IPv6 route managers and one VLAN, advertising every 30 seconds and fast
advertising every 5. -/
def routedValve : Valve where
  cls := .valve
  dp := { dpId := 1, name := "sw1", ports := [], ports_nodup := List.nodup_nil,
          vlans := [{ vid := 100, name := "office", ports := [] }], vlans_nodup := by decide,
          ipv4Fib := true, ipv6Fib := true, advertiseInterval := 30, fastAdvertiseInterval := 5 }
  dyn := ⟨fun _ => {}, fun _ => {}, ∅, true, none⟩
  lastPipelineFlows := []
  packetInCountSec := 0
  lastPacketInSec := 0
  lastAdvertiseSec := 0
  lastFastAdvertiseSec := 0
  portHighwater := fun _ _ => 0
  metrics := fun _ => none

/-- `advertise` called at 10, 30, 45, 60 and 95 seconds. -/
def advertiseTimes : List Time := [10, 30, 45, 60, 95]

/-- `fast_advertise` called at 3 and 5 seconds, with no beacon due. -/
def fastAdvertiseCalls : List (Time × List PortConfig) := [(3, []), (5, [])]

theorem routedValve_spaced :
    (0 ≤ routedValve.dp.advertiseInterval ∧ 0 ≤ routedValve.dp.fastAdvertiseInterval) ∧
      SpacedSends advertiseTimes routedValve.lastAdvertiseSec routedValve.dp.advertiseInterval
          (periodicRun (fun w now => w.advertise ipv6Advertise now) id routedValve advertiseTimes).2
          (periodicRun (fun w now => w.advertise ipv6Advertise now) id routedValve
            advertiseTimes).1.lastAdvertiseSec ∧
        ((∃ ipv ∈ routedValve.dp.routeIpvs, ∃ vlan ∈ routedValve.dp.vlans, ∀ w : Valve,
            w.dp = routedValve.dp → ipv6Advertise ipv w vlan ≠ []) →
          (periodicRun (fun w now => w.advertise ipv6Advertise now) id routedValve
            advertiseTimes).1.lastAdvertiseSec =
            (routedValve.lastAdvertiseSec ::
              (periodicRun (fun w now => w.advertise ipv6Advertise now) id routedValve
                advertiseTimes).2).getLast (List.cons_ne_nil _ _)) ∧
        SpacedSends (fastAdvertiseCalls.map Prod.fst) routedValve.lastFastAdvertiseSec
          routedValve.dp.fastAdvertiseInterval
          (periodicRun (fun w call => w.fastAdvertise call.1 call.2) Prod.fst routedValve
            fastAdvertiseCalls).2
          (periodicRun (fun w call => w.fastAdvertise call.1 call.2) Prod.fst routedValve
            fastAdvertiseCalls).1.lastFastAdvertiseSec :=
  ⟨⟨by decide, by decide⟩, periodicHandlers_spaced routedValve ipv6Advertise advertiseTimes
    fastAdvertiseCalls ⟨by decide, by decide⟩⟩

/-- The IPv6 route manager advertises at 30, 60 and 95 seconds. -/
example : (periodicRun (fun w now => w.advertise ipv6Advertise now) id routedValve
    advertiseTimes).2 = [30, 60, 95] := by
  norm_num [advertiseTimes, periodicRun, Valve.advertise, routedValve, Valve.routeManagerCalls,
    DPConfig.routeIpvs, ipv6Advertise]

/-- With only the IPv4 route manager nothing is sent, yet each due call restarts the timer. -/
example : (periodicRun (fun w now => w.advertise ipv6Advertise now) id
    { routedValve with dp := { routedValve.dp with ipv6Fib := false } } advertiseTimes) =
      ({ routedValve with dp := { routedValve.dp with ipv6Fib := false }, lastAdvertiseSec := 95 },
        []) := by
  norm_num [advertiseTimes, periodicRun, Valve.advertise, routedValve, Valve.routeManagerCalls,
    DPConfig.routeIpvs, ipv6Advertise]

end Faucet
