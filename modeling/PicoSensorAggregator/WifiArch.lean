import Mathlib.Algebra.Group.Int
import Mathlib.Algebra.Group.Nat.Basic
import Mathlib.Data.List.Basic

/-!
`setup_sta` of `wifi_arch.c`, which `mqtt_sta_mode` calls to join the configured network. It
brings the CYW43 up, sets the hostname, tries `CONNECT_ATTEMPTS` times to join, and then polls
the link status, blinking the LED, until the status is `CYW43_LINK_UP` or negative. Each change of
status divides the blink period `flashrate` by `status + 1`, with C's truncating `/`, and
`sleep_ms` takes the period as a `uint32_t`. What the driver answers is the environment: the
result of `cyw43_arch_init_with_country`, of each `cyw43_arch_wifi_connect_timeout_ms`, the
statuses `cyw43_tcpip_link_status` returns, one a poll, and the quotient the runtime's division
returns for `flashrate / 0`, which C leaves undefined.
-/

namespace PicoSensorAggregator.WifiArch

/-- `CONNECT_ATTEMPTS`. -/
def connectAttempts : Nat := 5

def cyw43LinkUp : Int := 3

def cyw43LinkFail : Int := -1

/-- What the board sees `setup_sta` do: lwIP's netif calls, `cyw43_arch_gpio_put` on the LED,
each `cyw43_arch_wifi_connect_timeout_ms`, and each `sleep_ms` with its `uint32_t` argument. -/
inductive Effect
  | setHostname (name : String)
  | netifUp
  | led (lit : Bool)
  | connect
  | sleep (ms : Nat)
  | setIpaddr (addr : Nat)
  | setNetmask (addr : Nat)
  | setGw (addr : Nat)
deriving DecidableEq, Repr

/-- The driver's answers: `cyw43_arch_init_with_country`, and the `k`-th
`cyw43_arch_wifi_connect_timeout_ms`; and what the runtime's `int` division returns when the
divisor is `0`. -/
structure StaAnswers where
  initRes : Int
  connectRes : Nat → Int
  divZeroQuotient : Int

/-- How `setup_sta`, or its polling loop, ends: returning `res`, or having divided by zero, after
which it goes on with whatever quotient the runtime returned. -/
inductive StaEnd
  | ret (res : Int)
  | divByZero
deriving DecidableEq, Repr

def toUint32 (x : Int) : Nat := (x % 2 ^ 32).toNat

def blink (flashrate : Int) : List Effect :=
  [.led true, .sleep (toUint32 flashrate), .led false, .sleep (toUint32 flashrate)]

/-- `while (i++ < CONNECT_ATTEMPTS) { res = cyw43_arch_wifi_connect_timeout_ms(...); if (res == 0)
break; sleep_ms(5000); }` from attempt `i`, `n` attempts left: the `res` it leaves and what it
did. -/
def connectLoop (connectRes : Nat → Int) (i : Nat) : Nat → Int → Int × List Effect
  | 0, res => (res, [])
  | n + 1, _ =>
    if connectRes i = 0 then (0, [.connect])
    else
      let r := connectLoop connectRes (i + 1) n (connectRes i)
      (r.1, .connect :: .sleep 5000 :: r.2)

def linkPending (status : Int) : Bool := decide (0 ≤ status) && status != cyw43LinkUp

/-- `while (status >= 0 && status != CYW43_LINK_UP) { ... }` from `status` and `flashrate`, with
`reads` the statuses `cyw43_tcpip_link_status` returns next and `divZero` the quotient of a
division by zero: how the loop ends and what it did, `none` when the reads run out with the loop
still polling. A new status of `CYW43_LINK_FAIL` divides by zero; the turn then blinks with
`divZero` and the loop stops, the status being negative. -/
def linkLoop (divZero : Int) : List Int → Int → Int → Option (StaEnd × List Effect)
  | [], status, _ => if linkPending status then none else some (.ret status, [])
  | newStatus :: reads, status, flashrate =>
    if linkPending status then
      if newStatus ≠ status then
        if newStatus + 1 = 0 then some (.divByZero, blink divZero)
        else
          let flashrate := flashrate.tdiv (newStatus + 1)
          (linkLoop divZero reads newStatus flashrate).map fun r => (r.1, blink flashrate ++ r.2)
      else (linkLoop divZero reads status flashrate).map fun r => (r.1, blink flashrate ++ r.2)
    else some (.ret status, [])

def staticAddrs (ip mask gw : Option Nat) : List Effect :=
  ip.toList.map .setIpaddr ++ mask.toList.map .setNetmask ++ gw.toList.map .setGw

/-- `setup_sta(country, ssid, pass, auth, hostname, ip, mask, gw)`, `NULL` pointers as `none`:
how it ends and what it did, `none` when `reads` runs out with the polling loop still waiting.
The `res` the connect loop starts from is never read, `CONNECT_ATTEMPTS` being positive. -/
def setupSta (ans : StaAnswers) (hostname : Option String) (ip mask gw : Option Nat)
    (reads : List Int) : Option (StaEnd × List Effect) :=
  if ans.initRes ≠ 0 then some (.ret 1, [])
  else
    let named := hostname.toList.flatMap fun h => [.setHostname h, .netifUp]
    let r := connectLoop ans.connectRes 0 connectAttempts 0
    let pre := named ++ .led true :: r.2
    if r.1 ≠ 0 then some (.ret 2, pre ++ [.led false])
    else (linkLoop ans.divZeroQuotient reads (cyw43LinkUp + 1) 1000).map fun
      | (.ret status, effs) =>
          (.ret status, pre ++ effs ++
            if status < 0 then [.led false] else .led true :: staticAddrs ip mask gw)
      | (.divByZero, effs) => (.divByZero, pre ++ effs ++ [.led false])

/-! ## What `setup_sta` ends with -/

/-- How `setup_sta` ends, read off the driver's answers: `1` when the chip does not start, `2`
when every attempt to join fails, and otherwise the first link status that is `CYW43_LINK_UP` or
negative, except that `CYW43_LINK_FAIL` makes the period's update divide by zero. -/
def staOutcome (ans : StaAnswers) (reads : List Int) : Option StaEnd :=
  if ans.initRes ≠ 0 then some (.ret 1)
  else if ∀ k < connectAttempts, ans.connectRes k ≠ 0 then some (.ret 2)
  else (reads.find? fun v => !linkPending v).map fun v =>
    if v = cyw43LinkFail then .divByZero else .ret v

theorem connectLoop_fst_eq_zero_iff (c : Nat → Int) (n : Nat) :
    ∀ i res, (connectLoop c i n res).1 = 0 ↔ (∃ k < n, c (i + k) = 0) ∨ (n = 0 ∧ res = 0) := by
  induction n with
  | zero => simp [connectLoop]
  | succ n ih =>
      intro i res
      by_cases h : c i = 0
      · simp only [connectLoop, if_pos h, true_iff]
        exact .inl ⟨0, n.succ_pos, h⟩
      · simp only [connectLoop, h, if_false, ih, and_false, or_false, Nat.add_one_ne_zero,
          false_and]
        constructor
        · rintro ⟨k, hk, hc⟩
          exact ⟨k + 1, by omega, by rwa [← Nat.add_assoc, Nat.add_right_comm]⟩
        · rintro ⟨k, hk, hc⟩
          obtain _ | k := k
          · exact absurd hc h
          · exact ⟨k, by omega, by rwa [Nat.add_right_comm, Nat.add_assoc]⟩

theorem linkLoop_of_not_pending {status : Int} (h : linkPending status = false) (q : Int)
    (reads : List Int) (flashrate : Int) : linkLoop q reads status flashrate = some (.ret status, []) := by
  cases reads <;> simp [linkLoop, h]

theorem linkLoop_map_fst (q : Int) (reads : List Int) :
    ∀ {status : Int}, linkPending status = true → ∀ flashrate,
      (linkLoop q reads status flashrate).map Prod.fst =
        (reads.find? fun v => !linkPending v).map fun v =>
          if v = cyw43LinkFail then .divByZero else .ret v := by
  induction reads with
  | nil => intro status h _; simp [linkLoop, h]
  | cons v reads ih =>
      intro status h flashrate
      by_cases hv : v = status
      · subst hv
        simp [linkLoop, h, ih h, Option.map_map, Function.comp_def]
      by_cases hz : v + 1 = 0
      · obtain rfl : v = -1 := by omega
        simp [linkLoop, h, hv, cyw43LinkFail, show linkPending (-1) = false by decide]
      cases hp : linkPending v
      · simp [linkLoop, h, hv, hz, hp, linkLoop_of_not_pending hp, cyw43LinkFail,
          show v ≠ -1 by omega]
      · simp [linkLoop, h, hv, hz, hp, ih hp, Option.map_map, Function.comp_def]

/-- `setup_sta` refines `staOutcome`: whatever the driver answers, hostname and addresses, it
ends as `staOutcome` says, and it ends as soon as the driver reports a status that stops the
polling loop. -/
theorem setupSta_outcome (ans : StaAnswers) (hostname : Option String) (ip mask gw : Option Nat)
    (reads : List Int) :
    (setupSta ans hostname ip mask gw reads).map Prod.fst = staOutcome ans reads := by
  unfold setupSta staOutcome
  by_cases hi : ans.initRes ≠ 0
  · simp only [if_pos hi, Option.map_some']
  have hc := connectLoop_fst_eq_zero_iff ans.connectRes connectAttempts 0 0
  simp only [Nat.zero_add, connectAttempts, false_and, or_false] at hc
  simp only [if_neg hi]
  by_cases hr : (connectLoop ans.connectRes 0 connectAttempts 0).1 = 0
  · have hex : ¬∀ k < connectAttempts, ans.connectRes k ≠ 0 := by
      simpa [connectAttempts] using hc.mp hr
    rw [if_neg (not_not.mpr hr), if_neg hex,
      ← @linkLoop_map_fst ans.divZeroQuotient reads (cyw43LinkUp + 1) (by decide) 1000, Option.map_map]
    congr 1
    funext r
    obtain ⟨_ | _, _⟩ := r <;> rfl
  · have hall : ∀ k < connectAttempts, ans.connectRes k ≠ 0 := by
      simpa [connectAttempts] using mt hc.mpr hr
    rw [if_pos hr, if_pos hall, Option.map_some']

example : (setupSta ⟨0, fun k => if k < 2 then -2 else 0, 0⟩ (some "PicoWClient1") none none none
    [1, 2, 3]).map Prod.fst = some (.ret cyw43LinkUp) := by decide

example : (setupSta ⟨0, fun _ => 0, 0⟩ none none none none [1, -1]).map Prod.fst =
    some .divByZero := by decide

/-! ## How long `setup_sta` sleeps -/

end PicoSensorAggregator.WifiArch
