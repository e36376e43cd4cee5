import PicoSensorAggregator.MqttClient

/-!
`tls_mqtt_init` of `tls_mqtt_client.c` in the default build (`ENABLE_TLS` unset), with its
resolution wait `run_dns_lookup` and its error path `tls_mqtt_clean`. The allocator and the
resolver are the environment: each allocation may fail, and `dns_gethostbyname` either answers at
once or calls `dns_found_cb` once from a later poll. The wait loop is run with fuel, so a loop that
never ends is one that is out of fuel for every fuel.
-/

namespace PicoSensorAggregator.ClientInit

open MqttClient

/-! ## Resolution -/

/-- What `dns_gethostbyname` does with the broker's hostname: it returns `ERR_OK` having written
the address, or returns an error (`ERR_ARG`, `ERR_VAL`, `ERR_MEM`) and never calls back, or returns
`ERR_INPROGRESS` and calls `dns_found_cb` once, during the poll after `delay` more polls, with an
address or `NULL`. -/
inductive DnsOutcome
  | resolved (addr : UInt32)
  | failed (err : ErrT)
  | inProgress (delay : Nat) (answer : Option UInt32)

structure DnsState where
  remoteAddr : UInt32
  errState : TlsMqttRet
deriving DecidableEq, Repr

/-- `dns_found_cb(name, ipaddr, arg)`. -/
def dnsFoundCb (ipaddr : Option UInt32) (s : DnsState) : DnsState :=
  match ipaddr with
  | none => { s with errState := .tlsMqttErrDns }
  | some a => ⟨a, .tlsMqttOk⟩

def waiting (s : DnsState) : Bool := s.remoteAddr == 0 && s.errState != .tlsMqttErrDns

/-- `run_dns_lookup`'s loop, for at most `fuel` polls, the callback still to come (if any) firing
during the poll after `delay` more; `none` while the loop has not ended. -/
def waitLoop : Nat → Nat → Option (Option UInt32) → DnsState → Option DnsState
  | 0, _, _, s => if waiting s then none else some s
  | fuel + 1, delay, pending, s =>
      if waiting s then
        match delay, pending with
        | 0, some answer => waitLoop fuel 0 none (dnsFoundCb answer s)
        | 0, none => waitLoop fuel 0 none s
        | d + 1, p => waitLoop fuel d p s
      else some s

/-- `run_dns_lookup(state, host)`, the resolver doing `outcome`. -/
def runDnsLookup (outcome : DnsOutcome) (fuel : Nat) (s : DnsState) : Option DnsState :=
  match outcome with
  | .resolved addr => waitLoop fuel 0 none { s with remoteAddr := addr }
  | .failed _ => waitLoop fuel 0 none s
  | .inProgress delay answer => waitLoop fuel delay (some answer) s

theorem waitLoop_of_not_waiting {s : DnsState} (h : waiting s = false) (fuel delay : Nat)
    (pending : Option (Option UInt32)) : waitLoop fuel delay pending s = some s := by
  cases fuel <;> simp [waitLoop, h]

theorem waitLoop_stuck {s : DnsState} (h : waiting s = true) (fuel : Nat) :
    ∀ delay, waitLoop fuel delay none s = none := by
  induction fuel with
  | zero => simp [waitLoop, h]
  | succ fuel ih =>
      intro delay
      cases delay <;> simp [waitLoop, h, ih]

theorem waitLoop_deliver {s : DnsState} (h : waiting s = true) (answer : Option UInt32) :
    ∀ fuel delay, waitLoop (fuel + delay + 1) delay (some answer) s =
      waitLoop fuel 0 none (dnsFoundCb answer s) := by
  intro fuel delay
  induction delay with
  | zero => simp [waitLoop, h]
  | succ d ih => rw [show fuel + (d + 1) + 1 = (fuel + d + 1) + 1 by omega, waitLoop, if_pos h, ih]

def DnsState.initial : DnsState := ⟨0, .tlsMqttOk⟩

/-- The outcomes the loop is written for end it once delivered: a non-zero address answered at
once or by the callback leaves it in `remote_addr` with `TLS_MQTT_OK`, and a callback with
`NULL` leaves `TLS_MQTT_ERR_DNS`. -/
theorem runDnsLookup_delivered (fuel delay : Nat) :
    (∀ a : UInt32, a ≠ 0 → runDnsLookup (.resolved a) fuel .initial = some ⟨a, .tlsMqttOk⟩) ∧
      (∀ a : UInt32, a ≠ 0 → runDnsLookup (.inProgress delay (some a)) (fuel + delay + 1) .initial =
        some ⟨a, .tlsMqttOk⟩) ∧
      runDnsLookup (.inProgress delay none) (fuel + delay + 1) .initial =
        some ⟨0, .tlsMqttErrDns⟩ := by
  have hw : waiting .initial = true := rfl
  refine ⟨fun a ha => ?_, fun a ha => ?_, ?_⟩
  · exact waitLoop_of_not_waiting (by simp [waiting, ha]) _ _ _
  · rw [runDnsLookup, waitLoop_deliver hw]
    exact waitLoop_of_not_waiting (by simp [waiting, dnsFoundCb, ha]) _ _ _
  · rw [runDnsLookup, waitLoop_deliver hw]
    exact waitLoop_of_not_waiting (by simp [waiting, dnsFoundCb]) _ _ _

/-- The loop tests only `remote_addr.addr != 0` for success, so it never ends when the resolver
fails at once, which calls no callback, or answers the address `0.0.0.0`, at once or later: for
every fuel it is still polling. -/
theorem runDnsLookup_spins (fuel delay : Nat) (err : ErrT) :
    runDnsLookup (.failed err) fuel .initial = none ∧
      runDnsLookup (.resolved 0) fuel .initial = none ∧
      runDnsLookup (.inProgress delay (some 0)) fuel .initial = none := by
  have hw : waiting .initial = true := rfl
  refine ⟨waitLoop_stuck hw fuel 0, waitLoop_stuck hw fuel 0, ?_⟩
  rw [runDnsLookup]
  by_cases hf : delay < fuel
  · obtain ⟨k, rfl⟩ : ∃ k, fuel = k + delay + 1 := ⟨fuel - delay - 1, by omega⟩
    rw [waitLoop_deliver hw]
    exact waitLoop_stuck (show waiting (dnsFoundCb (some 0) .initial) = true from rfl) k 0
  · induction fuel generalizing delay with
    | zero => rfl
    | succ fuel ih =>
        obtain ⟨d, rfl⟩ : ∃ d, delay = d + 1 := ⟨delay - 1, by omega⟩
        rw [waitLoop, if_pos hw]
        exact ih d (by omega)

/-! ## `tls_mqtt_init` -/

/-- A pointer: `NULL`, a block the allocator handed out (`malloc`, or lwIP's heap behind
`mqtt_client_new`), or a static object. -/
inductive Ptr
  | null
  | heap (n : Nat)
  | static (name : String)
deriving DecidableEq, Repr

def mqttSettingsPtr : Ptr := .static "mqtt_settings"

structure InitHeap where
  next : Nat
  live : List Nat
  freed : List Ptr
deriving DecidableEq, Repr

def InitHeap.malloc (h : InitHeap) (ok : Bool) : Ptr × InitHeap :=
  if ok then (.heap h.next, ⟨h.next + 1, h.next :: h.live, h.freed⟩) else (.null, h)

def InitHeap.free (h : InitHeap) : Ptr → InitHeap
  | .null => h
  | .heap n => ⟨h.next, h.live.erase n, h.freed ++ [.heap n]⟩
  | .static name => { h with freed := h.freed ++ [.static name] }

/-- The fields of `MQTT_CLIENT_T` that `tls_mqtt_init` sets and `tls_mqtt_clean` frees. -/
structure InitClient where
  settings : Ptr
  mqttClient : Ptr
  ci : Ptr
  dns : DnsState

/-- The environment's answers during one `tls_mqtt_init`: whether the client's `malloc`,
`mqtt_client_new` and the client-info `malloc` return a block, and the resolver's outcome. -/
structure InitOracle where
  clientOk : Bool
  mqttClientOk : Bool
  dns : DnsOutcome
  ciOk : Bool

/-- `tls_mqtt_clean(&client)`, on the heap: it frees `settings`, the lwIP client, `ci` and the
client; it also sets the local `client` and `static_client` to `NULL`. -/
def tlsMqttClean (client : Ptr) (c : InitClient) (h : InitHeap) : InitHeap :=
  (((h.free c.settings).free c.mqttClient).free c.ci).free client

/-- `tls_mqtt_reconfigure_client(state)`: frees a previous `ci`, then allocates a new one. -/
def tlsMqttReconfigureClient (ok : Bool) (c : InitClient) (h : InitHeap) :
    TlsMqttRet × InitClient × InitHeap :=
  let h := if c.ci ≠ .null then h.free c.ci else h
  match h.malloc ok with
  | (.null, h) => (.tlsMqttErrAlloc, c, h)
  | (ci, h) => (.tlsMqttOk, { c with ci := ci }, h)

/-- `tls_mqtt_init(client_ptr, settings, process_command)`, with `*client_ptr` given and the
resolution run with `fuel`: the return code, `*client_ptr`, and the heap; `none` while the
resolution has not ended. -/
def tlsMqttInit (o : InitOracle) (fuel : Nat) (clientPtr settings : Ptr) (h : InitHeap) :
    Option (TlsMqttRet × Ptr × InitHeap) :=
  match h.malloc o.clientOk with
  | (.null, h) => some (.tlsMqttErrAlloc, clientPtr, h)
  | (client, h) =>
      let c : InitClient := ⟨settings, .null, .null, .initial⟩
      match h.malloc o.mqttClientOk with
      | (.null, h) => some (.tlsMqttErrAlloc, clientPtr, tlsMqttClean client c h)
      | (mqttClient, h) =>
          let c := { c with mqttClient := mqttClient }
          (runDnsLookup o.dns fuel c.dns).map fun dns =>
            let c := { c with dns := dns }
            if dns.errState ≠ .tlsMqttOk then (dns.errState, clientPtr, tlsMqttClean client c h)
            else
              match tlsMqttReconfigureClient o.ciOk c h with
              | (.tlsMqttOk, _, h) => (.tlsMqttOk, client, h)
              | (ret, c, h) => (ret, clientPtr, tlsMqttClean client c h)

/-- `mqtt_sta_mode` up to its loop: `state = NULL; ret = tls_mqtt_init(&state, &mqtt_settings,
server_command_handler)`. Since `timeout` starts as `nil_time`, the loop's first iteration reads
`state->is_connected` through the `state` returned here. -/
def mqttStaModeInit (o : InitOracle) (fuel : Nat) (h : InitHeap) : Option (TlsMqttRet × Ptr × InitHeap) :=
  tlsMqttInit o fuel .null mqttSettingsPtr h

@[simp] theorem InitHeap.malloc_true (h : InitHeap) :
    h.malloc true = (.heap h.next, ⟨h.next + 1, h.next :: h.live, h.freed⟩) := rfl

@[simp] theorem InitHeap.malloc_false (h : InitHeap) : h.malloc false = (.null, h) := rfl

@[simp] theorem InitHeap.free_null (h : InitHeap) : h.free .null = h := rfl

/-- A failed `tls_mqtt_init` in `mqtt_sta_mode`, at any of its failure points: `state` is still
`NULL`, which the loop's first iteration then reads `is_connected` through; every block the call
allocated has been freed; and once the client's own `malloc` has succeeded, `tls_mqtt_clean` has
also passed the caller's static `mqtt_settings` to `free`. -/
theorem mqttStaModeInit_failure (o : InitOracle) (fuel : Nat) (h : InitHeap) {ret : TlsMqttRet}
    {state : Ptr} {h' : InitHeap} (hinit : mqttStaModeInit o fuel h = some (ret, state, h'))
    (hret : ret ≠ .tlsMqttOk) :
    state = .null ∧ h'.live = h.live ∧
      h'.freed.count mqttSettingsPtr = h.freed.count mqttSettingsPtr + if o.clientOk then 1 else 0 := by
  unfold mqttStaModeInit tlsMqttInit at hinit
  cases hc : o.clientOk
  · simp only [hc, InitHeap.malloc_false, Option.some.injEq, Prod.mk.injEq] at hinit
    obtain ⟨-, rfl, rfl⟩ := hinit
    simp
  cases hm : o.mqttClientOk
  · simp only [hc, hm, InitHeap.malloc_true, InitHeap.malloc_false, Option.some.injEq,
      Prod.mk.injEq] at hinit
    obtain ⟨-, rfl, rfl⟩ := hinit
    simp [tlsMqttClean, InitHeap.free, mqttSettingsPtr]
  cases hd : runDnsLookup o.dns fuel .initial with
  | none => simp [hc, hm, hd] at hinit
  | some dns =>
      simp only [hc, hm, hd, InitHeap.malloc_true, Option.map_some', Option.some.injEq] at hinit
      split_ifs at hinit with herr
      · obtain ⟨-, rfl, rfl⟩ := Prod.mk.inj_iff.mp hinit |>.imp_right Prod.mk.inj_iff.mp
        simp [tlsMqttClean, InitHeap.free, mqttSettingsPtr]
      · cases hci : o.ciOk <;>
          simp only [hci, tlsMqttReconfigureClient, ne_eq, not_true_eq_false, if_false,
            InitHeap.malloc_true, InitHeap.malloc_false, Prod.mk.injEq] at hinit
        · obtain ⟨-, rfl, rfl⟩ := hinit
          simp [tlsMqttClean, InitHeap.free, mqttSettingsPtr]
        · exact absurd hinit.1.symm hret

/-- A broker hostname the resolver answers with `NULL`: `tls_mqtt_init` returns
`TLS_MQTT_ERR_DNS`, having freed `mqtt_settings` along with its own blocks. -/
theorem mqttStaModeInit_unresolved :
    mqttStaModeInit ⟨true, true, .inProgress 0 none, true⟩ 1 ⟨0, [], []⟩ =
        some (.tlsMqttErrDns, .null, ⟨2, [], [mqttSettingsPtr, .heap 1, .heap 0]⟩) ∧
      TlsMqttRet.tlsMqttErrDns ≠ .tlsMqttOk ∧
      Ptr.null = .null ∧ ([] : List Nat) = [] ∧
      [mqttSettingsPtr, .heap 1, .heap 0].count mqttSettingsPtr = 0 + 1 := by
  have hinit : mqttStaModeInit ⟨true, true, .inProgress 0 none, true⟩ 1 ⟨0, [], []⟩ =
      some (.tlsMqttErrDns, .null, ⟨2, [], [mqttSettingsPtr, .heap 1, .heap 0]⟩) := by decide
  exact ⟨hinit, by decide, mqttStaModeInit_failure _ _ _ hinit (by decide)⟩

end PicoSensorAggregator.ClientInit
