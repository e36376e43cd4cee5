import PicoSensorAggregator.MqttClient
import Mathlib.Data.List.FinRange
import Mathlib.Data.List.Nodup

/-!
The broker connection of `tls_mqtt_client.c`: `tls_mqtt_connect`, `tls_mqtt_connection_cb`,
`tls_mqtt_sub_unsub_topics` and `tls_mqtt_subscribe_request_cb`, run against a model of lwIP's
MQTT client and of the broker. lwIP answers `mqtt_client_connect` and `mqtt_sub_unsub` at once,
accepting or rejecting; an accepted attempt later gets exactly one connection status, and a live
connection ends with `DISCONNECTED` or `TIMEOUT`. lwIP connects with a clean session, so the
broker holds no subscription at the start of a connection, and the requests still in flight when
a connection closes are dropped without their callback.
-/

namespace PicoSensorAggregator.Connection

open RuntimeSettings MqttClient

inductive ConnectStatus
  | accepted
  | refusedProtocolVersion
  | refusedIdentifier
  | refusedServer
  | refusedUsernamePass
  | refusedNotAuthorized
  | disconnected
  | timeout
deriving DecidableEq, Repr

def ConnectStatus.isRefusal : ConnectStatus → Bool
  | .accepted | .disconnected | .timeout => false
  | _ => true

inductive Link
  | idle
  | connecting
  | live
deriving DecidableEq, Repr

structure SubRequest where
  session : TopicIndex
  sub : Bool
deriving DecidableEq, Repr

/-- lwIP and the broker: the connection, the requests in flight on it, the topics the broker
holds for this connection, and the last status lwIP delivered. -/
structure Transport where
  link : Link
  requests : List SubRequest
  brokerSubs : TopicIndex → Bool
  lastStatus : Option ConnectStatus

structure Engine where
  client : MqttClientT
  transport : Transport

/-! ## lwIP's calls -/

/-- `mqtt_client_connect`: `ERR_ISCONN` unless lwIP is idle; otherwise lwIP answers `ans`, and
`ERR_OK` opens an attempt. -/
def mqttClientConnect (ans : ErrT) (t : Transport) : ErrT × Transport :=
  if t.link ≠ .idle then (errIsconn, t)
  else if ans = errOk then (errOk, { t with link := .connecting }) else (ans, t)

/-- `mqtt_sub_unsub`: `ERR_CONN` while lwIP is idle; otherwise lwIP answers `ans`, and `ERR_OK`
queues the request. -/
def mqttSubUnsub (i : TopicIndex) (sub : Bool) (ans : ErrT) (t : Transport) : ErrT × Transport :=
  if t.link = .idle then (errConn, t)
  else if ans = errOk then (errOk, { t with requests := t.requests ++ [⟨i, sub⟩] }) else (ans, t)

/-! ## The client's functions -/

/-- `tls_mqtt_connect(state)`, with lwIP answering `ans`. -/
def tlsMqttConnect (ans : ErrT) (e : Engine) : ErrT × Engine :=
  let r := mqttClientConnect ans e.transport
  if r.1 ≠ errOk then (r.1, { e with transport := r.2 })
  else (errOk, ⟨{ e.client with errState := .tlsMqttOk }, r.2⟩)

/-- The body of `tls_mqtt_sub_unsub_topics`' loop for session `i`. -/
def subUnsubSession (sub : Bool) (ans : TopicIndex → ErrT) (e : Engine) (i : TopicIndex) : Engine :=
  if sub ≠ (e.client.topicsStates i).isSubscribed then
    { e with transport := (mqttSubUnsub i sub (ans i) e.transport).2 }
  else e

/-- `tls_mqtt_sub_unsub_topics(client, sub)`: a request for each session whose `is_subscribed`
differs from `sub`, lwIP answering `ans i` for session `i`. -/
def tlsMqttSubUnsubTopics (sub : Bool) (ans : TopicIndex → ErrT) (e : Engine) : Engine :=
  (List.finRange tlsMqttNumberOfTopics).foldl (subUnsubSession sub ans) e

def Engine.setConnected (e : Engine) (b : Bool) : Engine :=
  { e with client := { e.client with isConnected := b } }

/-- `tls_mqtt_connection_cb(client, arg, status)`; `connAns` answers its reconnect and `subAns`
its subscriptions. -/
def tlsMqttConnectionCb (status : ConnectStatus) (connAns : ErrT) (subAns : TopicIndex → ErrT)
    (e : Engine) : Engine :=
  match status with
  | .accepted => tlsMqttSubUnsubTopics true subAns (e.setConnected true)
  | .disconnected => (tlsMqttConnect connAns (e.setConnected false)).2
  | .timeout => (tlsMqttConnect connAns (e.setConnected false)).2
  | _ => e.setConnected false

/-- `tls_mqtt_subscribe_request_cb(session, err)`; `retryAns` answers its retry. -/
def tlsMqttSubscribeRequestCb (i : TopicIndex) (err retryAns : ErrT) (e : Engine) : Engine :=
  let session := e.client.topicsStates i
  if err = errOk then
    { e with client := e.client.setSession i { session with isSubscribed := !session.isSubscribed } }
  else { e with transport := (mqttSubUnsub i (!session.isSubscribed) retryAns e.transport).2 }

/-! ## The transport's moves -/

def Deliverable (status : ConnectStatus) (t : Transport) : Prop :=
  t.link = .connecting ∨ (t.link = .live ∧ (status = .disconnected ∨ status = .timeout))

instance (status : ConnectStatus) (t : Transport) : Decidable (Deliverable status t) :=
  inferInstanceAs (Decidable (_ ∨ _))

/-- lwIP delivering `status`, when it can. `ACCEPTED` makes the connection live, with a clean
session; any other status closes it and drops its requests. Then `tls_mqtt_connection_cb`
runs. -/
def deliverStatus (status : ConnectStatus) (connAns : ErrT) (subAns : TopicIndex → ErrT)
    (e : Engine) : Engine :=
  if Deliverable status e.transport then
    let t' : Transport :=
      if status = .accepted then ⟨.live, e.transport.requests, fun _ => false, some status⟩
      else ⟨.idle, [], fun _ => false, some status⟩
    tlsMqttConnectionCb status connAns subAns { e with transport := t' }
  else e

/-- The broker completing the `n`-th request of a live connection with `err`: on `ERR_OK` it
applies the request; then `tls_mqtt_subscribe_request_cb` runs. -/
def completeSub (n : Nat) (err retryAns : ErrT) (e : Engine) : Engine :=
  match e.transport.link, e.transport.requests[n]? with
  | .live, some r =>
      let t : Transport :=
        { e.transport with
          requests := e.transport.requests.eraseIdx n
          brokerSubs := if err = errOk then Function.update e.transport.brokerSubs r.session r.sub
            else e.transport.brokerSubs }
      tlsMqttSubscribeRequestCb r.session err retryAns { e with transport := t }
  | _, _ => e

/-- What can happen once `mqtt_sta_mode` has started the client. -/
inductive Event
  | status (status : ConnectStatus) (connAns : ErrT) (subAns : TopicIndex → ErrT)
  | subDone (n : Nat) (err retryAns : ErrT)
  | subUnsub (sub : Bool) (subAns : TopicIndex → ErrT)

def step (e : Engine) : Event → Engine
  | .status status connAns subAns => deliverStatus status connAns subAns e
  | .subDone n err retryAns => completeSub n err retryAns e
  | .subUnsub sub subAns => tlsMqttSubUnsubTopics sub subAns e

def run (e : Engine) (es : List Event) : Engine := es.foldl step e

/-- The engine after `mqtt_sta_mode`'s `tls_mqtt_connect`, lwIP answering `ans`. -/
def mqttStaMode (ans : ErrT) : Engine :=
  (tlsMqttConnect ans ⟨initClient, ⟨.idle, [], fun _ => false, none⟩⟩).2

/-- lwIP accepts the reconnect the event may make. -/
def Event.ConnectAccepted : Event → Prop
  | .status _ connAns _ => connAns = errOk
  | _ => True

/-! ## What each function changes -/

def addedRequests (sub : Bool) (ans : TopicIndex → ErrT) (e : Engine) (l : List TopicIndex) :
    List SubRequest :=
  if e.transport.link = .idle then []
  else (l.filter fun i => sub ≠ (e.client.topicsStates i).isSubscribed ∧ ans i = errOk).map (⟨·, sub⟩)

def Engine.addRequests (e : Engine) (rs : List SubRequest) : Engine :=
  { e with transport := { e.transport with requests := e.transport.requests ++ rs } }

theorem mqttSubUnsub_eq (i : TopicIndex) (sub : Bool) (ans : ErrT) (t : Transport) :
    (mqttSubUnsub i sub ans t).2 =
      { t with requests := t.requests ++ if t.link ≠ .idle ∧ ans = errOk then [⟨i, sub⟩] else [] } := by
  obtain ⟨link, requests, brokerSubs, lastStatus⟩ := t
  unfold mqttSubUnsub
  split_ifs <;> simp_all

theorem foldl_subUnsubSession (sub : Bool) (ans : TopicIndex → ErrT) (l : List TopicIndex) :
    ∀ e : Engine, l.foldl (subUnsubSession sub ans) e = e.addRequests (addedRequests sub ans e l) := by
  induction l with
  | nil => intro e; simp [addedRequests, Engine.addRequests]
  | cons i l ih =>
      intro e
      rw [List.foldl_cons, ih]
      unfold subUnsubSession addedRequests Engine.addRequests
      by_cases hl : e.transport.link = .idle <;> by_cases hs : sub = (e.client.topicsStates i).isSubscribed <;>
        by_cases ha : ans i = errOk <;> simp [hl, hs, ha, mqttSubUnsub_eq, List.filter_cons]

theorem tlsMqttSubUnsubTopics_eq (sub : Bool) (ans : TopicIndex → ErrT) (e : Engine) :
    tlsMqttSubUnsubTopics sub ans e =
      e.addRequests (addedRequests sub ans e (List.finRange tlsMqttNumberOfTopics)) :=
  foldl_subUnsubSession sub ans _ e

@[simp] theorem addRequests_client (e : Engine) (rs : List SubRequest) :
    (e.addRequests rs).client = e.client := rfl

@[simp] theorem addRequests_link (e : Engine) (rs : List SubRequest) :
    (e.addRequests rs).transport.link = e.transport.link := rfl

@[simp] theorem addRequests_lastStatus (e : Engine) (rs : List SubRequest) :
    (e.addRequests rs).transport.lastStatus = e.transport.lastStatus := rfl

@[simp] theorem setConnected_isConnected (e : Engine) (b : Bool) :
    (e.setConnected b).client.isConnected = b := rfl

@[simp] theorem setConnected_transport (e : Engine) (b : Bool) :
    (e.setConnected b).transport = e.transport := rfl

theorem step_idle {e : Engine} (ev : Event) (hl : e.transport.link = .idle)
    (hc : e.client.isConnected = false) :
    (step e ev).transport.link = .idle ∧ (step e ev).client.isConnected = false := by
  cases ev with
  | status status connAns subAns => simp [step, deliverStatus, Deliverable, hl, hc]
  | subDone n err retryAns => simp [step, completeSub, hl, hc]
  | subUnsub sub subAns => simp [step, tlsMqttSubUnsubTopics_eq, hl, hc]

theorem run_idle (es : List Event) :
    ∀ {e : Engine}, e.transport.link = .idle → e.client.isConnected = false →
      (run e es).transport.link = .idle ∧ (run e es).client.isConnected = false := by
  induction es with
  | nil => exact fun hl hc => ⟨hl, hc⟩
  | cons ev es ih =>
      intro e hl hc
      obtain ⟨hl', hc'⟩ := step_idle ev hl hc
      exact ih hl' hc'

/-- lwIP rejecting the reconnect that follows a `DISCONNECTED` (here with `ERR_RTE`, no route
while Wi-Fi is down): the client is offline, the last status was no refusal, no attempt is
outstanding, and whatever happens next it stays so. -/
theorem run_rejected_reconnect (es : List Event) :
    let e := run (mqttStaMode errOk)
      [.status .accepted errOk (fun _ => errOk), .status .disconnected errRte (fun _ => errOk)]
    e.client.isConnected = false ∧ e.transport.lastStatus = some .disconnected ∧
      e.transport.link = .idle ∧
      (run e es).client.isConnected = false ∧ (run e es).transport.link = .idle := by
  intro e
  have hl : e.transport.link = .idle := by decide
  have hc : e.client.isConnected = false := by decide
  exact ⟨hc, by decide, hl, (run_idle es hl hc).symm⟩

/-- A reconnect after both control topics were subscribed: the clean session leaves the broker
holding nothing, but `is_subscribed` is never reset on `DISCONNECTED`, so the next `ACCEPTED`
requests nothing. The client is connected with no request in flight, every session is marked
subscribed, and the broker holds no topic. -/
theorem run_reconnect_keeps_is_subscribed :
    let ok : TopicIndex → ErrT := fun _ => errOk
    let e := run (mqttStaMode errOk) [.status .accepted errOk ok, .subDone 0 errOk errOk,
      .subDone 0 errOk errOk, .status .disconnected errOk ok, .status .accepted errOk ok]
    e.client.isConnected = true ∧ e.transport.requests = [] ∧
      ∀ i, (e.client.topicsStates i).isSubscribed = true ∧ e.transport.brokerSubs i = false := by
  decide

/-! ## The connection state machine -/

theorem completeSub_frame (n : Nat) (err retryAns : ErrT) (e : Engine) :
    (completeSub n err retryAns e).client.isConnected = e.client.isConnected ∧
      (completeSub n err retryAns e).transport.link = e.transport.link ∧
      (completeSub n err retryAns e).transport.lastStatus = e.transport.lastStatus := by
  unfold completeSub
  split
  · simp only [tlsMqttSubscribeRequestCb]
    split_ifs <;> simp [mqttSubUnsub_eq]
  · exact ⟨rfl, rfl, rfl⟩

theorem tlsMqttConnect_isConnected (ans : ErrT) (e : Engine) :
    (tlsMqttConnect ans e).2.client.isConnected = e.client.isConnected := by
  simp only [tlsMqttConnect]
  split_ifs <;> rfl

theorem tlsMqttConnect_lastStatus (ans : ErrT) (e : Engine) :
    (tlsMqttConnect ans e).2.transport.lastStatus = e.transport.lastStatus := by
  simp only [tlsMqttConnect, mqttClientConnect]
  split_ifs <;> rfl

theorem tlsMqttConnect_link_of_idle (ans : ErrT) {e : Engine} (h : e.transport.link = .idle) :
    (tlsMqttConnect ans e).2.transport.link = if ans = errOk then .connecting else .idle := by
  unfold tlsMqttConnect mqttClientConnect
  by_cases ha : ans = errOk <;> simp [h, ha]

def linkAfter (status : ConnectStatus) (connAns : ErrT) : Link :=
  match status with
  | .accepted => .live
  | .disconnected | .timeout => if connAns = errOk then .connecting else .idle
  | _ => .idle

theorem deliverStatus_spec (status : ConnectStatus) (connAns : ErrT) (subAns : TopicIndex → ErrT)
    {e : Engine} (h : Deliverable status e.transport) :
    (deliverStatus status connAns subAns e).client.isConnected = decide (status = .accepted) ∧
      (deliverStatus status connAns subAns e).transport.link = linkAfter status connAns ∧
      (deliverStatus status connAns subAns e).transport.lastStatus = some status := by
  unfold deliverStatus
  rw [if_pos h]
  cases status <;> simp [tlsMqttConnectionCb, tlsMqttSubUnsubTopics_eq, linkAfter,
    tlsMqttConnect_isConnected, tlsMqttConnect_lastStatus, tlsMqttConnect_link_of_idle]

theorem deliverStatus_of_not_deliverable (status : ConnectStatus) (connAns : ErrT)
    (subAns : TopicIndex → ErrT) {e : Engine} (h : ¬ Deliverable status e.transport) :
    deliverStatus status connAns subAns e = e :=
  if_neg h

/-- `is_connected` holds exactly on a live connection; and lwIP is idle only after the broker
refused the connection. -/
structure Online (e : Engine) : Prop where
  connected_iff : e.client.isConnected = true ↔ e.transport.link = .live
  idle_refused : e.transport.link = .idle →
    ∃ st, e.transport.lastStatus = some st ∧ st.isRefusal = true

theorem step_connected_iff {e : Engine} (ev : Event)
    (h : e.client.isConnected = true ↔ e.transport.link = .live) :
    (step e ev).client.isConnected = true ↔ (step e ev).transport.link = .live := by
  cases ev with
  | status status connAns subAns =>
      by_cases hd : Deliverable status e.transport
      · obtain ⟨h1, h2, -⟩ := deliverStatus_spec status connAns subAns hd
        simp only [step, h1, h2, linkAfter]
        cases status <;> simp <;> split_ifs <;> simp
      · simpa only [step, deliverStatus_of_not_deliverable status connAns subAns hd] using h
  | subDone n err retryAns =>
      obtain ⟨h1, h2, -⟩ := completeSub_frame n err retryAns e
      simpa only [step, h1, h2] using h
  | subUnsub sub subAns => simpa [step, tlsMqttSubUnsubTopics_eq] using h

theorem step_online {e : Engine} (ev : Event) (hacc : ev.ConnectAccepted) (h : Online e) :
    Online (step e ev) := by
  refine ⟨step_connected_iff ev h.connected_iff, ?_⟩
  cases ev with
  | status status connAns subAns =>
      simp only [Event.ConnectAccepted] at hacc
      subst hacc
      by_cases hd : Deliverable status e.transport
      · obtain ⟨-, h2, h3⟩ := deliverStatus_spec status errOk subAns hd
        simp only [step, h2, h3, linkAfter]
        cases status <;> simp [ConnectStatus.isRefusal]
      · simpa only [step, deliverStatus_of_not_deliverable status errOk subAns hd] using
          h.idle_refused
  | subDone n err retryAns =>
      obtain ⟨-, h2, h3⟩ := completeSub_frame n err retryAns e
      simpa only [step, h2, h3] using h.idle_refused
  | subUnsub sub subAns => simpa [step, tlsMqttSubUnsubTopics_eq] using h.idle_refused

theorem run_online (es : List Event) :
    ∀ {e : Engine}, (∀ ev ∈ es, ev.ConnectAccepted) → Online e → Online (run e es) := by
  induction es with
  | nil => exact fun _ h => h
  | cons ev es ih =>
      intro e hacc h
      exact ih (fun ev' hev' => hacc ev' (List.mem_cons_of_mem _ hev'))
        (step_online ev (hacc ev (List.mem_cons_self _ _)) h)

theorem run_connected_iff (ans : ErrT) (es : List Event) :
    (run (mqttStaMode ans) es).client.isConnected = true ↔
      (run (mqttStaMode ans) es).transport.link = .live := by
  suffices ∀ e : Engine, (e.client.isConnected = true ↔ e.transport.link = .live) →
      ((run e es).client.isConnected = true ↔ (run e es).transport.link = .live) from
    this _ (by
      rw [mqttStaMode, tlsMqttConnect_isConnected, tlsMqttConnect_link_of_idle ans rfl]
      split_ifs <;> simp [initClient])
  induction es with
  | nil => exact fun _ h => h
  | cons ev es ih => exact fun e h => ih _ (step_connected_iff ev h)

/-- When lwIP never rejects a connect, a `DISCONNECTED` or a `TIMEOUT` is always followed by a
live attempt: in every run, an offline client whose last status was no refusal has an attempt
outstanding. -/
theorem run_reconnects (es : List Event) (hacc : ∀ ev ∈ es, ev.ConnectAccepted) :
    let e := run (mqttStaMode errOk) es
    e.client.isConnected = false →
      (∀ st, e.transport.lastStatus = some st → st.isRefusal = false) →
      e.transport.link = .connecting := by
  intro e hc hst
  have h : Online e := run_online es hacc
    ⟨by simp [mqttStaMode, tlsMqttConnect, mqttClientConnect, initClient],
      by simp [mqttStaMode, tlsMqttConnect, mqttClientConnect]⟩
  cases hl : e.transport.link with
  | idle =>
      obtain ⟨st, hs, hr⟩ := h.idle_refused hl
      rw [hst st hs] at hr
      cases hr
  | connecting => rfl
  | live => rw [← h.connected_iff, hc] at hl; cases hl

/-- A connection accepted and then lost: the client is trying again. -/
theorem run_reconnects_disconnected :
    let es : List Event :=
      [.status .accepted errOk fun _ => errOk, .status .disconnected errOk fun _ => errOk]
    (∀ ev ∈ es, ev.ConnectAccepted) ∧
      let e := run (mqttStaMode errOk) es
      e.client.isConnected = false →
        (∀ st, e.transport.lastStatus = some st → st.isRefusal = false) →
        e.transport.link = .connecting := by
  intro es
  have hacc : ∀ ev ∈ es, ev.ConnectAccepted := by simp [es, Event.ConnectAccepted]
  exact ⟨hacc, run_reconnects es hacc⟩

/-! ## Subscriptions on a connection that stays up -/

/-- The event keeps to what the agreement needs: `tls_mqtt_sub_unsub_topics` runs only from the
connection callback, lwIP accepts every connect and every request, and no live connection
closes. -/
def Event.Steady (e : Engine) : Event → Prop
  | .status _ connAns subAns => e.transport.link ≠ .live ∧ connAns = errOk ∧ ∀ i, subAns i = errOk
  | .subDone _ _ retryAns => retryAns = errOk
  | .subUnsub _ _ => False

def Steady : Engine → List Event → Prop
  | _, [] => True
  | e, ev :: es => ev.Steady e ∧ Steady (step e ev) es

/-- Requests in flight are subscriptions, at most one a session, of sessions not marked
subscribed; before a connection is live nothing is marked or requested; a session marked
subscribed is held by the broker; and on a live connection each session is marked or has its
request in flight. -/
structure Agree (e : Engine) : Prop where
  requests : ∀ r ∈ e.transport.requests,
    r.sub = true ∧ (e.client.topicsStates r.session).isSubscribed = false
  single : (e.transport.requests.map SubRequest.session).Nodup
  unset : e.transport.link ≠ .live →
    e.transport.requests = [] ∧ ∀ i, (e.client.topicsStates i).isSubscribed = false
  held : ∀ i, (e.client.topicsStates i).isSubscribed = true → e.transport.brokerSubs i = true
  covered : e.transport.link = .live →
    ∀ i, (e.client.topicsStates i).isSubscribed = true ∨ ∃ r ∈ e.transport.requests, r.session = i

theorem mem_eraseIdx_of_session_ne {l : List SubRequest} {n : Nat} {r r' : SubRequest}
    (hr : l[n]? = some r) (hr' : r' ∈ l) (hne : r'.session ≠ r.session) : r' ∈ l.eraseIdx n := by
  obtain ⟨hn, rfl⟩ := List.getElem?_eq_some_iff.mp hr
  rw [← List.take_append_drop n l, List.drop_eq_getElem_cons hn] at hr'
  rw [List.eraseIdx_eq_take_drop_succ]
  rcases List.mem_append.mp hr' with h | h
  · exact List.mem_append_left _ h
  · rcases List.mem_cons.mp h with rfl | h
    · exact absurd rfl hne
    · exact List.mem_append_right _ h

theorem session_ne_of_mem_eraseIdx {l : List SubRequest} {n : Nat} {r r' : SubRequest}
    (hnd : (l.map SubRequest.session).Nodup) (hr : l[n]? = some r) (hr' : r' ∈ l.eraseIdx n) :
    r'.session ≠ r.session := by
  obtain ⟨hn, rfl⟩ := List.getElem?_eq_some_iff.mp hr
  rw [← List.take_append_drop n l, List.drop_eq_getElem_cons hn, List.map_append, List.map_cons,
    List.nodup_middle, List.nodup_cons, ← List.map_append, ← List.eraseIdx_eq_take_drop_succ] at hnd
  rintro heq
  exact hnd.1 (heq ▸ List.mem_map_of_mem _ hr')

theorem completeSub_of_live {e : Engine} {n : Nat} {r : SubRequest}
    (hl : e.transport.link = .live) (hr : e.transport.requests[n]? = some r) (err retryAns : ErrT) :
    completeSub n err retryAns e =
      tlsMqttSubscribeRequestCb r.session err retryAns
        { e with transport := { e.transport with
            requests := e.transport.requests.eraseIdx n
            brokerSubs := if err = errOk then Function.update e.transport.brokerSubs r.session r.sub
              else e.transport.brokerSubs } } := by
  simp only [completeSub, hl, hr]

theorem completeSub_retry {e : Engine} {n : Nat} {r : SubRequest} (hl : e.transport.link = .live)
    (hr : e.transport.requests[n]? = some r) {err : ErrT} (herr : err ≠ errOk) :
    completeSub n err errOk e =
      { e with transport := { e.transport with
          requests := e.transport.requests.eraseIdx n ++
            [⟨r.session, !(e.client.topicsStates r.session).isSubscribed⟩] } } := by
  rw [completeSub_of_live hl hr]
  simp only [tlsMqttSubscribeRequestCb, herr, if_false, mqttSubUnsub_eq, hl, ne_eq, reduceCtorEq,
    not_false_eq_true, and_self, if_true]

theorem agree_of_unset {e : Engine} (hl : e.transport.link ≠ .live) (hr : e.transport.requests = [])
    (hs : ∀ i, (e.client.topicsStates i).isSubscribed = false) : Agree e :=
  ⟨by simp [hr], by simp [hr], fun _ => ⟨hr, hs⟩, fun i h => by simp [hs i] at h,
    fun h => absurd h hl⟩

theorem deliverStatus_of_ne_accepted {status : ConnectStatus} (connAns : ErrT)
    (subAns : TopicIndex → ErrT) {e : Engine} (hd : Deliverable status e.transport)
    (hst : status ≠ .accepted) :
    (deliverStatus status connAns subAns e).transport.requests = [] ∧
      (deliverStatus status connAns subAns e).client.topicsStates = e.client.topicsStates := by
  unfold deliverStatus
  rw [if_pos hd, if_neg hst]
  cases status <;> simp only [tlsMqttConnectionCb] <;> first
    | exact absurd rfl hst
    | exact ⟨rfl, rfl⟩
    | (simp only [tlsMqttConnect, mqttClientConnect]; split_ifs <;> exact ⟨rfl, rfl⟩)

theorem deliverStatus_accepted (connAns : ErrT) (subAns : TopicIndex → ErrT) {e : Engine}
    (hd : Deliverable .accepted e.transport) :
    let e' : Engine :=
      Engine.setConnected { e with transport := ⟨.live, e.transport.requests, fun _ => false,
        some .accepted⟩ } true
    deliverStatus .accepted connAns subAns e =
      e'.addRequests (addedRequests true subAns e' (List.finRange tlsMqttNumberOfTopics)) := by
  unfold deliverStatus
  rw [if_pos hd, if_pos rfl]
  exact tlsMqttSubUnsubTopics_eq _ _ _

theorem step_agree_status {e : Engine} {status : ConnectStatus} {connAns : ErrT}
    {subAns : TopicIndex → ErrT} (hs : (Event.status status connAns subAns).Steady e) (h : Agree e) :
    Agree (deliverStatus status connAns subAns e) := by
  obtain ⟨hlive, hconn, hsub⟩ := hs
  by_cases hd : Deliverable status e.transport
  · obtain ⟨hr, hu⟩ := h.unset hlive
    by_cases hst : status = .accepted
    · subst hst
      rw [deliverStatus_accepted connAns subAns hd]
      have hadd : addedRequests true subAns (Engine.setConnected { e with transport :=
          ⟨.live, e.transport.requests, fun _ => false, some .accepted⟩ } true)
          (List.finRange tlsMqttNumberOfTopics) =
          (List.finRange tlsMqttNumberOfTopics).map (⟨·, true⟩) := by
        simp [addedRequests, Engine.setConnected, hu, hsub]
      rw [hadd]
      refine ⟨fun r hr' => ?_, ?_, fun h' => absurd rfl h', fun i h' => ?_, fun _ i => ?_⟩
      · simp only [Engine.addRequests, Engine.setConnected, hr, List.nil_append, List.mem_map] at hr'
        obtain ⟨i, -, rfl⟩ := hr'
        exact ⟨rfl, hu i⟩
      · simp only [Engine.addRequests, Engine.setConnected, hr, List.nil_append, List.map_map]
        exact (List.nodup_finRange _).map_on fun _ _ _ _ h => h
      · simp [Engine.addRequests, Engine.setConnected, hu i] at h'
      · exact .inr ⟨⟨i, true⟩, by simp [Engine.addRequests, Engine.setConnected, hr], rfl⟩
    · obtain ⟨hr', hts⟩ := deliverStatus_of_ne_accepted connAns subAns hd hst
      refine agree_of_unset ?_ hr' fun i => hts ▸ hu i
      rw [(deliverStatus_spec status connAns subAns hd).2.1]
      cases status <;> simp [linkAfter] at hst ⊢ <;> split_ifs <;> simp
  · rwa [deliverStatus_of_not_deliverable status connAns subAns hd]

theorem completeSub_of_ne_live {e : Engine} (hl : e.transport.link ≠ .live) (n : Nat)
    (err retryAns : ErrT) : completeSub n err retryAns e = e := by
  unfold completeSub
  split
  · exact absurd ‹_› hl
  · rfl

section Completion

variable {e : Engine} {n : Nat} {r : SubRequest}

theorem Agree.erased (h : Agree e) (hr : e.transport.requests[n]? = some r) :
    (∀ r' ∈ e.transport.requests.eraseIdx n, r'.session ≠ r.session) ∧
      ((e.transport.requests.eraseIdx n).map SubRequest.session).Nodup :=
  ⟨fun _ hr' => session_ne_of_mem_eraseIdx h.single hr hr',
    h.single.sublist ((List.eraseIdx_sublist _ _).map _)⟩

theorem Agree.covered_erased (h : Agree e) (hl : e.transport.link = .live)
    (hr : e.transport.requests[n]? = some r) {i : TopicIndex} (hi : i ≠ r.session) :
    (e.client.topicsStates i).isSubscribed = true ∨
      ∃ r' ∈ e.transport.requests.eraseIdx n, r'.session = i := by
  rcases h.covered hl i with h' | ⟨r', hr', rfl⟩
  · exact .inl h'
  · exact .inr ⟨r', mem_eraseIdx_of_session_ne hr hr' hi, rfl⟩

theorem agree_completeSub_ok (h : Agree e) (hl : e.transport.link = .live)
    (hr : e.transport.requests[n]? = some r) (retryAns : ErrT) :
    Agree (completeSub n errOk retryAns e) := by
  rw [completeSub_of_live hl hr]
  obtain ⟨hsub, hoff⟩ := h.requests r (List.getElem?_mem hr)
  obtain ⟨hne, hsingle⟩ := h.erased hr
  simp only [tlsMqttSubscribeRequestCb, if_true]
  refine ⟨fun r' hr' => ?_, hsingle, fun h' => absurd hl h', fun i hi => ?_, fun _ i => ?_⟩
  · obtain ⟨hs', ho'⟩ := h.requests r' (List.mem_of_mem_eraseIdx hr')
    exact ⟨hs', by simpa [setSession_other _ _ (hne r' hr')] using ho'⟩
  · by_cases hi' : i = r.session
    · subst hi'; simp [hsub]
    · simp only [setSession_other _ _ hi'] at hi
      simp [Function.update_noteq hi', h.held i hi]
  · by_cases hi' : i = r.session
    · subst hi'; simp [hoff]
    · simp only [setSession_other _ _ hi']
      exact h.covered_erased hl hr hi'

theorem agree_completeSub_retry (h : Agree e) (hl : e.transport.link = .live)
    (hr : e.transport.requests[n]? = some r) {err : ErrT} (herr : err ≠ errOk) :
    Agree (completeSub n err errOk e) := by
  rw [completeSub_of_live hl hr]
  obtain ⟨-, hoff⟩ := h.requests r (List.getElem?_mem hr)
  obtain ⟨hne, hsingle⟩ := h.erased hr
  simp only [tlsMqttSubscribeRequestCb, herr, if_false, mqttSubUnsub_eq, hl, hoff, ne_eq,
    reduceCtorEq, not_false_eq_true, and_self, if_true, Bool.not_false]
  refine ⟨fun r' hr' => ?_, ?_, fun h' => absurd rfl h', fun i hi => h.held i hi, fun _ i => ?_⟩
  · rcases List.mem_append.mp hr' with hr' | hr'
    · exact h.requests r' (List.mem_of_mem_eraseIdx hr')
    · rw [List.mem_singleton.mp hr']; exact ⟨rfl, hoff⟩
  · rw [List.map_append, List.nodup_append]
    refine ⟨hsingle, List.nodup_singleton _, ?_⟩
    simp only [List.map_cons, List.map_nil, List.disjoint_singleton, List.mem_map, not_exists,
      not_and]
    exact hne
  · by_cases hi' : i = r.session
    · exact .inr ⟨⟨r.session, true⟩, by simp, hi'.symm⟩
    · rcases h.covered_erased hl hr hi' with h' | ⟨r', hr', rfl⟩
      · exact .inl h'
      · exact .inr ⟨r', List.mem_append_left _ hr', rfl⟩

end Completion

theorem step_agree_subDone {e : Engine} {n : Nat} {err retryAns : ErrT}
    (hs : (Event.subDone n err retryAns).Steady e) (h : Agree e) :
    Agree (completeSub n err retryAns e) := by
  by_cases hl : e.transport.link = .live
  · cases hr : e.transport.requests[n]? with
    | none => simp only [completeSub, hl, hr]; exact h
    | some r =>
        by_cases herr : err = errOk
        · subst herr; exact agree_completeSub_ok h hl hr retryAns
        · rw [show retryAns = errOk from hs]; exact agree_completeSub_retry h hl hr herr
  · rwa [completeSub_of_ne_live hl]

theorem step_agree {e : Engine} {ev : Event} (hs : ev.Steady e) (h : Agree e) :
    Agree (step e ev) := by
  cases ev with
  | status status connAns subAns => exact step_agree_status hs h
  | subDone n err retryAns => exact step_agree_subDone hs h
  | subUnsub sub subAns => exact hs.elim

theorem run_agree (es : List Event) :
    ∀ {e : Engine}, Steady e es → Agree e → Agree (run e es) := by
  induction es with
  | nil => exact fun _ h => h
  | cons ev es ih => exact fun hs h => ih hs.2 (step_agree hs.1 h)

/-- On a connection lwIP never drops and where every request succeeds, a session marked
subscribed is subscribed at the broker, and once no request is in flight every session of
`topics` is marked and held. -/
theorem run_subscribed_held (es : List Event) (hs : Steady (mqttStaMode errOk) es) :
    let e := run (mqttStaMode errOk) es
    (∀ i, (e.client.topicsStates i).isSubscribed = true → e.transport.brokerSubs i = true) ∧
      (e.client.isConnected = true → e.transport.requests = [] →
        ∀ i, (e.client.topicsStates i).isSubscribed = true ∧ e.transport.brokerSubs i = true) := by
  intro e
  have h : Agree e := run_agree es hs (agree_of_unset (by decide) rfl (by decide))
  refine ⟨h.held, fun hc hr i => ?_⟩
  have hi : (e.client.topicsStates i).isSubscribed = true := by
    rcases h.covered ((run_connected_iff errOk es).mp hc) i with hi | ⟨r, hr', -⟩
    · exact hi
    · simp [hr] at hr'
  exact ⟨hi, h.held i hi⟩

/-- A connection accepted, and both subscriptions acknowledged. -/
theorem run_subscribed_held_acked :
    let es : List Event :=
      [.status .accepted errOk fun _ => errOk, .subDone 0 errOk errOk, .subDone 0 errOk errOk]
    Steady (mqttStaMode errOk) es ∧
      let e := run (mqttStaMode errOk) es
      (∀ i, (e.client.topicsStates i).isSubscribed = true → e.transport.brokerSubs i = true) ∧
        (e.client.isConnected = true → e.transport.requests = [] →
          ∀ i, (e.client.topicsStates i).isSubscribed = true ∧ e.transport.brokerSubs i = true) := by
  intro es
  have hs : Steady (mqttStaMode errOk) es := ⟨⟨by decide, rfl, fun _ => rfl⟩, rfl, rfl, trivial⟩
  exact ⟨hs, run_subscribed_held es hs⟩

/-! ## Retries -/

theorem run_failures {r : SubRequest} (hsub : r.sub = true) (errs : List ErrT)
    (h : ∀ err ∈ errs, err ≠ errOk) :
    ∀ {e : Engine}, e.transport.link = .live → e.transport.requests = [r] →
      (e.client.topicsStates r.session).isSubscribed = false →
      (run e (errs.map fun err => .subDone 0 err errOk)).transport.requests = [r] ∧
        (run e (errs.map fun err => .subDone 0 err errOk)).client.topicsStates r.session =
          e.client.topicsStates r.session := by
  induction errs with
  | nil => exact fun _ hr _ => ⟨hr, rfl⟩
  | cons err errs ih =>
      intro e hl hr hoff
      have hstep : step e (.subDone 0 err errOk) =
          { e with transport := { e.transport with requests := [r] } } := by
        rw [show step e (.subDone 0 err errOk) = completeSub 0 err errOk e from rfl,
          @completeSub_retry e 0 r hl (by rw [hr]; rfl) err (h err (List.mem_cons_self _ _)), hr, hoff]
        obtain ⟨session, sub⟩ := r
        simp only at hsub
        simp [hsub]
      rw [List.map_cons, run, List.foldl_cons, hstep]
      exact ih (fun x hx => h x (List.mem_cons_of_mem _ hx)) hl rfl hoff

/-- The broker refusing the subscription to `water` over and over: after the connection is
accepted and `light` is subscribed, every failed completion of the request for `water` is
followed by a new request for it, so after any number of failures one more request for the topic
is in flight and the session is still not subscribed. -/
theorem run_retries_unbounded (errs : List ErrT) (h : ∀ err ∈ errs, err ≠ errOk) :
    let e := run (mqttStaMode errOk) ([.status .accepted errOk fun _ => errOk, .subDone 1 errOk errOk] ++
      errs.map fun err => .subDone 0 err errOk)
    e.transport.requests = [⟨⟨0, by decide⟩, true⟩] ∧
      (e.client.topicsStates ⟨0, by decide⟩).isSubscribed = false := by
  have h₀ : (run (mqttStaMode errOk) [.status .accepted errOk fun _ => errOk,
      .subDone 1 errOk errOk]).transport.link = .live ∧
    (run (mqttStaMode errOk) [.status .accepted errOk fun _ => errOk,
      .subDone 1 errOk errOk]).transport.requests = [⟨⟨0, by decide⟩, true⟩] ∧
    ((run (mqttStaMode errOk) [.status .accepted errOk fun _ => errOk,
      .subDone 1 errOk errOk]).client.topicsStates ⟨0, by decide⟩).isSubscribed = false := by
    decide
  obtain ⟨hr, hts⟩ := run_failures rfl errs h h₀.1 h₀.2.1 h₀.2.2
  simp only [run, List.foldl_append] at hr hts ⊢
  exact ⟨hr, hts.symm ▸ h₀.2.2⟩

/-- Two refused `SUBACK`s: the one call of `tls_mqtt_sub_unsub_topics` on `ACCEPTED` has led to
three requests for `water`, the third still in flight. -/
theorem run_retries_unbounded_twice :
    (∀ err ∈ [errAbrt, errAbrt], err ≠ errOk) ∧
      (run (mqttStaMode errOk) ([.status .accepted errOk fun _ => errOk, .subDone 1 errOk errOk] ++
        [errAbrt, errAbrt].map fun err => .subDone 0 err errOk)).transport.requests =
        [⟨⟨0, by decide⟩, true⟩] := by
  have h : ∀ err ∈ [errAbrt, errAbrt], err ≠ errOk := by decide
  exact ⟨h, (run_retries_unbounded [errAbrt, errAbrt] h).1⟩

end PicoSensorAggregator.Connection
