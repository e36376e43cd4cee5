import PicoSensorAggregator.MqttClient
import Mathlib.Data.List.Nodup

/-!
Ownership of the messages `tls_mqtt_publish` hands to lwIP. Each call allocates an
`MQTTMessage` and copies of the topic and the payload; `clean_message` frees them, either on the
allocation failure that stops the call or from `tls_mqtt_pub_request_cb` when lwIP completes the
request. lwIP's `mqtt_publish` either accepts a request, and later calls the callback once with
some `err`, or rejects it at once with an error code. When lwIP closes the connection,
`mqtt_close` drops every pending request without calling its callback. The heap is its live
blocks and the log of every `free`; requests complete in any order.
-/

namespace PicoSensorAggregator.Publish

open RuntimeSettings MqttClient

/-! ## The heap -/

structure Heap where
  next : Nat
  live : List Nat
  freed : List Nat
deriving DecidableEq, Repr

def Heap.alloc (h : Heap) : Heap := ⟨h.next + 1, h.next :: h.live, h.freed⟩

@[simp] theorem Heap.alloc_next (h : Heap) : h.alloc.next = h.next + 1 := rfl

def Heap.malloc (h : Heap) (ok : Bool) : Option Nat × Heap :=
  if ok then (some h.next, h.alloc) else (none, h)

def Heap.free (h : Heap) (p : Nat) : Heap := ⟨h.next, h.live.erase p, h.freed ++ [p]⟩

/-- Every block handed out is live or freed, exactly once: in particular none is freed twice. -/
def Heap.Valid (h : Heap) : Prop :=
  ∀ q, h.live.count q + h.freed.count q = if q < h.next then 1 else 0

@[simp] theorem malloc_true (h : Heap) : h.malloc true = (some h.next, h.alloc) := rfl

@[simp] theorem malloc_false (h : Heap) : h.malloc false = (none, h) := rfl

theorem Heap.valid_alloc {h : Heap} (hv : h.Valid) : h.alloc.Valid := by
  intro q
  have := hv q
  simp only [Heap.alloc, List.count_cons, beq_iff_eq]
  split_ifs at this ⊢ <;> omega

theorem Heap.count_foldl_free (bs : List Nat) (h : Heap) (q : Nat) :
    (bs.foldl Heap.free h).live.count q = h.live.count q - bs.count q := by
  induction bs generalizing h with
  | nil => rfl
  | cons b bs ih =>
      rw [List.foldl_cons, ih]
      simp only [Heap.free, List.count_erase, List.count_cons]
      omega

theorem Heap.valid_foldl_free {bs : List Nat} :
    ∀ {h : Heap}, h.Valid → (∀ q, bs.count q ≤ h.live.count q) → (bs.foldl Heap.free h).Valid := by
  induction bs with
  | nil => exact fun hv _ => hv
  | cons b bs ih =>
      intro h hv hb
      refine ih (fun q => ?_) fun q => ?_
      · have h1 := hv q
        have h2 := hb b
        simp only [List.count_cons, beq_self_eq_true, if_true] at h2
        simp only [Heap.free, List.count_erase, List.count_append, List.count_singleton]
        rcases eq_or_ne b q with rfl | hne
        · simp only [beq_self_eq_true, if_true]
          omega
        · simp only [beq_iff_eq, hne, if_false]
          omega
      · have := hb q
        simp only [Heap.free, List.count_erase, List.count_cons] at this ⊢
        omega

/-! ## Messages and requests -/

/-- An `MQTTMessage` in block `self`: its `topic` and `payload` pointers, `none` for `NULL`, and
`payload_length`. -/
structure MqttMessage where
  self : Nat
  topic : Option Nat
  payload : Option Nat
  payloadLength : Nat
deriving DecidableEq, Repr

def MqttMessage.blocks (m : MqttMessage) : List Nat := m.topic.toList ++ m.payload.toList ++ [m.self]

def freeIfSet (h : Heap) : Option Nat → Heap
  | some p => h.free p
  | none => h

/-- `clean_message` of a message that is not `NULL`. -/
def cleanMessage (h : Heap) (m : MqttMessage) : Heap :=
  (freeIfSet (freeIfSet h m.topic) m.payload).free m.self

theorem cleanMessage_eq (h : Heap) (m : MqttMessage) :
    cleanMessage h m = m.blocks.foldl Heap.free h := by
  obtain ⟨self, _ | t, _ | p, n⟩ := m <;> rfl

/-- `tls_mqtt_pub_request_cb(arg, err)`: whatever `err` says, the message is cleaned. The
`arg` lwIP passes back is the message `tls_mqtt_publish` gave it, never `NULL`. -/
def tlsMqttPubRequestCb (h : Heap) (message : MqttMessage) (_err : ErrT) : Heap :=
  cleanMessage h message

structure Request where
  topic : String
  payload : List UInt8
  qos : UInt8
  retain : UInt8
  arg : MqttMessage
deriving DecidableEq, Repr

/-- The blocks that the callbacks still to come will free. -/
def owned (ps : List Request) : List Nat := ps.flatMap fun r => r.arg.blocks

structure PubState where
  heap : Heap
  pending : List Request
deriving DecidableEq, Repr

def PubState.initial : PubState := ⟨⟨0, [], []⟩, []⟩

/-! ## `tls_mqtt_publish` -/

/-- What the environment decides in one `tls_mqtt_publish`: whether each of its three `malloc`s
returns a block, and what `mqtt_publish` returns, `ERR_OK` when it accepts the request. -/
structure PublishOracle where
  messageOk : Bool
  topicOk : Bool
  payloadOk : Bool
  answer : ErrT
deriving DecidableEq, Repr

/-- `tls_mqtt_publish(client, topic, payload, payload_size, qos)`, `NULL` pointers as `none`:
the `err_t` it returns and the state after it. -/
def tlsMqttPublish (isConnected : Bool) (topic : Option String) (payload : Option (List UInt8))
    (payloadSize : Nat) (qos : UInt8) (o : PublishOracle) (s : PubState) : ErrT × PubState :=
  match isConnected, topic, payload with
  | true, some topic, some payload =>
      if payloadSize = 0 then (errOk, s) else
      match s.heap.malloc o.messageOk with
      | (none, heap) => (errMem, ⟨heap, s.pending⟩)
      | (some msg, heap) =>
          match heap.malloc o.topicOk with
          | (none, heap) => (errMem, ⟨cleanMessage heap ⟨msg, none, none, 0⟩, s.pending⟩)
          | (some t, heap) =>
              match heap.malloc o.payloadOk with
              | (none, heap) => (errMem, ⟨cleanMessage heap ⟨msg, some t, none, 0⟩, s.pending⟩)
              | (some p, heap) =>
                  let m : MqttMessage := ⟨msg, some t, some p, payloadSize⟩
                  if o.answer = errOk then
                    (errOk, ⟨heap, s.pending ++ [⟨topic, payload.take payloadSize, qos, 0, m⟩]⟩)
                  else (o.answer, ⟨heap, s.pending⟩)
  | _, _, _ => (errOk, s)

theorem tlsMqttPublish_cases (isConnected : Bool) (topic : Option String)
    (payload : Option (List UInt8)) (payloadSize : Nat) (qos : UInt8) (o : PublishOracle)
    (s : PubState) :
    let s' := (tlsMqttPublish isConnected topic payload payloadSize qos o s).2
    s' = s ∨
      s' = ⟨[s.heap.next].foldl Heap.free s.heap.alloc, s.pending⟩ ∨
      s' = ⟨[s.heap.next + 1, s.heap.next].foldl Heap.free s.heap.alloc.alloc, s.pending⟩ ∨
      (o.answer = errOk ∧ ∃ r : Request, r.arg.blocks = [s.heap.next + 1, s.heap.next + 2, s.heap.next] ∧
        s' = ⟨s.heap.alloc.alloc.alloc, s.pending ++ [r]⟩) ∨
      (o.answer ≠ errOk ∧ s' = ⟨s.heap.alloc.alloc.alloc, s.pending⟩) := by
  cases isConnected <;> cases topic <;> cases payload <;> try exact .inl rfl
  rename_i topic payload
  by_cases h0 : payloadSize = 0
  · simp [tlsMqttPublish, h0]
  cases hm : o.messageOk
  · simp [tlsMqttPublish, h0, hm]
  cases ht : o.topicOk
  · simp [tlsMqttPublish, h0, hm, ht, cleanMessage_eq, MqttMessage.blocks, Heap.alloc]
  cases hp : o.payloadOk
  · simp [tlsMqttPublish, h0, hm, ht, hp, cleanMessage_eq, MqttMessage.blocks, Heap.alloc]
  by_cases ha : o.answer = errOk
  · refine .inr (.inr (.inr (.inl ⟨ha, ⟨topic, payload.take payloadSize, qos, 0,
      ⟨s.heap.next, some (s.heap.next + 1), some (s.heap.next + 2), payloadSize⟩⟩, rfl, ?_⟩)))
    simp [tlsMqttPublish, h0, hm, ht, hp, ha, Heap.alloc]
  · simp [tlsMqttPublish, h0, hm, ht, hp, ha, Heap.alloc]

/-! ## Completions and runs -/

theorem count_owned_eraseIdx {ps : List Request} {n : Nat} {r : Request} (h : ps[n]? = some r)
    (q : Nat) : (owned ps).count q = (owned (ps.eraseIdx n)).count q + r.arg.blocks.count q := by
  obtain ⟨hn, rfl⟩ := List.getElem?_eq_some_iff.mp h
  conv_lhs => rw [← List.take_append_drop n ps, List.drop_eq_getElem_cons hn]
  simp only [owned, List.eraseIdx_eq_take_drop_succ, List.flatMap_append, List.flatMap_cons,
    List.count_append]
  omega

/-- lwIP completing its `n`-th pending request with some `err`: `tls_mqtt_pub_request_cb` runs
on the request's message, and lwIP forgets the request. -/
def completeRequest (n : Nat) (err : ErrT) (s : PubState) : PubState :=
  match s.pending[n]? with
  | some r => ⟨tlsMqttPubRequestCb s.heap r.arg err, s.pending.eraseIdx n⟩
  | none => s

/-- The calls of `publish_topic_data`'s loops from the `k`-th on, each publishing a topic with
its text; the first error ends the function. -/
def publishEach (isConnected : Bool) (o : Nat → PublishOracle) :
    Nat → List (String × List UInt8) → PubState → ErrT × PubState
  | _, [], s => (errOk, s)
  | k, (topic, data) :: rest, s =>
      let r := tlsMqttPublish isConnected (some topic) (some data) data.length qos (o k) s
      if r.1 ≠ errOk then r else publishEach isConnected o (k + 1) rest r.2

/-- `publish_topic_data`: `client_id/name` for each sensor topic with the sensor's record, then
for each control topic with its state text, each sent with its `strlen`; `o k` answers the
`k`-th call. -/
def publishTopicData (isConnected : Bool) (clientId : String)
    (sensorData controlData : Nat → List UInt8) (o : Nat → PublishOracle) (s : PubState) :
    ErrT × PubState :=
  publishEach isConnected o 0
    (sensorTopics.enum.map (fun (i, name) => (clientId ++ "/" ++ name, sensorData i)) ++
      controlTopics.enum.map (fun (i, name) => (clientId ++ "/" ++ name, controlData i))) s

/-- What can happen: a call of `tls_mqtt_publish` with any arguments, one of
`publish_topic_data`, each with the allocator's and lwIP's answers, the completion of a pending
request, or lwIP closing the connection. -/
inductive Event
  | publish (isConnected : Bool) (topic : Option String) (payload : Option (List UInt8))
      (payloadSize : Nat) (qos : UInt8) (o : PublishOracle)
  | topicData (isConnected : Bool) (clientId : String) (sensorData controlData : Nat → List UInt8)
      (o : Nat → PublishOracle)
  | complete (n : Nat) (err : ErrT)
  | close

/-- A step. At a close lwIP's `mqtt_close` forgets the pending requests, `mqtt_clear_requests`
calling none of their callbacks. -/
def step (s : PubState) : Event → PubState
  | .publish c topic payload n q o => (tlsMqttPublish c topic payload n q o s).2
  | .topicData c clientId sensorData controlData o =>
      (publishTopicData c clientId sensorData controlData o s).2
  | .complete n err => completeRequest n err s
  | .close => ⟨s.heap, []⟩

def run (s : PubState) (es : List Event) : PubState := es.foldl step s

/-- lwIP accepts every request the event hands it, and drops none: a close is not such an
event. -/
def Event.Accepted : Event → Prop
  | .publish _ _ _ _ _ o => o.answer = errOk
  | .topicData _ _ _ _ o => ∀ k, (o k).answer = errOk
  | .complete _ _ => True
  | .close => False

/-! ## Ownership -/

/-- The heap is valid and still holds every block that a pending request will free. -/
structure Inv (s : PubState) : Prop where
  valid : s.heap.Valid
  owned_le : ∀ q, (owned s.pending).count q ≤ s.heap.live.count q

def Exact (s : PubState) : Prop := ∀ q, (owned s.pending).count q = s.heap.live.count q

theorem initial_inv : Inv PubState.initial :=
  ⟨fun _ => by simp [PubState.initial], fun _ => by simp [PubState.initial, owned]⟩

theorem initial_exact : Exact PubState.initial := fun _ => rfl

theorem count_alloc (h : Heap) (q : Nat) :
    h.alloc.live.count q = h.live.count q + if h.next = q then 1 else 0 := by
  simp [Heap.alloc, List.count_cons]

theorem inv_of_live_count {s : PubState} {heap : Heap} (h : Inv s) (hv : heap.Valid)
    (hc : ∀ q, heap.live.count q = s.heap.live.count q) :
    Inv ⟨heap, s.pending⟩ ∧ (Exact s → Exact ⟨heap, s.pending⟩) :=
  ⟨⟨hv, fun q => (hc q).symm ▸ h.owned_le q⟩, fun he q => (hc q).symm ▸ he q⟩

theorem tlsMqttPublish_inv (isConnected : Bool) (topic : Option String)
    (payload : Option (List UInt8)) (payloadSize : Nat) (qos : UInt8) (o : PublishOracle)
    {s : PubState} (h : Inv s) :
    Inv (tlsMqttPublish isConnected topic payload payloadSize qos o s).2 ∧
      (o.answer = errOk → Exact s →
        Exact (tlsMqttPublish isConnected topic payload payloadSize qos o s).2) := by
  have hv1 := Heap.valid_alloc h.valid
  have hv2 := Heap.valid_alloc hv1
  rcases tlsMqttPublish_cases isConnected topic payload payloadSize qos o s with
    hs | hs | hs | ⟨-, r, hr, hs⟩ | ⟨hne, hs⟩ <;> rw [hs]
  case inl => exact ⟨h, fun _ => id⟩
  -- a failed `malloc`: the blocks just allocated are freed again
  case inr.inl | inr.inr.inl =>
    refine (inv_of_live_count h (Heap.valid_foldl_free (by assumption) fun q => ?_) fun q => ?_).imp
      id fun he _ => he
    all_goals
      simp only [Heap.count_foldl_free, count_alloc, Heap.alloc_next, List.count_cons,
        List.count_nil, beq_iff_eq]
      split_ifs <;> omega
  case inr.inr.inr.inl =>
    have hc : ∀ q, (owned (s.pending ++ [r])).count q + s.heap.live.count q =
        (owned s.pending).count q + s.heap.alloc.alloc.alloc.live.count q := fun q => by
      simp only [owned, List.flatMap_append, List.flatMap_cons, List.flatMap_nil, List.append_nil,
        List.count_append, hr, count_alloc, List.count_cons, List.count_nil, beq_iff_eq,
        Heap.alloc_next]
      split_ifs <;> omega
    refine ⟨⟨Heap.valid_alloc hv2, fun q => ?_⟩, fun _ he q => ?_⟩ <;> dsimp only <;> have := hc q
    · have := h.owned_le q
      omega
    · have := he q
      omega
  case inr.inr.inr.inr =>
    refine ⟨⟨Heap.valid_alloc hv2, fun q => ?_⟩, fun ha => absurd ha hne⟩
    have := h.owned_le q
    dsimp only
    rw [count_alloc, count_alloc, count_alloc]
    omega

theorem completeRequest_inv (n : Nat) (err : ErrT) {s : PubState} (h : Inv s) :
    Inv (completeRequest n err s) ∧ (Exact s → Exact (completeRequest n err s)) := by
  unfold completeRequest
  split
  · rename_i r hr
    have hc := count_owned_eraseIdx hr
    have hb : ∀ q, r.arg.blocks.count q ≤ s.heap.live.count q := fun q => by
      have := h.owned_le q
      have := hc q
      omega
    simp only [tlsMqttPubRequestCb, cleanMessage_eq]
    refine ⟨⟨Heap.valid_foldl_free h.valid hb, fun q => ?_⟩, fun he q => ?_⟩ <;>
      dsimp only <;> rw [Heap.count_foldl_free] <;> have := hc q
    · have := h.owned_le q
      omega
    · have := he q
      omega
  · exact ⟨h, id⟩

theorem publishEach_inv (isConnected : Bool) (o : Nat → PublishOracle) :
    ∀ (k : Nat) (msgs : List (String × List UInt8)) {s : PubState}, Inv s →
      Inv (publishEach isConnected o k msgs s).2 ∧
        ((∀ k, (o k).answer = errOk) → Exact s → Exact (publishEach isConnected o k msgs s).2)
  | _, [], _, h => ⟨h, fun _ => id⟩
  | k, (topic, data) :: rest, _, h => by
      obtain ⟨h1, e1⟩ := tlsMqttPublish_inv isConnected (some topic) (some data) data.length qos (o k) h
      obtain ⟨h2, e2⟩ := publishEach_inv isConnected o (k + 1) rest h1
      simp only [publishEach]
      split_ifs
      · exact ⟨h1, fun ho he => e1 (ho k) he⟩
      · exact ⟨h2, fun ho he => e2 ho (e1 (ho k) he)⟩

theorem step_inv (e : Event) {s : PubState} (h : Inv s) :
    Inv (step s e) ∧ (e.Accepted → Exact s → Exact (step s e)) := by
  cases e with
  | publish c topic payload n q o => exact tlsMqttPublish_inv c topic payload n q o h
  | topicData c clientId sensorData controlData o => exact publishEach_inv c o 0 _ h
  | complete n err =>
      obtain ⟨h1, e1⟩ := completeRequest_inv n err h
      exact ⟨h1, fun _ => e1⟩
  | close => exact ⟨⟨h.valid, fun _ => Nat.zero_le _⟩, False.elim⟩

theorem run_inv (es : List Event) :
    ∀ {s : PubState}, Inv s →
      Inv (run s es) ∧ ((∀ e ∈ es, e.Accepted) → Exact s → Exact (run s es)) := by
  induction es with
  | nil => exact fun h => ⟨h, fun _ => id⟩
  | cons e es ih =>
      intro s h
      obtain ⟨h1, e1⟩ := step_inv e h
      obtain ⟨h2, e2⟩ := ih h1
      exact ⟨h2, fun ha he =>
        e2 (fun e' he' => ha e' (List.mem_cons_of_mem _ he')) (e1 (ha e (List.mem_cons_self _ _)) he)⟩

/-- In every run from an empty heap, whatever the allocator and lwIP answer and in whatever
order requests complete: no block is freed twice, only blocks handed out and no longer live are
freed, and the blocks of each pending request stay live until its callback frees them. -/
theorem run_no_double_free (es : List Event) :
    let s := run PubState.initial es
    s.heap.freed.Nodup ∧ (∀ p ∈ s.heap.freed, p < s.heap.next ∧ p ∉ s.heap.live) ∧
      ∀ q, (owned s.pending).count q ≤ s.heap.live.count q := by
  have h := (run_inv es initial_inv).1
  refine ⟨List.nodup_iff_count_le_one.mpr fun q => ?_, fun p hp => ?_, h.owned_le⟩
  · have := h.valid q
    split_ifs at this <;> omega
  · have hv := h.valid p
    have hpos := List.count_pos_iff.mpr hp
    split_ifs at hv with hlt
    · exact ⟨hlt, List.count_eq_zero.mp (by omega)⟩
    · omega

/-- When lwIP accepts every request it is handed, nothing leaks: the live blocks are those of
pending requests, so once every request has completed no block is live. -/
theorem run_live_eq_nil_of_accepted (es : List Event) (hacc : ∀ e ∈ es, e.Accepted)
    (hdone : (run PubState.initial es).pending = []) : (run PubState.initial es).heap.live = [] := by
  have hex := (run_inv es initial_inv).2 hacc initial_exact
  refine List.eq_nil_iff_forall_not_mem.mpr fun q hq => ?_
  have := hex q
  rw [hdone] at this
  have := List.count_pos_iff.mpr hq
  simp only [owned, List.flatMap_nil, List.count_nil] at *
  omega

/-- A publish that lwIP accepts, and its completion. -/
theorem run_live_eq_nil_of_accepted_completed :
    let es := [Event.publish true (some "PicoWClient1/r_hum") (some [0x32, 0x31]) 2 qos
      ⟨true, true, true, errOk⟩, .complete 0 errOk]
    (∀ e ∈ es, e.Accepted) ∧ (run PubState.initial es).pending = [] ∧
      (run PubState.initial es).heap.live = [] := by
  intro es
  have hacc : ∀ e ∈ es, e.Accepted := by simp [es, Event.Accepted]
  have hdone : (run PubState.initial es).pending = [] := by decide
  exact ⟨hacc, hdone, run_live_eq_nil_of_accepted es hacc hdone⟩

/-- A publish that lwIP rejects at once, with `ERR_MEM`, after all three `malloc`s succeeded:
nothing is pending, yet the message and both copies stay allocated and are never freed. -/
theorem run_rejected_publish_leaks :
    run PubState.initial
        [.publish true (some "PicoWClient1/r_hum") (some [0x32, 0x31]) 2 qos ⟨true, true, true, errMem⟩] =
      ⟨⟨3, [2, 1, 0], []⟩, []⟩ := by
  decide

/-! ## A close -/

/-- The blocks `L` of the requests dropped at a close: live, below `n`, the allocator's next
address at the close, while every block a pending request holds is at least `n`. -/
structure Leaked (L : List Nat) (n : Nat) (s : PubState) : Prop where
  next_le : n ≤ s.heap.next
  live : ∀ q ∈ L, q ∈ s.heap.live
  lt : ∀ q ∈ L, q < n
  fresh : ∀ q ∈ owned s.pending, n ≤ q

theorem Leaked.alloc {L : List Nat} {n : Nat} {h : Heap} {ps : List Request}
    (hl : Leaked L n ⟨h, ps⟩) : Leaked L n ⟨h.alloc, ps⟩ :=
  ⟨Nat.le_succ_of_le hl.next_le, fun q hq => List.mem_cons_of_mem _ (hl.live q hq), hl.lt,
    hl.fresh⟩

theorem Leaked.foldl_free {L : List Nat} {n : Nat} {ps : List Request} (bs : List Nat)
    (hbs : ∀ b ∈ bs, n ≤ b) : ∀ {h : Heap}, Leaked L n ⟨h, ps⟩ → Leaked L n ⟨bs.foldl Heap.free h, ps⟩ := by
  induction bs with
  | nil => exact id
  | cons b bs ih =>
      intro h hl
      refine ih (fun b' hb' => hbs b' (List.mem_cons_of_mem _ hb')) ⟨hl.next_le, fun q hq => ?_, hl.lt, hl.fresh⟩
      have hne : q ≠ b := Nat.ne_of_lt (Nat.lt_of_lt_of_le (hl.lt q hq) (hbs b (List.mem_cons_self _ _)))
      exact (List.mem_erase_of_ne hne).mpr (hl.live q hq)

theorem tlsMqttPublish_leaked (isConnected : Bool) (topic : Option String)
    (payload : Option (List UInt8)) (payloadSize : Nat) (qos : UInt8) (o : PublishOracle)
    {L : List Nat} {n : Nat} {s : PubState} (hl : Leaked L n s) :
    Leaked L n (tlsMqttPublish isConnected topic payload payloadSize qos o s).2 := by
  have hl' : Leaked L n ⟨s.heap, s.pending⟩ := hl
  have hge : ∀ k, n ≤ s.heap.next + k := fun k => Nat.le_add_right_of_le hl.next_le
  rcases tlsMqttPublish_cases isConnected topic payload payloadSize qos o s with
    hs | hs | hs | ⟨-, r, hr, hs⟩ | ⟨-, hs⟩ <;> rw [hs]
  · exact hl
  · exact Leaked.foldl_free _ (by simpa using hge 0) hl'.alloc
  · exact Leaked.foldl_free _ (by simpa using ⟨hge 1, hge 0⟩) hl'.alloc.alloc
  · obtain ⟨h1, h2, h3, h4⟩ := hl'.alloc.alloc.alloc
    refine ⟨h1, h2, h3, fun q hq => ?_⟩
    simp only [owned, List.flatMap_append, List.flatMap_cons, List.flatMap_nil, List.append_nil,
      List.mem_append, hr, List.mem_cons, List.mem_singleton, List.not_mem_nil, or_false] at hq
    rcases hq with hq | rfl | rfl | rfl
    · exact h4 q hq
    · exact hge 1
    · exact hge 2
    · exact hge 0
  · exact hl'.alloc.alloc.alloc

theorem publishEach_leaked (isConnected : Bool) (o : Nat → PublishOracle) {L : List Nat} {n : Nat} :
    ∀ (k : Nat) (msgs : List (String × List UInt8)) {s : PubState}, Leaked L n s →
      Leaked L n (publishEach isConnected o k msgs s).2
  | _, [], _, hl => hl
  | k, (topic, data) :: rest, _, hl => by
      have h1 := tlsMqttPublish_leaked isConnected (some topic) (some data) data.length qos (o k) hl
      simp only [publishEach]
      split_ifs
      · exact h1
      · exact publishEach_leaked isConnected o (k + 1) rest h1

theorem completeRequest_leaked (k : Nat) (err : ErrT) {L : List Nat} {n : Nat} {s : PubState}
    (hl : Leaked L n s) : Leaked L n (completeRequest k err s) := by
  unfold completeRequest
  split
  · rename_i r hr
    have hown : ∀ q ∈ r.arg.blocks, q ∈ owned s.pending :=
      fun q hq => List.mem_flatMap.mpr ⟨r, List.getElem?_mem hr, hq⟩
    have hfree : Leaked L n ⟨tlsMqttPubRequestCb s.heap r.arg err, s.pending⟩ := by
      simpa only [tlsMqttPubRequestCb, cleanMessage_eq] using
        Leaked.foldl_free r.arg.blocks (fun q hq => hl.fresh q (hown q hq)) hl
    refine ⟨hfree.next_le, hfree.live, hl.lt,
      fun q (hq : q ∈ owned (s.pending.eraseIdx k)) => hl.fresh q ?_⟩
    have := count_owned_eraseIdx hr q
    exact List.count_pos_iff.mp (by have := List.count_pos_iff.mpr hq; omega)
  · exact hl

theorem step_leaked (e : Event) {L : List Nat} {n : Nat} {s : PubState} (hl : Leaked L n s) :
    Leaked L n (step s e) := by
  cases e with
  | publish c topic payload k q o => exact tlsMqttPublish_leaked c topic payload k q o hl
  | topicData c clientId sensorData controlData o => exact publishEach_leaked c o 0 _ hl
  | complete k err => exact completeRequest_leaked k err hl
  | close => exact ⟨hl.next_le, hl.live, hl.lt, nofun⟩

theorem run_leaked (es : List Event) {L : List Nat} {n : Nat} :
    ∀ {s : PubState}, Leaked L n s → Leaked L n (run s es) := by
  induction es with
  | nil => exact id
  | cons e es ih => exact fun hl => ih (step_leaked e hl)

theorem close_leaked {s : PubState} (h : Inv s) :
    Leaked (owned s.pending) s.heap.next (step s .close) := by
  have hlive : ∀ q ∈ owned s.pending, 0 < s.heap.live.count q := fun q hq =>
    Nat.lt_of_lt_of_le (List.count_pos_iff.mpr hq) (h.owned_le q)
  refine ⟨Nat.le_refl _, fun q hq => List.count_pos_iff.mp (hlive q hq), fun q hq => ?_, nofun⟩
  have := h.valid q
  have := hlive q hq
  split_ifs at * <;> omega

/-- lwIP drops the requests pending when it closes the connection without calling their
callbacks, so `clean_message` never runs on them: the message and both copies of every request
pending at a close stay allocated for good, and are never freed, whatever is published,
completed or closed afterwards. -/
theorem run_close_leaks (es es' : List Event) :
    let s := run PubState.initial es
    ∀ q ∈ owned s.pending, q ∈ (run (step s .close) es').heap.live ∧
      q ∉ (run (step s .close) es').heap.freed := by
  intro s q hq
  have hinv : Inv s := (run_inv es initial_inv).1
  have hl : Leaked (owned s.pending) s.heap.next (run (step s .close) es') :=
    run_leaked es' (close_leaked hinv)
  have hlive := hl.live q hq
  refine ⟨hlive, fun hf => ?_⟩
  have hv : (run (step s .close) es').heap.Valid := (run_inv es' (step_inv .close hinv).1).1.valid
  have := hv q
  have := List.count_pos_iff.mpr hlive
  have := List.count_pos_iff.mpr hf
  split_ifs at * <;> omega

/-- A publish that lwIP accepts, then a close before its completion: the message block `0` is
never freed, even after a later completion. -/
theorem run_close_leaks_pending :
    let s := run PubState.initial [Event.publish true (some "PicoWClient1/r_hum") (some [0x32, 0x31]) 2
      qos ⟨true, true, true, errOk⟩]
    0 ∈ owned s.pending ∧ 0 ∈ (run (step s .close) [.complete 0 errOk]).heap.live ∧
      0 ∉ (run (step s .close) [.complete 0 errOk]).heap.freed := by
  intro s
  have hq : 0 ∈ owned s.pending := by decide
  exact ⟨hq, run_close_leaks _ [.complete 0 errOk] 0 hq⟩

end PicoSensorAggregator.Publish
