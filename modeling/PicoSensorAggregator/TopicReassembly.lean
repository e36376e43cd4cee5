import PicoSensorAggregator.MqttClient

/-!
Reassembly of incoming messages: `tls_mqtt_incoming_publish_cb` opens the session of the
message's topic and `tls_mqtt_incoming_data_cb` copies each chunk into its buffer, handing the
whole message to `pass_incom_data` when the announced length has arrived. Each callback also
reports the session bytes it wrote, so that where the copies land can be stated.
-/

namespace PicoSensorAggregator.TopicReassembly

open RuntimeSettings MqttClient

def mqttDataFlagLast : UInt8 := 1

/-- The arguments of one `tls_mqtt_incoming_data_cb` call: the bytes, whose length is the
`uint16_t len`, and `flags`. -/
structure Chunk where
  data : List UInt8
  flags : UInt8
  len_lt : data.length < 65536

structure HandlerCall where
  topicNumber : Nat
  buffer : List UInt8
  length : Nat
deriving DecidableEq, Repr

structure Effects where
  writes : List (TopicIndex × Nat)
  calls : List HandlerCall

def Effects.none : Effects := ⟨[], []⟩

def Effects.append (e e' : Effects) : Effects := ⟨e.writes ++ e'.writes, e.calls ++ e'.calls⟩

/-- The session whose `topic_name` equals the topic: the first, as the loop breaks. -/
def findTopic (topic : String) : Option TopicIndex :=
  (List.finRange tlsMqttNumberOfTopics).find? fun i => topicName i = topic

/-- `tls_mqtt_incoming_publish_cb(arg, topic, tot_len)`. -/
def tlsMqttIncomingPublishCb (state : MqttClientT) (topic : String) (totLen : Nat) : MqttClientT :=
  match findTopic topic with
  | none => { state with topicIncomData := tlsMqttNumberOfTopics, errState := .topicErrMqttUndefined }
  | some i =>
      let session := { state.topicsStates i with topicBufferLength := 0, dataIn := 0 }
      let state := { state with topicIncomData := i.val }
      if totLen > topicBufferSize - 1 then
        { state.setSession i session with errState := .topicErrMqttExcedeedLength }
      else
        { state.setSession i { session with dataIn := totLen } with errState := .tlsMqttOk }

def copyInto (buf : Nat → UInt8) (pos : Nat) (data : List UInt8) : Nat → UInt8 :=
  fun j => if pos ≤ j ∧ j < pos + data.length then data.getD (j - pos) 0 else buf j

/-- The body of the `TLS_MQTT_OK` case of `tls_mqtt_incoming_data_cb`, on the receiving
session: `size_t` arithmetic on `data_in` and `topic_buffer_length`. -/
def receiveChunk (i : TopicIndex) (s : TopicState) (chunk : Chunk) : TopicState × Effects :=
  if s.dataIn > 0 then
    let len := chunk.data.length
    let dataIn := (s.dataIn + sizeTModulus - len) % sizeTModulus
    let copied := copyInto s.topicBuffer s.topicBufferLength chunk.data
    let bufferLength := (s.topicBufferLength + len) % sizeTModulus
    let buffer := Function.update copied bufferLength 0
    let writes := (List.range' s.topicBufferLength len).map (i, ·) ++ [(i, bufferLength)]
    if dataIn = 0 then
      let calls :=
        if chunk.flags &&& mqttDataFlagLast ≠ 0 then
          [⟨topicNumber i, (List.range (bufferLength + 1)).map buffer, bufferLength⟩]
        else []
      (⟨Function.update buffer 0 0, 0, s.isSubscribed, dataIn⟩, ⟨writes ++ [(i, 0)], calls⟩)
    else (⟨buffer, bufferLength, s.isSubscribed, dataIn⟩, ⟨writes, []⟩)
  else (s, .none)

/-- `tls_mqtt_incoming_data_cb(arg, data, len, flags)`. A chunk with the state `TLS_MQTT_OK`
and no receiving session can only come before any header, which the transport never sends;
it is taken to do nothing. -/
def tlsMqttIncomingDataCb (state : MqttClientT) (chunk : Chunk) : MqttClientT × Effects :=
  match state.errState with
  | .tlsMqttOk =>
      if h : state.topicIncomData < tlsMqttNumberOfTopics then
        let i : TopicIndex := ⟨state.topicIncomData, h⟩
        let r := receiveChunk i (state.topicsStates i) chunk
        (state.setSession i r.1, r.2)
      else (state, .none)
  | _ => (state, .none)

inductive Incoming
  | publish (topic : String) (totLen : Nat)
  | data (chunk : Chunk)

def runIncoming : MqttClientT → List Incoming → MqttClientT × Effects
  | state, [] => (state, .none)
  | state, .publish topic totLen :: evs => runIncoming (tlsMqttIncomingPublishCb state topic totLen) evs
  | state, .data chunk :: evs =>
      let r := tlsMqttIncomingDataCb state chunk
      let rest := runIncoming r.1 evs
      (rest.1, r.2.append rest.2)

/-! ## One chunk -/

theorem receiveChunk_of_dataIn_eq_zero (i : TopicIndex) {s : TopicState} (chunk : Chunk)
    (h : s.dataIn = 0) : receiveChunk i s chunk = (s, .none) := by
  simp [receiveChunk, h]

theorem receiveChunk_of_lt_dataIn (i : TopicIndex) {s : TopicState} (chunk : Chunk)
    (hlt : chunk.data.length < s.dataIn) (hbound : s.topicBufferLength + s.dataIn < sizeTModulus) :
    receiveChunk i s chunk =
      (⟨Function.update (copyInto s.topicBuffer s.topicBufferLength chunk.data)
          (s.topicBufferLength + chunk.data.length) 0,
        s.topicBufferLength + chunk.data.length, s.isSubscribed, s.dataIn - chunk.data.length⟩,
       ⟨(List.range' s.topicBufferLength chunk.data.length).map (i, ·) ++
          [(i, s.topicBufferLength + chunk.data.length)], []⟩) := by
  have h1 : (s.dataIn + sizeTModulus - chunk.data.length) % sizeTModulus =
      s.dataIn - chunk.data.length := by
    rw [show s.dataIn + sizeTModulus - chunk.data.length =
        (s.dataIn - chunk.data.length) + sizeTModulus by omega,
      Nat.add_mod_right, Nat.mod_eq_of_lt (by omega)]
  have h2 : (s.topicBufferLength + chunk.data.length) % sizeTModulus =
      s.topicBufferLength + chunk.data.length := Nat.mod_eq_of_lt (by omega)
  simp only [receiveChunk, h1, h2]
  rw [if_pos (by omega), if_neg (by omega)]

theorem receiveChunk_final (i : TopicIndex) {s : TopicState} (chunk : Chunk)
    (hpos : 0 < s.dataIn) (heq : chunk.data.length = s.dataIn)
    (hbound : s.topicBufferLength + s.dataIn < sizeTModulus) :
    let n := s.topicBufferLength + s.dataIn
    let buffer := Function.update (copyInto s.topicBuffer s.topicBufferLength chunk.data) n 0
    receiveChunk i s chunk =
      (⟨Function.update buffer 0 0, 0, s.isSubscribed, 0⟩,
       ⟨(List.range' s.topicBufferLength chunk.data.length).map (i, ·) ++ [(i, n)] ++ [(i, 0)],
        if chunk.flags &&& mqttDataFlagLast ≠ 0 then
          [⟨topicNumber i, (List.range (n + 1)).map buffer, n⟩]
        else []⟩) := by
  have h1 : (s.dataIn + sizeTModulus - chunk.data.length) % sizeTModulus = 0 := by
    rw [heq, Nat.add_sub_cancel_left, Nat.mod_self]
  have h2 : (s.topicBufferLength + chunk.data.length) % sizeTModulus =
      s.topicBufferLength + s.dataIn := by
    rw [heq]
    exact Nat.mod_eq_of_lt hbound
  simp only [receiveChunk, h1, h2]
  rw [if_pos hpos, if_pos trivial]

theorem receiveChunk_nul_mem (i : TopicIndex) {s : TopicState} (chunk : Chunk) {n : Nat}
    (hn : s.topicBufferLength + chunk.data.length = n) (h : 0 < s.dataIn) :
    (i, n % sizeTModulus) ∈ (receiveChunk i s chunk).2.writes := by
  subst hn
  simp only [receiveChunk, if_pos h]
  split_ifs <;> simp

theorem tlsMqttIncomingDataCb_of_ok {state : MqttClientT} {i : TopicIndex}
    (he : state.errState = .tlsMqttOk) (hi : state.topicIncomData = i.val) (chunk : Chunk) :
    tlsMqttIncomingDataCb state chunk =
      (state.setSession i (receiveChunk i (state.topicsStates i) chunk).1,
        (receiveChunk i (state.topicsStates i) chunk).2) := by
  obtain ⟨i, hlt⟩ := i
  simp only at hi
  subst hi
  simp [tlsMqttIncomingDataCb, he, hlt]

theorem tlsMqttIncomingDataCb_of_ne_ok {state : MqttClientT} (he : state.errState ≠ .tlsMqttOk)
    (chunk : Chunk) : tlsMqttIncomingDataCb state chunk = (state, .none) := by
  unfold tlsMqttIncomingDataCb
  split <;> simp_all

/-! ## Buffer contents -/

theorem map_range_copyInto {buf : Nat → UInt8} {P d : List UInt8}
    (hP : (List.range P.length).map buf = P) :
    (List.range (P.length + d.length)).map (copyInto buf P.length d) = P ++ d := by
  rw [List.range_add, List.map_append, List.map_map]
  congr 1
  · refine (List.map_congr_left fun j hj => ?_).trans hP
    have := List.mem_range.mp hj
    simp only [copyInto]
    rw [if_neg (by omega)]
  · conv_rhs => rw [← map_range_getD (rfl : d.length = d.length)]
    refine List.map_congr_left fun j hj => ?_
    have := List.mem_range.mp hj
    simp only [Function.comp, copyInto]
    rw [if_pos (by omega), Nat.add_sub_cancel_left]

theorem map_range_update_of_le {buf : Nat → UInt8} {n m : Nat} (b : UInt8) (h : n ≤ m) :
    (List.range n).map (Function.update buf m b) = (List.range n).map buf :=
  List.map_congr_left fun j hj => Function.update_noteq (by have := List.mem_range.mp hj; omega) _ _

theorem map_range_succ_update (buf : Nat → UInt8) (n : Nat) (b : UInt8) :
    (List.range (n + 1)).map (Function.update buf n b) = (List.range n).map buf ++ [b] := by
  rw [List.range_succ, List.map_append, map_range_update_of_le b le_rfl]
  simp

/-! ## A message's chunks -/

def payload (cs : List Chunk) : List UInt8 := (cs.map Chunk.data).flatten

/-- Session `i` is receiving: the bytes `P` have arrived and `r` more are announced. -/
structure Receiving (state : MqttClientT) (i : TopicIndex) (P : List UInt8) (r : Nat) : Prop where
  errState : state.errState = .tlsMqttOk
  incom : state.topicIncomData = i.val
  length : (state.topicsStates i).topicBufferLength = P.length
  dataIn : (state.topicsStates i).dataIn = r
  arrived : (List.range P.length).map (state.topicsStates i).topicBuffer = P

/-- Chunks that carry exactly the `r` announced bytes, none of them empty, with `LAST` on the
last one. -/
structure Completes (cs : List Chunk) (r : Nat) : Prop where
  ne_nil : cs ≠ []
  nonempty : ∀ c ∈ cs, c.data ≠ []
  sum : (payload cs).length = r
  last : ∀ c ∈ cs.getLast?, c.flags &&& mqttDataFlagLast ≠ 0

theorem runIncoming_data (state : MqttClientT) (c : Chunk) (evs : List Incoming) :
    runIncoming state (.data c :: evs) =
      ((runIncoming (tlsMqttIncomingDataCb state c).1 evs).1,
        (tlsMqttIncomingDataCb state c).2.append (runIncoming (tlsMqttIncomingDataCb state c).1 evs).2) :=
  rfl

theorem runIncoming_data_cons (state : MqttClientT) (c : Chunk) (cs : List Chunk) :
    runIncoming state ((c :: cs).map .data) =
      ((runIncoming (tlsMqttIncomingDataCb state c).1 (cs.map .data)).1,
        (tlsMqttIncomingDataCb state c).2.append
          (runIncoming (tlsMqttIncomingDataCb state c).1 (cs.map .data)).2) := rfl

section Receiving

variable {state : MqttClientT} {i : TopicIndex} {P : List UInt8} {r : Nat}

theorem Receiving.bound (hrec : Receiving state i P r) (hfit : P.length + r < topicBufferSize) :
    (state.topicsStates i).topicBufferLength + (state.topicsStates i).dataIn < sizeTModulus := by
  rw [hrec.length, hrec.dataIn]
  simp only [topicBufferSize, sizeTModulus] at hfit ⊢
  omega

theorem Receiving.dataCb_of_lt (hrec : Receiving state i P r) (c : Chunk)
    (hlt : c.data.length < r) (hfit : P.length + r < topicBufferSize) :
    Receiving (tlsMqttIncomingDataCb state c).1 i (P ++ c.data) (r - c.data.length) ∧
      (tlsMqttIncomingDataCb state c).2.calls = [] ∧
      ∀ w ∈ (tlsMqttIncomingDataCb state c).2.writes, w.2 < topicBufferSize := by
  rw [tlsMqttIncomingDataCb_of_ok hrec.errState hrec.incom,
    receiveChunk_of_lt_dataIn i c (by rw [hrec.dataIn]; exact hlt) (hrec.bound hfit)]
  refine ⟨⟨hrec.errState, hrec.incom, by simp [hrec.length], by simp [hrec.dataIn], ?_⟩, rfl, ?_⟩
  · simp only [setSession_same, List.length_append, hrec.length]
    rw [map_range_update_of_le _ le_rfl, map_range_copyInto hrec.arrived]
  · simp only [hrec.length, List.mem_append, List.mem_map, List.mem_range', List.mem_singleton]
    rintro w (⟨j, hj, rfl⟩ | rfl) <;> simp only [topicBufferSize] at hfit ⊢ <;> omega

theorem Receiving.dataCb_of_eq (hrec : Receiving state i P r) (c : Chunk) (hpos : 0 < r)
    (heq : c.data.length = r) (hlast : c.flags &&& mqttDataFlagLast ≠ 0)
    (hfit : P.length + r < topicBufferSize) :
    (tlsMqttIncomingDataCb state c).2.calls = [⟨topicNumber i, P ++ c.data ++ [0], P.length + r⟩] ∧
      ∀ w ∈ (tlsMqttIncomingDataCb state c).2.writes, w.2 < topicBufferSize := by
  rw [tlsMqttIncomingDataCb_of_ok hrec.errState hrec.incom, receiveChunk_final i c
    (by rw [hrec.dataIn]; exact hpos) (by rw [hrec.dataIn, heq]) (hrec.bound hfit)]
  simp only [hrec.length, hrec.dataIn, if_pos hlast, List.mem_append, List.mem_map,
    List.mem_range', List.mem_singleton]
  refine ⟨?_, ?_⟩
  · rw [map_range_succ_update, ← heq, map_range_copyInto hrec.arrived]
  · rintro w ((⟨j, hj, rfl⟩ | rfl) | rfl) <;> simp only [topicBufferSize] at hfit ⊢ <;> omega

end Receiving

theorem runIncoming_completes {cs : List Chunk} :
    ∀ {state : MqttClientT} {i : TopicIndex} {P : List UInt8} {r : Nat},
      Receiving state i P r → Completes cs r → P.length + r < topicBufferSize →
      (runIncoming state (cs.map .data)).2.calls =
          [⟨topicNumber i, P ++ payload cs ++ [0], P.length + r⟩] ∧
        ∀ w ∈ (runIncoming state (cs.map .data)).2.writes, w.2 < topicBufferSize := by
  induction cs with
  | nil => exact fun _ hc _ => absurd rfl hc.ne_nil
  | cons c cs ih =>
      intro state i P r hrec hc hfit
      have hlen : c.data.length + (payload cs).length = r := by simpa [payload] using hc.sum
      have hc0 : 0 < c.data.length := List.length_pos.mpr (hc.nonempty c (List.mem_cons_self _ _))
      rw [runIncoming_data_cons]
      cases cs with
      | nil =>
          have hr : c.data.length = r := by simpa [payload] using hlen
          obtain ⟨hcalls, hwrites⟩ := hrec.dataCb_of_eq c (by omega) hr (hc.last c (by simp)) hfit
          simp only [runIncoming, Effects.append, Effects.none, List.append_nil, hcalls]
          exact ⟨by simp [payload], hwrites⟩
      | cons c' cs =>
          have hc' : 0 < (payload (c' :: cs)).length := by
            have := List.length_pos.mpr (hc.nonempty c' (by simp))
            simp only [payload, List.map_cons, List.flatten_cons, List.length_append]
            omega
          obtain ⟨hrec', hcalls, hwrites⟩ := hrec.dataCb_of_lt c (by omega) hfit
          have hc'' : Completes (c' :: cs) (r - c.data.length) :=
            ⟨List.cons_ne_nil _ _, fun d hd => hc.nonempty d (List.mem_cons_of_mem _ hd),
              by omega, fun d hd => hc.last d (by simpa using hd)⟩
          obtain ⟨hcalls', hwrites'⟩ := ih hrec' hc'' (by simp only [List.length_append]; omega)
          simp only [Effects.append, hcalls, hcalls', List.nil_append, List.mem_append]
          refine ⟨?_, fun w hw => hw.elim (hwrites w) (hwrites' w)⟩
          simp only [List.length_append, payload, List.map_cons, List.flatten_cons,
            List.append_assoc, List.cons.injEq, HandlerCall.mk.injEq, and_true, true_and]
          omega

/-! ## Whole messages -/

theorem tlsMqttIncomingPublishCb_unmatched (state : MqttClientT) {topic : String} (totLen : Nat)
    (h : findTopic topic = none) :
    (tlsMqttIncomingPublishCb state topic totLen).errState = .topicErrMqttUndefined := by
  simp [tlsMqttIncomingPublishCb, h]

theorem tlsMqttIncomingPublishCb_exceeded (state : MqttClientT) {topic : String} {totLen : Nat}
    {i : TopicIndex} (h : findTopic topic = some i) (hL : topicBufferSize - 1 < totLen) :
    (tlsMqttIncomingPublishCb state topic totLen).errState = .topicErrMqttExcedeedLength := by
  simp [tlsMqttIncomingPublishCb, h, hL]

theorem tlsMqttIncomingPublishCb_accepted (state : MqttClientT) {topic : String} {totLen : Nat}
    {i : TopicIndex} (h : findTopic topic = some i) (hL : totLen ≤ topicBufferSize - 1) :
    Receiving (tlsMqttIncomingPublishCb state topic totLen) i [] totLen := by
  have hL' : ¬ topicBufferSize - 1 < totLen := by omega
  simp only [tlsMqttIncomingPublishCb, h, hL', if_false]
  exact ⟨rfl, rfl, by simp, by simp, rfl⟩

theorem runIncoming_data_of_ne_ok {state : MqttClientT} (he : state.errState ≠ .tlsMqttOk)
    (cs : List Chunk) : runIncoming state (cs.map .data) = (state, ⟨[], []⟩) := by
  induction cs with
  | nil => rfl
  | cons c cs ih =>
      rw [runIncoming_data_cons, tlsMqttIncomingDataCb_of_ne_ok he, ih]
      rfl

/-- A message as lwIP delivers it: the header with the payload's length, then the payload in
chunks, `LAST` on the last one; a non-empty payload comes in non-empty chunks, an empty one as
a single empty chunk. -/
structure Delivery where
  topic : String
  chunks : List Chunk
  last : ∀ c ∈ chunks.getLast?, c.flags &&& mqttDataFlagLast ≠ 0
  shape : chunks.map Chunk.data = [[]] ∨ (chunks ≠ [] ∧ ∀ c ∈ chunks, c.data ≠ [])

def Delivery.events (d : Delivery) : List Incoming :=
  .publish d.topic (payload d.chunks).length :: d.chunks.map .data

/-- The handler call the code makes for a delivered message: one for a message to a known
topic whose payload is non-empty and fits the buffer with its NUL, none otherwise. -/
def deliveredCall (d : Delivery) : Option HandlerCall :=
  match findTopic d.topic with
  | some i =>
      if 0 < (payload d.chunks).length ∧ (payload d.chunks).length ≤ topicBufferSize - 1 then
        some ⟨topicNumber i, payload d.chunks ++ [0], (payload d.chunks).length⟩
      else none
  | none => none

theorem runIncoming_delivery (state : MqttClientT) (d : Delivery) :
    (runIncoming state d.events).2.calls = (deliveredCall d).toList ∧
      ∀ w ∈ (runIncoming state d.events).2.writes, w.2 < topicBufferSize := by
  simp only [Delivery.events, runIncoming]
  unfold deliveredCall
  rcases hi : findTopic d.topic with _ | i
  · rw [runIncoming_data_of_ne_ok (by rw [tlsMqttIncomingPublishCb_unmatched _ _ hi]; decide)]
    simp
  · simp only
    by_cases hL : (payload d.chunks).length ≤ topicBufferSize - 1
    · have hrec := tlsMqttIncomingPublishCb_accepted state hi hL
      rcases d.shape with hempty | ⟨hne, hdata⟩
      · obtain ⟨c, hc, hch⟩ : ∃ c, c.data = [] ∧ d.chunks = [c] := by
          rcases hch : d.chunks with _ | ⟨c, _ | ⟨c', cs⟩⟩ <;> simp_all
        have hzero : (payload [c]).length = 0 := by simp [payload, hc]
        rw [hch, hzero] at hrec
        simp only [hch, hzero, List.map_cons, List.map_nil, runIncoming,
          tlsMqttIncomingDataCb_of_ok hrec.errState hrec.incom,
          receiveChunk_of_dataIn_eq_zero i c hrec.dataIn]
        simp [Effects.append, Effects.none]
      · have hpos : 0 < (payload d.chunks).length := by
          obtain ⟨c, cs, hcs⟩ := List.exists_cons_of_ne_nil hne
          have := List.length_pos.mpr (hdata c (by simp [hcs]))
          simp only [payload, hcs, List.map_cons, List.flatten_cons, List.length_append]
          omega
        obtain ⟨hcalls, hwrites⟩ := runIncoming_completes hrec ⟨hne, hdata, rfl, d.last⟩
          (by simp only [List.length_nil, Nat.zero_add, topicBufferSize] at hL ⊢; omega)
        refine ⟨?_, hwrites⟩
        rw [hcalls, if_pos ⟨hpos, hL⟩]
        simp
    · rw [runIncoming_data_of_ne_ok (by rw [tlsMqttIncomingPublishCb_exceeded _ hi (by omega)]; decide)]
      simp [hL]

theorem runIncoming_append (state : MqttClientT) (evs evs' : List Incoming) :
    runIncoming state (evs ++ evs') =
      ((runIncoming (runIncoming state evs).1 evs').1,
        (runIncoming state evs).2.append (runIncoming (runIncoming state evs).1 evs').2) := by
  induction evs generalizing state with
  | nil => simp [runIncoming, Effects.append, Effects.none]
  | cons e evs ih =>
      cases e with
      | publish topic totLen => exact ih _
      | data chunk =>
          rw [List.cons_append, runIncoming_data, runIncoming_data, ih]
          simp only [Effects.append, List.append_assoc]

/-- Any sequence of delivered messages, from any state of the client: `pass_incom_data` is
called once for each message to a known topic whose payload is non-empty and fits the buffer,
with that payload and its NUL, in order, and for no other message; and every byte written
lands inside the 128-byte buffer. -/
theorem runIncoming_deliveries (state : MqttClientT) (ds : List Delivery) :
    (runIncoming state (ds.flatMap Delivery.events)).2.calls = ds.filterMap deliveredCall ∧
      ∀ w ∈ (runIncoming state (ds.flatMap Delivery.events)).2.writes, w.2 < topicBufferSize := by
  induction ds generalizing state with
  | nil => simp [runIncoming, Effects.none]
  | cons d ds ih =>
      rw [List.flatMap_cons, runIncoming_append]
      obtain ⟨h1, h2⟩ := runIncoming_delivery state d
      obtain ⟨h3, h4⟩ := ih (runIncoming state d.events).1
      refine ⟨?_, ?_⟩
      · simp only [Effects.append, h1, h3, List.filterMap_cons]
        cases deliveredCall d <;> rfl
      · simp only [Effects.append, List.mem_append]
        rintro w (hw | hw)
        exacts [h2 w hw, h4 w hw]

/-- An empty message on the water control topic, delivered as lwIP delivers it (one empty
chunk carrying `LAST`), reaches no handler: its header leaves `data_in` at 0, so the chunk
finds nothing to receive. -/
theorem runIncoming_empty_payload :
    let d : Delivery := ⟨picoHostname ++ "/control/water", [⟨[], mqttDataFlagLast, by decide⟩],
      by decide, .inl rfl⟩
    findTopic d.topic = some ⟨0, by decide⟩ ∧ (payload d.chunks).length = 0 ∧
      (runIncoming initClient d.events).2.calls = [] := by
  decide

/-- A 128-byte chunk after a header announcing 10 bytes: `data_in` wraps instead of the
chunk being refused, and the NUL after the copy is written at index 128, past the buffer. -/
theorem runIncoming_oversized_chunk :
    (⟨0, by decide⟩, topicBufferSize) ∈ (runIncoming initClient
      [.publish (picoHostname ++ "/control/water") 10,
        .data ⟨List.replicate 128 0x41, 0, by simp⟩]).2.writes := by
  have hfind : findTopic (picoHostname ++ "/control/water") = some ⟨0, by decide⟩ := by decide
  have hrec := tlsMqttIncomingPublishCb_accepted initClient hfind (show 10 ≤ topicBufferSize - 1 by decide)
  rw [runIncoming, runIncoming_data, tlsMqttIncomingDataCb_of_ok hrec.errState hrec.incom]
  have hw := receiveChunk_nul_mem ⟨0, by decide⟩ ⟨List.replicate 128 0x41, 0, by simp⟩
    (show _ = 128 by rw [hrec.length, List.length_nil, Nat.zero_add]; exact List.length_replicate _ _)
    (by rw [hrec.dataIn]; decide)
  rw [show 128 % sizeTModulus = topicBufferSize from rfl] at hw
  simp only [Effects.append]
  exact List.mem_append_left _ hw

end PicoSensorAggregator.TopicReassembly
