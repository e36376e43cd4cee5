import PicoSensorAggregator.Connection
import PicoSensorAggregator.TopicReassembly

/-!
The names of the control topics. `tls_mqtt_client.c` builds its table `topics[]` when it is
compiled, as `PICO_HOSTNAME "/control/water"` and `PICO_HOSTNAME "/control/light"`.
`tls_mqtt_sub_unsub_topics` subscribes to `topics_sessions[i].topic_name`, which points into that
table, and `tls_mqtt_incoming_publish_cb` accepts exactly those names. Neither reads the settings
record, whereas `publish_topic_data` prefixes its topics with the record's `tls_mqtt_client_id`.
-/

namespace PicoSensorAggregator.ControlTopics

open RuntimeSettings MqttClient Connection TopicReassembly

def topicBytes (topic : String) : List UInt8 := topic.toList.map Char.toUInt8

/-- The topic the specification gives an actuator: the configured client id, `/control/`, then
the actuator's name. -/
def specControlTopic (s : TlsMqttSettings) (name : String) : List UInt8 :=
  s.cString clientIdField ++ topicBytes "/control/" ++ topicBytes name

theorem topics_eq : topics = controlTopics.map fun name => picoHostname ++ "/control/" ++ name :=
  rfl

theorem findTopic_isSome (topic : String) : (findTopic topic).isSome ↔ topic ∈ topics := by
  rw [findTopic, List.find?_isSome, List.mem_iff_get]
  simp only [List.mem_finRange, true_and, decide_eq_true_eq]
  rfl

theorem subscribeAll_topics (e : Engine) (hl : e.transport.link ≠ .idle)
    (hs : ∀ i, (e.client.topicsStates i).isSubscribed = false) :
    ((tlsMqttSubUnsubTopics true (fun _ => errOk) e).transport.requests.drop
        e.transport.requests.length).map (fun r => topicName r.session) = topics := by
  rw [tlsMqttSubUnsubTopics_eq, Engine.addRequests]
  simp only [List.drop_left, addedRequests, if_neg hl, hs, ne_eq, Bool.true_eq_false,
    not_false_eq_true, and_self, List.filter_true, List.map_map]
  rfl

theorem topicBytes_topics_iff (s : TlsMqttSettings) :
    topics.map topicBytes = controlTopics.map (specControlTopic s) ↔
      s.cString clientIdField = topicBytes picoHostname := by
  simp only [topics_eq, controlTopics, specControlTopic, topicBytes, List.map_cons, List.map_nil,
    String.toList, String.data_append, List.map_append, List.cons.injEq, List.append_assoc,
    List.append_left_inj, and_true, and_self, eq_comm]

def gardenSettings : TlsMqttSettings :=
  initializeDefaultSettings.write clientIdField.offset (topicBytes "garden" ++ [0]) (by decide)

set_option maxRecDepth 20000 in
theorem gardenSettings_clientId : gardenSettings.cString clientIdField = topicBytes "garden" := by
  decide

/-- Whatever record `tls_mqtt_init` is given, the client subscribes to and accepts
`PICO_HOSTNAME/control/<name>` for each actuator. These are the specification's
`<client-id>/control/<name>` exactly when the record's client id is `PICO_HOSTNAME`. -/
theorem control_topics_from_hostname (s : TlsMqttSettings) (e : Engine)
    (hl : e.transport.link ≠ .idle) (hs : ∀ i, (e.client.topicsStates i).isSubscribed = false) :
    topics = controlTopics.map (fun name => picoHostname ++ "/control/" ++ name) ∧
      ((tlsMqttSubUnsubTopics true (fun _ => errOk) e).transport.requests.drop
        e.transport.requests.length).map (fun r => topicName r.session) = topics ∧
      (∀ topic, (findTopic topic).isSome ↔ topic ∈ topics) ∧
      (topics.map topicBytes = controlTopics.map (specControlTopic s) ↔
        s.cString clientIdField = topicBytes picoHostname) :=
  ⟨topics_eq, subscribeAll_topics e hl hs, findTopic_isSome, topicBytes_topics_iff s⟩

/-- With the client id `garden`, the client still subscribes to `PicoWClient1/control/water` and
`PicoWClient1/control/light`, not to the `garden/control/...` topics. -/
theorem control_topics_from_hostname_garden :
    (⟨.live, [], fun _ => false, none⟩ : Transport).link ≠ .idle ∧
      (∀ i, (initClient.topicsStates i).isSubscribed = false) ∧
      topics.map topicBytes ≠ controlTopics.map (specControlTopic gardenSettings) := by
  have hl : (⟨.live, [], fun _ => false, none⟩ : Transport).link ≠ .idle := by decide
  have hs : ∀ i, (initClient.topicsStates i).isSubscribed = false := by decide
  refine ⟨hl, hs, fun h => ?_⟩
  have hid := (control_topics_from_hostname gardenSettings
    ⟨initClient, ⟨.live, [], fun _ => false, none⟩⟩ hl hs).2.2.2.mp h
  rw [gardenSettings_clientId] at hid
  exact absurd hid (by decide)

end PicoSensorAggregator.ControlTopics
