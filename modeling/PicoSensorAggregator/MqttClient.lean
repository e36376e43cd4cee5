import PicoSensorAggregator.RuntimeSettings

/-!
The state of the broker client of `tls_mqtt_client.h`: the return codes, the per-topic
reassembly sessions and the fields of `MQTT_CLIENT_T` that the callbacks read and write.
Machine integers are those of the RP2040 (`size_t` is 32 bits).
-/

namespace PicoSensorAggregator.MqttClient

open RuntimeSettings

/-- `TLS_MQTT_RET`. -/
inductive TlsMqttRet
  | tlsMqttOk
  | tlsMqttErrAlloc
  | tlsMqttErrDns
  | tlsMqttErrCerts
  | tlsMqttErrConnect
  | tlsMqttErrUnitState
  | mqttRefusedProtocolVersion
  | mqttRefusedIdentifier
  | mqttRefusedServer
  | mqttRefusedUsernamePass
  | mqttRefusedNotAuthorized
  | mqttDisconnected
  | mqttTimeout
  | topicErrMqttUndefined
  | topicErrMqttExcedeedLength
  | topicErrMqttNoZeroTerm
  | tlsMqttPublishErr
  | tlsMqttReconfCerts
  | tlsMqttReconfClient
deriving DecidableEq, Repr

abbrev ErrT := Int

def errOk : ErrT := 0

def errMem : ErrT := -1

def errRte : ErrT := -4

def errInprogress : ErrT := -5

def errVal : ErrT := -6

def errIsconn : ErrT := -10

def errConn : ErrT := -11

/-- `ERR_ABRT`, which lwIP's MQTT client passes on a refused `SUBACK`. -/
def errAbrt : ErrT := -13

def errArg : ErrT := -16

/-- `QOS`. -/
def qos : UInt8 := 1

def sizeTModulus : Nat := 4294967296

/-- `topics[]`: the control topics subscribed to, under the build's client id. -/
def topics : List String := [picoHostname ++ "/control/water", picoHostname ++ "/control/light"]

/-- `TLS_MQTT_NUMBER_OF_TOPICS`. -/
def tlsMqttNumberOfTopics : Nat := topics.length

def topicBufferSize : Nat := 128

/-- The mutable members of a `TopicState`. Its `const` members are fixed by `topics_sessions`:
session `i` has `topic_number` `i` and `topic_name` `topics[i]`. The buffer is indexed without
bound, so that a write past its 128 bytes is recorded rather than lost. -/
structure TopicState where
  topicBuffer : Nat → UInt8
  topicBufferLength : Nat
  isSubscribed : Bool
  dataIn : Nat

abbrev TopicIndex := Fin tlsMqttNumberOfTopics

def topicNumber (i : TopicIndex) : Nat := i.val

def topicName (i : TopicIndex) : String := topics.get ⟨i.val, i.isLt⟩

/-- The members of `MQTT_CLIENT_T` the callbacks use; `topic_incom_data` is
`TLS_MQTT_NUMBER_OF_TOPICS` when no session is receiving. -/
structure MqttClientT where
  topicsStates : TopicIndex → TopicState
  errState : TlsMqttRet
  isConnected : Bool
  topicIncomData : Nat

/-- `topics_sessions`, as initialised statically. -/
def topicsSessions : TopicIndex → TopicState := fun _ => ⟨fun _ => 0, 0, false, 0⟩

def initClient : MqttClientT :=
  ⟨topicsSessions, .tlsMqttOk, false, tlsMqttNumberOfTopics⟩

def MqttClientT.setSession (c : MqttClientT) (i : TopicIndex) (s : TopicState) : MqttClientT :=
  { c with topicsStates := Function.update c.topicsStates i s }

@[simp] theorem setSession_same (c : MqttClientT) (i : TopicIndex) (s : TopicState) :
    (c.setSession i s).topicsStates i = s := by
  simp [MqttClientT.setSession]

@[simp] theorem setSession_other (c : MqttClientT) {i j : TopicIndex} (s : TopicState) (h : j ≠ i) :
    (c.setSession i s).topicsStates j = c.topicsStates j := by
  simp [MqttClientT.setSession, h]

@[simp] theorem setSession_errState (c : MqttClientT) (i : TopicIndex) (s : TopicState) :
    (c.setSession i s).errState = c.errState := rfl

@[simp] theorem setSession_isConnected (c : MqttClientT) (i : TopicIndex) (s : TopicState) :
    (c.setSession i s).isConnected = c.isConnected := rfl

@[simp] theorem setSession_topicIncomData (c : MqttClientT) (i : TopicIndex) (s : TopicState) :
    (c.setSession i s).topicIncomData = c.topicIncomData := rfl

end PicoSensorAggregator.MqttClient
