import Mathlib.Data.List.Basic

/-!
The settings record of `runtime_settings.h`, as the bytes the firmware keeps in RAM and in
flash. The layout is the one the compiler gives `tls_mqtt_settings` in the default build
(`ENABLE_TLS` unset, 32-bit little-endian `int`): the bookend word `flag` at offset 0, the eight
string fields that `fields[]` describes, one byte of padding, and `end_flag` at offset 808.
-/

namespace PicoSensorAggregator.RuntimeSettings

/-! ## Build-time constants of `crypto_consts.h` and `runtime_settings.h` -/

def wifiSsid : String := "SSID"
def wifiPassword : String := "11111111"
def mqttServerHost : String := "192.168.0.2"
def picoHostname : String := "PicoWClient1"
def tlsMqttClientName : String := ""
def tlsMqttClientPass : String := ""
def brokerMqttPort : String := "1883"

/-- `sensor_topics[]` of `main.c`: the sensor readings published under the client id. -/
def sensorTopics : List String := ["r_hum", "r_temp", "w_temp", "moist"]

/-- `control_topics[]` of `main.c`: the actuators, each published and commanded. -/
def controlTopics : List String := ["water", "light"]

/-- `SETTINGS_FLAG`. -/
def settingsFlag : Nat := 0xA5A5A5

def settingsSize : Nat := 812

def endFlagOffset : Nat := 808

/-- A `field_info_t` row: the name `FIELD_ENTRY` stringifies, `offsetof` and `sizeof`. A
member lies inside its struct, so a row cannot point past the record. -/
structure FieldInfo where
  fieldName : String
  offset : Nat
  size : Nat
  inBounds : offset + size ≤ settingsSize
deriving DecidableEq

/-- `fields[]`. -/
def fields : List FieldInfo :=
  [⟨"wifi_ssid", 4, 33, by decide⟩, ⟨"wifi_pass", 37, 64, by decide⟩,
    ⟨"tls_mqtt_broker_hostname", 101, 200, by decide⟩, ⟨"tls_mqtt_broker_port", 301, 6, by decide⟩,
    ⟨"tls_mqtt_broker_CN", 307, 200, by decide⟩, ⟨"tls_mqtt_client_id", 507, 100, by decide⟩,
    ⟨"tls_mqtt_client_name", 607, 100, by decide⟩,
    ⟨"tls_mqtt_client_password", 707, 100, by decide⟩]

/-- `get_settings_fields_count()`. -/
def getSettingsFieldsCount : Nat := fields.length

def clientIdField : FieldInfo := ⟨"tls_mqtt_client_id", 507, 100, by decide⟩

theorem clientIdField_mem : clientIdField ∈ fields := by decide

theorem fields_between_bookends : ∀ f ∈ fields, 4 ≤ f.offset ∧ f.offset + f.size ≤ endFlagOffset := by
  decide

theorem fields_disjoint : ∀ f ∈ fields, ∀ g ∈ fields, f ≠ g →
    f.offset + f.size ≤ g.offset ∨ g.offset + g.size ≤ f.offset := by
  decide

/-! ## Byte-level writes -/

def writeBytes (bs : List UInt8) (off : Nat) (src : List UInt8) : List UInt8 :=
  bs.take off ++ src ++ bs.drop (off + src.length)

theorem writeBytes_length {bs src : List UInt8} {off : Nat} (h : off + src.length ≤ bs.length) :
    (writeBytes bs off src).length = bs.length := by
  simp only [writeBytes, List.length_append, List.length_take, List.length_drop]
  omega

theorem getElem?_writeBytes {bs src : List UInt8} {off : Nat} (h : off ≤ bs.length) (i : Nat) :
    (writeBytes bs off src)[i]? =
      if i < off then bs[i]? else if i < off + src.length then src[i - off]? else bs[i]? := by
  have htake : (bs.take off).length = off := by simp [h]
  simp only [writeBytes, List.append_assoc]
  split_ifs with h1 h2
  · rw [List.getElem?_append_left (by omega), List.getElem?_take_of_lt h1]
  · rw [List.getElem?_append_right (by omega), htake, List.getElem?_append_left (by omega)]
  · rw [List.getElem?_append_right (by omega), htake, List.getElem?_append_right (by omega),
      List.getElem?_drop]
    congr 1
    omega

theorem map_range_getD {l : List UInt8} {n : Nat} (h : l.length = n) :
    (List.range n).map (fun i => l.getD i 0) = l := by
  apply List.ext_getElem (by simp [h])
  intro i h1 h2
  simp [List.getD_eq_getElem?_getD, List.getElem?_eq_getElem h2]

def window (bs : List UInt8) (a n : Nat) : List UInt8 := (bs.drop a).take n

theorem window_writeBytes_of_disjoint {bs src : List UInt8} {off a n : Nat}
    (h : off ≤ bs.length) (hdisj : off + src.length ≤ a ∨ a + n ≤ off) :
    window (writeBytes bs off src) a n = window bs a n := by
  apply List.ext_getElem?
  intro i
  simp only [window, List.getElem?_take, List.getElem?_drop, getElem?_writeBytes h]
  split_ifs <;> first | rfl | omega

theorem window_writeBytes_self {bs src : List UInt8} {off : Nat}
    (h : off + src.length ≤ bs.length) : window (writeBytes bs off src) off src.length = src := by
  apply List.ext_getElem?
  intro i
  simp only [window, List.getElem?_take, List.getElem?_drop, getElem?_writeBytes (by omega : off ≤ bs.length)]
  split_ifs <;> first | omega | simp_all

theorem mem_window_of_le {bs : List UInt8} {a m n : Nat} {x : UInt8} (hmn : m ≤ n)
    (h : x ∈ window bs a m) : x ∈ window bs a n :=
  (List.take_prefix_take_left _ hmn).subset h

/-! ## Words -/

def encodeWord (w : Nat) : List UInt8 :=
  [w.toUInt8, (w / 0x100).toUInt8, (w / 0x10000).toUInt8, (w / 0x1000000).toUInt8]

@[simp] theorem encodeWord_length (w : Nat) : (encodeWord w).length = 4 := rfl

def decodeWord (bs : List UInt8) : Nat :=
  (bs.getD 0 0).toNat + 0x100 * (bs.getD 1 0).toNat + 0x10000 * (bs.getD 2 0).toNat +
    0x1000000 * (bs.getD 3 0).toNat

theorem decodeWord_encodeWord_settingsFlag : decodeWord (encodeWord settingsFlag) = settingsFlag := by
  decide

theorem decodeWord_erased_ne : decodeWord (List.replicate 4 0xFF) ≠ settingsFlag := by
  decide

/-! ## The record -/

/-- A `tls_mqtt_settings` value, as its `sizeof` bytes. -/
@[ext]
structure TlsMqttSettings where
  bytes : List UInt8
  length_eq : bytes.length = settingsSize
deriving DecidableEq

namespace TlsMqttSettings

def flag (s : TlsMqttSettings) : Nat := decodeWord (window s.bytes 0 4)

def endFlag (s : TlsMqttSettings) : Nat := decodeWord (window s.bytes endFlagOffset 4)

def fieldBytes (s : TlsMqttSettings) (f : FieldInfo) : List UInt8 := window s.bytes f.offset f.size

/-- The C string a field holds, as `strlen` reads it from the field's start. -/
def cString (s : TlsMqttSettings) (f : FieldInfo) : List UInt8 :=
  (s.bytes.drop f.offset).takeWhile (· ≠ 0)

/-- `memcpy((uint8_t *)&s + off, src, src.length)`, for a write that stays inside the record. -/
def write (s : TlsMqttSettings) (off : Nat) (src : List UInt8)
    (h : off + src.length ≤ settingsSize) : TlsMqttSettings :=
  ⟨writeBytes s.bytes off src, by rw [writeBytes_length (by rw [s.length_eq]; exact h), s.length_eq]⟩

theorem window_write_of_disjoint (s : TlsMqttSettings) {off a n : Nat} {src : List UInt8}
    (h : off + src.length ≤ settingsSize) (hdisj : off + src.length ≤ a ∨ a + n ≤ off) :
    window (s.write off src h).bytes a n = window s.bytes a n :=
  window_writeBytes_of_disjoint (by rw [s.length_eq]; omega) hdisj

theorem window_write_self (s : TlsMqttSettings) {off n : Nat} {src : List UInt8}
    (h : off + src.length ≤ settingsSize) (hn : src.length = n) :
    window (s.write off src h).bytes off n = src :=
  hn ▸ window_writeBytes_self (by rw [s.length_eq]; exact h)

/-- `settings->flag = SETTINGS_FLAG; settings->end_flag = SETTINGS_FLAG;`, the stamping that
`write_settings_in_flash` does before it writes the record. -/
def stamp (s : TlsMqttSettings) : TlsMqttSettings :=
  ((s.write 0 (encodeWord settingsFlag) (by decide)).write endFlagOffset
    (encodeWord settingsFlag) (by decide))

theorem stamp_flag (s : TlsMqttSettings) : s.stamp.flag = settingsFlag := by
  rw [flag, stamp, window_write_of_disjoint _ _ (.inr (by decide)), window_write_self _ _ (encodeWord_length _),
    decodeWord_encodeWord_settingsFlag]

theorem stamp_endFlag (s : TlsMqttSettings) : s.stamp.endFlag = settingsFlag := by
  rw [endFlag, stamp, window_write_self _ _ (encodeWord_length _), decodeWord_encodeWord_settingsFlag]

theorem stamp_fieldBytes (s : TlsMqttSettings) {f : FieldInfo} (hf : f ∈ fields) :
    s.stamp.fieldBytes f = s.fieldBytes f := by
  obtain ⟨hlo, hhi⟩ := fields_between_bookends f hf
  rw [fieldBytes, stamp, window_write_of_disjoint _ _ (.inr hhi),
    window_write_of_disjoint _ _ (.inl (by simpa using hlo)), fieldBytes]

end TlsMqttSettings

/-! ## Default settings -/

def cField (size : Nat) (s : String) : List UInt8 :=
  s.toList.map Char.toUInt8 ++ List.replicate (size - s.length) 0

theorem cField_length {size : Nat} {s : String} (h : s.length ≤ size) :
    (cField size s).length = size := by
  simp only [cField, List.length_append, List.length_map, List.length_replicate]
  have : s.toList.length = s.length := rfl
  omega

/-- `initialize_default_settings`: the bytes of `temp_static`, bookends `123456`. -/
def initializeDefaultSettings : TlsMqttSettings :=
  ⟨encodeWord 123456 ++ cField 33 wifiSsid ++ cField 64 wifiPassword ++
      cField 200 mqttServerHost ++ cField 6 brokerMqttPort ++ cField 200 mqttServerHost ++
      cField 100 picoHostname ++ cField 100 tlsMqttClientName ++ cField 100 tlsMqttClientPass ++
      [0] ++ encodeWord 123456, by
    simp (disch := decide) only [List.length_append, encodeWord_length, List.length_singleton,
      cField_length]
    rfl⟩

/-! ## Terminated string fields -/

/-- Every string field of the record holds a NUL within its declared size. -/
def FieldsTerminated (s : TlsMqttSettings) : Prop :=
  ∀ f ∈ fields, (0 : UInt8) ∈ s.fieldBytes f

instance : DecidablePred FieldsTerminated :=
  fun s => inferInstanceAs (Decidable (∀ f ∈ fields, (0 : UInt8) ∈ s.fieldBytes f))

set_option maxRecDepth 20000 in
theorem initializeDefaultSettings_fieldsTerminated : FieldsTerminated initializeDefaultSettings := by
  decide

theorem stamp_fieldsTerminated {s : TlsMqttSettings} (h : FieldsTerminated s) :
    FieldsTerminated s.stamp := fun f hf => by
  rw [s.stamp_fieldBytes hf]
  exact h f hf

end PicoSensorAggregator.RuntimeSettings
