import PicoSensorAggregator.SettingsStore
import PicoSensorAggregator.PostField

/-!
The settings over the device's whole life: the settings part of `core1_entry` at every boot,
`process_post_field` for every submitted pair, and saves by `write_settings_in_flash`, each
boot-time or portal save cut by a power loss after any of its flash operations. The model lets
any event follow any other, which covers the reboot that follows a power loss and the reboot
that follows a save.
-/

namespace PicoSensorAggregator.SettingsLifecycle

open RuntimeSettings NonVolatile SettingsStore PostField

structure Device where
  flash : Flash
  mqttSettings : TlsMqttSettings

def zeroSettings : TlsMqttSettings := ⟨List.replicate settingsSize 0, List.length_replicate _ _⟩

def Device.erased : Device := ⟨fun _ => 0xFF, zeroSettings⟩

/-- The settings part of `core1_entry`: read the record, or on any failure fall back to the
defaults and save them, the save cut after `k` flash operations. -/
def core1Entry (trailing : Nat → UInt8) (k : Nat) (d : Device) : Device :=
  let res := readSettingsFromFlash d.flash
  if res.1 ≠ 0 then
    ⟨tornWriteSettings initializeDefaultSettings trailing k d.flash, initializeDefaultSettings.stamp⟩
  else ⟨d.flash, res.2⟩

/-- What can happen to the settings. -/
inductive Event
  | boot (trailing : Nat → UInt8) (k : Nat)
  | post (key value : CString)
  | save (trailing : Nat → UInt8) (k : Nat)

def step (d : Device) : Event → Device
  | .boot trailing k => core1Entry trailing k d
  | .post key value => { d with mqttSettings := (processPostField key value d.mqttSettings false).1 }
  | .save trailing k => ⟨tornWriteSettings d.mqttSettings trailing k d.flash, d.mqttSettings.stamp⟩

def run (d : Device) (es : List Event) : Device := es.foldl step d

/-! ## The invariant -/

/-- The record in RAM, and every record a read of the flash would accept, keep a NUL in each
string field. -/
structure Inv (d : Device) : Prop where
  ram : FieldsTerminated d.mqttSettings
  stored : ∀ r, readSettingsFromFlash d.flash = (0, r) → FieldsTerminated r

theorem zeroSettings_fieldsTerminated : FieldsTerminated zeroSettings := by
  intro f hf
  have hpos : 0 < f.size := by revert f; decide
  have hlen := f.inBounds
  simp only [TlsMqttSettings.fieldBytes, window, zeroSettings, List.drop_replicate,
    List.take_replicate, List.mem_replicate]
  exact ⟨by omega, trivial⟩

theorem readSettingsFromFlash_erased : (readSettingsFromFlash fun _ => 0xFF).1 = 2 := by
  apply (readSettingsFromFlash_code _).2.1
  rw [TlsMqttSettings.flag, readSettingsFromFlash_bytes, readFromNonVolatile_eq,
    List.map_const', List.length_range]
  simp only [window, List.drop_replicate, List.take_replicate]
  exact decodeWord_erased_ne

theorem erased_inv : Inv Device.erased where
  ram := zeroSettings_fieldsTerminated
  stored r h := by
    have := readSettingsFromFlash_erased
    change readSettingsFromFlash (fun _ => 0xFF) = (0, r) at h
    rw [h] at this
    cases this

theorem tornWriteSettings_stored {f : Flash} {s : TlsMqttSettings} (trailing : Nat → UInt8) (k : Nat)
    (hf : ∀ r, readSettingsFromFlash f = (0, r) → FieldsTerminated r) (hs : FieldsTerminated s) :
    ∀ r, readSettingsFromFlash (tornWriteSettings s trailing k f) = (0, r) → FieldsTerminated r := by
  intro r h
  rcases readSettingsFromFlash_tornWriteSettings_accepted h with ⟨-, hold⟩ | rfl
  · exact hf r hold
  · exact stamp_fieldsTerminated hs

theorem core1Entry_inv (trailing : Nat → UInt8) (k : Nat) {d : Device} (h : Inv d) :
    Inv (core1Entry trailing k d) := by
  dsimp only [core1Entry]
  split_ifs with hres
  · have hdef := initializeDefaultSettings_fieldsTerminated
    exact ⟨stamp_fieldsTerminated hdef, tornWriteSettings_stored trailing k h.stored hdef⟩
  · exact ⟨h.stored _ (Prod.ext (not_not.mp hres) rfl), h.stored⟩

theorem step_inv {d : Device} (e : Event) (h : Inv d) : Inv (step d e) := by
  cases e with
  | boot trailing k =>
      simp only [step]
      exact core1Entry_inv trailing k h
  | post key value => exact ⟨processPostField_fieldsTerminated key value false h.ram, h.stored⟩
  | save trailing k =>
      exact ⟨stamp_fieldsTerminated h.ram, tornWriteSettings_stored trailing k h.stored h.ram⟩

theorem run_inv {d : Device} (es : List Event) (h : Inv d) : Inv (run d es) := by
  induction es generalizing d with
  | nil => exact h
  | cons e es ih => exact ih (step_inv e h)

/-! ## Client id and published topics -/

/-- The bytes `sprintf(full_topic, "%s/%s", client_id, name)` writes in
`publish_topic_data`, its NUL included. -/
def fullTopicBytes (s : TlsMqttSettings) (name : String) : List UInt8 :=
  s.cString clientIdField ++ [0x2F] ++ name.toList.map Char.toUInt8 ++ [0]

theorem length_takeWhile_lt {l : List UInt8} {n : Nat} (h : (0 : UInt8) ∈ l.take n) :
    (l.takeWhile (· ≠ 0)).length < n := by
  induction l generalizing n with
  | nil => simp at h
  | cons x l ih =>
      cases n with
      | zero => simp at h
      | succ n =>
          by_cases hx : x = 0
          · simp [List.takeWhile_cons, hx]
          · rw [List.take_succ_cons, List.mem_cons] at h
            have h' : (0 : UInt8) ∈ l.take n := h.resolve_left (Ne.symm hx)
            rw [List.takeWhile_cons_of_pos (by simpa using hx), List.length_cons]
            exact Nat.succ_lt_succ (ih h')

theorem cString_length_lt {s : TlsMqttSettings} {f : FieldInfo} (hf : f ∈ fields)
    (h : FieldsTerminated s) : (s.cString f).length < f.size :=
  length_takeWhile_lt (h f hf)

/-- From erased flash, after any boots, form submissions, saves and power losses, every string
field of `mqtt_settings` holds a NUL within its size; so the client id has at most 99
characters and every topic `publish_topic_data` formats fits `full_topic[108]`. -/
theorem run_erased_fieldsTerminated (es : List Event) :
    let s := (run Device.erased es).mqttSettings
    FieldsTerminated s ∧ (s.cString clientIdField).length ≤ 99 ∧
      ∀ name ∈ sensorTopics ++ controlTopics, (fullTopicBytes s name).length ≤ 108 := by
  have hinv := (run_inv es erased_inv).ram
  have hid : (_ : List UInt8).length < 100 := cString_length_lt clientIdField_mem hinv
  have hnames : ∀ name ∈ sensorTopics ++ controlTopics, name.length ≤ 6 := by decide
  refine ⟨hinv, by omega, fun name hname => ?_⟩
  have hlen : (name.toList.map Char.toUInt8).length = name.length := by
    rw [List.length_map]
    rfl
  simp only [fullTopicBytes, List.length_append, List.length_singleton, hlen]
  have := hnames name hname
  omega

end PicoSensorAggregator.SettingsLifecycle
