import Mathlib.Data.List.Basic

/-!
The water valve of `main.c`. `set_water` toggles `WATER_PIN` and the text of the water control
topic under `water_pump_mutex`, and on opening arms `water_alarm_callback` to close the valve
after `WATERING_TIME_MS`. A remote command runs `set_water` in the network context; the alarm
fires in an interrupt on the same core at any time after it is armed, and there runs `set_water`
to its end. The network context's call is cut where the alarm it armed can first fire: between
the arming and the rest of the call. What the pool's `alarm_pool_add_alarm_in_ms` does is the
environment's choice. The last section models the light, which the same handler toggles with
`set_light`.
-/

namespace PicoSensorAggregator.WaterControl

/-- What `alarm_pool_add_alarm_in_ms` does. -/
inductive ArmOutcome
  /-- arms an alarm and returns its id, fresh and positive -/
  | armed
  /-- finds the time already passed, runs the callback at once and returns 0 -/
  | firedAtOnce
  /-- finds no free slot and returns -1 -/
  | noSlot
deriving DecidableEq, Repr

/-- Where the network context's `set_water` is: not running, or between the arming and the rest
of the call. -/
inductive Pc
  | idle
  | armed
deriving DecidableEq, Repr

/-- `WATER_PIN`, the water topic's `topic_data`, `water_pump_alarm`, `water_pump_mutex`, the
alarms pending in `alarm_net_pool` with the last id it handed out, and the network context. -/
structure WaterState where
  pin : Bool
  topicData : String
  waterPumpAlarm : Int
  mutexHeld : Bool
  pending : List Int
  lastId : Nat
  pc : Pc
deriving DecidableEq, Repr

/-- After `init_net_hardware`: valve closed, text `"OFF"`, no alarm. -/
def WaterState.initial : WaterState := ⟨false, "OFF", 0, false, [], 0, .idle⟩

/-- `if (water_pump_alarm) { alarm_pool_cancel_alarm(...); water_pump_alarm = 0; }`. -/
def cancelWaterAlarm (s : WaterState) : WaterState :=
  if s.waterPumpAlarm ≠ 0 then
    { s with pending := s.pending.erase s.waterPumpAlarm, waterPumpAlarm := 0 }
  else s

/-- `water_pump_alarm = alarm_pool_add_alarm_in_ms(...)`. A callback run at once finds the mutex
taken and returns. -/
def armWaterAlarm (outcome : ArmOutcome) (s : WaterState) : WaterState :=
  match outcome with
  | .armed =>
      { s with pending := s.pending ++ [(s.lastId + 1 : Int)], lastId := s.lastId + 1,
               waterPumpAlarm := s.lastId + 1 }
  | .firedAtOnce => { s with waterPumpAlarm := 0 }
  | .noSlot => { s with waterPumpAlarm := -1 }

/-- `set_water` once `mutex_try_enter` succeeded, up to the arming: cancel the armed alarm, then
close the valve, or arm a new alarm and stop before looking at its id. -/
def setWaterBegin (outcome : ArmOutcome) (s : WaterState) : WaterState :=
  let s := cancelWaterAlarm { s with mutexHeld := true }
  if s.topicData = "OFF" then { armWaterAlarm outcome s with pc := .armed }
  else { s with pin := false, topicData := "OFF", mutexHeld := false }

/-- The rest of `set_water` after the arming: open the valve and record `"ON"` when the id is
not negative, then `mutex_exit`. -/
def setWaterFinish (s : WaterState) : WaterState :=
  let s : WaterState := if 0 ≤ s.waterPumpAlarm then { s with pin := true, topicData := "ON" } else s
  { s with mutexHeld := false, pc := .idle }

/-- `set_water` run to its end, as in the interrupt. A callback the arming runs at once finds the
mutex taken and returns. -/
def setWater (outcome : ArmOutcome) (s : WaterState) : WaterState :=
  if s.mutexHeld then s
  else
    let s := setWaterBegin outcome s
    if s.pc = .armed then setWaterFinish s else s

/-- Alarm `id` firing: the pool drops it, since `water_alarm_callback` returns 0, and the
callback runs `set_water`. -/
def waterAlarmCallback (id : Int) (outcome : ArmOutcome) (s : WaterState) : WaterState :=
  if id ∈ s.pending then setWater outcome { s with pending := s.pending.erase id } else s

@[simp] theorem cancelWaterAlarm_pin (s : WaterState) : (cancelWaterAlarm s).pin = s.pin := by
  unfold cancelWaterAlarm; split_ifs <;> rfl

@[simp] theorem cancelWaterAlarm_topicData (s : WaterState) :
    (cancelWaterAlarm s).topicData = s.topicData := by
  unfold cancelWaterAlarm; split_ifs <;> rfl

@[simp] theorem cancelWaterAlarm_mutexHeld (s : WaterState) :
    (cancelWaterAlarm s).mutexHeld = s.mutexHeld := by
  unfold cancelWaterAlarm; split_ifs <;> rfl

@[simp] theorem cancelWaterAlarm_lastId (s : WaterState) :
    (cancelWaterAlarm s).lastId = s.lastId := by
  unfold cancelWaterAlarm; split_ifs <;> rfl

@[simp] theorem cancelWaterAlarm_pc (s : WaterState) : (cancelWaterAlarm s).pc = s.pc := by
  unfold cancelWaterAlarm; split_ifs <;> rfl

theorem cancelWaterAlarm_pending_nil {s : WaterState} (h : s.pending = []) :
    (cancelWaterAlarm s).pending = [] := by
  unfold cancelWaterAlarm; split_ifs <;> simp [h]

theorem cancelWaterAlarm_pending_single {s : WaterState} (h : s.pending = [s.waterPumpAlarm])
    (hne : s.waterPumpAlarm ≠ 0) : (cancelWaterAlarm s).pending = [] := by
  simp [cancelWaterAlarm, hne, h]

@[simp] theorem armWaterAlarm_pin (outcome : ArmOutcome) (s : WaterState) :
    (armWaterAlarm outcome s).pin = s.pin := by
  cases outcome <;> rfl

@[simp] theorem armWaterAlarm_topicData (outcome : ArmOutcome) (s : WaterState) :
    (armWaterAlarm outcome s).topicData = s.topicData := by
  cases outcome <;> rfl

@[simp] theorem armWaterAlarm_mutexHeld (outcome : ArmOutcome) (s : WaterState) :
    (armWaterAlarm outcome s).mutexHeld = s.mutexHeld := by
  cases outcome <;> rfl

/-- What can happen: a remote water command (`server_command_handler` calling `set_water`) when
the network context is free, the network context's `set_water` going on after its arming, or a
pending alarm firing. -/
inductive Event
  | command (outcome : ArmOutcome)
  | finish
  | fire (id : Int) (outcome : ArmOutcome)

def step (s : WaterState) : Event → WaterState
  | .command outcome =>
      if s.pc = .idle then (if s.mutexHeld then s else setWaterBegin outcome s) else s
  | .finish => if s.pc = .armed then setWaterFinish s else s
  | .fire id outcome => waterAlarmCallback id outcome s

def run (s : WaterState) (es : List Event) : WaterState := es.foldl step s

/-! ## Valve and text agree -/

theorem on_ne_off : ("ON" : String) ≠ "OFF" := by decide

/-- The valve is open exactly when the text says `"ON"`, the text is `"ON"` or `"OFF"`, and the
mutex is held exactly while the network context's call is between its arming and the rest,
with the text still `"OFF"`. -/
@[mk_iff] structure Consistent (s : WaterState) : Prop where
  pin_iff : s.pin = true ↔ s.topicData = "ON"
  text : s.topicData = "ON" ∨ s.topicData = "OFF"
  mutex_iff : s.mutexHeld = true ↔ s.pc = .armed
  armed_off : s.pc = .armed → s.topicData = "OFF"

theorem initial_consistent : Consistent WaterState.initial :=
  ⟨by simp [WaterState.initial], .inr rfl, by simp [WaterState.initial], fun h => nomatch h⟩

theorem setWaterBegin_consistent (outcome : ArmOutcome) {s : WaterState} (h : Consistent s)
    (hpc : s.pc = .idle) : Consistent (setWaterBegin outcome s) := by
  have hpin := h.pin_iff
  rcases h.text with hs | hs
  · have hoff : ¬ s.topicData = "OFF" := hs ▸ on_ne_off
    simp only [setWaterBegin]
    split_ifs <;> simp_all [consistent_iff, on_ne_off]
  · have hp : s.pin = false := by simpa [hs, on_ne_off.symm] using hpin
    simp only [setWaterBegin]
    split_ifs <;> cases outcome <;> simp_all [consistent_iff, on_ne_off.symm]

theorem setWaterFinish_consistent {s : WaterState} (h : Consistent s) (hpc : s.pc = .armed) :
    Consistent (setWaterFinish s) := by
  have hs := h.armed_off hpc
  have hp : s.pin = false := by simpa [hs, on_ne_off.symm] using h.pin_iff
  simp only [setWaterFinish]
  split_ifs <;> simp_all [consistent_iff, on_ne_off.symm]

theorem setWater_consistent (outcome : ArmOutcome) {s : WaterState} (h : Consistent s) :
    Consistent (setWater outcome s) := by
  by_cases hm : s.mutexHeld
  · rw [setWater, if_pos hm]
    exact h
  · have hidle : s.pc = .idle := by
      cases hp : s.pc
      · rfl
      · exact absurd (h.mutex_iff.mpr hp) hm
    have hb := setWaterBegin_consistent outcome h hidle
    rw [setWater, if_neg hm]
    dsimp only
    split_ifs with hpc
    · exact setWaterFinish_consistent hb hpc
    · exact hb

theorem step_consistent {s : WaterState} (e : Event) (h : Consistent s) :
    Consistent (step s e) := by
  cases e with
  | command outcome =>
      simp only [step]
      split_ifs with hpc
      · exact h
      · exact setWaterBegin_consistent outcome h hpc
      · exact h
  | finish =>
      simp only [step]
      split_ifs with hpc
      · exact setWaterFinish_consistent h hpc
      · exact h
  | fire id outcome =>
      simp only [step, waterAlarmCallback]
      split_ifs
      · exact setWater_consistent outcome ⟨h.pin_iff, h.text, h.mutex_iff, h.armed_off⟩
      · exact h

/-- In every run, whatever the commands, the firings and the arming outcomes, the valve is open
exactly when the water topic's text is `"ON"`. -/
theorem run_pin_iff_on (es : List Event) :
    (run WaterState.initial es).pin = true ↔ (run WaterState.initial es).topicData = "ON" := by
  suffices ∀ s, Consistent s → Consistent (run s es) from (this _ initial_consistent).pin_iff
  induction es with
  | nil => exact fun _ h => h
  | cons e es ih => exact fun s h => ih _ (step_consistent e h)

/-! ## The cutoff, when the alarm comes late enough -/

/-- The event comes at a time the design assumes: an arming never finds its time passed, and an
alarm fires only after the call that armed it has finished. -/
def Event.Timely (s : WaterState) : Event → Prop
  | .command outcome => outcome ≠ .firedAtOnce
  | .finish => True
  | .fire _ outcome => s.pc = .idle ∧ outcome ≠ .firedAtOnce

def Timely : WaterState → List Event → Prop
  | _, [] => True
  | s, e :: es => e.Timely s ∧ Timely (step s e) es

/-- With no call in progress, the valve is open with exactly its cutoff pending, or closed with no
alarm pending; between the arming and the rest of a call, the mutex is held, the valve closed,
and the alarm just armed, if any, is the one pending. -/
def Safe (s : WaterState) : Prop :=
  match s.pc with
  | .idle => s.mutexHeld = false ∧
      ((s.topicData = "ON" ∧ s.pin = true ∧ 0 < s.waterPumpAlarm ∧ s.pending = [s.waterPumpAlarm]) ∨
        (s.topicData = "OFF" ∧ s.pin = false ∧ s.pending = []))
  | .armed => s.mutexHeld = true ∧ s.topicData = "OFF" ∧ s.pin = false ∧
      ((0 < s.waterPumpAlarm ∧ s.pending = [s.waterPumpAlarm]) ∨
        (s.waterPumpAlarm = -1 ∧ s.pending = []))

theorem step_safe {s : WaterState} (e : Event) (ht : e.Timely s) (h : Safe s) :
    Safe (step s e) := by
  cases hpc : s.pc <;> simp only [Safe, hpc] at h
  case idle =>
    obtain ⟨hm, ⟨hon, hpin, hpos, hpend⟩ | ⟨hoff, hpin, hpend⟩⟩ := h
    · have hne : s.waterPumpAlarm ≠ 0 := by omega
      cases e with
      | command o =>
          simp [step, setWaterBegin, Safe, hpc, hm, hon, on_ne_off, hpend, hne,
            cancelWaterAlarm_pending_single]
      | finish => simp [step, Safe, hpc, hm, hon, hpin, hpos, hpend]
      | fire id o =>
          simp only [step, waterAlarmCallback, hpend, List.mem_singleton]
          split_ifs with hid
          · simp [hid, setWater, setWaterBegin, Safe, hpc, hm, hon, on_ne_off,
              cancelWaterAlarm_pending_nil]
          · simp [Safe, hpc, hm, hon, hpin, hpos, hpend]
    · cases e with
      | command o =>
          cases o
          case firedAtOnce => exact absurd rfl ht
          all_goals simp [step, setWaterBegin, armWaterAlarm, Safe, hpc, hm, hoff, hpin, hpend,
            cancelWaterAlarm_pending_nil]
      | finish => simp [step, Safe, hpc, hm, hoff, hpin, hpend]
      | fire id o => simp [step, waterAlarmCallback, Safe, hpc, hm, hoff, hpin, hpend]
  case armed =>
    obtain ⟨hm, hoff, hpin, hw⟩ := h
    cases e with
    | command o => simp [step, Safe, hpc, hm, hoff, hpin, hw]
    | finish =>
        rcases hw with ⟨hpos, hpend⟩ | ⟨hneg, hpend⟩
        · have hle : 0 ≤ s.waterPumpAlarm := by omega
          simp [step, setWaterFinish, Safe, hpc, hle, hpos, hpend]
        · have hlt : ¬ 0 ≤ s.waterPumpAlarm := by omega
          simp [step, setWaterFinish, Safe, hpc, hlt, hoff, hpin, hpend]
    | fire id o => exact absurd ht.1 (by simp [hpc])

theorem run_safe (es : List Event) :
    ∀ {s : WaterState}, Timely s es → Safe s → Safe (run s es) := by
  induction es with
  | nil => exact fun _ h => h
  | cons e es ih => exact fun ht h => ih ht.2 (step_safe e ht.1 h)

/-- When every arming returns an id or fails, and the alarm never fires before the call that armed
it has finished, the cutoff holds: with no call in progress, the text is `"ON"` only with its
alarm pending. -/
theorem run_cutoff_pending (es : List Event) (ht : Timely WaterState.initial es)
    (hidle : (run WaterState.initial es).pc = .idle)
    (hon : (run WaterState.initial es).topicData = "ON") :
    (run WaterState.initial es).waterPumpAlarm ∈ (run WaterState.initial es).pending := by
  have h := run_safe es ht (by simp [Safe, WaterState.initial])
  simp only [Safe, hidle] at h
  rcases h.2 with ⟨-, -, -, hpend⟩ | ⟨hoff, -⟩
  · simp [hpend]
  · exact absurd (hon.symm.trans hoff) on_ne_off

/-- A command opening the valve, its alarm armed, and the call finished. -/
theorem run_cutoff_pending_armed :
    let es := [Event.command .armed, .finish]
    Timely WaterState.initial es ∧ (run WaterState.initial es).pc = .idle ∧
      (run WaterState.initial es).topicData = "ON" ∧
      (run WaterState.initial es).waterPumpAlarm ∈ (run WaterState.initial es).pending := by
  intro es
  have ht : Timely WaterState.initial es := ⟨by simp [Event.Timely], trivial, trivial⟩
  have hidle : (run WaterState.initial es).pc = .idle := by decide
  have hon : (run WaterState.initial es).topicData = "ON" := by decide
  exact ⟨ht, hidle, hon, run_cutoff_pending es ht hidle hon⟩

/-- A command opening the valve, with the alarm it arms firing before the call has finished: the
callback finds the mutex taken and the pool drops the alarm, and the call then opens the valve
with no cutoff pending. Likewise when the arming finds its time passed and returns 0, which the
`water_pump_alarm >= 0` check accepts. -/
theorem run_alarm_lost :
    run WaterState.initial [.command .armed, .fire 1 .armed, .finish] =
        ⟨true, "ON", 1, false, [], 1, .idle⟩ ∧
      run WaterState.initial [.command .firedAtOnce, .finish] = ⟨true, "ON", 0, false, [], 0, .idle⟩ := by
  decide

/-! ## The light

`server_command_handler` runs the topic's `fn` on its entry of `current_control_state` and never
reads the message. For the light topic `fn` is `set_light`, which toggles `LIGHT_PIN` and the
topic's text with no mutex or alarm. -/

structure LightState where
  pin : Bool
  topicData : String
deriving DecidableEq, Repr

def LightState.initial : LightState := ⟨false, "OFF"⟩

/-- `set_light`: the text `"OFF"` turns the light on and becomes `"ON"`; any other text turns it
off and becomes `"OFF"`. -/
def setLight (s : LightState) : LightState :=
  if s.topicData = "OFF" then ⟨true, "ON"⟩ else ⟨false, "OFF"⟩

/-- `server_command_handler(topic_number, data, len)` for the light topic. -/
def serverCommandHandlerLight (_data : List UInt8) (s : LightState) : LightState := setLight s

def runLight (s : LightState) (cmds : List (List UInt8)) : LightState :=
  cmds.foldl (fun s data => serverCommandHandlerLight data s) s

theorem runLight_cons (s : LightState) (data : List UInt8) (cmds : List (List UInt8)) :
    runLight s (data :: cmds) = runLight (setLight s) cmds := rfl

def LightState.Agrees (s : LightState) : Prop := s.topicData = if s.pin then "ON" else "OFF"

theorem setLight_toggles {s : LightState} (h : s.Agrees) :
    (setLight s).pin = !s.pin ∧ (setLight s).Agrees := by
  unfold LightState.Agrees at *
  cases hp : s.pin <;> simp_all [setLight, on_ne_off]

theorem runLight_toggles (cmds : List (List UInt8)) :
    ∀ {s : LightState}, s.Agrees →
      (runLight s cmds).pin = (s.pin ^^ decide (cmds.length % 2 = 1)) ∧ (runLight s cmds).Agrees := by
  induction cmds with
  | nil => intro s h; simpa [runLight] using h
  | cons d cmds ih =>
      intro s h
      obtain ⟨hp, hs⟩ := setLight_toggles h
      obtain ⟨ih1, ih2⟩ := ih hs
      rw [runLight_cons]
      refine ⟨?_, ih2⟩
      rw [ih1, hp, List.length_cons]
      rcases Nat.mod_two_eq_zero_or_one cmds.length with hm | hm <;>
        cases s.pin <;> simp [hm, Nat.add_mod]

/-- Whatever the payloads of the commands on the light topic, each toggles the light, the text
following the pin: after the commands `cmds` the light is on exactly when they are odd in
number, so an `"ON"` sent to a lit light turns it off. -/
theorem runLight_parity (cmds : List (List UInt8)) :
    (runLight LightState.initial cmds).pin = decide (cmds.length % 2 = 1) ∧
      (runLight LightState.initial cmds).topicData =
        if (runLight LightState.initial cmds).pin then "ON" else "OFF" := by
  simpa [LightState.initial] using runLight_toggles cmds (s := LightState.initial) rfl

end PicoSensorAggregator.WaterControl
