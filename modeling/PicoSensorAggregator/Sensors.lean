import PicoSensorAggregator.Publish
import PicoSensorAggregator.SensorQueue
import PicoSensorAggregator.Ds18b20
import PicoSensorAggregator.ControlTopics
import PicoSensorAggregator.SettingsLifecycle

/-!
The sensor unit, on core 0. `sensors.c` keeps the table `sensors_arr` of `sensor_wrap_t`, each
holding the wrapper functions of one driver and, in `custom_data`, the driver's object, which
its `init_fn` allocates and its `clean_fn` frees. `main` calls `init_sensors` once, then repeats
`prepare_sensors`, `collect_data_sensors`, `transfer_data_sensors(pass_sensor_data_to_queue)` and
a check of `reset_core` under `reset_core_mutex`. Core 1 reads `sensor_data_queue` with
`try_read_data_from_queue`, and once `httpd_ap_mode` has saved new settings it sets `reset_core`;
core 0 then clears it, calls `deinit_clean_sensors` and waits for the watchdog. The allocator,
the PIO and 1-Wire hardware and the sensors' readings answer with each step of core 0.

Core 0's heap operations on the drivers' objects are logged. A dereference or a `free` names a
block; a run is memory safe when each such block was allocated earlier and not freed before.
-/

namespace PicoSensorAggregator.Sensors

open Publish (Heap)
open SensorQueue (QueueState QueueEntry numberOfSensorTopics queueAddBlocking
  passSensorDataToQueue tryReadDataFromQueue)
open Ds18b20 (Scratchpad Ds18b20T ds18b20ReadTemperature zeroDs)
open ControlTopics (topicBytes)

/-! ## Core 0's memory -/

/-- An operation on the heap: a block `malloc` returned, a pointer passed to a driver function
that dereferences it (`none` for `NULL`), or a `free`. -/
inductive Access
  | malloc (p : Nat)
  | use (p : Option Nat)
  | free (p : Nat)
deriving DecidableEq, Repr

def Access.ptr : Access → Option Nat
  | .malloc p => some p
  | .use p => p
  | .free p => some p

structure Mem where
  heap : Heap
  log : List Access

def Mem.malloc (m : Mem) (ok : Bool) : Option Nat × Mem :=
  match m.heap.malloc ok with
  | (some p, heap) => (some p, ⟨heap, m.log ++ [.malloc p]⟩)
  | (none, _) => (none, m)

def Mem.use (m : Mem) (p : Option Nat) : Mem := ⟨m.heap, m.log ++ [.use p]⟩

def Mem.free (m : Mem) (p : Nat) : Mem := ⟨m.heap.free p, m.log ++ [.free p]⟩

/-- Whether an access may follow the accesses `pre`: a dereference or a `free` needs a block
`malloc` returned and that no `free` has released since. -/
def Access.OkAfter (pre : List Access) : Access → Prop
  | .malloc _ => True
  | .use none => False
  | .use (some p) => .malloc p ∈ pre ∧ .free p ∉ pre
  | .free p => .malloc p ∈ pre ∧ .free p ∉ pre

/-- No `NULL` dereference, no use after `free`, no double `free`, and no `free` of a pointer
`malloc` did not return. -/
def MemorySafe (log : List Access) : Prop :=
  ∀ pre e post, log = pre ++ e :: post → e.OkAfter pre

def Mem.Owns (m : Mem) (p : Nat) : Prop := Access.malloc p ∈ m.log ∧ Access.free p ∉ m.log

@[simp] theorem Mem.malloc_true (m : Mem) :
    m.malloc true = (some m.heap.next, ⟨m.heap.alloc, m.log ++ [.malloc m.heap.next]⟩) := rfl

@[simp] theorem Mem.malloc_false (m : Mem) : m.malloc false = (none, m) := rfl

@[simp] theorem Mem.use_log (m : Mem) (p : Option Nat) : (m.use p).log = m.log ++ [.use p] := rfl

@[simp] theorem Mem.use_next (m : Mem) (p : Option Nat) : (m.use p).heap.next = m.heap.next := rfl

@[simp] theorem Mem.free_log (m : Mem) (p : Nat) : (m.free p).log = m.log ++ [.free p] := rfl

@[simp] theorem Mem.free_next (m : Mem) (p : Nat) : (m.free p).heap.next = m.heap.next := rfl

theorem MemorySafe.snoc {log : List Access} {e : Access} (hs : MemorySafe log)
    (he : e.OkAfter log) : MemorySafe (log ++ [e]) := by
  intro pre e' post h
  rcases List.eq_nil_or_concat post with rfl | ⟨post', x, rfl⟩
  · obtain ⟨rfl, h'⟩ := List.append_inj' h rfl
    cases h'
    exact he
  · rw [List.concat_eq_append, ← List.cons_append, ← List.append_assoc] at h
    exact hs pre e' post' (List.append_inj_left' h rfl)

/-- The memory invariant, for the blocks `bs` the sensors hold: they are distinct, they are
exactly the blocks allocated and not freed, every block the log names lies below the allocator's
next address, and the log is memory safe. -/
structure MemOk (bs : List Nat) (m : Mem) : Prop where
  nodup : bs.Nodup
  owns : ∀ p ∈ bs, m.Owns p
  exact : ∀ p, m.Owns p → p ∈ bs
  fresh : ∀ e ∈ m.log, ∀ p ∈ e.ptr, p < m.heap.next
  safe : MemorySafe m.log

theorem MemOk.perm {bs bs' : List Nat} {m : Mem} (h : MemOk bs m) (hp : bs.Perm bs') :
    MemOk bs' m :=
  ⟨hp.nodup_iff.mp h.nodup, fun p hq => h.owns p (hp.mem_iff.mpr hq),
    fun p hq => hp.mem_iff.mp (h.exact p hq), h.fresh, h.safe⟩

theorem MemOk.lt_next {bs : List Nat} {m : Mem} (h : MemOk bs m) {p : Nat} (hp : p ∈ bs) :
    p < m.heap.next :=
  h.fresh _ (h.owns p hp).1 p rfl

theorem MemOk.use {bs : List Nat} {m : Mem} {p : Nat} (h : MemOk bs m) (hp : p ∈ bs) :
    MemOk bs (m.use (some p)) where
  nodup := h.nodup
  owns q hq := by simpa [Mem.Owns] using h.owns q hq
  exact q hq := h.exact q (by simpa [Mem.Owns] using hq)
  fresh e he q hq := by
    rcases List.mem_append.mp he with he | he
    · exact h.fresh e he q hq
    · obtain rfl := List.mem_singleton.mp he
      obtain rfl := Option.mem_some_iff.mp hq
      exact h.lt_next hp
  safe := h.safe.snoc (h.owns p hp)

theorem MemOk.free {bs : List Nat} {m : Mem} {p : Nat} (h : MemOk (p :: bs) m) :
    MemOk bs (m.free p) where
  nodup := (List.nodup_cons.mp h.nodup).2
  owns q hq := by
    have hne : q ≠ p := fun e => (List.nodup_cons.mp h.nodup).1 (e ▸ hq)
    simpa [Mem.Owns, hne] using h.owns q (List.mem_cons_of_mem p hq)
  exact q hq := by
    have hq' : Access.malloc q ∈ m.log ∧ Access.free q ∉ m.log ∧ q ≠ p := by
      simpa [Mem.Owns, eq_comm] using hq
    exact (List.mem_cons.mp (h.exact q ⟨hq'.1, hq'.2.1⟩)).resolve_left hq'.2.2
  fresh e he q hq := by
    rcases List.mem_append.mp he with he | he
    · exact h.fresh e he q hq
    · obtain rfl := List.mem_singleton.mp he
      obtain rfl := Option.mem_some_iff.mp hq
      exact h.lt_next (List.mem_cons_self _ _)
  safe := h.safe.snoc (h.owns p (List.mem_cons_self _ _))

theorem MemOk.malloc {bs : List Nat} {m : Mem} (h : MemOk bs m) :
    MemOk (m.heap.next :: bs) (m.malloc true).2 where
  nodup := List.nodup_cons.mpr ⟨fun hn => Nat.lt_irrefl _ (h.lt_next hn), h.nodup⟩
  owns q hq := by
    rcases List.mem_cons.mp hq with rfl | hq
    · refine ⟨by simp, fun hf => ?_⟩
      have hf' : Access.free m.heap.next ∈ m.log := by simpa using hf
      exact Nat.lt_irrefl _ (h.fresh _ hf' _ rfl)
    · have := h.owns q hq
      exact ⟨by simp [this.1], by simpa using this.2⟩
  exact q hq := by
    by_cases hq' : q = m.heap.next
    · exact hq' ▸ List.mem_cons_self _ _
    · exact List.mem_cons_of_mem _ (h.exact q (by simpa [Mem.Owns, hq'] using hq))
  fresh e he q hq := by
    simp only [Mem.malloc_true, Heap.alloc_next, List.mem_append, List.mem_singleton] at he ⊢
    rcases he with he | rfl
    · exact Nat.lt_succ_of_lt (h.fresh e he q hq)
    · obtain rfl := Option.mem_some_iff.mp hq
      exact Nat.lt_succ_self _
  safe := h.safe.snoc trivial

/-! ## The drivers' objects and the wrappers -/

/-- The wrapper functions a sensor's function pointers hold: `init_fn_dht`, `auxiliary_fn_dht`,
`collect_fn_dht` and `clean_fn_dht`, or the `_ds18b20` ones. -/
inductive Wrappers
  | dht
  | ds18b20
deriving DecidableEq, Repr

/-- `sensor_wrap_t`, with the object `custom_data` points to as far as the wrappers read it: for
the DS18B20, the `ds18b20_t`'s `ow` pointer and its reading. The DHT library's `dht_t` is only
passed on. -/
structure SensorWrap where
  topicData : List UInt8
  customData : Option Nat
  wrappers : Wrappers
  disconnected : Bool
  ow : Option Nat
  ds : Ds18b20T

def topicDataSize : Nat := 128

/-- What the allocator and the hardware answer to one `init_fn`: `malloc` of the driver object;
then, in `ds18b20_init`, `malloc` of the `OW` instance, `pio_can_add_program`, `ow_init`, and the
number of devices `ow_romsearch` finds. -/
structure InitAnswer where
  mallocOk : Bool
  owMallocOk : Bool
  canAddProgram : Bool
  owInitOk : Bool
  numDevs : UInt8
deriving DecidableEq, Repr

/-- What one `collect_fn` reads: `dht_finish_measurement_blocking`'s humidity and temperature
when its result is `DHT_RESULT_OK`, and the nine bytes `ow_read` returns from the DS18B20. -/
structure Reading where
  dht : Option (Float × Float)
  pad : Scratchpad

/-- `snprintf(str, size, ...)` printing `text` over the buffer `str`: at most `size - 1` bytes of
it, then a NUL; the bytes after the NUL keep their values. -/
def snprintf (str : List UInt8) (size : Nat) (text : List UInt8) : List UInt8 :=
  let t := text.take (size - 1)
  t ++ 0 :: str.drop (t.length + 1)

section Texts

-- `printFloat` gives the characters `%.2f` prints for a float.
variable (printFloat : Float → List UInt8)

def dhtText : Option (Float × Float) → List UInt8
  | some (humidity, temperatureC) =>
      topicBytes "\x7b\"r_humidity\":" ++ printFloat humidity ++ topicBytes ",\"r_temperature\":" ++
        printFloat temperatureC ++ topicBytes "\x7d"
  | none => topicBytes "\x7b\"r_humidity\":\"null\",\"r_temperature\":\"null\"\x7d"

def ds18b20Text (r : UInt8 × Ds18b20T) : List UInt8 :=
  if r.1 ≠ 0 then topicBytes "\x7b\"w_temp\":\"null\"\x7d"
  else topicBytes "\x7b\"w_temp\":" ++ printFloat r.2.temperature ++ topicBytes "\x7d"

end Texts

/-! ### The DS18B20 driver's allocations -/

/-- `ds18b20_init(ds, DS18B20_PIO, DS18B20_PIN)` with `ds` at block `p`: its result, the `ow`
field it leaves in `ds`, and the memory. An `OW` instance that `pio_can_add_program` or `ow_init`
refuses is freed; one on which `ow_romsearch` finds no device is kept. -/
def ds18b20Init (a : InitAnswer) (p : Nat) (m : Mem) : Nat × Option Nat × Mem :=
  match (m.use (some p)).malloc a.owMallocOk with
  | (none, m) => (1, none, m)
  | (some ow, m) =>
      if !a.canAddProgram then (2, none, m.free ow)
      else if !a.owInitOk then (3, none, (m.use (some ow)).free ow)
      else if a.numDevs = 0 then (4, some ow, (m.use (some ow)).use (some ow))
      else (0, some ow, (m.use (some ow)).use (some ow))

/-- `ds18b20_convert(ds)`: `ow_reset` and `ow_send` on `ds->ow`. -/
def ds18b20Convert (ds ow : Option Nat) (m : Mem) : Mem := (m.use ds).use ow

/-- `ds18b20_deinit(ds)` for `ds` at block `p`: it reads `ds->ow` and, when it is set, releases
the state machine and frees the `OW` instance. -/
def ds18b20Deinit (p : Nat) (ow : Option Nat) (m : Mem) : Mem :=
  match ow with
  | some o => ((m.use (some p)).use (some o)).free o
  | none => m.use (some p)

/-! ### The wrappers -/

section Wrappers

variable (printFloat : Float → List UInt8)

/-- `init_fn_dht(&custom_data)`: a `dht_t` from `malloc`, then `dht_init` on it. -/
def initFnDht (a : InitAnswer) (w : SensorWrap) (m : Mem) : Nat × SensorWrap × Mem :=
  match m.malloc a.mallocOk with
  | (none, m) => (1, w, m)
  | (some p, m) => (0, { w with customData := some p }, m.use (some p))

/-- `init_fn_ds18b20(&custom_data)`: a `ds18b20_t` from `malloc`, then `ds18b20_init` on it,
whose result it returns. -/
def initFnDs18b20 (a : InitAnswer) (w : SensorWrap) (m : Mem) : Nat × SensorWrap × Mem :=
  match m.malloc a.mallocOk with
  | (none, m) => (1, w, m)
  | (some p, m) =>
      let r := ds18b20Init a p m
      (r.1, { w with customData := some p, ow := r.2.1, ds := zeroDs }, r.2.2)

/-- `auxiliary_fn_dht(&custom_data)`: `dht_start_measurement`. -/
def auxiliaryFnDht (w : SensorWrap) (m : Mem) : Mem := m.use w.customData

/-- `auxiliary_fn_ds18b20(&custom_data)`: `ds18b20_convert`. -/
def auxiliaryFnDs18b20 (w : SensorWrap) (m : Mem) : Mem := ds18b20Convert w.customData w.ow m

/-- `collect_fn_dht(str, size, &custom_data)`: `dht_finish_measurement_blocking`, and the reading
or `null`s printed into `str`. -/
def collectFnDht (r : Option (Float × Float)) (size : Nat) (w : SensorWrap) (m : Mem) :
    SensorWrap × Mem :=
  ({ w with topicData := snprintf w.topicData size (dhtText printFloat r) }, m.use w.customData)

/-- `collect_fn_ds18b20(str, size, &custom_data)`: `ds18b20_read_temperature`, which talks to the
sensor through `ds->ow`, and the temperature or `null` printed into `str`. -/
def collectFnDs18b20 (pad : Scratchpad) (size : Nat) (w : SensorWrap) (m : Mem) :
    SensorWrap × Mem :=
  let r := ds18b20ReadTemperature pad w.ds
  ({ w with ds := r.2, topicData := snprintf w.topicData size (ds18b20Text printFloat r) },
    (m.use w.customData).use w.ow)

/-- `clean_fn_dht(&custom_data)`: nothing for `NULL`; otherwise `dht_deinit`, `free`, and
`custom_data` set to `NULL`. -/
def cleanFnDht (w : SensorWrap) (m : Mem) : SensorWrap × Mem :=
  match w.customData with
  | none => (w, m)
  | some p => ({ w with customData := none }, (m.use (some p)).free p)

/-- `clean_fn_ds18b20(&custom_data)`: nothing for `NULL`; otherwise `ds18b20_deinit`, `free`, and
`custom_data` set to `NULL`. -/
def cleanFnDs18b20 (w : SensorWrap) (m : Mem) : SensorWrap × Mem :=
  match w.customData with
  | none => (w, m)
  | some p => ({ w with customData := none }, (ds18b20Deinit p w.ow m).free p)

def SensorWrap.initFn (a : InitAnswer) (w : SensorWrap) (m : Mem) : Nat × SensorWrap × Mem :=
  match w.wrappers with
  | .dht => initFnDht a w m
  | .ds18b20 => initFnDs18b20 a w m

def SensorWrap.auxiliaryFn (w : SensorWrap) (m : Mem) : Mem :=
  match w.wrappers with
  | .dht => auxiliaryFnDht w m
  | .ds18b20 => auxiliaryFnDs18b20 w m

def SensorWrap.collectFn (r : Reading) (w : SensorWrap) (m : Mem) : SensorWrap × Mem :=
  match w.wrappers with
  | .dht => collectFnDht printFloat r.dht topicDataSize w m
  | .ds18b20 => collectFnDs18b20 printFloat r.pad topicDataSize w m

def SensorWrap.cleanFn (w : SensorWrap) (m : Mem) : SensorWrap × Mem :=
  match w.wrappers with
  | .dht => cleanFnDht w m
  | .ds18b20 => cleanFnDs18b20 w m

end Wrappers

/-! ## The loops of `sensors.c` -/

/-- `for (uint i = 0; i < ARRAY_LENGTH(sensors_arr); i++)` running `body` on `sensors_arr[i]`,
from index `i` on. -/
def forEachSensor (body : Nat → SensorWrap → Mem → SensorWrap × Mem) :
    Nat → List SensorWrap → Mem → List SensorWrap × Mem
  | _, [], m => ([], m)
  | i, w :: ws, m =>
      let r := body i w m
      let rest := forEachSensor body (i + 1) ws r.2
      (r.1 :: rest.1, rest.2)

/-- The body of `init_sensors`'s loop: `disconnected = init_fn(&custom_data)`. -/
def initSensorsBody (a : Nat → InitAnswer) (i : Nat) (w : SensorWrap) (m : Mem) :
    SensorWrap × Mem :=
  let r := w.initFn (a i) m
  ({ r.2.1 with disconnected := r.1 != 0 }, r.2.2)

/-- `init_sensors()`. -/
def initSensors (a : Nat → InitAnswer) (ws : List SensorWrap) (m : Mem) : List SensorWrap × Mem :=
  forEachSensor (initSensorsBody a) 0 ws m

/-- The body of `prepare_sensors`'s loop: `auxiliary_fn` of a connected sensor. Both wrapper sets
have one, so the `auxiliary_fn != NULL` test always passes. -/
def prepareSensorsBody (_ : Nat) (w : SensorWrap) (m : Mem) : SensorWrap × Mem :=
  (w, if !w.disconnected then w.auxiliaryFn m else m)

/-- `prepare_sensors()`. -/
def prepareSensors (ws : List SensorWrap) (m : Mem) : List SensorWrap × Mem :=
  forEachSensor prepareSensorsBody 0 ws m

/-- The body of `collect_data_sensors`'s loop: `collect_fn` of a connected sensor, `rd i`
answering the `i`-th. -/
def collectDataSensorsBody (printFloat : Float → List UInt8) (rd : Nat → Reading) (i : Nat)
    (w : SensorWrap) (m : Mem) : SensorWrap × Mem :=
  if !w.disconnected then w.collectFn printFloat (rd i) m else (w, m)

/-- `collect_data_sensors()`. -/
def collectDataSensors (printFloat : Float → List UInt8) (rd : Nat → Reading)
    (ws : List SensorWrap) (m : Mem) : List SensorWrap × Mem :=
  forEachSensor (collectDataSensorsBody printFloat rd) 0 ws m

/-- The body of `deinit_clean_sensors`'s loop: `clean_fn` of a connected sensor. -/
def deinitCleanSensorsBody (_ : Nat) (w : SensorWrap) (m : Mem) : SensorWrap × Mem :=
  if !w.disconnected then w.cleanFn m else (w, m)

/-- `deinit_clean_sensors()`. -/
def deinitCleanSensors (ws : List SensorWrap) (m : Mem) : List SensorWrap × Mem :=
  forEachSensor deinitCleanSensorsBody 0 ws m

theorem forEachSensor_length (body : Nat → SensorWrap → Mem → SensorWrap × Mem) :
    ∀ (i : Nat) (ws : List SensorWrap) (m : Mem), (forEachSensor body i ws m).1.length = ws.length
  | _, [], _ => rfl
  | i, _ :: ws, _ => congrArg Nat.succ (forEachSensor_length body (i + 1) ws _)

/-! ## What each wrapper does to memory -/

/-- The blocks a sensor holds: its object and, for a DS18B20, the `OW` instance `ds->ow` points
to. -/
def SensorWrap.held (w : SensorWrap) : List Nat :=
  match w.customData, w.wrappers with
  | none, _ => []
  | some p, .dht => [p]
  | some p, .ds18b20 => p :: w.ow.toList

/-- A connected sensor has its object and, for a DS18B20, its `OW` instance. -/
def SensorWrap.Ready (w : SensorWrap) : Prop :=
  w.disconnected = false → ∃ p, w.customData = some p ∧ (w.wrappers = .ds18b20 → ∃ o, w.ow = some o)

theorem ds18b20Init_memOk (a : InitAnswer) {p : Nat} {bs : List Nat} {m : Mem}
    (h : MemOk (p :: bs) m) :
    MemOk (p :: ((ds18b20Init a p m).2.1.toList ++ bs)) (ds18b20Init a p m).2.2 ∧
      ((ds18b20Init a p m).1 = 0 → ∃ o, (ds18b20Init a p m).2.1 = some o) := by
  have h1 := h.use (List.mem_cons_self p bs)
  cases hm : a.owMallocOk
  · simp only [ds18b20Init, hm, Mem.malloc_false]
    exact ⟨h1, fun h0 => absurd h0 (by decide)⟩
  · have h2 := h1.malloc
    have hin : (m.use (some p)).heap.next ∈ (m.use (some p)).heap.next :: p :: bs :=
      List.mem_cons_self _ _
    simp only [ds18b20Init, hm, Mem.malloc_true]
    split_ifs
    · exact ⟨h2.free, fun h0 => absurd h0 (by decide)⟩
    · exact ⟨(h2.use hin).free, fun h0 => absurd h0 (by decide)⟩
    · exact ⟨((h2.use hin).use hin).perm (.swap _ _ _), fun h0 => absurd h0 (by decide)⟩
    · exact ⟨((h2.use hin).use hin).perm (.swap _ _ _), fun _ => ⟨_, rfl⟩⟩

theorem SensorWrap.initFn_memOk (a : InitAnswer) {w : SensorWrap} (hw : w.customData = none)
    {bs : List Nat} {m : Mem} (h : MemOk bs m) :
    MemOk ((w.initFn a m).2.1.held ++ bs) (w.initFn a m).2.2 ∧
      ((w.initFn a m).1 = 0 → ∃ p, (w.initFn a m).2.1.customData = some p ∧
        ((w.initFn a m).2.1.wrappers = .ds18b20 → ∃ o, (w.initFn a m).2.1.ow = some o)) := by
  obtain ⟨d, c, wr, dis, ow, ds⟩ := w
  subst hw
  cases hm : a.mallocOk <;> cases wr
  all_goals simp only [SensorWrap.initFn, initFnDht, initFnDs18b20, hm, Mem.malloc_false,
    Mem.malloc_true]
  · exact ⟨h, fun h0 => absurd h0 (by decide)⟩
  · exact ⟨h, fun h0 => absurd h0 (by decide)⟩
  · exact ⟨h.malloc.use (List.mem_cons_self _ _), fun _ => ⟨_, rfl, nofun⟩⟩
  · obtain ⟨hok, hsome⟩ := ds18b20Init_memOk a h.malloc
    exact ⟨hok, fun h0 => ⟨_, rfl, fun _ => hsome h0⟩⟩

theorem SensorWrap.auxiliaryFn_memOk {w : SensorWrap} (hw : w.Ready) (hc : w.disconnected = false)
    {bs : List Nat} {m : Mem} (h : MemOk (w.held ++ bs) m) : MemOk (w.held ++ bs) (w.auxiliaryFn m) := by
  obtain ⟨p, hp, hds⟩ := hw hc
  obtain ⟨d, c, wr, dis, ow, ds⟩ := w
  subst hp
  cases wr with
  | dht => exact h.use (List.mem_cons_self _ _)
  | ds18b20 =>
      obtain ⟨o, rfl⟩ := hds rfl
      exact (h.use (List.mem_cons_self _ _)).use (by simp [SensorWrap.held])

theorem SensorWrap.collectFn_memOk (printFloat : Float → List UInt8) (r : Reading) {w : SensorWrap}
    (hw : w.Ready) (hc : w.disconnected = false) {bs : List Nat} {m : Mem}
    (h : MemOk (w.held ++ bs) m) :
    MemOk (w.held ++ bs) (w.collectFn printFloat r m).2 ∧
      (w.collectFn printFloat r m).1.held = w.held ∧ (w.collectFn printFloat r m).1.Ready := by
  obtain ⟨p, hp, hds⟩ := hw hc
  obtain ⟨d, c, wr, dis, ow, ds⟩ := w
  subst hp
  cases wr with
  | dht => exact ⟨h.use (List.mem_cons_self _ _), rfl, hw⟩
  | ds18b20 =>
      obtain ⟨o, rfl⟩ := hds rfl
      exact ⟨(h.use (List.mem_cons_self _ _)).use (by simp [SensorWrap.held]), rfl, hw⟩

theorem SensorWrap.cleanFn_memOk (w : SensorWrap) {bs : List Nat} {m : Mem}
    (h : MemOk (w.held ++ bs) m) : MemOk bs (w.cleanFn m).2 ∧ (w.cleanFn m).1.held = [] := by
  obtain ⟨d, c, wr, dis, ow, ds⟩ := w
  cases c with
  | none => cases wr <;> exact ⟨h, rfl⟩
  | some p =>
      cases wr with
      | dht => exact ⟨(h.use (List.mem_cons_self _ _)).free, rfl⟩
      | ds18b20 =>
          cases ow with
          | none => exact ⟨(h.use (List.mem_cons_self _ _)).free, rfl⟩
          | some o =>
              have h1 := (h.use (List.mem_cons_self _ _)).use (p := o) (by simp [SensorWrap.held])
              exact ⟨(h1.perm (.swap _ _ _)).free.free, rfl⟩

theorem forEachSensor_memOk {body : Nat → SensorWrap → Mem → SensorWrap × Mem}
    {P Q : SensorWrap → Prop}
    (hbody : ∀ i w m bs, P w → MemOk (w.held ++ bs) m →
      MemOk ((body i w m).1.held ++ bs) (body i w m).2 ∧ Q (body i w m).1) :
    ∀ (i : Nat) (ws : List SensorWrap) (m : Mem) (bs : List Nat), (∀ w ∈ ws, P w) →
      MemOk (ws.flatMap SensorWrap.held ++ bs) m →
      MemOk ((forEachSensor body i ws m).1.flatMap SensorWrap.held ++ bs)
          (forEachSensor body i ws m).2 ∧
        ∀ w ∈ (forEachSensor body i ws m).1, Q w
  | _, [], _, _, _, h => ⟨h, by simp [forEachSensor]⟩
  | i, w :: ws, m, bs, hP, h => by
      have h1 := hbody i w m (ws.flatMap SensorWrap.held ++ bs) (hP w (List.mem_cons_self _ _))
        (by simpa using h)
      obtain ⟨h2, hQ⟩ := forEachSensor_memOk hbody (i + 1) ws _ ((body i w m).1.held ++ bs)
        (fun w hw => hP w (List.mem_cons_of_mem _ hw)) (h1.1.perm (List.perm_append_comm_assoc ..))
      refine ⟨h2.perm ?_, ?_⟩
      · simpa [forEachSensor] using (List.perm_append_comm_assoc ..)
      · simpa [forEachSensor] using ⟨h1.2, hQ⟩


theorem forEachSensor_fst {body : Nat → SensorWrap → Mem → SensorWrap × Mem}
    (hbody : ∀ i w m, (body i w m).1 = w) :
    ∀ (i : Nat) (ws : List SensorWrap) (m : Mem), (forEachSensor body i ws m).1 = ws
  | _, [], _ => rfl
  | i, w :: ws, m => by simp only [forEachSensor, hbody, forEachSensor_fst hbody (i + 1) ws]

theorem forEachSensor_getElem?_of_disconnected {body : Nat → SensorWrap → Mem → SensorWrap × Mem}
    (hbody : ∀ i w m, w.disconnected = true → (body i w m).1 = w) {w : SensorWrap}
    (hw : w.disconnected = true) :
    ∀ (i k : Nat) (ws : List SensorWrap) (m : Mem), ws[k]? = some w →
      (forEachSensor body i ws m).1[k]? = some w
  | _, _, [], _, h => by simp at h
  | i, 0, v :: ws, m, h => by
      obtain rfl : v = w := by simpa using h
      simp [forEachSensor, hbody i v m hw]
  | i, k + 1, v :: ws, m, h => by
      simpa [forEachSensor] using
        forEachSensor_getElem?_of_disconnected hbody hw (i + 1) k ws _ (by simpa using h)

theorem initSensorsBody_memOk (a : Nat → InitAnswer) (i : Nat) (w : SensorWrap) (m : Mem)
    (bs : List Nat) (hw : w.customData = none) (h : MemOk (w.held ++ bs) m) :
    MemOk ((initSensorsBody a i w m).1.held ++ bs) (initSensorsBody a i w m).2 ∧
      (initSensorsBody a i w m).1.Ready := by
  have hheld : w.held = [] := by simp [SensorWrap.held, hw]
  have r := SensorWrap.initFn_memOk (a i) hw (by simpa [hheld] using h)
  exact ⟨r.1, fun hd => r.2 (by simpa [initSensorsBody] using hd)⟩

theorem initSensors_memOk (a : Nat → InitAnswer) {ws : List SensorWrap}
    (hws : ∀ w ∈ ws, w.customData = none) {m : Mem} (h : MemOk (ws.flatMap SensorWrap.held) m) :
    MemOk ((initSensors a ws m).1.flatMap SensorWrap.held) (initSensors a ws m).2 ∧
      ∀ w ∈ (initSensors a ws m).1, w.Ready := by
  simpa using forEachSensor_memOk (initSensorsBody_memOk a) 0 ws m [] hws (by simpa using h)

theorem prepareSensors_fst (ws : List SensorWrap) (m : Mem) : (prepareSensors ws m).1 = ws :=
  forEachSensor_fst (fun _ _ _ => rfl) 0 ws m

theorem prepareSensorsBody_memOk (i : Nat) (w : SensorWrap) (m : Mem) (bs : List Nat)
    (hw : w.Ready) (h : MemOk (w.held ++ bs) m) :
    MemOk ((prepareSensorsBody i w m).1.held ++ bs) (prepareSensorsBody i w m).2 ∧
      (prepareSensorsBody i w m).1.Ready := by
  cases hc : w.disconnected
  · simpa [prepareSensorsBody, hc] using ⟨w.auxiliaryFn_memOk hw hc h, hw⟩
  · simpa [prepareSensorsBody, hc] using ⟨h, hw⟩

theorem prepareSensors_memOk {ws : List SensorWrap} (hws : ∀ w ∈ ws, w.Ready) {m : Mem}
    (h : MemOk (ws.flatMap SensorWrap.held) m) :
    MemOk (ws.flatMap SensorWrap.held) (prepareSensors ws m).2 := by
  have hfst : (forEachSensor prepareSensorsBody 0 ws m).1 = ws := prepareSensors_fst ws m
  simpa [prepareSensors, hfst] using
    (forEachSensor_memOk prepareSensorsBody_memOk 0 ws m [] hws (by simpa using h)).1

theorem collectDataSensorsBody_memOk (printFloat : Float → List UInt8) (rd : Nat → Reading)
    (i : Nat) (w : SensorWrap) (m : Mem) (bs : List Nat) (hw : w.Ready)
    (h : MemOk (w.held ++ bs) m) :
    MemOk ((collectDataSensorsBody printFloat rd i w m).1.held ++ bs)
        (collectDataSensorsBody printFloat rd i w m).2 ∧
      (collectDataSensorsBody printFloat rd i w m).1.Ready := by
  cases hc : w.disconnected
  · have r := w.collectFn_memOk printFloat (rd i) hw hc h
    simpa [collectDataSensorsBody, hc, r.2.1] using ⟨r.1, r.2.2⟩
  · simpa [collectDataSensorsBody, hc] using ⟨h, hw⟩

theorem collectDataSensors_memOk (printFloat : Float → List UInt8) (rd : Nat → Reading)
    {ws : List SensorWrap} (hws : ∀ w ∈ ws, w.Ready) {m : Mem}
    (h : MemOk (ws.flatMap SensorWrap.held) m) :
    MemOk ((collectDataSensors printFloat rd ws m).1.flatMap SensorWrap.held)
        (collectDataSensors printFloat rd ws m).2 ∧
      ∀ w ∈ (collectDataSensors printFloat rd ws m).1, w.Ready := by
  simpa using forEachSensor_memOk (collectDataSensorsBody_memOk printFloat rd) 0 ws m [] hws
    (by simpa using h)

theorem deinitCleanSensorsBody_memOk (i : Nat) (w : SensorWrap) (m : Mem) (bs : List Nat)
    (_ : True) (h : MemOk (w.held ++ bs) m) :
    MemOk ((deinitCleanSensorsBody i w m).1.held ++ bs) (deinitCleanSensorsBody i w m).2 ∧
      ((deinitCleanSensorsBody i w m).1.disconnected = false →
        (deinitCleanSensorsBody i w m).1.held = []) := by
  cases hc : w.disconnected
  · have r := w.cleanFn_memOk h
    simpa [deinitCleanSensorsBody, hc, r.2] using r.1
  · simpa [deinitCleanSensorsBody, hc] using h

theorem deinitCleanSensors_memOk {ws : List SensorWrap} {m : Mem}
    (h : MemOk (ws.flatMap SensorWrap.held) m) :
    MemOk ((deinitCleanSensors ws m).1.flatMap SensorWrap.held) (deinitCleanSensors ws m).2 ∧
      ∀ w ∈ (deinitCleanSensors ws m).1, w.disconnected = false → w.held = [] := by
  simpa using forEachSensor_memOk deinitCleanSensorsBody_memOk 0 ws m [] (fun _ _ => trivial)
    (by simpa using h)

/-! ## The two cores -/

/-- Where core 0 is in `main`: before `init_sensors`; at `prepare_sensors` or
`collect_data_sensors`; at sensor `i` of `transfer_data_sensors`; at the `reset_core` check; or
waiting for the watchdog. -/
inductive Pc
  | boot
  | prepare
  | collect
  | transfer (i : Nat)
  | check
  | halted
deriving DecidableEq, Repr

/-- The shared state. `transfer_data_sensors` passes a sensor's index in `sensors_arr` as the
index of `current_sensor_data` to copy into, so the table has no more sensors than there are
sensor topics. -/
structure State where
  pc : Pc
  sensors : List SensorWrap
  mem : Mem
  queue : QueueState
  resetCore : Bool
  length_le : sensors.length ≤ numberOfSensorTopics

def State.setSensors (s : State) (pc : Pc) (r : List SensorWrap × Mem)
    (h : r.1.length = s.sensors.length) : State :=
  { s with pc, sensors := r.1, mem := r.2, length_le := h ▸ s.length_le }

@[simp] theorem State.setSensors_pc (s : State) (pc : Pc) (r : List SensorWrap × Mem) (h) :
    (s.setSensors pc r h).pc = pc := rfl

@[simp] theorem State.setSensors_sensors (s : State) (pc : Pc) (r : List SensorWrap × Mem) (h) :
    (s.setSensors pc r h).sensors = r.1 := rfl

@[simp] theorem State.setSensors_mem (s : State) (pc : Pc) (r : List SensorWrap × Mem) (h) :
    (s.setSensors pc r h).mem = r.2 := rfl

@[simp] theorem State.setSensors_queue (s : State) (pc : Pc) (r : List SensorWrap × Mem) (h) :
    (s.setSensors pc r h).queue = s.queue := rfl

/-- One step of core 0 from where it is, `a` and `rd` answering for the sensors. A sensor's
`pass_sensor_data_to_queue` waits, making no progress, while the queue is full. -/
def core0Step (printFloat : Float → List UInt8) (a : Nat → InitAnswer) (rd : Nat → Reading)
    (s : State) : State :=
  match s.pc with
  | .boot => s.setSensors .prepare (initSensors a s.sensors s.mem) (forEachSensor_length ..)
  | .prepare => s.setSensors .collect (prepareSensors s.sensors s.mem) (forEachSensor_length ..)
  | .collect =>
      s.setSensors (.transfer 0) (collectDataSensors printFloat rd s.sensors s.mem)
        (forEachSensor_length ..)
  | .transfer i =>
      if h : i < s.sensors.length then
        let w := s.sensors[i]
        if w.disconnected then { s with pc := .transfer (i + 1) }
        else
          let r := queueAddBlocking
            (passSensorDataToQueue w.topicData ⟨i, Nat.lt_of_lt_of_le h s.length_le⟩) s.queue
          if r.1 then { s with pc := .transfer (i + 1), queue := r.2 } else s
      else { s with pc := .check }
  | .check =>
      if s.resetCore then
        { s.setSensors .halted (deinitCleanSensors s.sensors s.mem) (forEachSensor_length ..) with
          resetCore := false }
      else { s with pc := .prepare }
  | .halted => s

/-- A step of either core: core 0's next step with the hardware's answers; core 1's
`try_read_data_from_queue`; or core 1 setting `reset_core` after saving the settings. -/
inductive Event
  | core0 (a : Nat → InitAnswer) (rd : Nat → Reading)
  | read
  | reset

def step (printFloat : Float → List UInt8) (s : State) : Event → State
  | .core0 a rd => core0Step printFloat a rd s
  | .read => { s with queue := (tryReadDataFromQueue s.queue).2 }
  | .reset => { s with resetCore := true }

def run (printFloat : Float → List UInt8) (s : State) (es : List Event) : State :=
  es.foldl (step printFloat) s

/-- A table of sensors that `transfer_data_sensors` can pass to `current_sensor_data`: the
wrappers of its entries, no more of them than `NUMBER_OF_SENSOR_TOPICS`. -/
structure SensorsConfig where
  wrappers : List Wrappers
  length_le : wrappers.length ≤ numberOfSensorTopics

/-- `sensors_arr` as built: the DHT11 only, the DS18B20 entry being under `#if 0`. -/
def sensorsArr : SensorsConfig := ⟨[.dht], by decide⟩

def SensorWrap.initial (wr : Wrappers) : SensorWrap := ⟨List.replicate topicDataSize 0, none, wr, true, none, zeroDs⟩

def zeroEntry : QueueEntry := ⟨⟨0, by decide⟩, List.replicate 128 0⟩

/-- The state at reset: core 0 before `init_sensors`, the queue empty, `current_sensor_data`
zero, `reset_core` clear. -/
def State.boot (c : SensorsConfig) : State where
  pc := .boot
  sensors := c.wrappers.map SensorWrap.initial
  mem := ⟨⟨0, [], []⟩, []⟩
  queue := ⟨[], fun _ => zeroEntry⟩
  resetCore := false
  length_le := by simpa using c.length_le

/-- `sensor_ssi_handler(i_index, pc_insert, insert_len)` of `main.c` over `current_sensor_data`:
for a sensor topic, `snprintf(pc_insert, insert_len, "%s", data)`, and what that returns, the
length of `data` as a C string, as `uint16_t`; nothing for another index. The bytes inserted,
and the value returned. -/
def sensorSsiHandler (currentSensorData : Fin numberOfSensorTopics → QueueEntry) (iIndex : Int)
    (insertLen : Nat) : List UInt8 × Nat :=
  if h : 0 ≤ iIndex ∧ iIndex < numberOfSensorTopics then
    let str := (currentSensorData ⟨iIndex.toNat, by omega⟩).data.takeWhile (· ≠ 0)
    (str.take (insertLen - 1), str.length % 65536)
  else ([], 0)

/-! ## Runs of the two cores -/

theorem run_cons (printFloat : Float → List UInt8) (s : State) (e : Event) (es : List Event) :
    run printFloat s (e :: es) = run printFloat (step printFloat s e) es :=
  rfl

theorem MemOk.empty : MemOk [] ⟨⟨0, [], []⟩, []⟩ :=
  ⟨List.nodup_nil, by simp, fun _ h => absurd h.1 (List.not_mem_nil _), by simp,
    fun _ _ _ h => by simp at h⟩

/-- The invariant of the shared state: the memory invariant for the blocks the sensors hold;
before `init_sensors` they hold nothing; in the loop every connected sensor has its objects;
and once core 0 has halted, the connected sensors hold nothing. -/
structure Inv (s : State) : Prop where
  mem : MemOk (s.sensors.flatMap SensorWrap.held) s.mem
  boot : s.pc = .boot → ∀ w ∈ s.sensors, w.customData = none
  ready : s.pc ≠ .boot → s.pc ≠ .halted → ∀ w ∈ s.sensors, w.Ready
  halted : s.pc = .halted → ∀ w ∈ s.sensors, w.disconnected = false → w.held = []

theorem Inv.congr {s s' : State} (h : Inv s) (hs : s'.sensors = s.sensors) (hm : s'.mem = s.mem)
    (hb : s'.pc = .boot ↔ s.pc = .boot) (hh : s'.pc = .halted ↔ s.pc = .halted) : Inv s' where
  mem := hs ▸ hm ▸ h.mem
  boot hp := hs ▸ h.boot (hb.mp hp)
  ready hb' hh' := hs ▸ h.ready (mt hb.mpr hb') (mt hh.mpr hh')
  halted hp := hs ▸ h.halted (hh.mp hp)

theorem boot_inv (c : SensorsConfig) : Inv (State.boot c) where
  mem := by
    have : (c.wrappers.map SensorWrap.initial).flatMap SensorWrap.held = [] :=
      List.flatMap_eq_nil_iff.mpr fun _ hw => by
        obtain ⟨_, _, rfl⟩ := List.mem_map.mp hw
        rfl
    simpa [State.boot, this] using MemOk.empty
  boot _ _ hw := by
    obtain ⟨_, _, rfl⟩ := List.mem_map.mp hw
    rfl
  ready hb := absurd rfl hb
  halted := nofun

theorem core0Step_inv (printFloat : Float → List UInt8) (a : Nat → InitAnswer)
    (rd : Nat → Reading) {s : State} (h : Inv s) : Inv (core0Step printFloat a rd s) := by
  unfold core0Step
  split
  next hpc =>
    obtain ⟨hmem, hready⟩ := initSensors_memOk a (h.boot hpc) h.mem
    exact ⟨hmem, nofun, fun _ _ => hready, nofun⟩
  next hpc =>
    have hready := h.ready (by simp [hpc]) (by simp [hpc])
    exact ⟨by simpa [prepareSensors_fst] using prepareSensors_memOk hready h.mem, nofun,
      fun _ _ => by simpa [prepareSensors_fst] using hready, nofun⟩
  next hpc =>
    obtain ⟨hmem, hready⟩ :=
      collectDataSensors_memOk printFloat rd (h.ready (by simp [hpc]) (by simp [hpc])) h.mem
    exact ⟨hmem, nofun, fun _ _ => hready, nofun⟩
  next i hpc =>
    dsimp only
    split_ifs <;> exact h.congr rfl rfl (by simp [hpc]) (by simp [hpc])
  next hpc =>
    split_ifs
    · obtain ⟨hmem, hheld⟩ := deinitCleanSensors_memOk h.mem
      exact ⟨hmem, nofun, fun _ hh => absurd rfl hh, fun _ => hheld⟩
    · exact h.congr rfl rfl (by simp [hpc]) (by simp [hpc])
  next => exact h

theorem step_inv (printFloat : Float → List UInt8) {s : State} (h : Inv s) (e : Event) :
    Inv (step printFloat s e) := by
  cases e with
  | core0 a rd => exact core0Step_inv printFloat a rd h
  | read => exact h.congr rfl rfl Iff.rfl Iff.rfl
  | reset => exact h.congr rfl rfl Iff.rfl Iff.rfl

theorem run_inv (printFloat : Float → List UInt8) :
    ∀ (es : List Event) {s : State}, Inv s → Inv (run printFloat s es)
  | [], _, h => h
  | e :: es, _, h => run_inv printFloat es (step_inv printFloat h e)

/-- Core 0 is memory safe: whatever the allocator, the PIO and 1-Wire hardware and the sensors
answer, and however core 1's reads of the queue and its restart request interleave with it,
core 0 never passes `NULL` to a driver, never uses a driver's object or `OW` instance after
freeing it, never frees one twice, and frees only blocks `malloc` returned. -/
theorem run_memorySafe (printFloat : Float → List UInt8) (c : SensorsConfig) (es : List Event) :
    MemorySafe (run printFloat (State.boot c) es).mem.log :=
  (run_inv printFloat es (boot_inv c)).mem.safe

/-! ## The queue and `current_sensor_data` -/

theorem step_sensors_length (printFloat : Float → List UInt8) (s : State) (e : Event) :
    (step printFloat s e).sensors.length = s.sensors.length := by
  cases e with
  | core0 a rd =>
      change (core0Step printFloat a rd s).sensors.length = _
      unfold core0Step
      split <;> (try dsimp only) <;> (try split_ifs) <;> first | rfl | exact forEachSensor_length ..
  | read => rfl
  | reset => rfl

theorem core0Step_queue_cases (printFloat : Float → List UInt8) (a : Nat → InitAnswer)
    (rd : Nat → Reading) (s : State) :
    (core0Step printFloat a rd s).queue = s.queue ∨
      ∃ (i : Nat) (h : i < s.sensors.length), s.pc = .transfer i ∧
        s.sensors[i].disconnected = false ∧ (core0Step printFloat a rd s).queue =
          (queueAddBlocking (passSensorDataToQueue s.sensors[i].topicData
            ⟨i, Nat.lt_of_lt_of_le h s.length_le⟩) s.queue).2 := by
  unfold core0Step
  split <;> (try dsimp only) <;> (try split_ifs) <;> first
    | exact .inl rfl
    | exact .inr ⟨_, ‹_›, ‹_›, Bool.eq_false_iff.mpr ‹_›, rfl⟩

theorem step_queue_cases (printFloat : Float → List UInt8) (s : State) (e : Event) :
    (step printFloat s e).queue = s.queue ∨
      (∃ (i : Nat) (h : i < s.sensors.length), s.pc = .transfer i ∧
        s.sensors[i].disconnected = false ∧ (step printFloat s e).queue =
          (queueAddBlocking (passSensorDataToQueue s.sensors[i].topicData
            ⟨i, Nat.lt_of_lt_of_le h s.length_le⟩) s.queue).2) ∨
      (step printFloat s e).queue = (tryReadDataFromQueue s.queue).2 := by
  cases e with
  | core0 a rd => exact (core0Step_queue_cases printFloat a rd s).imp_right .inl
  | read => exact .inr (.inr rfl)
  | reset => exact .inl rfl

theorem mem_queueAddBlocking {e e' : QueueEntry} {q : QueueState}
    (h : e' ∈ (queueAddBlocking e q).2.queue) : e' ∈ q.queue ∨ e' = e := by
  unfold queueAddBlocking at h
  split_ifs at h
  · simpa using h
  · exact .inl h

@[simp] theorem queueAddBlocking_currentSensorData (e : QueueEntry) (q : QueueState) :
    (queueAddBlocking e q).2.currentSensorData = q.currentSensorData := by
  unfold queueAddBlocking
  split_ifs <;> rfl

theorem tryReadDataFromQueue_spec (q : QueueState) :
    (∀ e ∈ (tryReadDataFromQueue q).2.queue, e ∈ q.queue) ∧
      ∀ t, (tryReadDataFromQueue q).2.currentSensorData t = q.currentSensorData t ∨
        ((tryReadDataFromQueue q).2.currentSensorData t ∈ q.queue ∧
          ((tryReadDataFromQueue q).2.currentSensorData t).topicIndex = t) := by
  unfold tryReadDataFromQueue
  split
  · exact ⟨fun _ h => h, fun _ => .inl rfl⟩
  · rename_i e rest hq
    refine ⟨fun e' h => hq ▸ List.mem_cons_of_mem e h, fun t => ?_⟩
    by_cases ht : t = e.topicIndex
    · subst ht
      exact .inr ⟨by simp [hq], by simp⟩
    · exact .inl (Function.update_noteq ht _ _)

structure SlotsInv (s : State) : Prop where
  queue : ∀ e ∈ s.queue.queue, e.topicIndex.val < s.sensors.length
  past : ∀ t : Fin numberOfSensorTopics, s.sensors.length ≤ t.val →
    s.queue.currentSensorData t = zeroEntry

theorem step_slotsInv (printFloat : Float → List UInt8) {s : State} (h : SlotsInv s) (e : Event) :
    SlotsInv (step printFloat s e) := by
  have hlen := step_sensors_length printFloat s e
  rcases step_queue_cases printFloat s e with hq | ⟨i, hi, -, -, hq⟩ | hq
  · refine ⟨fun e' he' => ?_, fun t ht => ?_⟩
    · exact hlen ▸ h.queue e' (hq ▸ he')
    · exact hq ▸ h.past t (hlen ▸ ht)
  · refine ⟨fun e' he' => ?_, fun t ht => ?_⟩
    · rcases mem_queueAddBlocking (hq ▸ he') with he' | rfl
      · exact hlen ▸ h.queue e' he'
      · rw [hlen]
        exact hi
    · rw [hq, queueAddBlocking_currentSensorData]
      exact h.past t (hlen ▸ ht)
  · obtain ⟨hmem, hslot⟩ := tryReadDataFromQueue_spec s.queue
    refine ⟨fun e' he' => hlen ▸ h.queue e' (hmem e' (hq ▸ he')), fun t ht => ?_⟩
    rw [hq]
    rcases hslot t with hslot | ⟨hin, hidx⟩
    · exact hslot.trans (h.past t (hlen ▸ ht))
    · exact absurd (hidx ▸ h.queue _ hin) (Nat.not_lt.mpr (hlen ▸ ht))

theorem run_slotsInv (printFloat : Float → List UInt8) :
    ∀ (es : List Event) {s : State}, SlotsInv s → SlotsInv (run printFloat s es)
  | [], _, h => h
  | e :: es, _, h => run_slotsInv printFloat es (step_slotsInv printFloat h e)

theorem run_sensors_length (printFloat : Float → List UInt8) :
    ∀ (es : List Event) (s : State), (run printFloat s es).sensors.length = s.sensors.length
  | [], _ => rfl
  | e :: es, s => (run_sensors_length printFloat es _).trans (step_sensors_length printFloat s e)

/-- `transfer_data_sensors` passes a sensor's index in `sensors_arr` as the topic number, and
core 1 copies each reading into the entry of `current_sensor_data` with that number: in every
interleaving of the two cores, the entries past the end of the table are never written. With
the table as built, which holds the DHT11 only, `r_temp`, `w_temp` and `moist` keep their zero
contents, and the DHT11's humidity and temperature both go to `r_hum`. -/
theorem run_slots_past_table (printFloat : Float → List UInt8) (c : SensorsConfig)
    (es : List Event) (t : Fin numberOfSensorTopics) (ht : c.wrappers.length ≤ t.val) :
    (run printFloat (State.boot c) es).queue.currentSensorData t = zeroEntry :=
  (run_slotsInv printFloat es (s := State.boot c) ⟨nofun, fun _ _ => rfl⟩).past t
    (by rw [run_sensors_length]; simpa [State.boot] using ht)

/-- `r_temp`, the second sensor topic, after a pass of core 0's loop and a read by core 1. -/
theorem run_slots_past_table_r_temp :
    let es : List Event := List.replicate 4 (.core0 (fun _ => ⟨true, true, true, true, 1⟩)
      fun _ => ⟨none, zeroDs.data⟩) ++ [.read]
    sensorsArr.wrappers.length ≤ 1 ∧
      (run (fun _ => []) (State.boot sensorsArr) es).queue.currentSensorData ⟨1, by decide⟩ =
        zeroEntry := by
  intro es
  have ht : sensorsArr.wrappers.length ≤ 1 := by decide
  exact ⟨ht, run_slots_past_table _ sensorsArr es ⟨1, by decide⟩ ht⟩

/-! ## C strings in the queue -/

def Terminated (l : List UInt8) : Prop := l.length = 128 ∧ (0 : UInt8) ∈ l

theorem snprintf_terminated {str : List UInt8} (h : Terminated str) (text : List UInt8) :
    Terminated (snprintf str topicDataSize text) := by
  have ht : (text.take (topicDataSize - 1)).length ≤ 127 := List.length_take_le _ _
  refine ⟨?_, by simp [snprintf]⟩
  simp only [snprintf, List.length_append, List.length_cons, List.length_drop, h.1]
  omega

theorem strncpy128_terminated {str : List UInt8} (h : Terminated str) :
    Terminated (SensorQueue.strncpy128 str) := by
  have hlt : (str.takeWhile (· ≠ 0)).length < 128 :=
    SettingsLifecycle.length_takeWhile_lt (by rw [List.take_of_length_le h.1.le]; exact h.2)
  have hs : ((str.takeWhile (· ≠ 0)).take 128).length < 128 :=
    lt_of_le_of_lt (List.length_take_le' _ _) hlt
  refine ⟨by simp only [SensorQueue.strncpy128, List.length_append, List.length_replicate]; omega, ?_⟩
  simp only [SensorQueue.strncpy128, List.mem_append, List.mem_replicate]
  exact .inr ⟨by omega, by simp⟩

theorem forEachSensor_forall {body : Nat → SensorWrap → Mem → SensorWrap × Mem}
    {P : SensorWrap → Prop} (hbody : ∀ i w m, P w → P (body i w m).1) :
    ∀ (i : Nat) (ws : List SensorWrap) (m : Mem), (∀ w ∈ ws, P w) →
      ∀ w ∈ (forEachSensor body i ws m).1, P w
  | _, [], _, _ => by simp [forEachSensor]
  | i, w :: ws, m, h => by
      simp only [forEachSensor, List.mem_cons, forall_eq_or_imp]
      exact ⟨hbody i w m (h w (List.mem_cons_self _ _)),
        forEachSensor_forall hbody (i + 1) ws _ fun v hv => h v (List.mem_cons_of_mem _ hv)⟩

theorem core0Step_terminated (printFloat : Float → List UInt8) (a : Nat → InitAnswer)
    (rd : Nat → Reading) {s : State} (h : ∀ w ∈ s.sensors, Terminated w.topicData) :
    ∀ w ∈ (core0Step printFloat a rd s).sensors, Terminated w.topicData := by
  unfold core0Step
  split
  · refine forEachSensor_forall (fun i w m hw => ?_) 0 _ _ h
    obtain ⟨d, c, wr, dis, ow, ds⟩ := w
    cases wr <;> cases ha : (a i).mallocOk <;>
      simpa [initSensorsBody, SensorWrap.initFn, initFnDht, initFnDs18b20, ha] using hw
  · simpa [prepareSensors_fst] using h
  · refine forEachSensor_forall (fun i w m hw => ?_) 0 _ _ h
    unfold collectDataSensorsBody
    split_ifs
    · cases hwr : w.wrappers <;>
        simpa [SensorWrap.collectFn, collectFnDht, collectFnDs18b20, hwr] using
          snprintf_terminated hw _
    · exact hw
  · dsimp only
    split_ifs <;> exact h
  · split_ifs
    · refine forEachSensor_forall (fun _ w m hw => ?_) 0 _ _ h
      unfold deinitCleanSensorsBody
      split_ifs
      · cases hwr : w.wrappers <;> cases hc : w.customData <;>
          simpa [SensorWrap.cleanFn, cleanFnDht, cleanFnDs18b20, hwr, hc] using hw
      · exact hw
    · exact h
  · exact h

structure NulInv (s : State) : Prop where
  sensors : ∀ w ∈ s.sensors, Terminated w.topicData
  queue : ∀ e ∈ s.queue.queue, Terminated e.data
  slots : ∀ t, Terminated (s.queue.currentSensorData t).data

theorem step_nulInv (printFloat : Float → List UInt8) {s : State} (h : NulInv s) (e : Event) :
    NulInv (step printFloat s e) := by
  have hsens : ∀ w ∈ (step printFloat s e).sensors, Terminated w.topicData := by
    cases e with
    | core0 a rd => exact core0Step_terminated printFloat a rd h.sensors
    | read => exact h.sensors
    | reset => exact h.sensors
  rcases step_queue_cases printFloat s e with hq | ⟨i, hi, -, -, hq⟩ | hq
  · exact ⟨hsens, fun e' he' => h.queue e' (hq ▸ he'), fun t => hq ▸ h.slots t⟩
  · refine ⟨hsens, fun e' he' => ?_, fun t => ?_⟩
    · rcases mem_queueAddBlocking (hq ▸ he') with he' | rfl
      · exact h.queue e' he'
      · exact strncpy128_terminated (h.sensors _ (List.getElem_mem hi))
    · rw [hq, queueAddBlocking_currentSensorData]
      exact h.slots t
  · obtain ⟨hmem, hslot⟩ := tryReadDataFromQueue_spec s.queue
    refine ⟨hsens, fun e' he' => h.queue e' (hmem e' (hq ▸ he')), fun t => ?_⟩
    rw [hq]
    rcases hslot t with hslot | ⟨hin, _⟩
    · exact hslot ▸ h.slots t
    · exact h.queue _ hin

theorem run_nulInv (printFloat : Float → List UInt8) :
    ∀ (es : List Event) {s : State}, NulInv s → NulInv (run printFloat s es)
  | [], _, h => h
  | e :: es, _, h => run_nulInv printFloat es (step_nulInv printFloat h e)

theorem boot_nulInv (c : SensorsConfig) : NulInv (State.boot c) where
  sensors _ hw := by
    obtain ⟨_, _, rfl⟩ := List.mem_map.mp hw
    exact ⟨rfl, List.mem_replicate.mpr ⟨by decide, rfl⟩⟩
  queue := nofun
  slots _ := ⟨rfl, List.mem_replicate.mpr ⟨by decide, rfl⟩⟩

/-- In every interleaving of the two cores, each entry of `current_sensor_data` holds a NUL within
the 128 bytes of its `data`: `collect_fn` prints with `snprintf` into the 128 bytes of
`topic_data`, and `pass_sensor_data_to_queue` copies them with `strncpy` into 128 bytes. So the
`%s` of `sensor_ssi_handler`, like `publish_topic_data`'s `strlen`, stops inside the entry, and
the handler reports fewer than 128 characters. -/
theorem run_slots_terminated (printFloat : Float → List UInt8) (c : SensorsConfig)
    (es : List Event) (t : Fin numberOfSensorTopics) :
    Terminated ((run printFloat (State.boot c) es).queue.currentSensorData t).data ∧
      ∀ iIndex insertLen,
        (sensorSsiHandler (run printFloat (State.boot c) es).queue.currentSensorData iIndex
          insertLen).2 < 128 := by
  have h := run_nulInv printFloat es (boot_nulInv c)
  refine ⟨h.slots t, fun iIndex insertLen => ?_⟩
  unfold sensorSsiHandler
  split_ifs
  · have hs := h.slots ⟨iIndex.toNat, by omega⟩
    have hlt := SettingsLifecycle.length_takeWhile_lt
      (by rw [List.take_of_length_le hs.1.le]; exact hs.2)
    dsimp only
    omega
  · decide

/-! ## After a restart request -/

theorem step_halted (printFloat : Float → List UInt8) {s : State} (h : s.pc = .halted)
    (e : Event) : (step printFloat s e).pc = .halted ∧ (step printFloat s e).sensors = s.sensors ∧
      (step printFloat s e).mem = s.mem := by
  cases e <;> simp [step, core0Step, h]

theorem run_halted (printFloat : Float → List UInt8) :
    ∀ (es : List Event) {s : State}, s.pc = .halted → (run printFloat s es).pc = .halted ∧
      (run printFloat s es).sensors = s.sensors ∧ (run printFloat s es).mem = s.mem
  | [], _, h => ⟨h, rfl, rfl⟩
  | e :: es, s, h => by
      obtain ⟨h1, h2, h3⟩ := step_halted printFloat h e
      obtain ⟨h4, h5, h6⟩ := run_halted printFloat es h1
      exact ⟨h4, h5.trans h2, h6.trans h3⟩

/-- Once core 0 has taken a restart request it has freed every block a connected sensor held,
so the blocks still allocated are exactly those of the sensors `init_sensors` left
disconnected; and from then on, whatever core 1 does, core 0 touches the heap no more. -/
theorem run_halted_released (printFloat : Float → List UInt8) (c : SensorsConfig)
    (es : List Event) (h : (run printFloat (State.boot c) es).pc = .halted) :
    (∀ p, (run printFloat (State.boot c) es).mem.Owns p ↔
      ∃ w ∈ (run printFloat (State.boot c) es).sensors, w.disconnected = true ∧ p ∈ w.held) ∧
    ∀ es', (run printFloat (run printFloat (State.boot c) es) es').mem =
      (run printFloat (State.boot c) es).mem := by
  have hinv := run_inv printFloat es (boot_inv c)
  refine ⟨fun p => ⟨fun hp => ?_, fun ⟨w, hw, _, hp⟩ =>
    hinv.mem.owns p (List.mem_flatMap.mpr ⟨w, hw, hp⟩)⟩, fun es' => (run_halted printFloat es' h).2.2⟩
  obtain ⟨w, hw, hpw⟩ := List.mem_flatMap.mp (hinv.mem.exact p hp)
  refine ⟨w, hw, ?_, hpw⟩
  cases hd : w.disconnected
  · simp [hinv.halted h w hw hd] at hpw
  · rfl

/-- With the table as built, core 0 reaches the restart: boot, one pass of the loop with
core 1's request set before the check. -/
theorem run_halted_released_sensorsArr :
    let es : List Event := [.core0 (fun _ => ⟨true, true, true, true, 1⟩) fun _ => ⟨none, zeroDs.data⟩,
      .reset] ++ List.replicate 5 (.core0 (fun _ => ⟨true, true, true, true, 1⟩)
        fun _ => ⟨none, zeroDs.data⟩)
    (run (fun _ => []) (State.boot sensorsArr) es).pc = .halted ∧
      (∀ p, (run (fun _ => []) (State.boot sensorsArr) es).mem.Owns p ↔
        ∃ w ∈ (run (fun _ => []) (State.boot sensorsArr) es).sensors, w.disconnected = true ∧
          p ∈ w.held) ∧
      ∀ es', (run (fun _ => []) (run (fun _ => []) (State.boot sensorsArr) es) es').mem =
        (run (fun _ => []) (State.boot sensorsArr) es).mem := by
  intro es
  have h : (run (fun _ => []) (State.boot sensorsArr) es).pc = .halted := rfl
  exact ⟨h, run_halted_released _ _ _ h⟩

/-! ## Disconnected sensors -/

theorem step_pc_ne_boot (printFloat : Float → List UInt8) {s : State} (hb : s.pc ≠ .boot)
    (e : Event) : (step printFloat s e).pc ≠ .boot := by
  cases e with
  | core0 a rd =>
      change (core0Step printFloat a rd s).pc ≠ .boot
      unfold core0Step
      split <;> (try dsimp only) <;> (try split_ifs) <;> simp_all
  | read => exact hb
  | reset => exact hb

/-- After `init_sensors`, a step of core 0 runs the loop of `prepare_sensors`,
`collect_data_sensors` or `deinit_clean_sensors` over the table, or leaves the table and the
memory as they are. -/
theorem core0Step_loops (printFloat : Float → List UInt8) (a : Nat → InitAnswer)
    (rd : Nat → Reading) {s : State} (hb : s.pc ≠ .boot) {Q : List SensorWrap × Mem → Prop}
    (hsame : Q (s.sensors, s.mem))
    (hprep : s.pc = .prepare → Q (forEachSensor prepareSensorsBody 0 s.sensors s.mem))
    (hcoll : s.pc = .collect →
      Q (forEachSensor (collectDataSensorsBody printFloat rd) 0 s.sensors s.mem))
    (hdeinit : Q (forEachSensor deinitCleanSensorsBody 0 s.sensors s.mem)) :
    Q ((core0Step printFloat a rd s).sensors, (core0Step printFloat a rd s).mem) := by
  unfold core0Step
  split
  next hpc => exact absurd hpc hb
  next hpc => exact hprep hpc
  next hpc => exact hcoll hpc
  next => dsimp only; split_ifs <;> exact hsame
  next => split_ifs; exacts [hdeinit, hsame]
  next => exact hsame

theorem step_getElem?_of_disconnected (printFloat : Float → List UInt8) {s : State}
    (hb : s.pc ≠ .boot) {i : Nat} {w : SensorWrap} (hw : s.sensors[i]? = some w)
    (hd : w.disconnected = true) (e : Event) : (step printFloat s e).sensors[i]? = some w := by
  cases e with
  | core0 a rd =>
      exact core0Step_loops printFloat a rd hb (Q := fun r => r.1[i]? = some w) hw
        (fun _ => forEachSensor_getElem?_of_disconnected (fun _ _ _ _ => rfl) hd 0 i _ _ hw)
        (fun _ => forEachSensor_getElem?_of_disconnected
          (fun _ v _ hv => by simp [collectDataSensorsBody, hv]) hd 0 i _ _ hw)
        (forEachSensor_getElem?_of_disconnected
          (fun _ v _ hv => by simp [deinitCleanSensorsBody, hv]) hd 0 i _ _ hw)
  | read => exact hw
  | reset => exact hw

theorem run_getElem?_of_disconnected (printFloat : Float → List UInt8) {i : Nat} {w : SensorWrap}
    (hd : w.disconnected = true) :
    ∀ (es : List Event) {s : State}, s.pc ≠ .boot → s.sensors[i]? = some w →
      (run printFloat s es).sensors[i]? = some w
  | [], _, _, hw => hw
  | e :: es, _, hb, hw => run_getElem?_of_disconnected printFloat hd es
      (step_pc_ne_boot printFloat hb e) (step_getElem?_of_disconnected printFloat hb hw hd e)

theorem SensorWrap.collectFn_disconnected (printFloat : Float → List UInt8) (r : Reading)
    (w : SensorWrap) (m : Mem) : (w.collectFn printFloat r m).1.disconnected = w.disconnected := by
  obtain ⟨d, c, wr, dis, ow, ds⟩ := w
  cases wr <;> rfl

theorem SensorWrap.cleanFn_disconnected (w : SensorWrap) (m : Mem) :
    (w.cleanFn m).1.disconnected = w.disconnected := by
  obtain ⟨d, c, wr, dis, ow, ds⟩ := w
  cases c <;> cases wr <;> rfl

theorem forEachSensor_map_disconnected {body : Nat → SensorWrap → Mem → SensorWrap × Mem}
    (hbody : ∀ i w m, (body i w m).1.disconnected = w.disconnected) :
    ∀ (i : Nat) (ws : List SensorWrap) (m : Mem),
      (forEachSensor body i ws m).1.map SensorWrap.disconnected = ws.map SensorWrap.disconnected
  | _, [], _ => rfl
  | i, w :: ws, m => by
      simp only [forEachSensor, List.map_cons, hbody, forEachSensor_map_disconnected hbody (i + 1)]

theorem step_map_disconnected (printFloat : Float → List UInt8) {s : State} (hb : s.pc ≠ .boot)
    (e : Event) :
    (step printFloat s e).sensors.map SensorWrap.disconnected =
      s.sensors.map SensorWrap.disconnected := by
  cases e with
  | core0 a rd =>
      refine core0Step_loops printFloat a rd hb
        (Q := fun r => r.1.map SensorWrap.disconnected = s.sensors.map SensorWrap.disconnected) rfl
        (fun _ => forEachSensor_map_disconnected (fun _ _ _ => rfl) ..)
        (fun _ => forEachSensor_map_disconnected (fun _ w _ => ?_) ..)
        (forEachSensor_map_disconnected (fun _ w _ => ?_) ..)
      · cases hc : w.disconnected <;>
          simp [collectDataSensorsBody, hc, SensorWrap.collectFn_disconnected]
      · cases hc : w.disconnected <;>
          simp [deinitCleanSensorsBody, hc, SensorWrap.cleanFn_disconnected]
  | read => rfl
  | reset => rfl

theorem step_disconnected_before (printFloat : Float → List UInt8) {s : State} (hb : s.pc ≠ .boot)
    (e : Event) {i : Nat} {w : SensorWrap} (hw : (step printFloat s e).sensors[i]? = some w)
    (hd : w.disconnected = true) : ∃ v, s.sensors[i]? = some v ∧ v.disconnected = true := by
  have h := congrArg (·[i]?) (step_map_disconnected printFloat hb e)
  simp only [List.getElem?_map, hw, Option.map_some', hd] at h
  exact Option.map_eq_some'.mp h.symm

/-! ### What core 0 touches -/

def Mem.Extends (m : Mem) (P : Access → Prop) (m' : Mem) : Prop :=
  ∃ acc, m'.log = m.log ++ acc ∧ ∀ a ∈ acc, P a

theorem Mem.Extends.refl (m : Mem) (P : Access → Prop) : m.Extends P m :=
  ⟨[], (List.append_nil _).symm, nofun⟩

theorem Mem.Extends.trans {P : Access → Prop} {m₁ m₂ m₃ : Mem} (h₁ : m₁.Extends P m₂)
    (h₂ : m₂.Extends P m₃) : m₁.Extends P m₃ := by
  obtain ⟨a₁, e₁, p₁⟩ := h₁
  obtain ⟨a₂, e₂, p₂⟩ := h₂
  exact ⟨a₁ ++ a₂, by rw [e₂, e₁, List.append_assoc],
    fun a ha => (List.mem_append.mp ha).elim (p₁ a) (p₂ a)⟩

theorem Mem.Extends.mono {P Q : Access → Prop} {m m' : Mem} (h : m.Extends P m')
    (hPQ : ∀ a, P a → Q a) : m.Extends Q m' :=
  let ⟨acc, e, p⟩ := h
  ⟨acc, e, fun a ha => hPQ a (p a ha)⟩

theorem Mem.extends_use {P : Access → Prop} (m : Mem) {p : Option Nat} (h : P (.use p)) :
    m.Extends P (m.use p) :=
  ⟨[.use p], rfl, by simpa using h⟩

theorem Mem.extends_free {P : Access → Prop} (m : Mem) {p : Nat} (h : P (.free p)) :
    m.Extends P (m.free p) :=
  ⟨[.free p], rfl, by simpa using h⟩

def SensorWrap.Touches (w : SensorWrap) (a : Access) : Prop :=
  w.disconnected = false ∧ ∃ p, a.ptr = some p ∧ p ∈ w.held

theorem SensorWrap.collectFn_snd (printFloat : Float → List UInt8) (r : Reading) (w : SensorWrap)
    (m : Mem) : (w.collectFn printFloat r m).2 = w.auxiliaryFn m := by
  obtain ⟨d, c, wr, dis, ow, ds⟩ := w
  cases wr <;> rfl

theorem SensorWrap.auxiliaryFn_extends {w : SensorWrap} (hw : w.Ready)
    (hc : w.disconnected = false) (m : Mem) : m.Extends w.Touches (w.auxiliaryFn m) := by
  obtain ⟨p, hp, hds⟩ := hw hc
  obtain ⟨d, c, wr, dis, ow, ds⟩ := w
  subst hp
  cases wr with
  | dht => exact m.extends_use ⟨hc, p, rfl, by simp [SensorWrap.held]⟩
  | ds18b20 =>
      obtain ⟨o, rfl⟩ := hds rfl
      exact (m.extends_use ⟨hc, p, rfl, by simp [SensorWrap.held]⟩).trans
        (Mem.extends_use _ ⟨hc, o, rfl, by simp [SensorWrap.held]⟩)

theorem SensorWrap.cleanFn_extends {w : SensorWrap} (hc : w.disconnected = false) (m : Mem) :
    m.Extends w.Touches (w.cleanFn m).2 := by
  obtain ⟨d, c, wr, dis, ow, ds⟩ := w
  cases c with
  | none => cases wr <;> exact .refl _ _
  | some p =>
      have hp : ∀ a, a.ptr = some p → SensorWrap.Touches ⟨d, some p, wr, dis, ow, ds⟩ a :=
        fun a ha => ⟨hc, p, ha, by cases wr <;> simp [SensorWrap.held]⟩
      cases wr with
      | dht => exact (m.extends_use (hp _ rfl)).trans (Mem.extends_free _ (hp _ rfl))
      | ds18b20 =>
          cases ow with
          | none => exact (m.extends_use (hp _ rfl)).trans (Mem.extends_free _ (hp _ rfl))
          | some o =>
              have ho : ∀ a, a.ptr = some o → SensorWrap.Touches ⟨d, some p, .ds18b20, dis, some o, ds⟩ a :=
                fun a ha => ⟨hc, o, ha, by simp [SensorWrap.held]⟩
              exact (((m.extends_use (hp _ rfl)).trans (Mem.extends_use _ (ho _ rfl))).trans
                (Mem.extends_free _ (ho _ rfl))).trans (Mem.extends_free _ (hp _ rfl))

theorem prepareSensorsBody_extends (i : Nat) (w : SensorWrap) (m : Mem) (hw : w.Ready) :
    m.Extends w.Touches (prepareSensorsBody i w m).2 := by
  cases hc : w.disconnected
  · simpa [prepareSensorsBody, hc] using w.auxiliaryFn_extends hw hc m
  · simpa [prepareSensorsBody, hc] using Mem.Extends.refl m w.Touches

theorem collectDataSensorsBody_extends (printFloat : Float → List UInt8) (rd : Nat → Reading)
    (i : Nat) (w : SensorWrap) (m : Mem) (hw : w.Ready) :
    m.Extends w.Touches (collectDataSensorsBody printFloat rd i w m).2 := by
  cases hc : w.disconnected
  · simpa [collectDataSensorsBody, hc, SensorWrap.collectFn_snd] using w.auxiliaryFn_extends hw hc m
  · simpa [collectDataSensorsBody, hc] using Mem.Extends.refl m w.Touches

theorem deinitCleanSensorsBody_extends (i : Nat) (w : SensorWrap) (m : Mem) (_ : True) :
    m.Extends w.Touches (deinitCleanSensorsBody i w m).2 := by
  cases hc : w.disconnected
  · simpa [deinitCleanSensorsBody, hc] using w.cleanFn_extends hc m
  · simpa [deinitCleanSensorsBody, hc] using Mem.Extends.refl m w.Touches

theorem forEachSensor_extends {body : Nat → SensorWrap → Mem → SensorWrap × Mem}
    {P : SensorWrap → Prop}
    (hbody : ∀ (i : Nat) (w : SensorWrap) (m : Mem), P w → m.Extends w.Touches (body i w m).2) :
    ∀ (i : Nat) (ws : List SensorWrap) (m : Mem), (∀ w ∈ ws, P w) →
      m.Extends (fun a => ∃ v ∈ ws, v.Touches a) (forEachSensor body i ws m).2
  | _, [], _, _ => .refl _ _
  | i, w :: ws, m, hP =>
      ((hbody i w m (hP w (List.mem_cons_self _ _))).mono
          fun _ ha => ⟨w, List.mem_cons_self _ _, ha⟩).trans
        ((forEachSensor_extends hbody (i + 1) ws _ fun v hv => hP v (List.mem_cons_of_mem _ hv)).mono
          fun _ ⟨v, hv, ha⟩ => ⟨v, List.mem_cons_of_mem _ hv, ha⟩)

theorem step_extends (printFloat : Float → List UInt8) {s : State} (h : Inv s)
    (hb : s.pc ≠ .boot) (e : Event) :
    s.mem.Extends (fun a => ∃ v ∈ s.sensors, v.Touches a) (step printFloat s e).mem := by
  cases e with
  | core0 a rd =>
      exact core0Step_loops printFloat a rd hb (Q := fun r => s.mem.Extends _ r.2) (.refl _ _)
        (fun hpc => forEachSensor_extends prepareSensorsBody_extends 0 _ _
          (h.ready hb (by simp [hpc])))
        (fun hpc => forEachSensor_extends (collectDataSensorsBody_extends printFloat rd) 0 _ _
          (h.ready hb (by simp [hpc])))
        (forEachSensor_extends deinitCleanSensorsBody_extends 0 _ _ fun _ _ => trivial)
  | read => exact .refl _ _
  | reset => exact .refl _ _

theorem touches_not_held {ws : List SensorWrap} (hnd : (ws.flatMap SensorWrap.held).Nodup)
    {w : SensorWrap} (hw : w ∈ ws) (hd : w.disconnected = true) {a : Access}
    (ha : ∃ v ∈ ws, v.Touches a) : ∃ p, a.ptr = some p ∧ p ∉ w.held := by
  obtain ⟨v, hv, hc, p, hp, hpv⟩ := ha
  have hne : v ≠ w := by
    rintro rfl
    simp [hd] at hc
  exact ⟨p, hp, (List.nodup_flatMap.mp hnd).2.forall (fun _ _ h => List.Disjoint.symm h)
    hv hw hne hpv⟩

theorem run_extends_not_held (printFloat : Float → List UInt8) {i : Nat} {w : SensorWrap}
    (hd : w.disconnected = true) :
    ∀ (es : List Event) {s : State}, Inv s → s.pc ≠ .boot → s.sensors[i]? = some w →
      s.mem.Extends (fun a => ∃ p, a.ptr = some p ∧ p ∉ w.held) (run printFloat s es).mem
  | [], _, _, _, _ => .refl _ _
  | e :: es, _, h, hb, hw =>
      ((step_extends printFloat h hb e).mono
          fun _ => touches_not_held h.mem.nodup (List.getElem?_mem hw) hd).trans
        (run_extends_not_held printFloat hd es (step_inv printFloat h e)
          (step_pc_ne_boot printFloat hb e) (step_getElem?_of_disconnected printFloat hb hw hd e))

/-! ### What core 1 sees of them -/

def Quiet (s : State) (t : Fin numberOfSensorTopics) : Prop :=
  (∀ e ∈ s.queue.queue, e.topicIndex ≠ t) ∧ s.queue.currentSensorData t = zeroEntry

/-- Before `init_sensors` nothing has been queued or read, and after it nothing is for the index
of a disconnected sensor. -/
def QuietInv (s : State) : Prop :=
  ∀ t : Fin numberOfSensorTopics,
    (s.pc = .boot ∨ ∃ w, s.sensors[t.val]? = some w ∧ w.disconnected = true) → Quiet s t

theorem boot_quietInv (c : SensorsConfig) : QuietInv (State.boot c) :=
  fun _ _ => ⟨nofun, rfl⟩

theorem step_quietInv (printFloat : Float → List UInt8) {s : State} (h : QuietInv s) (e : Event) :
    QuietInv (step printFloat s e) := by
  intro t ht
  have hs : s.pc = .boot ∨ ∃ w, s.sensors[t.val]? = some w ∧ w.disconnected = true := by
    by_cases hb : s.pc = .boot
    · exact .inl hb
    · obtain ⟨w, hw, hd⟩ := ht.resolve_left (step_pc_ne_boot printFloat hb e)
      exact .inr (step_disconnected_before printFloat hb e hw hd)
  obtain ⟨hq, hslot⟩ := h t hs
  rcases step_queue_cases printFloat s e with hq' | ⟨j, hj, hpc, hc, hq'⟩ | hq'
  · unfold Quiet
    rw [hq']
    exact ⟨hq, hslot⟩
  · refine ⟨fun e' he' => ?_, by rw [hq', queueAddBlocking_currentSensorData]; exact hslot⟩
    rcases mem_queueAddBlocking (hq' ▸ he') with he' | rfl
    · exact hq e' he'
    · intro hidx
      obtain hb | ⟨w, hw, hd⟩ := hs
      · simp [hpc] at hb
      · have hj' : s.sensors[t.val]? = some s.sensors[j] := by
          rw [← hidx]
          exact List.getElem?_eq_getElem hj
        obtain rfl := Option.some.inj (hw.symm.trans hj')
        simp [hc] at hd
  · obtain ⟨hmem, hslots⟩ := tryReadDataFromQueue_spec s.queue
    refine ⟨fun e' he' => hq e' (hmem e' (hq' ▸ he')), ?_⟩
    rw [hq']
    rcases hslots t with hsame | ⟨hin, hidx⟩
    · exact hsame.trans hslot
    · exact absurd hidx (hq _ hin)

theorem run_quietInv (printFloat : Float → List UInt8) :
    ∀ (es : List Event) {s : State}, QuietInv s → QuietInv (run printFloat s es)
  | [], _, h => h
  | e :: es, _, h => run_quietInv printFloat es (step_quietInv printFloat h e)

/-- A sensor that `init_sensors` left disconnected is never initialised again, prepared, read,
transferred or cleaned. It keeps its state for the rest of the run, and every block it holds
stays allocated; every access core 0 makes from then on names a block, and not one of the
sensor's; no entry under its index is ever queued, and its entry of `current_sensor_data`
keeps its zero contents. A DS18B20 whose `ds18b20_init` failed after the `malloc`s keeps its
`ds18b20_t`, and its `OW` instance when no device answered the ROM search, until the watchdog
restarts the chip. -/
theorem run_disconnected_kept (printFloat : Float → List UInt8) (c : SensorsConfig)
    (es es' : List Event) (i : Nat) (w : SensorWrap)
    (hb : (run printFloat (State.boot c) es).pc ≠ .boot)
    (hw : (run printFloat (State.boot c) es).sensors[i]? = some w) (hd : w.disconnected = true) :
    let s := run printFloat (State.boot c) es
    let s' := run printFloat s es'
    s'.sensors[i]? = some w ∧ (∀ p ∈ w.held, s'.mem.Owns p) ∧
      (∃ acc, s'.mem.log = s.mem.log ++ acc ∧ ∀ a ∈ acc, ∃ p, a.ptr = some p ∧ p ∉ w.held) ∧
      ∀ t : Fin numberOfSensorTopics, t.val = i →
        (∀ e ∈ s'.queue.queue, e.topicIndex ≠ t) ∧ s'.queue.currentSensorData t = zeroEntry := by
  intro s s'
  have hinv := run_inv printFloat es (boot_inv c)
  have hw' := run_getElem?_of_disconnected printFloat hd es' hb hw
  refine ⟨hw', fun p hp => (run_inv printFloat es' hinv).mem.owns p
      (List.mem_flatMap.mpr ⟨w, List.getElem?_mem hw', hp⟩),
    run_extends_not_held printFloat hd es' hinv hb hw, fun t ht => ?_⟩
  subst ht
  exact run_quietInv printFloat es' (run_quietInv printFloat es (boot_quietInv c)) t
    (.inr ⟨w, hw', hd⟩)

/-- The table with the DS18B20 entry that `#if 0` leaves out, whose `ds18b20_init` finds no
device: the sensor stays disconnected and keeps its `ds18b20_t` and `OW` instance. -/
theorem run_disconnected_kept_ds18b20 :
    let c : SensorsConfig := ⟨[.dht, .ds18b20], by decide⟩
    let es : List Event := [.core0 (fun _ => ⟨true, true, true, true, 0⟩) fun _ => ⟨none, zeroDs.data⟩]
    let w : SensorWrap := ⟨List.replicate 128 0, some 1, .ds18b20, true, some 2, zeroDs⟩
    let s := run (fun _ => []) (State.boot c) es
    s.pc ≠ .boot ∧ s.sensors[1]? = some w ∧ w.disconnected = true ∧ w.held = [1, 2] ∧
      ∀ es', let s' := run (fun _ => []) s es'
        s'.sensors[1]? = some w ∧ (∀ p ∈ w.held, s'.mem.Owns p) ∧
          (∃ acc, s'.mem.log = s.mem.log ++ acc ∧ ∀ a ∈ acc, ∃ p, a.ptr = some p ∧ p ∉ w.held) ∧
          ∀ t : Fin numberOfSensorTopics, t.val = 1 →
            (∀ e ∈ s'.queue.queue, e.topicIndex ≠ t) ∧ s'.queue.currentSensorData t = zeroEntry := by
  intro c es w s
  have hb : s.pc ≠ .boot := nofun
  have hw : s.sensors[1]? = some w := rfl
  exact ⟨hb, hw, rfl, rfl, fun es' => run_disconnected_kept _ c es es' 1 w hb hw rfl⟩

end PicoSensorAggregator.Sensors
