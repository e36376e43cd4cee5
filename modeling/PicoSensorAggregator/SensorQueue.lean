import PicoSensorAggregator.RuntimeSettings

/-!
The hand-off of sensor readings from the sensor unit to the network unit through
`sensor_data_queue`, a `queue_t` of ten `queue_entry_t`. The sensor unit's
`pass_sensor_data_to_queue` adds an entry with `queue_add_blocking`, which keeps trying while the
queue is full; the network unit's `try_read_data_from_queue` removes the oldest entry, if there is
one, and copies it over `current_sensor_data[topic_index]`. The SDK makes each queue operation
atomic under a spin lock, so any interleaving of the two units is a sequence of these steps.
-/

namespace PicoSensorAggregator.SensorQueue

open RuntimeSettings

/-- `NUMBER_OF_SENSOR_TOPICS`. -/
def numberOfSensorTopics : Nat := sensorTopics.length

def queueCapacity : Nat := 10

/-- `queue_entry_t`: `topic_index` and the 128 bytes of `data`. `transfer_data_sensors` passes
the index of a sensor of `sensors_arr`, which has fewer entries than `current_sensor_data`. -/
structure QueueEntry where
  topicIndex : Fin numberOfSensorTopics
  data : List UInt8
deriving DecidableEq, Repr

/-- `strncpy(dst, str, 128)`: the bytes of `str` before its NUL, at most 128 of them, then zeros
up to 128. -/
def strncpy128 (str : List UInt8) : List UInt8 :=
  let s := (str.takeWhile (· ≠ 0)).take 128
  s ++ List.replicate (128 - s.length) 0

/-- The entry `pass_sensor_data_to_queue(str, size, topic_number)` builds. -/
def passSensorDataToQueue (str : List UInt8) (topicNumber : Fin numberOfSensorTopics) : QueueEntry :=
  ⟨topicNumber, strncpy128 str⟩

/-- The queue's entries, oldest first, and `current_sensor_data`. -/
structure QueueState where
  queue : List QueueEntry
  currentSensorData : Fin numberOfSensorTopics → QueueEntry

/-- One attempt of `queue_add_blocking`: it adds the entry when the queue has room, and otherwise
leaves the queue as it is and keeps waiting. -/
def queueAddBlocking (e : QueueEntry) (s : QueueState) : Bool × QueueState :=
  if s.queue.length < queueCapacity then (true, { s with queue := s.queue ++ [e] }) else (false, s)

/-- `try_read_data_from_queue()`: `queue_try_remove`, and the `memcpy` into the entry's slot. -/
def tryReadDataFromQueue (s : QueueState) : Bool × QueueState :=
  match s.queue with
  | [] => (false, s)
  | e :: rest => (true, ⟨rest, Function.update s.currentSensorData e.topicIndex e⟩)

/-- A step of either unit: an attempt of the sensor unit to add a reading, or one call of
`try_read_data_from_queue` by the network unit. -/
inductive Event
  | push (str : List UInt8) (topicNumber : Fin numberOfSensorTopics)
  | read

/-- The entries the adds completed, and the entries the reads copied into a slot, in order. -/
structure Trace where
  added : List QueueEntry
  copied : List QueueEntry

def Trace.append (t t' : Trace) : Trace := ⟨t.added ++ t'.added, t.copied ++ t'.copied⟩

def step (s : QueueState) : Event → QueueState × Trace
  | .push str topicNumber =>
      let e := passSensorDataToQueue str topicNumber
      let r := queueAddBlocking e s
      (r.2, ⟨if r.1 then [e] else [], []⟩)
  | .read =>
      let r := tryReadDataFromQueue s
      (r.2, ⟨[], if r.1 then s.queue.take 1 else []⟩)

def run : QueueState → List Event → QueueState × Trace
  | s, [] => (s, ⟨[], []⟩)
  | s, e :: es =>
      let r := step s e
      let rest := run r.1 es
      (rest.1, r.2.append rest.2)

theorem run_cons (s : QueueState) (e : Event) (es : List Event) :
    run s (e :: es) = ((run (step s e).1 es).1, (step s e).2.append (run (step s e).1 es).2) :=
  rfl

theorem run_append (s : QueueState) (es es' : List Event) :
    run s (es ++ es') = ((run (run s es).1 es').1, (run s es).2.append (run (run s es).1 es').2) := by
  induction es generalizing s with
  | nil => simp [run, Trace.append]
  | cons e es ih => simp [run_cons, ih, Trace.append]

/-! ## Latest values -/

def latest (t : Fin numberOfSensorTopics) (l : List QueueEntry) (d : QueueEntry) : QueueEntry :=
  l.foldl (fun acc e => if e.topicIndex = t then e else acc) d

theorem latest_append (t : Fin numberOfSensorTopics) (l l' : List QueueEntry) (d : QueueEntry) :
    latest t (l ++ l') d = latest t l' (latest t l d) :=
  List.foldl_append _ _ _ _

theorem step_handoff (s : QueueState) (e : Event) :
    (step s e).2.copied ++ (step s e).1.queue = s.queue ++ (step s e).2.added ∧
      ∀ t, (step s e).1.currentSensorData t =
        latest t (step s e).2.copied (s.currentSensorData t) := by
  cases e with
  | push str topicNumber =>
      by_cases hroom : s.queue.length < queueCapacity <;> simp [step, queueAddBlocking, hroom, latest]
  | read =>
      cases hq : s.queue with
      | nil => simp [step, tryReadDataFromQueue, hq, latest]
      | cons e rest =>
          simp only [step, tryReadDataFromQueue, hq, if_true, List.take_succ_cons, List.take_zero,
            List.singleton_append, List.append_nil, latest, List.foldl_cons, List.foldl_nil,
            Function.update_apply, true_and]
          intro t
          split_ifs <;> simp_all [eq_comm]

theorem run_handoff (es : List Event) :
    ∀ s : QueueState, (run s es).2.copied ++ (run s es).1.queue = s.queue ++ (run s es).2.added ∧
      ∀ t, (run s es).1.currentSensorData t = latest t (run s es).2.copied (s.currentSensorData t) := by
  induction es with
  | nil => simp [run, latest]
  | cons e es ih =>
      intro s
      obtain ⟨hq, hslot⟩ := step_handoff s e
      obtain ⟨hq', hslot'⟩ := ih (step s e).1
      rw [run_cons]
      refine ⟨?_, fun t => ?_⟩
      · dsimp only [Trace.append]
        rw [List.append_assoc, hq', ← List.append_assoc, hq, List.append_assoc]
      · simp only [Trace.append, latest_append, hslot', hslot]

theorem tryReadDataFromQueue_eq_false {s : QueueState} :
    (tryReadDataFromQueue s).1 = false ↔ s.queue = [] := by
  unfold tryReadDataFromQueue
  split <;> simp_all

/-- Latest-value hand-off over any interleaving of the two units, from any state: the entries
copied into the slots, then those still queued, are the starting queue followed by the
completed adds, so none is lost, repeated or reordered; a longer run only copies more; each slot
holds the last copied entry of its topic, or its starting contents; and when a drain ends, its
`try_read_data_from_queue` returning `false`, each slot holds the last entry of its topic ever
queued, or its starting contents. -/
theorem run_latest_value (s : QueueState) (es : List Event) :
    (run s es).2.copied ++ (run s es).1.queue = s.queue ++ (run s es).2.added ∧
      (∀ es', (run s es).2.copied <+: (run s (es ++ es')).2.copied) ∧
      (∀ t, (run s es).1.currentSensorData t =
        latest t (run s es).2.copied (s.currentSensorData t)) ∧
      ((tryReadDataFromQueue (run s es).1).1 = false → ∀ t, (run s es).1.currentSensorData t =
        latest t (s.queue ++ (run s es).2.added) (s.currentSensorData t)) := by
  obtain ⟨hq, hslot⟩ := run_handoff es s
  refine ⟨hq, fun es' => ?_, hslot, fun hread t => ?_⟩
  · rw [run_append]
    exact List.prefix_append _ _
  · rw [tryReadDataFromQueue_eq_false.mp hread, List.append_nil] at hq
    rw [hslot, hq]

end PicoSensorAggregator.SensorQueue
