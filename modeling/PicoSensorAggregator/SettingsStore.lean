import PicoSensorAggregator.RuntimeSettings
import PicoSensorAggregator.NonVolatile

/-!
`read_settings_from_flash` and `write_settings_in_flash` over the flash model. A record is
accepted only when both bookends hold `SETTINGS_FLAG`; `flag` lies in the first programmed page
and `end_flag` in the last one, so a write cut by a power loss after any proper prefix of its
flash operations is rejected.
-/

namespace PicoSensorAggregator.SettingsStore

open RuntimeSettings NonVolatile

/-- The memory `write_settings_in_flash` hands to `write_in_non_volatile`: the record, then
whatever lies after it in RAM, which `flash_range_program` reads up to a whole page. -/
def recordMemory (s : TlsMqttSettings) (trailing : Nat → UInt8) : Nat → UInt8 :=
  fun i => if i < settingsSize then s.bytes.getD i 0 else trailing (i - settingsSize)

/-- The bookend checks of `read_settings_from_flash`, as the code it returns. -/
def checkFlags (settings : TlsMqttSettings) : Nat :=
  if settings.flag ≠ settingsFlag then 2
  else if settings.flag ≠ settings.endFlag then 3
  else 0

/-- `read_settings_from_flash(settings)`: the return code and the record it filled. -/
def readSettingsFromFlash (f : Flash) : Nat × TlsMqttSettings :=
  let settings : TlsMqttSettings :=
    ⟨readFromNonVolatile f settingsSize, by simp [readFromNonVolatile]⟩
  (checkFlags settings, settings)

/-- `write_settings_in_flash(settings)`: the stamped record left in RAM, and the flash. -/
def writeSettingsInFlash (s : TlsMqttSettings) (trailing : Nat → UInt8) (f : Flash) :
    TlsMqttSettings × Flash :=
  (s.stamp, writeInNonVolatile (recordMemory s.stamp trailing) settingsSize f)

/-- The flash a `write_settings_in_flash` of `s` leaves when power is lost after its first `k`
flash operations (after all of them when `k` reaches their number). -/
def tornWriteSettings (s : TlsMqttSettings) (trailing : Nat → UInt8) (k : Nat) (f : Flash) : Flash :=
  runOps ((writeOps (recordMemory s.stamp trailing) settingsSize).take k) f

/-! ## Layout of the record in the reserved region -/

theorem numberOfSegments_settings : numberOfSegments settingsSize nonVolSegmentSize = 1 := rfl

theorem numberOfPages_settings : numberOfSegments settingsSize nonVolPageSize = 4 := rfl

theorem writeOps_settings_length (data : Nat → UInt8) : (writeOps data settingsSize).length = 5 := by
  rw [writeOps_length]
  rfl

theorem programmedSpan_le_erasedSpan_settings : programmedSpan settingsSize ≤ erasedSpan settingsSize := by
  decide

theorem tornWriteSettings_apply (s : TlsMqttSettings) (trailing : Nat → UInt8) (k : Nat) (f : Flash)
    {i : Nat} (hi : i < settingsSize) :
    tornWriteSettings s trailing k f (regionStart settingsSize + i) =
      if 0 < k ∧ i < (k - 1) * nonVolPageSize then s.stamp.bytes.getD i 0
      else if 0 < k then 0xFF else f (regionStart settingsSize + i) := by
  rw [tornWriteSettings, runOps_writeOps_take _ _ _ _ _ programmedSpan_le_erasedSpan_settings,
    numberOfSegments_settings, programmedSpan, numberOfPages_settings]
  simp only [recordMemory, Nat.add_sub_cancel_left, nonVolPageSize, nonVolSegmentSize,
    settingsSize] at hi ⊢
  split_ifs <;> first | rfl | omega

theorem window_map_range (g : Nat → UInt8) {n a m : Nat} (h : a + m ≤ n) :
    window ((List.range n).map g) a m = (List.range m).map fun i => g (a + i) := by
  apply List.ext_getElem (by simp [window]; omega)
  intro i h1 h2
  simp only [window, List.getElem_take, List.getElem_drop, List.getElem_map, List.getElem_range]

/-! ## Validation -/

theorem readSettingsFromFlash_bytes (f : Flash) :
    (readSettingsFromFlash f).2.bytes = readFromNonVolatile f settingsSize := by
  simp only [readSettingsFromFlash]

theorem readSettingsFromFlash_code (f : Flash) :
    let r := readSettingsFromFlash f
    (r.1 = 0 ↔ r.2.flag = settingsFlag ∧ r.2.endFlag = settingsFlag) ∧
      (r.2.flag ≠ settingsFlag → r.1 = 2) ∧
      (r.2.flag = settingsFlag → r.2.endFlag ≠ settingsFlag → r.1 = 3) := by
  simp only [readSettingsFromFlash, checkFlags]
  split_ifs with h1 h2 <;> simp_all [eq_comm]

theorem readSettingsFromFlash_eq_of_bytes {f : Flash} {s : TlsMqttSettings}
    (h : readFromNonVolatile f settingsSize = s.bytes) (hflag : s.flag = settingsFlag)
    (hend : s.endFlag = settingsFlag) : readSettingsFromFlash f = (0, s) := by
  have hs : (readSettingsFromFlash f).2 = s :=
    TlsMqttSettings.ext ((readSettingsFromFlash_bytes f).trans h)
  have hcode := (readSettingsFromFlash_code f).1
  rw [hs] at hcode
  exact Prod.ext (hcode.mpr ⟨hflag, hend⟩) hs

/-! ## Round trip and torn writes -/

theorem window_tornWriteSettings_programmed (s : TlsMqttSettings) (trailing : Nat → UInt8)
    (f : Flash) {k a m : Nat} (hk : a + m ≤ (k - 1) * 256) (ha : a + m ≤ settingsSize) (hk0 : 0 < k) :
    window (readSettingsFromFlash (tornWriteSettings s trailing k f)).2.bytes a m =
      window s.stamp.bytes a m := by
  rw [readSettingsFromFlash_bytes, readFromNonVolatile_eq, window_map_range _ ha,
    ← map_range_getD s.stamp.length_eq, window_map_range _ ha]
  refine List.map_congr_left fun i hi => ?_
  have hi := List.mem_range.mp hi
  rw [tornWriteSettings_apply _ _ _ _ (by omega), if_pos]
  simp only [nonVolPageSize]
  omega

theorem window_tornWriteSettings_erased (s : TlsMqttSettings) (trailing : Nat → UInt8)
    (f : Flash) {k a m : Nat} (hk : (k - 1) * 256 ≤ a) (ha : a + m ≤ settingsSize) (hk0 : 0 < k) :
    window (readSettingsFromFlash (tornWriteSettings s trailing k f)).2.bytes a m =
      List.replicate m 0xFF := by
  rw [readSettingsFromFlash_bytes, readFromNonVolatile_eq, window_map_range _ ha,
    show List.replicate m (0xFF : UInt8) = (List.range m).map fun _ => 0xFF by simp]
  refine List.map_congr_left fun i hi => ?_
  have hi := List.mem_range.mp hi
  rw [tornWriteSettings_apply _ _ _ _ (by omega), if_neg (by
    simp only [nonVolPageSize]; omega), if_pos hk0]

theorem readSettingsFromFlash_tornWriteSettings_code (s : TlsMqttSettings) (trailing : Nat → UInt8)
    (f : Flash) {k : Nat} (hk0 : 0 < k) (hk5 : k < 5) :
    (readSettingsFromFlash (tornWriteSettings s trailing k f)).1 = if k = 1 then 2 else 3 := by
  split_ifs with hk1
  · apply (readSettingsFromFlash_code _).2.1
    rw [TlsMqttSettings.flag, window_tornWriteSettings_erased _ _ _ (by omega) (by decide) hk0]
    exact decodeWord_erased_ne
  · apply (readSettingsFromFlash_code _).2.2
    · rw [TlsMqttSettings.flag, window_tornWriteSettings_programmed _ _ _ (by omega) (by decide) hk0]
      exact s.stamp_flag
    · rw [TlsMqttSettings.endFlag, window_tornWriteSettings_erased _ _ _ (by simp only [endFlagOffset]; omega)
        (by decide) hk0]
      exact decodeWord_erased_ne

theorem readSettingsFromFlash_tornWriteSettings_full (s : TlsMqttSettings) (trailing : Nat → UInt8)
    (f : Flash) {k : Nat} (hk : 5 ≤ k) :
    readSettingsFromFlash (tornWriteSettings s trailing k f) = (0, s.stamp) := by
  apply readSettingsFromFlash_eq_of_bytes _ s.stamp_flag s.stamp_endFlag
  rw [readFromNonVolatile_eq]
  conv_rhs => rw [← map_range_getD s.stamp.length_eq]
  refine List.map_congr_left fun i hi => ?_
  have hi := List.mem_range.mp hi
  rw [tornWriteSettings_apply _ _ _ _ hi, if_pos]
  simp only [settingsSize, nonVolPageSize] at hi ⊢
  omega

theorem tornWriteSettings_zero (s : TlsMqttSettings) (trailing : Nat → UInt8) (f : Flash) :
    tornWriteSettings s trailing 0 f = f := rfl

theorem tornWriteSettings_five (s : TlsMqttSettings) (trailing : Nat → UInt8) (f : Flash) :
    tornWriteSettings s trailing 5 f = (writeSettingsInFlash s trailing f).2 := by
  simp only [tornWriteSettings, writeSettingsInFlash, writeInNonVolatile]
  rw [List.take_of_length_le (by rw [writeOps_settings_length])]

theorem readSettingsFromFlash_tornWriteSettings_accepted {s : TlsMqttSettings} {trailing : Nat → UInt8}
    {k : Nat} {f : Flash} {r : TlsMqttSettings}
    (h : readSettingsFromFlash (tornWriteSettings s trailing k f) = (0, r)) :
    (k = 0 ∧ readSettingsFromFlash f = (0, r)) ∨ r = s.stamp := by
  rcases Nat.eq_zero_or_pos k with rfl | hk0
  · exact .inl ⟨rfl, h⟩
  · right
    by_cases hk5 : k < 5
    · have hcode := readSettingsFromFlash_tornWriteSettings_code s trailing f hk0 hk5
      rw [h] at hcode
      split_ifs at hcode
    · rw [readSettingsFromFlash_tornWriteSettings_full s trailing f (by omega)] at h
      exact (Prod.mk.inj h).2.symm

theorem stamp_window_between (s : TlsMqttSettings) :
    window s.stamp.bytes 4 (endFlagOffset - 4) = window s.bytes 4 (endFlagOffset - 4) := by
  rw [TlsMqttSettings.stamp, TlsMqttSettings.window_write_of_disjoint _ _ (.inr (by decide)),
    TlsMqttSettings.window_write_of_disjoint _ _ (.inl (by decide))]

/-- A settings write followed by a read returns 0 and the record as the write left it: the
given one with both bookends `SETTINGS_FLAG` and every byte between them unchanged. Any read
returns 0 only on two matching bookends, 2 on a bad `flag` and 3 on a bad `end_flag` alone. -/
theorem readSettingsFromFlash_writeSettingsInFlash (s : TlsMqttSettings) (trailing : Nat → UInt8)
    (f : Flash) :
    let w := writeSettingsInFlash s trailing f
    let r := readSettingsFromFlash w.2
    (r.1 = 0 ∧ r.2 = w.1 ∧ r.2.flag = settingsFlag ∧ r.2.endFlag = settingsFlag ∧
        window r.2.bytes 4 (endFlagOffset - 4) = window s.bytes 4 (endFlagOffset - 4)) ∧
      ∀ f' : Flash,
        let r := readSettingsFromFlash f'
        (r.1 = 0 ↔ r.2.flag = settingsFlag ∧ r.2.endFlag = settingsFlag) ∧
          (r.2.flag ≠ settingsFlag → r.1 = 2) ∧
          (r.2.flag = settingsFlag → r.2.endFlag ≠ settingsFlag → r.1 = 3) := by
  refine ⟨?_, readSettingsFromFlash_code⟩
  rw [← tornWriteSettings_five, readSettingsFromFlash_tornWriteSettings_full s trailing f le_rfl]
  exact ⟨rfl, rfl, s.stamp_flag, s.stamp_endFlag, stamp_window_between s⟩

/-- Power lost after any proper prefix of the erase and program operations of a settings
write: the next read returns 2 or 3. It returns 0 only for the empty prefix, giving the record
stored before, or for the whole write, giving the new stamped record. -/
theorem readSettingsFromFlash_tornWriteSettings (sOld sNew : TlsMqttSettings)
    (tOld tNew : Nat → UInt8) (f : Flash) (k : Nat) :
    let stored := (writeSettingsInFlash sOld tOld f).2
    let steps := (writeOps (recordMemory sNew.stamp tNew) settingsSize).length
    let r := readSettingsFromFlash (tornWriteSettings sNew tNew k stored)
    (r.1 = 0 ↔ k = 0 ∨ steps ≤ k) ∧ (k = 0 → r = (0, sOld.stamp)) ∧
      (steps ≤ k → r = (0, sNew.stamp)) ∧ (0 < k → k < steps → r.1 = 2 ∨ r.1 = 3) := by
  simp only [writeOps_settings_length]
  have hold : readSettingsFromFlash (writeSettingsInFlash sOld tOld f).2 = (0, sOld.stamp) := by
    rw [← tornWriteSettings_five, readSettingsFromFlash_tornWriteSettings_full _ _ _ le_rfl]
  have hmid : 0 < k → k < 5 →
      (readSettingsFromFlash (tornWriteSettings sNew tNew k (writeSettingsInFlash sOld tOld f).2)).1 = 2 ∨
      (readSettingsFromFlash (tornWriteSettings sNew tNew k (writeSettingsInFlash sOld tOld f).2)).1 = 3 :=
    fun hk0 hk5 => by
      rw [readSettingsFromFlash_tornWriteSettings_code _ _ _ hk0 hk5]
      split_ifs <;> simp
  refine ⟨⟨fun h0 => ?_, ?_⟩, fun hk => by rw [hk, tornWriteSettings_zero, hold],
    fun hk => readSettingsFromFlash_tornWriteSettings_full _ _ _ hk, hmid⟩
  · by_contra hk
    rcases hmid (by omega) (by omega) with h | h <;> omega
  · rintro (rfl | hk)
    · rw [tornWriteSettings_zero, hold]
    · rw [readSettingsFromFlash_tornWriteSettings_full _ _ _ hk]

end PicoSensorAggregator.SettingsStore
