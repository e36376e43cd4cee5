import Mathlib.Data.List.Basic

/-!
`non_volatile.c` over a model of the Pico W's flash: an image from flash offsets to bytes.
`flash_range_erase` erases 4096-byte sectors one after another and `flash_range_program`
programs 256-byte pages one after another, so a write is a list of atomic operations and a
power loss keeps a prefix of it. Programming can only clear bits (NOR flash), so a page
programmed over an erased one holds exactly the data.
-/

namespace PicoSensorAggregator.NonVolatile

/-- `NON_VOL_SEGMENT_SIZE`. -/
def nonVolSegmentSize : Nat := 4096

/-- `NON_VOL_PAGE_SIZE`. -/
def nonVolPageSize : Nat := 256

def picoFlashSizeBytes : Nat := 2 * 1024 * 1024

/-- `XIP_BASE`: flash offset `a` is read at address `XIP_BASE + a`. -/
def xipBase : Nat := 0x10000000

abbrev Flash := Nat → UInt8

/-- `number_of_segments`: the rounded-up quotient, truncated to the `uint8_t` it returns. -/
def numberOfSegments (length segment : Nat) : Nat := (length + segment - 1) / segment % 256

inductive FlashOp
  | eraseSector (offs : Nat)
  | programPage (offs : Nat) (data : Nat → UInt8)

def FlashOp.apply : FlashOp → Flash → Flash
  | .eraseSector offs, f => fun a =>
      if offs ≤ a ∧ a < offs + nonVolSegmentSize then 0xFF else f a
  | .programPage offs data, f => fun a =>
      if offs ≤ a ∧ a < offs + nonVolPageSize then f a &&& data (a - offs) else f a

def runOps (ops : List FlashOp) (f : Flash) : Flash := ops.foldl (fun g op => op.apply g) f

def eraseSectors (offs n : Nat) : List FlashOp :=
  (List.range n).map fun i => .eraseSector (offs + i * nonVolSegmentSize)

def programPages (offs : Nat) (data : Nat → UInt8) (n : Nat) : List FlashOp :=
  (List.range n).map fun i =>
    .programPage (offs + i * nonVolPageSize) fun j => data (i * nonVolPageSize + j)

/-- `flash_range_erase(offs, count)`. -/
def flashRangeErase (offs count : Nat) : List FlashOp := eraseSectors offs (count / nonVolSegmentSize)

/-- `flash_range_program(offs, data, count)`. -/
def flashRangeProgram (offs : Nat) (data : Nat → UInt8) (count : Nat) : List FlashOp :=
  programPages offs data (count / nonVolPageSize)

/-- The operations of `write_in_non_volatile(data, length)`, in the order the controller
performs them; `data` is the memory at the source pointer, read past `length` up to a whole
page. -/
def writeOps (data : Nat → UInt8) (length : Nat) : List FlashOp :=
  let numSegments := numberOfSegments length nonVolSegmentSize
  let writeStart := picoFlashSizeBytes - nonVolSegmentSize * numSegments
  let numberOfPages := numberOfSegments length nonVolPageSize
  flashRangeErase writeStart (nonVolSegmentSize * numSegments) ++
    flashRangeProgram writeStart data (numberOfPages * nonVolPageSize)

/-- `write_in_non_volatile(data, length)`. -/
def writeInNonVolatile (data : Nat → UInt8) (length : Nat) (f : Flash) : Flash :=
  runOps (writeOps data length) f

/-- `read_from_non_volatile(buffer, length)`: the bytes `memcpy` copies out of the XIP window. -/
def readFromNonVolatile (f : Flash) (length : Nat) : List UInt8 :=
  let numSegments := numberOfSegments length nonVolSegmentSize
  let readStart := picoFlashSizeBytes - nonVolSegmentSize * numSegments + xipBase
  (List.range length).map fun i => f (readStart + i - xipBase)

/-! ## Erase and program -/

theorem erased_and (b : UInt8) : (0xFF : UInt8) &&& b = b := by
  apply UInt8.toNat.inj
  rw [UInt8.and_toNat, Nat.and_comm, show (0xFF : UInt8).toNat = 2 ^ 8 - 1 from rfl,
    Nat.and_pow_two_sub_one_of_lt_two_pow b.toNat_lt_size]

theorem runOps_append (ops ops' : List FlashOp) (f : Flash) :
    runOps (ops ++ ops') f = runOps ops' (runOps ops f) :=
  List.foldl_append _ _ _ _

theorem runOps_singleton (op : FlashOp) (f : Flash) : runOps [op] f = op.apply f := rfl

theorem runOps_eraseSectors (offs n : Nat) (f : Flash) (a : Nat) :
    runOps (eraseSectors offs n) f a =
      if offs ≤ a ∧ a < offs + n * nonVolSegmentSize then 0xFF else f a := by
  induction n generalizing a with
  | zero => simp only [eraseSectors, List.range_zero, List.map_nil]; rw [if_neg (by omega)]; rfl
  | succ n ih =>
      rw [eraseSectors, List.range_succ, List.map_append, List.map_singleton, runOps_append,
        ← eraseSectors, runOps_singleton]
      simp only [FlashOp.apply, ih, nonVolSegmentSize]
      split_ifs <;> first | rfl | omega

theorem runOps_programPages (offs : Nat) (data : Nat → UInt8) (n : Nat) (f : Flash) (a : Nat) :
    runOps (programPages offs data n) f a =
      if offs ≤ a ∧ a < offs + n * nonVolPageSize then f a &&& data (a - offs) else f a := by
  induction n generalizing a with
  | zero => simp only [programPages, List.range_zero, List.map_nil]; rw [if_neg (by omega)]; rfl
  | succ n ih =>
      rw [programPages, List.range_succ, List.map_append, List.map_singleton, runOps_append,
        ← programPages, runOps_singleton]
      simp only [FlashOp.apply, ih, nonVolPageSize]
      split_ifs <;> first | rfl | omega | (congr 2; omega)

theorem eraseSectors_length (offs n : Nat) : (eraseSectors offs n).length = n := by
  simp [eraseSectors]

theorem eraseSectors_take (offs n k : Nat) : (eraseSectors offs n).take k = eraseSectors offs (min k n) := by
  simp [eraseSectors, ← List.map_take, List.take_range]

theorem programPages_take (offs : Nat) (data : Nat → UInt8) (n k : Nat) :
    (programPages offs data n).take k = programPages offs data (min k n) := by
  simp [programPages, ← List.map_take, List.take_range]

/-! ## What a write, or any prefix of it, leaves in flash -/

section Prefix

variable (data : Nat → UInt8) (length : Nat)

/-- The sector-aligned start of the reserved tail region for a record of `length` bytes. -/
def regionStart : Nat := picoFlashSizeBytes - nonVolSegmentSize * numberOfSegments length nonVolSegmentSize

def erasedSpan : Nat := nonVolSegmentSize * numberOfSegments length nonVolSegmentSize

def programmedSpan : Nat := numberOfSegments length nonVolPageSize * nonVolPageSize

theorem writeOps_eq :
    writeOps data length =
      eraseSectors (regionStart length) (numberOfSegments length nonVolSegmentSize) ++
        programPages (regionStart length) data (numberOfSegments length nonVolPageSize) := by
  simp only [writeOps, flashRangeErase, flashRangeProgram, regionStart, nonVolSegmentSize,
    nonVolPageSize]
  congr 2 <;> omega

theorem writeOps_length :
    (writeOps data length).length =
      numberOfSegments length nonVolSegmentSize + numberOfSegments length nonVolPageSize := by
  simp [writeOps_eq, eraseSectors_length, programPages]

theorem runOps_writeOps_take (k : Nat) (f : Flash) (a : Nat)
    (hspan : programmedSpan length ≤ erasedSpan length) :
    runOps ((writeOps data length).take k) f a =
      if regionStart length ≤ a ∧
          a < regionStart length + (k - numberOfSegments length nonVolSegmentSize) * nonVolPageSize ∧
          a < regionStart length + programmedSpan length then
        data (a - regionStart length)
      else if regionStart length ≤ a ∧
          a < regionStart length + min k (numberOfSegments length nonVolSegmentSize) * nonVolSegmentSize then
        0xFF
      else f a := by
  simp only [programmedSpan, erasedSpan] at hspan ⊢
  rw [writeOps_eq, List.take_append_eq_append_take, eraseSectors_length, eraseSectors_take,
    programPages_take, runOps_append, runOps_programPages, runOps_eraseSectors]
  simp only [nonVolSegmentSize, nonVolPageSize] at hspan ⊢
  split_ifs <;> first | rfl | omega | exact erased_and _

theorem readFromNonVolatile_eq (f : Flash) :
    readFromNonVolatile f length = (List.range length).map fun i => f (regionStart length + i) := by
  simp only [readFromNonVolatile]
  refine List.map_congr_left fun i _ => ?_
  rw [regionStart, Nat.add_right_comm _ xipBase i, Nat.add_sub_cancel]

end Prefix

/-! ## Whole writes of any `uint16_t` length -/

section Whole

variable {length : Nat}

theorem programmedSpan_le_erasedSpan (h : length ≤ 65535) :
    programmedSpan length ≤ erasedSpan length := by
  simp only [programmedSpan, erasedSpan, numberOfSegments, nonVolPageSize, nonVolSegmentSize]
  omega

theorem regionStart_add_erasedSpan (length : Nat) :
    regionStart length + erasedSpan length = picoFlashSizeBytes := by
  simp only [regionStart, erasedSpan, numberOfSegments, nonVolSegmentSize, picoFlashSizeBytes]
  omega

theorem writeInNonVolatile_apply (data : Nat → UInt8) (f : Flash) (a : Nat) (h : length ≤ 65535) :
    writeInNonVolatile data length f a =
      if regionStart length ≤ a ∧ a < regionStart length + programmedSpan length then
        data (a - regionStart length)
      else if regionStart length ≤ a ∧ a < picoFlashSizeBytes then 0xFF
      else f a := by
  have hk := writeOps_length data length
  rw [writeInNonVolatile, ← List.take_length (writeOps data length),
    runOps_writeOps_take _ _ _ _ _ (programmedSpan_le_erasedSpan h), hk,
    ← regionStart_add_erasedSpan length]
  simp only [programmedSpan, erasedSpan, Nat.add_sub_cancel_left,
    Nat.min_eq_right (Nat.le_add_right _ _), nonVolSegmentSize, nonVolPageSize]
  split_ifs <;> first | rfl | omega

theorem length_le_programmedSpan (h : length ≤ 65280) : length ≤ programmedSpan length := by
  simp only [programmedSpan, numberOfSegments, nonVolPageSize]
  omega

theorem programmedSpan_eq_zero (h1 : 65280 < length) (h2 : length ≤ 65535) :
    programmedSpan length = 0 := by
  simp only [programmedSpan, numberOfSegments, nonVolPageSize]
  omega

theorem length_le_erasedSpan (h : length ≤ 65535) : length ≤ erasedSpan length := by
  simp only [erasedSpan, numberOfSegments, nonVolSegmentSize]
  omega

/-- A write followed by a read of the same length gives the data back up to 65280 bytes. Past
that, the page count `number_of_segments` returns as a `uint8_t` wraps to zero: nothing is
programmed, and the read returns the erased bytes, whatever the data. -/
theorem readFromNonVolatile_writeInNonVolatile (data : Nat → UInt8) (f : Flash)
    (h : length ≤ 65535) :
    readFromNonVolatile (writeInNonVolatile data length f) length =
      if length ≤ 65280 then (List.range length).map data else List.replicate length 0xFF := by
  have hstart := regionStart_add_erasedSpan length
  have herase := length_le_erasedSpan h
  rw [readFromNonVolatile_eq]
  split_ifs with hL
  · have hprog := length_le_programmedSpan hL
    refine List.map_congr_left fun i hi => ?_
    have := List.mem_range.mp hi
    rw [writeInNonVolatile_apply _ _ _ h, if_pos ⟨by omega, by omega⟩, Nat.add_sub_cancel_left]
  · have hprog := programmedSpan_eq_zero (Nat.lt_of_not_le hL) h
    rw [List.eq_replicate_iff, List.length_map, List.length_range]
    refine ⟨rfl, fun b hb => ?_⟩
    obtain ⟨i, hi, rfl⟩ := List.mem_map.mp hb
    have := List.mem_range.mp hi
    rw [writeInNonVolatile_apply _ _ _ h, if_neg (by omega), if_pos ⟨by omega, by omega⟩]

/-- 65281 zero bytes, the shortest length whose page count wraps, read back as erased bytes. -/
theorem readFromNonVolatile_writeInNonVolatile_wrapped :
    65281 ≤ 65535 ∧ readFromNonVolatile (writeInNonVolatile (fun _ => 0) 65281 fun _ => 0) 65281 =
      List.replicate 65281 0xFF := by
  have h := readFromNonVolatile_writeInNonVolatile (fun _ => 0) (fun _ => 0) (by decide : 65281 ≤ 65535)
  rw [if_neg (by decide)] at h
  exact ⟨by decide, h⟩

/-- A write of any `uint16_t` length from 1 on stays in the reserved tail region: it erases the
whole sectors from its sector-aligned start to the end of flash, the read of that length reads
from the same start, the programmed span is whole pages from there and ends inside the erased
sectors, and no byte before the region changes. -/
theorem writeInNonVolatile_region (data : Nat → UInt8) (f : Flash) (h1 : 1 ≤ length)
    (h2 : length ≤ 65535) :
    regionStart length = picoFlashSizeBytes -
        nonVolSegmentSize * ((length + nonVolSegmentSize - 1) / nonVolSegmentSize) ∧
      regionStart length % nonVolSegmentSize = 0 ∧ regionStart length < picoFlashSizeBytes ∧
      writeOps data length =
        flashRangeErase (regionStart length) (picoFlashSizeBytes - regionStart length) ++
          flashRangeProgram (regionStart length) data (programmedSpan length) ∧
      (∀ g a, runOps (flashRangeErase (regionStart length) (picoFlashSizeBytes - regionStart length))
          g a = if regionStart length ≤ a ∧ a < picoFlashSizeBytes then 0xFF else g a) ∧
      (∀ g, readFromNonVolatile g length = (List.range length).map fun i => g (regionStart length + i)) ∧
      programmedSpan length % nonVolPageSize = 0 ∧
      regionStart length + programmedSpan length ≤ picoFlashSizeBytes ∧
      (∀ a, writeInNonVolatile data length f a =
        if regionStart length ≤ a ∧ a < regionStart length + programmedSpan length then
          data (a - regionStart length)
        else if regionStart length ≤ a ∧ a < picoFlashSizeBytes then 0xFF
        else f a) ∧
      ∀ a, ¬ (regionStart length ≤ a ∧ a < picoFlashSizeBytes) →
        writeInNonVolatile data length f a = f a := by
  have hstart := regionStart_add_erasedSpan length
  have hspan := programmedSpan_le_erasedSpan h2
  have hcount : picoFlashSizeBytes - regionStart length =
      nonVolSegmentSize * numberOfSegments length nonVolSegmentSize := by
    rw [← erasedSpan, ← hstart, Nat.add_sub_cancel_left]
  have harith : regionStart length = picoFlashSizeBytes -
        nonVolSegmentSize * ((length + nonVolSegmentSize - 1) / nonVolSegmentSize) ∧
      regionStart length % nonVolSegmentSize = 0 ∧ regionStart length < picoFlashSizeBytes := by
    simp only [regionStart, numberOfSegments, nonVolSegmentSize, picoFlashSizeBytes]
    omega
  refine ⟨harith.1, harith.2.1, harith.2.2, by rw [hcount]; rfl, fun g a => ?_,
    readFromNonVolatile_eq length, Nat.mul_mod_left _ _, by omega,
    fun a => writeInNonVolatile_apply data f a h2, fun a ha => ?_⟩
  · rw [flashRangeErase, runOps_eraseSectors, hcount,
      Nat.mul_div_cancel_left _ (by decide : 0 < nonVolSegmentSize), Nat.mul_comm, ← erasedSpan,
      hstart]
  · rw [writeInNonVolatile_apply _ _ _ h2, if_neg (by omega), if_neg ha]

theorem writeInNonVolatile_region_settings :
    1 ≤ 812 ∧ 812 ≤ 65535 ∧ regionStart 812 % nonVolSegmentSize = 0 :=
  ⟨by decide, by decide,
    (writeInNonVolatile_region (fun _ => 0) (fun _ => 0) (by decide : 1 ≤ 812) (by decide)).2.1⟩

end Whole

end PicoSensorAggregator.NonVolatile
