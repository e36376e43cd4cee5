import Mathlib.Algebra.Polynomial.Div
import Mathlib.Algebra.CharP.Two
import Mathlib.Data.Nat.Bitwise
import Mathlib.Data.ZMod.Basic
import Mathlib.Tactic.ComputeDegree
import Mathlib.Tactic.ReduceModChar

/-!
The temperature reading of `ds18b20.c`. `ds18b20_read_scratchpad` reads the nine scratchpad bytes
into `ds->data` and returns `CRC8_calculation` over all nine, and `ds18b20_read_temperature`
converts bytes 0 and 1 only when that CRC is 0.

The Dallas/Maxim CRC-8 is the remainder over GF(2) of the message times `x^8` by
`x^8 + x^5 + x^4 + 1`, each byte sent least significant bit first. The register of
`CRC8_calculation` holds that remainder with bit 0 as the coefficient of `x^7`
(`crc8Calculation_eq`). Since the generator is prime to `x`, the register runs to zero on a check
byte exactly when the check byte is the register (`crc8Bits_eq_zero_iff`).
-/

namespace PicoSensorAggregator.Ds18b20

open Polynomial

/-! ## The driver -/

/-- One pass of `CRC8_calculation`'s inner loop: shift the register right, and add `0x8C` when
the bit shifted out differs from the data bit. -/
def crc8Step (crc databyte : UInt8) : UInt8 :=
  let temp := (crc ^^^ databyte) &&& 0x01
  let crc := crc >>> 1
  if temp ≠ 0 then crc ^^^ 0x8C else crc

def crc8Bits : Nat → UInt8 → UInt8 → UInt8
  | 0, crc, _ => crc
  | j + 1, crc, databyte => crc8Bits j (crc8Step crc databyte) (databyte >>> 1)

/-- `CRC8_calculation(data, len)`: the register from 0 over the first `len` bytes, eight passes
a byte. -/
def crc8Calculation (data : List UInt8) (len : UInt8) : UInt8 :=
  (data.take len.toNat).foldl (fun crc databyte => crc8Bits 8 crc databyte) 0

/-- `DS18B20_DATA_LENGTH`. -/
def ds18b20DataLength : Nat := 9

structure Scratchpad where
  bytes : List UInt8
  length_eq : bytes.length = ds18b20DataLength

def Scratchpad.get (pad : Scratchpad) (i : Fin 9) : UInt8 :=
  pad.bytes.get ⟨i.val, by rw [pad.length_eq]; exact i.isLt⟩

/-- `ds18b20_t` without its 1-Wire instance `ow`, which the reading only passes on. -/
structure Ds18b20T where
  data : Scratchpad
  temperature : Float

def zeroDs : Ds18b20T := ⟨⟨List.replicate 9 0, rfl⟩, 0⟩

/-- `ds18b20_read_scratchpad(ds)`, the sensor answering `pad`: the bytes go to `ds->data`, and
the CRC over all of them is returned. -/
def ds18b20ReadScratchpad (pad : Scratchpad) (ds : Ds18b20T) : UInt8 × Ds18b20T :=
  let ds := { ds with data := pad }
  (crc8Calculation ds.data.bytes (UInt8.ofNat ds18b20DataLength), ds)

/-- `ds18b20_data_to_temperature(low_byte, high_byte)`: the two bytes as an `int16_t`, in
sixteenths of a degree. -/
def ds18b20DataToTemperature (lowByte highByte : UInt8) : Float :=
  let v := lowByte.toNat ||| highByte.toNat <<< 8
  let tempInt : Int := if v < 32768 then v else (v : Int) - 65536
  Float.ofInt tempInt / 16

/-- `ds18b20_read_temperature(ds)`, the sensor answering `pad`. -/
def ds18b20ReadTemperature (pad : Scratchpad) (ds : Ds18b20T) : UInt8 × Ds18b20T :=
  let r := ds18b20ReadScratchpad pad ds
  if r.1 ≠ 0 then (1, r.2)
  else (0, { r.2 with temperature := ds18b20DataToTemperature (r.2.data.get 0) (r.2.data.get 1) })

theorem toNat_xor (a b : UInt8) : (a ^^^ b).toNat = a.toNat ^^^ b.toNat :=
  BitVec.toNat_xor ..

theorem toNat_shiftRight_one (a : UInt8) : (a >>> 1).toNat = a.toNat / 2 := by
  show (a.toBitVec >>> 1).toNat = _
  rw [BitVec.toNat_ushiftRight, Nat.shiftRight_eq_div_pow]
  rfl

/-! ## The CRC as a remainder over GF(2) -/

/-- The Dallas/Maxim generator `x^8 + x^5 + x^4 + 1`. -/
noncomputable def dallasPoly : (ZMod 2)[X] := X ^ 8 + X ^ 5 + X ^ 4 + 1

/-- The low `k` bits of `n`, least significant first, as the coefficients of `X^(k-1)` down to
`X^0`: the order in which the loop shifts them out. -/
noncomputable def bitsPoly : Nat → Nat → (ZMod 2)[X]
  | 0, _ => 0
  | k + 1, n => C (n : ZMod 2) * X ^ k + bitsPoly k (n / 2)

/-- A message, each byte least significant bit first, as the polynomial whose leading
coefficient is its first bit. -/
noncomputable def messagePoly (data : List UInt8) : (ZMod 2)[X] :=
  data.foldl (fun p b => p * X ^ 8 + bitsPoly 8 b.toNat) 0

theorem bitsPoly_succ (k n : Nat) :
    bitsPoly (k + 1) n = C (n : ZMod 2) * X ^ k + bitsPoly k (n / 2) :=
  rfl

@[simp] theorem bitsPoly_zero (k : Nat) : bitsPoly k 0 = 0 := by
  induction k with
  | zero => rfl
  | succ k ih => simp [bitsPoly, ih]

theorem dallasPoly_monic : dallasPoly.Monic := by
  unfold dallasPoly
  monicity!

theorem dallasPoly_degree : dallasPoly.degree = 8 := by
  unfold dallasPoly
  compute_degree!

theorem dallasPoly_coprime : IsCoprime dallasPoly (X ^ 8) :=
  IsCoprime.pow_right ⟨1, -(X ^ 7 + X ^ 4 + X ^ 3), by unfold dallasPoly; ring⟩

theorem natCast_xor (a b : Nat) : ((a ^^^ b : Nat) : ZMod 2) = a + b := by
  rw [← ZMod.natCast_mod, Nat.xor_mod_two_eq, ZMod.natCast_mod, Nat.cast_add]

theorem bitsPoly_xor (k : Nat) : ∀ a b, bitsPoly k (a ^^^ b) = bitsPoly k a + bitsPoly k b := by
  induction k with
  | zero => intro a b; simp [bitsPoly]
  | succ k ih =>
      intro a b
      rw [bitsPoly, bitsPoly, bitsPoly, Nat.xor_div_two, ih, natCast_xor, C_add]
      ring

theorem bitsPoly_succ' (k : Nat) :
    ∀ n, bitsPoly (k + 1) n = bitsPoly k n * X + C ((n / 2 ^ k : ℕ) : ZMod 2) := by
  induction k with
  | zero => intro n; simp [bitsPoly]
  | succ k ih =>
      intro n
      rw [bitsPoly, ih, bitsPoly, Nat.div_div_eq_div_mul, ← Nat.pow_succ']
      ring

theorem bitsPoly_half {k n : Nat} (h : n < 2 ^ k) :
    bitsPoly k (n / 2) + C (n : ZMod 2) * X ^ k = bitsPoly k n * X := by
  cases k with
  | zero =>
      obtain rfl : n = 0 := by simpa using h
      simp [bitsPoly]
  | succ k =>
      rw [bitsPoly_succ', bitsPoly, Nat.div_div_eq_div_mul, ← Nat.pow_succ', Nat.div_eq_of_lt h]
      simp only [Nat.cast_zero, map_zero, add_zero]
      ring

theorem bitsPoly_140 : bitsPoly 8 140 = X ^ 5 + X ^ 4 + 1 := by
  simp [bitsPoly]
  reduce_mod_char
  simp only [map_zero, map_one, zero_mul, one_mul, zero_add]
  ring

theorem degree_bitsPoly_lt (k : Nat) : ∀ n, (bitsPoly k n).degree < k := by
  induction k with
  | zero => intro n; simp [bitsPoly]
  | succ k ih =>
      intro n
      have hk : (k : WithBot ℕ) < ↑(k + 1) := by exact_mod_cast Nat.lt_succ_self k
      exact lt_of_le_of_lt (degree_add_le _ _)
        (max_lt (lt_of_le_of_lt (degree_C_mul_X_pow_le _ _) hk) ((ih _).trans hk))

theorem bitsPoly_modByMonic (n : Nat) : bitsPoly 8 n %ₘ dallasPoly = bitsPoly 8 n :=
  (modByMonic_eq_self_iff dallasPoly_monic).mpr
    (by rw [dallasPoly_degree]; exact degree_bitsPoly_lt 8 n)

theorem dvd_of_bitsPoly_eq_zero (k : Nat) : ∀ n, bitsPoly k n = 0 → 2 ^ k ∣ n := by
  induction k with
  | zero => intro n _; exact Nat.one_dvd n
  | succ k ih =>
      intro n h
      have hcoeff := congrArg (coeff · k) h
      simp only [bitsPoly, coeff_add, coeff_C_mul_X_pow, if_true,
        coeff_eq_zero_of_degree_lt (degree_bitsPoly_lt k _), add_zero, coeff_zero] at hcoeff
      rw [bitsPoly, hcoeff, map_zero, zero_mul, zero_add] at h
      have h2 : 2 ∣ n := (ZMod.natCast_zmod_eq_zero_iff_dvd n 2).mp hcoeff
      rw [← Nat.mul_div_cancel' h2, Nat.pow_succ']
      exact Nat.mul_dvd_mul_left 2 (ih _ h)

theorem bitsPoly_inj {k a b : Nat} (ha : a < 2 ^ k) (hb : b < 2 ^ k) :
    bitsPoly k a = bitsPoly k b ↔ a = b := by
  refine ⟨fun h => ?_, congrArg _⟩
  have hx := bitsPoly_xor k a b
  rw [h, CharTwo.add_self_eq_zero] at hx
  exact Nat.xor_eq_zero.mp (Nat.eq_zero_of_dvd_of_lt (dvd_of_bitsPoly_eq_zero k _ hx)
    (Nat.xor_lt_two_pow ha hb))

theorem bitsPoly_toNat_inj {a b : UInt8} : bitsPoly 8 a.toNat = bitsPoly 8 b.toNat ↔ a = b :=
  (bitsPoly_inj a.toNat_lt_size b.toNat_lt_size).trans ⟨UInt8.toNat.inj, congrArg _⟩

/-! ## The loop computes the remainder -/

theorem bitsPoly_crc8Step (crc databyte : UInt8) :
    bitsPoly 8 (crc8Step crc databyte).toNat =
      bitsPoly 8 crc.toNat * X + C (databyte.toNat : ZMod 2) * X ^ 8 +
        C ((crc.toNat ^^^ databyte.toNat : ℕ) : ZMod 2) * dallasPoly := by
  have hhalf := bitsPoly_half (show crc.toNat < 2 ^ 8 from crc.toNat_lt_size)
  have htemp : ((crc ^^^ databyte) &&& 0x01).toNat = (crc.toNat ^^^ databyte.toNat) % 2 := by
    rw [UInt8.and_toNat, toNat_xor]
    exact Nat.and_one_is_mod _
  have h2 : (2 : (ZMod 2)[X]) = 0 := CharTwo.two_eq_zero
  have hsum := natCast_xor crc.toNat databyte.toNat
  rw [← ZMod.natCast_mod (crc.toNat ^^^ databyte.toNat)] at hsum ⊢
  unfold crc8Step
  rcases Nat.mod_two_eq_zero_or_one (crc.toNat ^^^ databyte.toNat) with h | h <;>
    rw [h] at hsum htemp ⊢
  · -- the bits agree: a plain shift
    have hC : C (crc.toNat : ZMod 2) + C (databyte.toNat : ZMod 2) = 0 := by
      rw [← C_add, ← hsum, Nat.cast_zero, map_zero]
    rw [if_neg (fun h => h (UInt8.toNat.inj htemp)), toNat_shiftRight_one, Nat.cast_zero, map_zero]
    linear_combination hhalf - X ^ 8 * hC
  · -- they differ: the shift, then the generator's low terms
    have hC : C (crc.toNat : ZMod 2) + C (databyte.toNat : ZMod 2) = 1 := by
      rw [← C_add, ← hsum, Nat.cast_one, map_one]
    rw [if_pos (fun h => by rw [h] at htemp; exact absurd htemp (by decide)), toNat_xor,
      toNat_shiftRight_one, bitsPoly_xor, show (0x8C : UInt8).toNat = 140 from rfl, bitsPoly_140,
      Nat.cast_one, map_one, dallasPoly]
    linear_combination hhalf - X ^ 8 * hC - X ^ 8 * h2

theorem crc8Bits_dvd (j : Nat) : ∀ crc databyte : UInt8,
    dallasPoly ∣ bitsPoly 8 (crc8Bits j crc databyte).toNat -
      (bitsPoly 8 crc.toNat * X ^ j + bitsPoly j databyte.toNat * X ^ 8) := by
  induction j with
  | zero =>
      intro crc databyte
      exact ⟨0, by simp [crc8Bits, show bitsPoly 0 databyte.toNat = 0 from rfl]⟩
  | succ j ih =>
      intro crc databyte
      obtain ⟨q, hq⟩ := ih (crc8Step crc databyte) (databyte >>> 1)
      rw [bitsPoly_crc8Step, toNat_shiftRight_one] at hq
      refine ⟨q + C ((crc.toNat ^^^ databyte.toNat : ℕ) : ZMod 2) * X ^ j, ?_⟩
      rw [crc8Bits, bitsPoly_succ j]
      linear_combination hq

theorem foldl_crc8Bits_dvd (data : List UInt8) : ∀ (crc : UInt8) (m : (ZMod 2)[X]),
    dallasPoly ∣ bitsPoly 8 crc.toNat - m * X ^ 8 →
      dallasPoly ∣ bitsPoly 8 (data.foldl (fun crc databyte => crc8Bits 8 crc databyte) crc).toNat -
        data.foldl (fun p b => p * X ^ 8 + bitsPoly 8 b.toNat) m * X ^ 8 := by
  induction data with
  | nil => exact fun _ _ h => h
  | cons b data ih =>
      rintro crc m ⟨q, hq⟩
      obtain ⟨q', hq'⟩ := crc8Bits_dvd 8 crc b
      exact ih _ _ ⟨q' + q * X ^ 8, by linear_combination hq' + X ^ 8 * hq⟩

theorem crc8Calculation_eq (data : List UInt8) (len : UInt8) :
    bitsPoly 8 (crc8Calculation data len).toNat =
      (messagePoly (data.take len.toNat) * X ^ 8) %ₘ dallasPoly := by
  have h := foldl_crc8Bits_dvd (data.take len.toNat) 0 0 (by simp)
  exact (bitsPoly_modByMonic _).symm.trans (modByMonic_eq_of_dvd_sub dallasPoly_monic h)

set_option maxRecDepth 4000 in
/-- The ROM code `02 1C B8 01 00 00 00` of Maxim's CRC application note, whose CRC is `A2`. -/
example : crc8Calculation [0x02, 0x1C, 0xB8, 0x01, 0x00, 0x00, 0x00] 7 = 0xA2 := by decide

theorem crc8Bits_eq_zero_iff (crc check : UInt8) : crc8Bits 8 crc check = 0 ↔ check = crc := by
  have hdeg : (bitsPoly 8 crc.toNat + bitsPoly 8 check.toNat).degree < dallasPoly.degree := by
    rw [dallasPoly_degree]
    exact lt_of_le_of_lt (degree_add_le _ _)
      (max_lt (degree_bitsPoly_lt 8 _) (degree_bitsPoly_lt 8 _))
  have hmod : bitsPoly 8 (crc8Bits 8 crc check).toNat =
      ((bitsPoly 8 crc.toNat + bitsPoly 8 check.toNat) * X ^ 8) %ₘ dallasPoly := by
    rw [← bitsPoly_modByMonic, modByMonic_eq_of_dvd_sub dallasPoly_monic (crc8Bits_dvd 8 crc check),
      add_mul]
  calc crc8Bits 8 crc check = 0
      ↔ bitsPoly 8 (crc8Bits 8 crc check).toNat = bitsPoly 8 (0 : UInt8).toNat :=
        bitsPoly_toNat_inj.symm
    _ ↔ dallasPoly ∣ (bitsPoly 8 crc.toNat + bitsPoly 8 check.toNat) * X ^ 8 := by
      rw [hmod, show (0 : UInt8).toNat = 0 from rfl, bitsPoly_zero,
        modByMonic_eq_zero_iff_dvd dallasPoly_monic]
    _ ↔ bitsPoly 8 crc.toNat + bitsPoly 8 check.toNat = 0 :=
      ⟨fun h => eq_zero_of_dvd_of_degree_lt (dallasPoly_coprime.dvd_of_dvd_mul_right h) hdeg,
        fun h => by rw [h, zero_mul]; exact dvd_zero _⟩
    _ ↔ check = crc := by
      rw [← CharTwo.sub_eq_add, sub_eq_zero, bitsPoly_toNat_inj, eq_comm]

/-! ## The integrity gate -/

theorem Scratchpad.bytes_eq (pad : Scratchpad) : pad.bytes = pad.bytes.take 8 ++ [pad.get 8] := by
  have h8 : 8 < pad.bytes.length := by rw [pad.length_eq]; decide
  conv_lhs => rw [← List.take_append_drop 8 pad.bytes, List.drop_eq_getElem_cons h8,
    List.drop_eq_nil_of_le (by rw [pad.length_eq]; decide)]
  rfl

theorem crc8Calculation_scratchpad (pad : Scratchpad) :
    crc8Calculation pad.bytes (UInt8.ofNat ds18b20DataLength) =
      crc8Bits 8 (crc8Calculation (pad.bytes.take 8) 8) (pad.get 8) := by
  rw [crc8Calculation, List.take_of_length_le (by rw [pad.length_eq]; rfl)]
  conv_lhs => rw [pad.bytes_eq, List.foldl_append]
  rw [crc8Calculation, List.take_take]
  rfl

/-- `ds18b20_read_temperature` returns 0, having converted bytes 0 and 1, exactly when byte 8 is
the Dallas/Maxim CRC-8 of bytes 0 to 7; otherwise it returns 1 and leaves the temperature. -/
theorem ds18b20ReadTemperature_crc_gate (pad : Scratchpad) (ds : Ds18b20T) :
    ((ds18b20ReadTemperature pad ds).1 = 0 ↔
        bitsPoly 8 (pad.get 8).toNat = (messagePoly (pad.bytes.take 8) * X ^ 8) %ₘ dallasPoly) ∧
      ((ds18b20ReadTemperature pad ds).1 = 0 →
        (ds18b20ReadTemperature pad ds).2.temperature =
          ds18b20DataToTemperature (pad.get 0) (pad.get 1)) ∧
      ((ds18b20ReadTemperature pad ds).1 ≠ 0 →
        (ds18b20ReadTemperature pad ds).1 = 1 ∧
          (ds18b20ReadTemperature pad ds).2.temperature = ds.temperature) := by
  have hcrc : (ds18b20ReadScratchpad pad ds).1 = 0 ↔
      bitsPoly 8 (pad.get 8).toNat = (messagePoly (pad.bytes.take 8) * X ^ 8) %ₘ dallasPoly := by
    rw [ds18b20ReadScratchpad, crc8Calculation_scratchpad, crc8Bits_eq_zero_iff,
      ← bitsPoly_toNat_inj, crc8Calculation_eq, List.take_take]
    rfl
  unfold ds18b20ReadTemperature
  by_cases h : (ds18b20ReadScratchpad pad ds).1 = 0
  · rw [if_neg (not_not.mpr h)]
    exact ⟨iff_of_true rfl (hcrc.mp h), fun _ => rfl, fun h1 => absurd rfl h1⟩
  · rw [if_pos h]
    have h1 : (1 : UInt8) ≠ 0 := by decide
    exact ⟨iff_of_false h1 (mt hcrc.mpr h), fun h0 => absurd h0 h1, fun _ => ⟨rfl, rfl⟩⟩

/-! ## The errors the check detects -/

def byteBits : Nat → Nat → List Bool
  | 0, _ => []
  | k + 1, n => decide (n % 2 = 1) :: byteBits k (n / 2)

/-- The bits of a message in the order they cross the 1-Wire bus, each byte least significant
bit first. -/
def wireBits (data : List UInt8) : List Bool := data.flatMap fun b => byteBits 8 b.toNat

/-- A list of bits as the polynomial whose leading coefficient is its first bit. -/
noncomputable def boolsPoly : List Bool → (ZMod 2)[X]
  | [] => 0
  | b :: bs => C (if b then 1 else 0) * X ^ bs.length + boolsPoly bs

/-- The scratchpad the bus delivers when the error pattern `err` flips bits of `pad`. -/
def Scratchpad.flip (pad : Scratchpad) (err : List UInt8) (h : err.length = 9) : Scratchpad :=
  ⟨List.zipWith (· ^^^ ·) pad.bytes err, by simp [pad.length_eq, h, ds18b20DataLength]⟩

theorem byteBits_length (k : Nat) : ∀ n, (byteBits k n).length = k := by
  induction k with
  | zero => intro n; rfl
  | succ k ih => intro n; simp [byteBits, ih]

theorem wireBits_cons (b : UInt8) (data : List UInt8) :
    wireBits (b :: data) = byteBits 8 b.toNat ++ wireBits data :=
  List.flatMap_cons ..

theorem wireBits_length (data : List UInt8) : (wireBits data).length = 8 * data.length := by
  induction data with
  | nil => rfl
  | cons b data ih =>
      rw [wireBits_cons, List.length_append, byteBits_length, ih, List.length_cons]
      ring

theorem natCast_zmod_two (n : Nat) : ((n : ZMod 2)) = if n % 2 = 1 then 1 else 0 := by
  rw [← ZMod.natCast_mod]
  rcases Nat.mod_two_eq_zero_or_one n with h | h <;> simp [h]

theorem bitsPoly_eq_boolsPoly (k : Nat) : ∀ n, bitsPoly k n = boolsPoly (byteBits k n) := by
  induction k with
  | zero => intro n; rfl
  | succ k ih =>
      intro n
      simp only [bitsPoly, byteBits, boolsPoly, byteBits_length, ih, natCast_zmod_two,
        decide_eq_true_eq]

theorem boolsPoly_append (a b : List Bool) :
    boolsPoly (a ++ b) = boolsPoly a * X ^ b.length + boolsPoly b := by
  induction a with
  | nil => simp [boolsPoly]
  | cons c a ih =>
      rw [List.cons_append, boolsPoly, boolsPoly, ih, List.length_append, pow_add]
      ring

theorem foldl_messagePoly (data : List UInt8) : ∀ m : (ZMod 2)[X],
    data.foldl (fun p b => p * X ^ 8 + bitsPoly 8 b.toNat) m =
      m * X ^ (8 * data.length) + messagePoly data := by
  unfold messagePoly
  induction data with
  | nil => intro m; simp
  | cons b data ih =>
      intro m
      simp only [List.foldl_cons]
      rw [ih, ih (0 * X ^ 8 + bitsPoly 8 b.toNat), List.length_cons]
      ring

theorem messagePoly_cons (b : UInt8) (data : List UInt8) :
    messagePoly (b :: data) = bitsPoly 8 b.toNat * X ^ (8 * data.length) + messagePoly data := by
  rw [messagePoly, List.foldl_cons, foldl_messagePoly]
  ring

theorem messagePoly_eq_boolsPoly (data : List UInt8) : messagePoly data = boolsPoly (wireBits data) := by
  induction data with
  | nil => rfl
  | cons b data ih =>
      rw [messagePoly_cons, ih, bitsPoly_eq_boolsPoly, wireBits_cons, boolsPoly_append,
        wireBits_length]

theorem messagePoly_zipWith_xor : ∀ (a b : List UInt8), a.length = b.length →
    messagePoly (List.zipWith (· ^^^ ·) a b) = messagePoly a + messagePoly b
  | [], [], _ => by simp [messagePoly]
  | x :: a, y :: b, h => by
      have hl : a.length = b.length := Nat.succ.inj h
      rw [List.zipWith_cons_cons, messagePoly_cons, messagePoly_cons, messagePoly_cons,
        messagePoly_zipWith_xor a b hl, toNat_xor, bitsPoly_xor, List.length_zipWith, hl,
        Nat.min_self]
      ring

theorem crc8Calculation_eq_zero_iff (data : List UInt8) (len : UInt8) :
    crc8Calculation data len = 0 ↔ dallasPoly ∣ messagePoly (data.take len.toNat) := by
  rw [← bitsPoly_toNat_inj, crc8Calculation_eq, show (0 : UInt8).toNat = 0 from rfl, bitsPoly_zero,
    modByMonic_eq_zero_iff_dvd dallasPoly_monic]
  exact ⟨dallasPoly_coprime.dvd_of_dvd_mul_right, fun h => dvd_mul_of_dvd_left h _⟩

theorem ds18b20ReadTemperature_eq_zero_iff (pad : Scratchpad) (ds : Ds18b20T) :
    (ds18b20ReadTemperature pad ds).1 = 0 ↔ dallasPoly ∣ messagePoly pad.bytes := by
  have hcrc : (ds18b20ReadScratchpad pad ds).1 = 0 ↔ dallasPoly ∣ messagePoly pad.bytes := by
    rw [ds18b20ReadScratchpad, crc8Calculation_eq_zero_iff,
      List.take_of_length_le (by rw [pad.length_eq]; rfl)]
  unfold ds18b20ReadTemperature
  by_cases h : (ds18b20ReadScratchpad pad ds).1 = 0
  · rw [if_neg (not_not.mpr h)]
    exact iff_of_true rfl (hcrc.mp h)
  · rw [if_pos h]
    have h1 : (1 : UInt8) ≠ 0 := by decide
    exact iff_of_false h1 (mt hcrc.mpr h)

theorem eval_one_boolsPoly (bs : List Bool) : (boolsPoly bs).eval 1 = (bs.count true : ZMod 2) := by
  induction bs with
  | nil => simp [boolsPoly]
  | cons b bs ih => cases b <;> simp [boolsPoly, ih, List.count_cons, add_comm]

theorem eval_one_dallasPoly : dallasPoly.eval 1 = 0 := by
  simp only [dallasPoly, eval_add, eval_pow, eval_X, eval_one, one_pow]
  decide

theorem degree_boolsPoly_lt (bs : List Bool) : (boolsPoly bs).degree < bs.length := by
  induction bs with
  | nil => simp [boolsPoly]
  | cons b bs ih =>
      have hk : (bs.length : WithBot ℕ) < ↑(bs.length + 1) := by exact_mod_cast Nat.lt_succ_self _
      exact lt_of_le_of_lt (degree_add_le _ _)
        (max_lt (lt_of_le_of_lt (degree_C_mul_X_pow_le _ _) hk) (ih.trans hk))

theorem boolsPoly_eq_zero_iff (bs : List Bool) : boolsPoly bs = 0 ↔ true ∉ bs := by
  induction bs with
  | nil => simp [boolsPoly]
  | cons b bs ih =>
      cases b
      · simpa [boolsPoly] using ih
      · simp only [List.mem_cons, true_or, not_true_eq_false, iff_false]
        intro h
        have hc := congrArg (coeff · bs.length) h
        simp [boolsPoly, coeff_eq_zero_of_degree_lt (degree_boolsPoly_lt bs)] at hc

theorem not_dvd_of_count_odd {bs : List Bool} (h : bs.count true % 2 = 1) :
    ¬dallasPoly ∣ boolsPoly bs := by
  rintro ⟨q, hq⟩
  have := congrArg (eval 1) hq
  rw [eval_one_boolsPoly, eval_mul, eval_one_dallasPoly, zero_mul, ← ZMod.natCast_mod, h] at this
  exact absurd this (by decide)

theorem not_dvd_of_burst {bs : List Bool} (hne : true ∈ bs) (i : Nat)
    (hburst : ∀ j (hj : j < bs.length), bs[j] = true → i ≤ j ∧ j < i + 8) :
    ¬dallasPoly ∣ boolsPoly bs := by
  set mid := (bs.drop i).take 8
  have hpre : true ∉ bs.take i := fun hm => by
    obtain ⟨j, hj, hjt⟩ := List.getElem_of_mem hm
    simp only [List.getElem_take] at hjt
    have := hburst j (by simp at hj; omega) hjt
    simp at hj
    omega
  have hpost : true ∉ (bs.drop i).drop 8 := fun hm => by
    obtain ⟨j, hj, hjt⟩ := List.getElem_of_mem hm
    simp only [List.getElem_drop, List.drop_drop] at hjt
    have := hburst (i + 8 + j) (by simp at hj; omega) hjt
    omega
  have hsplit : bs = bs.take i ++ (mid ++ (bs.drop i).drop 8) := by
    rw [List.take_append_drop, List.take_append_drop]
  have hpoly : boolsPoly bs = boolsPoly mid * X ^ ((bs.drop i).drop 8).length := by
    conv_lhs => rw [hsplit]
    rw [boolsPoly_append, boolsPoly_append, (boolsPoly_eq_zero_iff _).mpr hpre,
      (boolsPoly_eq_zero_iff _).mpr hpost]
    ring
  have hmid : true ∈ mid := by
    rw [hsplit, List.mem_append, List.mem_append] at hne
    exact (hne.resolve_left hpre).resolve_right hpost
  intro hdvd
  rw [hpoly] at hdvd
  have hcop : IsCoprime dallasPoly X :=
    ⟨1, -(X ^ 7 + X ^ 4 + X ^ 3), by unfold dallasPoly; ring⟩
  have hdeg : (boolsPoly mid).degree < dallasPoly.degree := by
    rw [dallasPoly_degree]
    exact lt_of_lt_of_le (degree_boolsPoly_lt mid) (by exact_mod_cast List.length_take_le _ _)
  exact (boolsPoly_eq_zero_iff mid).mp
    (eq_zero_of_dvd_of_degree_lt ((hcop.pow_right).dvd_of_dvd_mul_right hdvd) hdeg) hmid

/-- The CRC check of `ds18b20_read_temperature` catches every corruption of a scratchpad it
accepts that flips an odd number of bits, or that flips bits only within 8 consecutive positions
of the order in which they cross the bus: the corrupted scratchpad is rejected, whatever the
driver's state. -/
theorem ds18b20ReadTemperature_detects (pad : Scratchpad) (err : List UInt8) (hlen : err.length = 9)
    (ds ds' : Ds18b20T) (hok : (ds18b20ReadTemperature pad ds).1 = 0)
    (herr : (wireBits err).count true % 2 = 1 ∨ (true ∈ wireBits err ∧ ∃ i, ∀ j
      (hj : j < (wireBits err).length), (wireBits err)[j] = true → i ≤ j ∧ j < i + 8)) :
    (ds18b20ReadTemperature (pad.flip err hlen) ds').1 = 1 := by
  have hpad := (ds18b20ReadTemperature_eq_zero_iff pad ds).mp hok
  have hnot : ¬dallasPoly ∣ messagePoly err := by
    rw [messagePoly_eq_boolsPoly]
    rcases herr with hodd | ⟨hne, i, hburst⟩
    · exact not_dvd_of_count_odd hodd
    · exact not_dvd_of_burst hne i hburst
  have hflip : ¬dallasPoly ∣ messagePoly (pad.flip err hlen).bytes := by
    rw [Scratchpad.flip, messagePoly_zipWith_xor _ _ (by rw [pad.length_eq, hlen]; rfl)]
    exact fun h => hnot ((dvd_add_right hpad).mp h)
  unfold ds18b20ReadTemperature
  rw [if_pos]
  exact fun h0 => hflip ((ds18b20ReadTemperature_eq_zero_iff _ ds').mp (by
    unfold ds18b20ReadTemperature; rw [if_neg (not_not.mpr h0)]))

set_option maxRecDepth 8000 in
/-- The power-on scratchpad of the DS18B20, 85 °C, with its low bit flipped in transit. -/
theorem ds18b20ReadTemperature_detects_power_on :
    let pad : Scratchpad := ⟨[0x50, 0x05, 0x4B, 0x46, 0x7F, 0xFF, 0x0C, 0x10, 0x1C], rfl⟩
    let err : List UInt8 := [0x01, 0, 0, 0, 0, 0, 0, 0, 0]
    (ds18b20ReadTemperature pad zeroDs).1 = 0 ∧
      ((wireBits err).count true % 2 = 1 ∨ (true ∈ wireBits err ∧ ∃ i, ∀ j
        (hj : j < (wireBits err).length), (wireBits err)[j] = true → i ≤ j ∧ j < i + 8)) ∧
      (ds18b20ReadTemperature (pad.flip err rfl) zeroDs).1 = 1 := by
  intro pad err
  have hok : (ds18b20ReadTemperature pad zeroDs).1 = 0 := by decide
  have herr : (wireBits err).count true % 2 = 1 ∨ (true ∈ wireBits err ∧ ∃ i, ∀ j
      (hj : j < (wireBits err).length), (wireBits err)[j] = true → i ≤ j ∧ j < i + 8) :=
    .inl (by decide)
  exact ⟨hok, herr, ds18b20ReadTemperature_detects pad err rfl zeroDs zeroDs hok herr⟩

end PicoSensorAggregator.Ds18b20
