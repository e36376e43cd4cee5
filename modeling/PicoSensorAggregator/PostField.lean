import PicoSensorAggregator.RuntimeSettings
import Mathlib.Data.List.Nodup

/-!
`process_post_field` of `main.c`: the named-field update the configuration portal applies to
`mqtt_settings` for each `key=value` pair of a submitted form. A value is copied with its NUL
only when it is non-empty and shorter than the field, so every field keeps a NUL.
-/

namespace PicoSensorAggregator.PostField

open RuntimeSettings

structure CString where
  chars : List UInt8
  no_nul : (0 : UInt8) ∉ chars
deriving DecidableEq

def CString.strlen (s : CString) : Nat := s.chars.length

def fieldNameBytes (f : FieldInfo) : List UInt8 := f.fieldName.toList.map Char.toUInt8

theorem value_write_inBounds (f : FieldInfo) {v : List UInt8} (h : v.length < f.size) :
    f.offset + (v ++ [0]).length ≤ settingsSize := by
  have := f.inBounds
  simp only [List.length_append, List.length_singleton]
  omega

/-- The loop body of `process_post_field` for one descriptor, on the record and
`settings_changed`. -/
def postFieldStep (key value : CString) (acc : TlsMqttSettings × Bool) (f : FieldInfo) :
    TlsMqttSettings × Bool :=
  if fieldNameBytes f = key.chars then
    if h : value.strlen < f.size ∧ value.strlen > 0 then
      (acc.1.write f.offset (value.chars ++ [0]) (value_write_inBounds f h.1), true)
    else acc
  else acc

/-- `process_post_field(key, value)`, on `mqtt_settings` and `settings_changed`. -/
def processPostField (key value : CString) (settings : TlsMqttSettings) (settingsChanged : Bool) :
    TlsMqttSettings × Bool :=
  fields.foldl (postFieldStep key value) (settings, settingsChanged)

theorem zero_mem_fieldBytes_write (s : TlsMqttSettings) {f : FieldInfo} {v : List UInt8}
    (hv : v.length < f.size) :
    (0 : UInt8) ∈ (s.write f.offset (v ++ [0]) (value_write_inBounds f hv)).fieldBytes f := by
  apply mem_window_of_le (m := (v ++ [0]).length) (by simp; omega)
  rw [TlsMqttSettings.window_write_self _ _ rfl]
  simp

theorem postFieldStep_fieldsTerminated (key value : CString) {acc : TlsMqttSettings × Bool}
    {f : FieldInfo} (hf : f ∈ fields) (h : FieldsTerminated acc.1) :
    FieldsTerminated (postFieldStep key value acc f).1 := by
  unfold postFieldStep
  split_ifs with hkey hsize
  · intro g hg
    by_cases hgf : g = f
    · subst hgf
      exact zero_mem_fieldBytes_write _ hsize.1
    · rw [TlsMqttSettings.fieldBytes, TlsMqttSettings.window_write_of_disjoint]
      · exact h g hg
      · have := fields_disjoint f hf g hg (Ne.symm hgf)
        simp only [List.length_append, List.length_singleton, CString.strlen] at hsize ⊢
        omega
  all_goals exact h

theorem processPostField_fieldsTerminated (key value : CString) {s : TlsMqttSettings} (b : Bool)
    (h : FieldsTerminated s) : FieldsTerminated (processPostField key value s b).1 := by
  unfold processPostField
  suffices ∀ (l : List FieldInfo), (∀ f ∈ l, f ∈ fields) → ∀ acc : TlsMqttSettings × Bool,
      FieldsTerminated acc.1 → FieldsTerminated (l.foldl (postFieldStep key value) acc).1 from
    this fields (fun _ hf => hf) _ h
  intro l
  induction l with
  | nil => exact fun _ _ hacc => hacc
  | cons f l ih =>
      intro hl acc hacc
      exact ih (fun g hg => hl g (List.mem_cons_of_mem _ hg)) _
        (postFieldStep_fieldsTerminated key value (hl f (List.mem_cons_self _ _)) hacc)

/-! ## The update a call makes -/

theorem fieldNameBytes_nodup : (fields.map fieldNameBytes).Nodup := by
  decide

theorem postFieldStep_of_ne (key value : CString) (acc : TlsMqttSettings × Bool) {f : FieldInfo}
    (h : fieldNameBytes f ≠ key.chars) : postFieldStep key value acc f = acc := by
  simp [postFieldStep, h]

theorem foldl_postFieldStep (key value : CString) (l : List FieldInfo)
    (hl : (l.map fieldNameBytes).Nodup) (acc : TlsMqttSettings × Bool) :
    l.foldl (postFieldStep key value) acc =
      match l.find? fun f => fieldNameBytes f = key.chars with
      | some f => postFieldStep key value acc f
      | none => acc := by
  induction l generalizing acc with
  | nil => rfl
  | cons g l ih =>
      rw [List.map_cons, List.nodup_cons] at hl
      rw [List.foldl_cons, List.find?_cons]
      by_cases hg : fieldNameBytes g = key.chars
      · have hrest : l.find? (fun f => fieldNameBytes f = key.chars) = none :=
          List.find?_eq_none.mpr fun f hf hfk =>
            hl.1 (List.mem_map.mpr ⟨f, hf, (of_decide_eq_true hfk).trans hg.symm⟩)
        rw [ih hl.2, hrest, decide_eq_true hg]
      · rw [postFieldStep_of_ne key value acc hg, ih hl.2, decide_eq_false hg]

/-- `process_post_field` writes the value and its NUL over the start of the field the key names
when the value is non-empty and shorter than it, and sets `settings_changed`: every other byte of
the record (the rest of that field, the other fields, `flag`, `end_flag` and the padding) stays
as it was. Otherwise the record and `settings_changed` are unchanged. -/
theorem processPostField_spec (key value : CString) (s : TlsMqttSettings) (b : Bool) :
    (∀ f ∈ fields, fieldNameBytes f = key.chars → 0 < value.strlen → value.strlen < f.size →
      (processPostField key value s b).2 = true ∧
        ∀ i, (processPostField key value s b).1.bytes[i]? =
          if f.offset ≤ i ∧ i < f.offset + value.strlen + 1 then (value.chars ++ [0])[i - f.offset]?
          else s.bytes[i]?) ∧
      ((∀ f ∈ fields, fieldNameBytes f = key.chars → ¬ (0 < value.strlen ∧ value.strlen < f.size)) →
        processPostField key value s b = (s, b)) := by
  have hfold := foldl_postFieldStep key value fields fieldNameBytes_nodup (s, b)
  rw [← processPostField] at hfold
  refine ⟨fun f hf hname hpos hlt => ?_, fun hnone => ?_⟩
  · -- the names are distinct, so the descriptor the loop finds is `f`
    obtain ⟨g, hg⟩ := Option.isSome_iff_exists.mp
      (List.find?_isSome.mpr ⟨f, hf, by simpa using hname⟩ :
        (fields.find? fun g => fieldNameBytes g = key.chars).isSome)
    have hgk := List.find?_some hg
    have hgf : fieldNameBytes g = fieldNameBytes f := (of_decide_eq_true hgk).trans hname.symm
    rw [hg, List.inj_on_of_nodup_map fieldNameBytes_nodup (List.mem_of_find?_eq_some hg) hf hgf]
      at hfold
    simp only [postFieldStep, hname, if_true, dif_pos (And.intro hlt hpos)] at hfold
    rw [hfold]
    refine ⟨rfl, fun i => ?_⟩
    have hoff : f.offset ≤ s.bytes.length := by
      have := f.inBounds
      rw [s.length_eq]
      omega
    simp only [TlsMqttSettings.write, getElem?_writeBytes hoff, List.length_append,
      List.length_singleton, CString.strlen]
    split_ifs <;> first | rfl | omega
  · rw [hfold]
    split
    · next f hf =>
        have hfk := List.find?_some hf
        have hname := of_decide_eq_true hfk
        simp only [postFieldStep, hname, if_true]
        rw [dif_neg fun h => hnone f (List.mem_of_find?_eq_some hf) hname ⟨h.2, h.1⟩]
    · rfl

end PicoSensorAggregator.PostField
