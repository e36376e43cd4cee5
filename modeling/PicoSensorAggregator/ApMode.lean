import PicoSensorAggregator.PostField

/-!
The configuration portal's save path. `httpd_post_finished` of `http_control.c` hands each
`key=value` pair of a submitted form to `process_post_field`, which may set `settings_changed`,
and then sets `store_settings_flag`. The loop of `httpd_ap_mode` in `main.c` reads
`store_settings_flag`, then `settings_changed`, and either leaves to save or clears
`store_settings_flag`. The handler runs as an interrupt of the network unit, to its end, between
any two of the loop's reads and writes.
-/

namespace PicoSensorAggregator.ApMode

open RuntimeSettings PostField

/-! ## `parse_buffer` -/

def CString.ofBytes (l : List UInt8) : CString :=
  ⟨l.takeWhile (· ≠ 0), fun h => by simpa using List.mem_takeWhile_imp h⟩

/-- The tokens `strtok(buf, "&")` returns in turn: the non-empty runs between `'&'`s of the
string before the buffer's first NUL. -/
def strtokAmp (buf : List UInt8) : List (List UInt8) :=
  ((buf.takeWhile (· ≠ 0)).splitOn 0x26).filter fun t => !t.isEmpty

/-- One token of `parse_buffer`: the key before its first `'='` and the value after it, which is
read as empty when it starts with `'0'`; a token with no `'='` is skipped. -/
def parseToken (token : List UInt8) : Option (List UInt8 × List UInt8) :=
  match token.span (· ≠ 0x3D) with
  | (_, []) => none
  | (key, _ :: value) => some (key, if value.head? = some 0x30 then [] else value)

/-- `parse_buffer`, on `mqtt_settings` and `settings_changed`. -/
def parseBuffer (buf : List UInt8) (settings : TlsMqttSettings) (settingsChanged : Bool) :
    TlsMqttSettings × Bool :=
  (strtokAmp buf).foldl
    (fun acc token =>
      match parseToken token with
      | some (key, value) => processPostField (CString.ofBytes key) (CString.ofBytes value) acc.1 acc.2
      | none => acc)
    (settings, settingsChanged)

/-- The `(key, value)` pairs `parse_buffer` hands to `process_post_field`, in order. -/
def parseCalls (buf : List UInt8) : List (List UInt8 × List UInt8) :=
  (strtokAmp buf).filterMap parseToken

/-- The pairs as the form's text describes them: for each non-empty `'&'`-separated token that
holds a `'='`, the text before its first `'='` and the text after it. -/
def specParseCalls (body : List UInt8) : List (List UInt8 × List UInt8) :=
  ((body.splitOn 0x26).filter fun t => !t.isEmpty).filterMap fun t =>
    if 0x3D ∈ t then some (t.takeWhile (· ≠ 0x3D), (t.dropWhile (· ≠ 0x3D)).drop 1) else none

theorem dropWhile_ne_eq {x : UInt8} {t : List UInt8} (h : x ∈ t) :
    t.dropWhile (· ≠ x) = x :: (t.dropWhile (· ≠ x)).drop 1 := by
  induction t with
  | nil => simp at h
  | cons y t ih =>
      by_cases hy : y = x
      · subst hy; simp
      · rw [List.dropWhile_cons_of_pos (by simpa using hy)]
        exact ih (by simpa [Ne.symm hy] using h)

theorem dropWhile_ne_eq_nil {x : UInt8} {t : List UInt8} (h : x ∉ t) : t.dropWhile (· ≠ x) = [] :=
  List.dropWhile_eq_nil_iff.mpr fun y hy => by
    simp only [ne_eq, decide_eq_true_eq]
    rintro rfl
    exact h hy

theorem parseToken_eq (t : List UInt8) :
    parseToken t = (if 0x3D ∈ t then some (t.takeWhile (· ≠ 0x3D), (t.dropWhile (· ≠ 0x3D)).drop 1)
      else none).map fun kv => (kv.1, if kv.2.head? = some 0x30 then [] else kv.2) := by
  unfold parseToken
  rw [List.span_eq_take_drop]
  split_ifs with h
  · rw [dropWhile_ne_eq h]
    rfl
  · rw [dropWhile_ne_eq_nil h]
    rfl

theorem parseCalls_append_zero (body rest : List UInt8) (h : (0 : UInt8) ∉ body) :
    parseCalls (body ++ 0 :: rest) =
      (specParseCalls body).map fun kv => (kv.1, if kv.2.head? = some 0x30 then [] else kv.2) := by
  have hbody : (body ++ 0 :: rest).takeWhile (· ≠ 0) = body := by
    rw [List.takeWhile_append_of_pos fun y hy => by
      simp only [ne_eq, decide_eq_true_eq]; rintro rfl; exact h hy]
    simp
  rw [parseCalls, strtokAmp, hbody, specParseCalls, List.map_filterMap]
  exact List.filterMap_congr fun t _ => parseToken_eq t

/-- For a form body with no NUL, followed in the buffer by a NUL, `parse_buffer` makes one call
for each non-empty `'&'`-separated token that holds a `'='`, in order, with the text before the
first `'='` and the text after it, except that a value starting with the digit `'0'` is passed
as the empty string. -/
theorem parseCalls_eq_specParseCalls (body rest : List UInt8) (h : (0 : UInt8) ∉ body) :
    parseCalls (body ++ 0 :: rest) =
      (specParseCalls body).map fun kv => (kv.1, if kv.2.head? = some 0x30 then [] else kv.2) :=
  parseCalls_append_zero body rest h

/-- A password starting with `0` reaches `process_post_field` as the empty string, which
`process_post_field` then drops. -/
theorem parseCalls_zero_value :
    (0 : UInt8) ∉ "wifi_pass=0abc".toList.map Char.toUInt8 ∧
      parseCalls ("wifi_pass=0abc".toList.map Char.toUInt8 ++ [0]) =
        [("wifi_pass".toList.map Char.toUInt8, [])] ∧
      specParseCalls ("wifi_pass=0abc".toList.map Char.toUInt8) =
        [("wifi_pass".toList.map Char.toUInt8, "0abc".toList.map Char.toUInt8)] := by
  have h0 : (0 : UInt8) ∉ "wifi_pass=0abc".toList.map Char.toUInt8 := by decide
  refine ⟨h0, ?_, by decide⟩
  rw [parseCalls_eq_specParseCalls _ [] h0]
  decide

def copiesInto (key value : CString) (f : FieldInfo) : Bool :=
  fieldNameBytes f = key.chars ∧ value.strlen < f.size ∧ value.strlen > 0

theorem foldl_postFieldStep_changed (key value : CString) (l : List FieldInfo) :
    ∀ acc : TlsMqttSettings × Bool,
      (l.foldl (postFieldStep key value) acc).2 = (acc.2 || l.any (copiesInto key value)) := by
  induction l with
  | nil => simp
  | cons f fs ih =>
      intro acc
      rw [List.foldl_cons, ih, List.any_cons]
      unfold postFieldStep copiesInto
      by_cases h1 : fieldNameBytes f = key.chars <;> by_cases h2 : value.strlen < f.size <;>
        by_cases h3 : 0 < value.strlen <;> simp [h1, h2, h3]

theorem processPostField_changed (key value : CString) (s : TlsMqttSettings) (b : Bool) :
    (processPostField key value s b).2 = (b || fields.any (copiesInto key value)) :=
  foldl_postFieldStep_changed key value fields (s, b)

def postChanges (body : List UInt8) : Bool :=
  (strtokAmp body).any fun token =>
    match parseToken token with
    | some (key, value) => fields.any (copiesInto (CString.ofBytes key) (CString.ofBytes value))
    | none => false

theorem parseBuffer_changed (body : List UInt8) (s : TlsMqttSettings) (b : Bool) :
    (parseBuffer body s b).2 = (b || postChanges body) := by
  unfold parseBuffer postChanges
  suffices ∀ (ts : List (List UInt8)) (acc : TlsMqttSettings × Bool),
      (ts.foldl (fun acc token =>
          match parseToken token with
          | some (key, value) =>
              processPostField (CString.ofBytes key) (CString.ofBytes value) acc.1 acc.2
          | none => acc) acc).2 =
        (acc.2 || ts.any fun token =>
          match parseToken token with
          | some (key, value) => fields.any (copiesInto (CString.ofBytes key) (CString.ofBytes value))
          | none => false) from this _ (s, b)
  intro ts
  induction ts with
  | nil => simp
  | cons t ts ih =>
      intro acc
      rw [List.foldl_cons, ih, List.any_cons]
      split <;> simp [processPostField_changed, Bool.or_assoc]

/-! ## The loop and the handler -/

/-- Where `httpd_ap_mode` is: about to read `store_settings_flag`; about to read
`settings_changed`, having read the flag set; about to clear the flag, having read
`settings_changed` clear; out of the loop, about to save; or past the save. -/
inductive LoopPc
  | top
  | readChanged
  | clear
  | broken
  | done
deriving DecidableEq, Repr

/-- `mqtt_settings`, `settings_changed`, `store_settings_flag`, where the loop is, and the record
handed to `write_settings_in_flash`, if any. -/
structure ApState where
  mqttSettings : TlsMqttSettings
  settingsChanged : Bool
  storeSettingsFlag : Bool
  pc : LoopPc
  saved : Option TlsMqttSettings

def ApState.initial (settings : TlsMqttSettings) : ApState := ⟨settings, false, false, .top, none⟩

/-- One read or write of `httpd_ap_mode`'s loop, or the save after it. -/
def loopStep (s : ApState) : ApState :=
  match s.pc with
  | .top => if s.storeSettingsFlag then { s with pc := .readChanged } else s
  | .readChanged => if s.settingsChanged then { s with pc := .broken } else { s with pc := .clear }
  | .clear => { s with storeSettingsFlag := false, pc := .top }
  | .broken =>
      if s.storeSettingsFlag then
        { s with storeSettingsFlag := false, saved := some s.mqttSettings, pc := .done }
      else { s with pc := .done }
  | .done => s

/-- `httpd_post_finished` for a form whose body is `body`. -/
def httpdPostFinished (body : List UInt8) (s : ApState) : ApState :=
  let r := parseBuffer body s.mqttSettings s.settingsChanged
  { s with mqttSettings := r.1, settingsChanged := r.2, storeSettingsFlag := true }

/-- What can happen: a step of the loop, or a form submission finishing. -/
inductive Event
  | loop
  | post (body : List UInt8)

def step (s : ApState) : Event → ApState
  | .loop => loopStep s
  | .post body => httpdPostFinished body s

def run (s : ApState) (es : List Event) : ApState := es.foldl step s

@[simp] theorem httpdPostFinished_settingsChanged (body : List UInt8) (s : ApState) :
    (httpdPostFinished body s).settingsChanged = (s.settingsChanged || postChanges body) :=
  parseBuffer_changed body _ _

@[simp] theorem httpdPostFinished_storeSettingsFlag (body : List UInt8) (s : ApState) :
    (httpdPostFinished body s).storeSettingsFlag = true := rfl

@[simp] theorem httpdPostFinished_pc (body : List UInt8) (s : ApState) :
    (httpdPostFinished body s).pc = s.pc := rfl

/-- A form that changes a field finishing after the loop has read `settings_changed` clear, left
so by an earlier form that changed nothing, and before it clears `store_settings_flag`: the
change is in RAM, the flag is clear, and unless another form comes the loop never saves. -/
theorem run_change_unsaved (settings : TlsMqttSettings) (n : Nat) :
    let s := run (ApState.initial settings)
      [.post ("x=1".toList.map Char.toUInt8), .loop, .loop,
        .post ("wifi_ssid=abc".toList.map Char.toUInt8), .loop]
    s.pc = .top ∧ s.settingsChanged = true ∧ s.storeSettingsFlag = false ∧
      run s (List.replicate n .loop) = s := by
  intro s
  have h1 : postChanges ("x=1".toList.map Char.toUInt8) = false := by decide
  have h2 : postChanges ("wifi_ssid=abc".toList.map Char.toUInt8) = true := by decide
  have hs : s.pc = .top ∧ s.settingsChanged = true ∧ s.storeSettingsFlag = false := by
    simp only [s, run, List.foldl_cons, List.foldl_nil, step, loopStep, ApState.initial,
      httpdPostFinished_settingsChanged, httpdPostFinished_storeSettingsFlag, httpdPostFinished_pc,
      h1, h2, Bool.false_or, Bool.false_eq_true, if_true, if_false, and_self]
  refine ⟨hs.1, hs.2.1, hs.2.2, ?_⟩
  have hfix : step s .loop = s := by simp [step, loopStep, hs.1, hs.2.2]
  induction n with
  | zero => rfl
  | succ n ih => rw [List.replicate_succ, run, List.foldl_cons, hfix]; exact ih

/-! ## When no form lands inside the read-clear window -/

/-- No form finishes while the loop is between its read of `settings_changed` and its clearing
of `store_settings_flag`. -/
def Event.Clean (s : ApState) : Event → Prop
  | .loop => True
  | .post _ => s.pc ≠ .clear

def Clean : ApState → List Event → Prop
  | _, [] => True
  | s, e :: es => e.Clean s ∧ Clean (step s e) es

/-- Before the loop leaves, a change has the flag set; the loop clears the flag only having read
no change; and it reads `settings_changed`, and leaves, only with the flag set. -/
structure Inv (s : ApState) : Prop where
  flagged : s.pc ≠ .broken → s.pc ≠ .done → s.settingsChanged = true → s.storeSettingsFlag = true
  clear_unchanged : s.pc = .clear → s.settingsChanged = false
  readChanged_flag : s.pc = .readChanged → s.storeSettingsFlag = true
  broken_flag : s.pc = .broken → s.storeSettingsFlag = true

theorem loopStep_inv {s : ApState} (h : Inv s) : Inv (loopStep s) := by
  obtain ⟨hflag, hclear, hread, hbroken⟩ := h
  cases hpc : s.pc <;> simp only [loopStep, hpc] <;> (try split_ifs) <;> constructor <;> simp_all

theorem step_inv {s : ApState} (e : Event) (hc : e.Clean s) (h : Inv s) : Inv (step s e) := by
  cases e with
  | loop => exact loopStep_inv h
  | post body =>
      simp only [Event.Clean] at hc
      exact ⟨fun _ _ _ => rfl, fun h' => absurd h' hc, fun _ => rfl, fun _ => rfl⟩

theorem initial_inv (settings : TlsMqttSettings) : Inv (ApState.initial settings) := by
  constructor <;> simp [ApState.initial]

theorem run_inv (es : List Event) :
    ∀ {s : ApState}, Clean s es → Inv s → Inv (run s es) := by
  induction es with
  | nil => exact fun _ h => h
  | cons e es ih => exact fun hc h => ih hc.2 (step_inv e hc.1 h)

theorem run_loop_saves {s : ApState} (h : Inv s) (hch : s.settingsChanged = true)
    (hpc : s.pc ≠ .done) : (run s (List.replicate 3 .loop)).saved = some s.mqttSettings := by
  cases hp : s.pc
  · have := h.flagged (by simp [hp]) (by simp [hp]) hch
    simp [run, step, loopStep, hp, this, hch]
  · simp [run, step, loopStep, hp, hch, h.readChanged_flag hp]
  · exact absurd (h.clear_unchanged hp) (by simp [hch])
  · simp [run, step, loopStep, hp, h.broken_flag hp]
  · exact absurd hp hpc

/-- When no form finishes inside the loop's read-clear window, no change is left unsaved: until
the loop leaves, a changed record has `store_settings_flag` set, and three steps of the loop
then save the record in RAM. -/
theorem run_change_saved (settings : TlsMqttSettings) (es : List Event)
    (hc : Clean (ApState.initial settings) es) :
    let s := run (ApState.initial settings) es
    (s.pc ≠ .broken → s.pc ≠ .done → s.settingsChanged = true → s.storeSettingsFlag = true) ∧
      (s.settingsChanged = true → s.pc ≠ .done →
        (run s (List.replicate 3 .loop)).saved = some s.mqttSettings) := by
  have h := run_inv es hc (initial_inv settings)
  exact ⟨h.flagged, fun hch hpc => run_loop_saves h hch hpc⟩

/-- A form changing `wifi_ssid` before the loop's first read. -/
theorem run_change_saved_wifi_ssid :
    let es := [Event.post ("wifi_ssid=abc".toList.map Char.toUInt8), .loop]
    Clean (ApState.initial initializeDefaultSettings) es ∧
      let s := run (ApState.initial initializeDefaultSettings) es
      (s.pc ≠ .broken → s.pc ≠ .done → s.settingsChanged = true → s.storeSettingsFlag = true) ∧
        (s.settingsChanged = true → s.pc ≠ .done →
          (run s (List.replicate 3 .loop)).saved = some s.mqttSettings) := by
  intro es
  have hc : Clean (ApState.initial initializeDefaultSettings) es :=
    ⟨by simp [Event.Clean, ApState.initial], trivial, trivial⟩
  exact ⟨hc, run_change_saved _ es hc⟩

end PicoSensorAggregator.ApMode
