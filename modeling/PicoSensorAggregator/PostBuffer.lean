import PicoSensorAggregator.ApMode
import PicoSensorAggregator.TopicReassembly

/-!
The POST buffer of `http_control.c`. `httpd_post_begin` checks the announced length and resets
`post_data_index`, `httpd_post_receive_data` appends each pbuf behind it when it fits, and
`httpd_post_finished` runs `parse_buffer` on the buffer, then clears it. The buffer and the
index are statics that every connection shares, and the handlers never read their `connection`
argument, so an interleaving of several clients' requests is one sequence of calls.
-/

namespace PicoSensorAggregator.PostBuffer

open RuntimeSettings MqttClient TopicReassembly

/-- `MAX_POST_DATA_LEN`. -/
def maxPostDataLen : Nat := 1024

structure Pbuf where
  payload : List UInt8
  len_lt : payload.length < 65536

/-- `post_data_buffer`, modelled past its end so that a write there would be seen, and
`post_data_index`. -/
structure PostState where
  buffer : Nat → UInt8
  index : Nat

def PostState.initial : PostState := ⟨fun _ => 0, 0⟩

def PostState.bufferBytes (s : PostState) : List UInt8 := (List.range maxPostDataLen).map s.buffer

theorem initial_bufferBytes : PostState.initial.bufferBytes = List.replicate maxPostDataLen 0 := by
  rw [PostState.bufferBytes, PostState.initial, List.map_const', List.length_range]

/-- `httpd_post_begin(.., content_len, ..)`. -/
def httpdPostBegin (contentLen : Int) (s : PostState) : ErrT × PostState :=
  if contentLen > maxPostDataLen then (errVal, s) else (errOk, { s with index := 0 })

/-- `httpd_post_receive_data(connection, p)`, with the buffer indices its `memcpy` writes. -/
def httpdPostReceiveData (p : Option Pbuf) (s : PostState) : ErrT × PostState × List Nat :=
  match p with
  | none => (errArg, s, [])
  | some p =>
      if s.index + p.payload.length > maxPostDataLen then (errMem, s, [])
      else (errOk, ⟨copyInto s.buffer s.index p.payload, s.index + p.payload.length⟩,
        List.range' s.index p.payload.length)

/-- `httpd_post_finished`: the buffer `parse_buffer` reads, and the statics after the `memset`;
`post_data_index` stays as it is. -/
def httpdPostFinished (s : PostState) : List UInt8 × PostState :=
  (s.bufferBytes, { s with buffer := fun i => if i < maxPostDataLen then 0 else s.buffer i })

/-- A call of one of the three handlers, from any connection. -/
inductive PostEvent
  | begin (contentLen : Int)
  | receive (p : Option Pbuf)
  | finished

/-- What the calls did besides changing the statics: the buffer indices written, and the buffer
each `parse_buffer` read. -/
structure PostEffects where
  writes : List Nat
  parsed : List (List UInt8)

def PostEffects.append (e e' : PostEffects) : PostEffects :=
  ⟨e.writes ++ e'.writes, e.parsed ++ e'.parsed⟩

def step (s : PostState) : PostEvent → PostState × PostEffects
  | .begin contentLen => ((httpdPostBegin contentLen s).2, ⟨[], []⟩)
  | .receive p => ((httpdPostReceiveData p s).2.1, ⟨(httpdPostReceiveData p s).2.2, []⟩)
  | .finished => ((httpdPostFinished s).2, ⟨[], [(httpdPostFinished s).1]⟩)

def run : PostState → List PostEvent → PostState × PostEffects
  | s, [] => (s, ⟨[], []⟩)
  | s, e :: es =>
      let r := step s e
      let rest := run r.1 es
      (rest.1, r.2.append rest.2)

theorem run_cons (s : PostState) (e : PostEvent) (es : List PostEvent) :
    run s (e :: es) = ((run (step s e).1 es).1, (step s e).2.append (run (step s e).1 es).2) :=
  rfl

/-! ## Writes stay in the buffer -/

theorem step_index_le {s : PostState} (h : s.index ≤ maxPostDataLen) (e : PostEvent) :
    (step s e).1.index ≤ maxPostDataLen ∧ ∀ w ∈ (step s e).2.writes, w < maxPostDataLen := by
  cases e with
  | begin contentLen =>
      simp only [step, httpdPostBegin]
      split_ifs <;> simp [h]
  | receive p =>
      rcases p with _ | p
      · simp [step, httpdPostReceiveData, h]
      · simp only [step, httpdPostReceiveData]
        split_ifs with hfit
        · simp [h]
        · exact ⟨by dsimp only; omega, fun w hw => by rw [List.mem_range'_1] at hw; omega⟩
  | finished => simp [step, httpdPostFinished, h]

/-- Every `memcpy` of every run stays inside `post_data_buffer`. -/
theorem run_writes_lt (es : List PostEvent) :
    ∀ {s : PostState}, s.index ≤ maxPostDataLen → ∀ w ∈ (run s es).2.writes, w < maxPostDataLen := by
  induction es with
  | nil => simp [run]
  | cons e es ih =>
      intro s h w hw
      rw [run_cons] at hw
      rcases List.mem_append.mp hw with hw | hw
      · exact (step_index_le h e).2 w hw
      · exact ih (step_index_le h e).1 w hw

/-- A request whose body is `wifi_ssid=abc`, in one pbuf. -/
theorem run_writes_lt_wifi_ssid :
    PostState.initial.index ≤ maxPostDataLen ∧
      ∀ w ∈ (run .initial [.begin 13,
        .receive (some ⟨"wifi_ssid=abc".toList.map Char.toUInt8, by decide⟩), .finished]).2.writes,
        w < maxPostDataLen :=
  ⟨by decide, run_writes_lt _ (by decide)⟩

/-! ## What `parse_buffer` reads -/

theorem map_range_copyInto_eq_writeBytes (buf : Nat → UInt8) {k n : Nat} {d : List UInt8}
    (h : k + d.length ≤ n) :
    (List.range n).map (copyInto buf k d) = writeBytes ((List.range n).map buf) k d := by
  apply List.ext_getElem?
  intro i
  rw [getElem?_writeBytes (by simp; omega)]
  by_cases hi : i < n
  · simp only [List.getElem?_map, List.getElem?_range hi, Option.map_some', copyInto]
    split_ifs <;> first
      | omega
      | rfl
      | (rw [List.getD_eq_getElem?_getD, List.getElem?_eq_getElem (by omega)]; rfl)
  · rw [List.getElem?_eq_none (by simp; omega), List.getElem?_eq_none (by simp; omega)]
    split_ifs <;> first | omega | rfl

theorem writeBytes_writeBytes_append {bs P c : List UInt8} {off : Nat}
    (h : off + P.length ≤ bs.length) :
    writeBytes (writeBytes bs off P) (off + P.length) c = writeBytes bs off (P ++ c) := by
  apply List.ext_getElem?
  intro i
  rw [getElem?_writeBytes (by rw [writeBytes_length h]; exact h), getElem?_writeBytes (by omega),
    getElem?_writeBytes (by omega), List.length_append]
  split_ifs <;> first
    | omega
    | rfl
    | (rw [List.getElem?_append_left (by omega)])
    | (rw [List.getElem?_append_right (by omega)]; congr 1; omega)

theorem writeBytes_zero_writeBytes_zero {bs a b : List UInt8} (hba : b.length ≤ a.length) :
    writeBytes (writeBytes bs 0 a) 0 b = b ++ a.drop b.length ++ bs.drop a.length := by
  simp only [writeBytes, List.take_zero, List.nil_append, Nat.zero_add, List.drop_append_eq_append_drop,
    List.drop_eq_nil_of_le hba, List.nil_append, List.append_assoc]
  rw [Nat.sub_eq_zero_of_le hba, List.drop_zero]

theorem bufferBytes_copyInto (s : PostState) {k : Nat} {d : List UInt8} (index : Nat)
    (h : k + d.length ≤ maxPostDataLen) :
    (⟨copyInto s.buffer k d, index⟩ : PostState).bufferBytes = writeBytes s.bufferBytes k d :=
  map_range_copyInto_eq_writeBytes s.buffer h

@[simp] theorem bufferBytes_length (s : PostState) : s.bufferBytes.length = maxPostDataLen := by
  simp [PostState.bufferBytes]

theorem step_begin (s : PostState) {contentLen : Int} (h : contentLen ≤ maxPostDataLen) :
    step s (.begin contentLen) = ({ s with index := 0 }, ⟨[], []⟩) := by
  simp only [step, httpdPostBegin, gt_iff_lt, if_neg (not_lt.mpr h)]

theorem step_receive (s : PostState) (p : Pbuf) (h : s.index + p.payload.length ≤ maxPostDataLen) :
    step s (.receive (some p)) =
      (⟨copyInto s.buffer s.index p.payload, s.index + p.payload.length⟩,
        ⟨List.range' s.index p.payload.length, []⟩) := by
  simp [step, httpdPostReceiveData, Nat.not_lt.mpr h]

theorem step_finished (s : PostState) :
    step s .finished =
      (⟨fun i => if i < maxPostDataLen then 0 else s.buffer i, s.index⟩, ⟨[], [s.bufferBytes]⟩) := by
  simp only [step, httpdPostFinished]

theorem run_append (s : PostState) (es es' : List PostEvent) :
    run s (es ++ es') = ((run (run s es).1 es').1, (run s es).2.append (run (run s es).1 es').2) := by
  induction es generalizing s with
  | nil => simp [run, PostEffects.append]
  | cons e es ih => simp [run_cons, ih, PostEffects.append]

def bodyOf (ps : List Pbuf) : List UInt8 := (ps.map Pbuf.payload).flatten

theorem run_receives (ps : List Pbuf) :
    ∀ {s : PostState}, s.index + (bodyOf ps).length ≤ maxPostDataLen →
      (run s (ps.map fun p => .receive (some p))).1.index = s.index + (bodyOf ps).length ∧
        (run s (ps.map fun p => .receive (some p))).1.bufferBytes =
          writeBytes s.bufferBytes s.index (bodyOf ps) ∧
        (run s (ps.map fun p => .receive (some p))).2.parsed = [] := by
  induction ps with
  | nil => intro s _; simp [run, bodyOf, writeBytes]
  | cons p ps ih =>
      intro s h
      have hlen : (bodyOf (p :: ps)).length = p.payload.length + (bodyOf ps).length := by
        simp [bodyOf]
      obtain ⟨hidx, hbytes, hparsed⟩ := ih (s := ⟨copyInto s.buffer s.index p.payload,
        s.index + p.payload.length⟩) (by dsimp only; omega)
      rw [List.map_cons, run_cons, step_receive s p (by omega)]
      refine ⟨by rw [hidx, hlen]; dsimp only; omega, ?_, by simp [PostEffects.append, hparsed]⟩
      rw [hbytes, bufferBytes_copyInto _ _ (by omega),
        writeBytes_writeBytes_append (by rw [bufferBytes_length]; omega)]
      rfl

theorem bufferBytes_cleared (s : PostState) (index : Nat) :
    (⟨fun i => if i < maxPostDataLen then 0 else s.buffer i, index⟩ : PostState).bufferBytes =
      List.replicate maxPostDataLen 0 := by
  rw [PostState.bufferBytes, List.map_congr_left fun i hi => if_pos (List.mem_range.mp hi),
    List.map_const', List.length_range]

theorem run_request (s : PostState) {contentLen : Int} (hlen : contentLen ≤ maxPostDataLen)
    (ps : List Pbuf) (hbody : (bodyOf ps).length ≤ maxPostDataLen) :
    (run s (.begin contentLen :: ps.map (fun p => .receive (some p)) ++ [.finished])).2.parsed =
        [writeBytes s.bufferBytes 0 (bodyOf ps)] ∧
      (run s (.begin contentLen :: ps.map (fun p => .receive (some p)) ++ [.finished])).1.bufferBytes =
        List.replicate maxPostDataLen 0 := by
  obtain ⟨-, hbytes, hparsed⟩ := run_receives ps (s := { s with index := 0 }) (by simpa using hbody)
  rw [List.cons_append, run_cons, step_begin s hlen, run_append]
  simp only [run_cons, step_finished, run, PostEffects.append, hparsed, hbytes, bufferBytes_cleared,
    List.nil_append, List.append_nil]
  exact ⟨rfl, trivial⟩

/-- A request on its own, from a clear buffer, with a body shorter than the buffer and no NUL in
it: `parse_buffer` hands on exactly the pairs of that body, and leaves the buffer clear for the
next request. -/
theorem run_request_parseCalls (s : PostState) (hclean : s.bufferBytes = List.replicate maxPostDataLen 0)
    {contentLen : Int} (hlen : contentLen ≤ maxPostDataLen) (ps : List Pbuf)
    (hbody : (bodyOf ps).length < maxPostDataLen) (h0 : (0 : UInt8) ∉ bodyOf ps) :
    (run s (.begin contentLen :: ps.map (fun p => .receive (some p)) ++ [.finished])).2.parsed.map
        ApMode.parseCalls =
        [(ApMode.specParseCalls (bodyOf ps)).map fun kv =>
          (kv.1, if kv.2.head? = some 0x30 then [] else kv.2)] ∧
      (run s (.begin contentLen :: ps.map (fun p => .receive (some p)) ++ [.finished])).1.bufferBytes =
        List.replicate maxPostDataLen 0 := by
  obtain ⟨hparsed, hclear⟩ := run_request s hlen ps hbody.le
  refine ⟨?_, hclear⟩
  rw [hparsed, hclean, writeBytes, List.take_zero, List.nil_append, Nat.zero_add, List.drop_replicate,
    show maxPostDataLen - (bodyOf ps).length = (maxPostDataLen - (bodyOf ps).length - 1) + 1 by omega,
    List.replicate_succ, List.map_singleton, ApMode.parseCalls_append_zero _ _ h0]

/-- A request whose body is `wifi_ssid=abc`, in one pbuf, into a clear buffer. -/
theorem run_request_parseCalls_wifi_ssid :
    let p : Pbuf := ⟨"wifi_ssid=abc".toList.map Char.toUInt8, by decide⟩
    PostState.initial.bufferBytes = List.replicate maxPostDataLen 0 ∧ (13 : Int) ≤ maxPostDataLen ∧
      (bodyOf [p]).length < maxPostDataLen ∧ (0 : UInt8) ∉ bodyOf [p] ∧
      (run .initial (.begin 13 :: [p].map (fun p => .receive (some p)) ++ [.finished])).2.parsed.map
          ApMode.parseCalls =
        [(ApMode.specParseCalls (bodyOf [p])).map fun kv =>
          (kv.1, if kv.2.head? = some 0x30 then [] else kv.2)] ∧
      (run .initial (.begin 13 :: [p].map (fun p => .receive (some p)) ++ [.finished])).1.bufferBytes =
        List.replicate maxPostDataLen 0 := by
  intro p
  have hlen : (13 : Int) ≤ maxPostDataLen := by decide
  have hbody : (bodyOf [p]).length < maxPostDataLen := by decide
  have h0 : (0 : UInt8) ∉ bodyOf [p] := by decide
  exact ⟨initial_bufferBytes, hlen, hbody, h0,
    run_request_parseCalls .initial initial_bufferBytes hlen [p] hbody h0⟩

/-- A form of exactly `MAX_POST_DATA_LEN` bytes with no NUL passes both length checks and fills
the buffer, so `parse_buffer` reads a buffer with no NUL in it. -/
theorem run_full_body_unterminated (s : PostState) (p : Pbuf)
    (hlen : p.payload.length = maxPostDataLen) (h0 : (0 : UInt8) ∉ p.payload) :
    (run s [.begin maxPostDataLen, .receive (some p), .finished]).2.parsed = [p.payload] ∧
      ∀ b ∈ (run s [.begin maxPostDataLen, .receive (some p), .finished]).2.parsed,
        b.length = maxPostDataLen ∧ (0 : UInt8) ∉ b := by
  have hbody : bodyOf [p] = p.payload := by simp [bodyOf]
  have h := (run_request s (le_refl _) [p] (by rw [hbody, hlen])).1
  rw [hbody, writeBytes, List.take_zero, List.nil_append, Nat.zero_add,
    List.drop_eq_nil_of_le (by rw [bufferBytes_length, hlen]), List.append_nil] at h
  refine ⟨h, fun b hb => ?_⟩
  rw [show [PostEvent.begin maxPostDataLen, .receive (some p), .finished] =
      .begin maxPostDataLen :: [p].map (fun p => .receive (some p)) ++ [.finished] from rfl, h,
    List.mem_singleton] at hb
  exact hb ▸ ⟨hlen, h0⟩

/-- 1024 bytes `'a'`, sent in one pbuf. -/
theorem run_full_body_unterminated_a :
    (List.replicate 1024 (0x61 : UInt8)).length = maxPostDataLen ∧
      (0 : UInt8) ∉ List.replicate 1024 (0x61 : UInt8) ∧
      ∀ b ∈ (run .initial [.begin maxPostDataLen,
          .receive (some ⟨List.replicate 1024 0x61, by rw [List.length_replicate]; decide⟩),
          .finished]).2.parsed,
        b.length = maxPostDataLen ∧ (0 : UInt8) ∉ b := by
  have hlen : (List.replicate 1024 (0x61 : UInt8)).length = maxPostDataLen := List.length_replicate _ _
  have h0 : (0 : UInt8) ∉ List.replicate 1024 (0x61 : UInt8) := by rw [List.mem_replicate]; decide
  exact ⟨hlen, h0, (run_full_body_unterminated .initial
    ⟨List.replicate 1024 0x61, by rw [List.length_replicate]; decide⟩ hlen h0).2⟩

/-- Two requests overlapping from a clear buffer, the second body no longer than the first, both
with no NUL: `parse_buffer` reads the second body followed by the tail of the first, and hands on
the pairs of that text. -/
theorem run_interleaved_posts (s : PostState) (hclean : s.bufferBytes = List.replicate maxPostDataLen 0)
    (a b : Pbuf) (hba : b.payload.length ≤ a.payload.length) (ha : a.payload.length < maxPostDataLen)
    (ha0 : (0 : UInt8) ∉ a.payload) (hb0 : (0 : UInt8) ∉ b.payload) :
    (run s [.begin a.payload.length, .receive (some a), .begin b.payload.length, .receive (some b),
        .finished]).2.parsed.map ApMode.parseCalls =
      [(ApMode.specParseCalls (b.payload ++ a.payload.drop b.payload.length)).map fun kv =>
        (kv.1, if kv.2.head? = some 0x30 then [] else kv.2)] := by
  have hla : (a.payload.length : Int) ≤ maxPostDataLen := by exact_mod_cast ha.le
  have hlb : (b.payload.length : Int) ≤ maxPostDataLen := by exact_mod_cast (hba.trans ha.le)
  simp only [run_cons, step_begin _ hla, step_begin _ hlb]
  rw [step_receive _ a (by dsimp only; omega)]
  dsimp only
  rw [step_receive _ b (by dsimp only; omega)]
  simp only [step_finished, run, PostEffects.append, List.nil_append, List.append_nil, List.map_cons,
    List.map_nil, Nat.zero_add]
  rw [PostState.bufferBytes] at hclean
  rw [PostState.bufferBytes, map_range_copyInto_eq_writeBytes _ (by omega),
    map_range_copyInto_eq_writeBytes _ (by omega), writeBytes_zero_writeBytes_zero hba, hclean,
    List.drop_replicate,
    show maxPostDataLen - a.payload.length = (maxPostDataLen - a.payload.length - 1) + 1 by omega,
    List.replicate_succ, ApMode.parseCalls_append_zero _ _ fun h =>
      (List.mem_append.mp h).elim hb0 fun h => ha0 (List.mem_of_mem_drop h)]

/-- One client sends `wifi_pass=abcdefgh` and another, starting before the first one finishes,
`wifi_pass=xy`: `process_post_field` gets the password `xycdefgh`, which neither sent. -/
theorem run_interleaved_posts_wifi_pass :
    PostState.initial.bufferBytes = List.replicate maxPostDataLen 0 ∧
      ("wifi_pass=xy".toList.map Char.toUInt8).length ≤
        ("wifi_pass=abcdefgh".toList.map Char.toUInt8).length ∧
      ("wifi_pass=abcdefgh".toList.map Char.toUInt8).length < maxPostDataLen ∧
      (0 : UInt8) ∉ "wifi_pass=abcdefgh".toList.map Char.toUInt8 ∧
      (0 : UInt8) ∉ "wifi_pass=xy".toList.map Char.toUInt8 ∧
      (run .initial [.begin ("wifi_pass=abcdefgh".toList.map Char.toUInt8).length,
          .receive (some ⟨"wifi_pass=abcdefgh".toList.map Char.toUInt8, by decide⟩),
          .begin ("wifi_pass=xy".toList.map Char.toUInt8).length,
          .receive (some ⟨"wifi_pass=xy".toList.map Char.toUInt8, by decide⟩),
          .finished]).2.parsed.map ApMode.parseCalls =
        [[("wifi_pass".toList.map Char.toUInt8, "xycdefgh".toList.map Char.toUInt8)]] ∧
      ("wifi_pass".toList.map Char.toUInt8, "xycdefgh".toList.map Char.toUInt8) ∉
        ApMode.specParseCalls ("wifi_pass=abcdefgh".toList.map Char.toUInt8) ∧
      ("wifi_pass".toList.map Char.toUInt8, "xycdefgh".toList.map Char.toUInt8) ∉
        ApMode.specParseCalls ("wifi_pass=xy".toList.map Char.toUInt8) := by
  have hba : ("wifi_pass=xy".toList.map Char.toUInt8).length ≤
      ("wifi_pass=abcdefgh".toList.map Char.toUInt8).length := by decide
  have ha : ("wifi_pass=abcdefgh".toList.map Char.toUInt8).length < maxPostDataLen := by decide
  have ha0 : (0 : UInt8) ∉ "wifi_pass=abcdefgh".toList.map Char.toUInt8 := by decide
  have hb0 : (0 : UInt8) ∉ "wifi_pass=xy".toList.map Char.toUInt8 := by decide
  refine ⟨initial_bufferBytes, hba, ha, ha0, hb0, ?_, by decide, by decide⟩
  rw [run_interleaved_posts .initial initial_bufferBytes
    ⟨"wifi_pass=abcdefgh".toList.map Char.toUInt8, by decide⟩
    ⟨"wifi_pass=xy".toList.map Char.toUInt8, by decide⟩ hba ha ha0 hb0]
  decide

end PicoSensorAggregator.PostBuffer
