import SkupperRouter.Http2.Egress

namespace SkupperRouter.Http2

-- Where the conversions of `remaining_payload_length` are exact.
theorem sizeSub_of_le {a b : Nat} (h : b ≤ a) (ha : a < 2 ^ 64) : sizeSub a b = a - b := by
  unfold sizeSub
  rw [Nat.mod_eq_of_lt (by omega : b < 2 ^ 64)]
  omega

theorem toCInt_of_lt {x : Nat} (h : x < 2 ^ 31) : toCInt x = x := by
  unfold toCInt
  rw [Nat.mod_eq_of_lt (by omega : x < 2 ^ 32), if_pos h]

theorem toSizeT_natCast {x : Nat} (h : x < 2 ^ 64) : toSizeT x = x := by
  unfold toSizeT
  omega

-- Where they are not: a difference in [2^31, 2^32) becomes a negative `int`, which the
-- comparison with a `size_t` turns back into a number above 2^63.
theorem toCInt_of_ge {x : Nat} (h : 2 ^ 31 ≤ x) (h32 : x < 2 ^ 32) : toCInt x = x - 2 ^ 32 := by
  unfold toCInt
  rw [Nat.mod_eq_of_lt h32, if_neg (by omega)]

theorem toSizeT_of_neg {x : Nat} (h32 : x < 2 ^ 32) : 2 ^ 63 ≤ toSizeT (x - 2 ^ 32) := by
  unfold toSizeT
  omega

-- The bytes `read_data_callback` hands out of a body section of `P` bytes with `h` handed out.
def bodyReadLength (length P h : Nat) : Nat := min length (min QD_ADAPTOR_MAX_BUFFER_SIZE (P - h))

-- A body section `p`, the `i`-th of its message, handed out up to byte `h`: it is the current
-- window, its iterator stands at byte `h`, `payload_handled = h < P`, and no look-ahead result
-- is waiting to be latched.
structure BodyInProgress (i : Nat) (p : Bytes) (h : Nat) (o : Outgoing) : Prop where
  depth : o.message.depth = .Ok
  current : o.stream.currStreamData = some ⟨i, .Body p⟩
  iter : o.stream.currStreamDataIter = some ⟨⟨i, .Body p⟩, p.drop h⟩
  result : o.stream.currStreamDataResult = .BodyOk
  noNext : o.stream.nextStreamData = none
  noLatch : ¬(o.stream.nextStreamDataResult = .NoMore ∨ o.stream.nextStreamDataResult = .Aborted ∨
    o.stream.nextStreamDataResult = .Invalid)
  handled : o.stream.payloadHandled = h
  lt : h < p.length

section Round

variable {i : Nat} {p : Bytes} {h : Nat} {o : Outgoing}

theorem takeStreamData_of_body (hb : BodyInProgress i p h o) : takeStreamData o = o := by
  simp only [takeStreamData, hb.noNext, hb.current]
  exact if_neg fun hc => hb.noLatch hc.2

theorem readDataCallback_body (r : CodecRead) (hb : BodyInProgress i p h o) (hc : 0 < r.capacity) :
    readDataCallback r o = .done (readBody r.length p.length o) := by
  have hp : p.length ≠ 0 := by have := hb.lt; omega
  simp [readDataCallback, hb.depth, takeStreamData_of_body hb, readStreamData, hb.result,
    hb.current, Nat.pos_iff_ne_zero.mp hc, qdMessageStreamDataPayloadLength, Window.payload, hp]

-- With `P - h` below 2^31, a read that leaves bytes over hands out `min (length, 16384)`.
theorem readBody_unfinished (length P : Nat) (o : Outgoing) (h32 : P < 2 ^ 32)
    (hP : P - o.stream.payloadHandled < 2 ^ 31)
    (hu : o.stream.payloadHandled + bodyReadLength length P o.stream.payloadHandled < P) :
    readBody length P o =
      ({ o with stream.fullPayloadHandled := false,
                stream.bytesOut := o.stream.bytesOut + bodyReadLength length P o.stream.payloadHandled },
        .Length (bodyReadLength length P o.stream.payloadHandled) false false) := by
  unfold bodyReadLength QD_ADAPTOR_MAX_BUFFER_SIZE at hu ⊢
  have hs := sizeSub_of_le (a := P) (b := o.stream.payloadHandled) (by omega) (by omega)
  simp only [readBody, hs, toCInt_of_lt hP, QD_ADAPTOR_MAX_BUFFER_SIZE]
  by_cases hle : P - o.stream.payloadHandled ≤ 16384
  · have hlt : length < P - o.stream.payloadHandled := by omega
    rw [if_pos (by omega), toSizeT_natCast (by omega), if_pos hlt, Nat.min_eq_left (by omega)]
  · rw [if_neg (by omega), Nat.min_eq_left (by omega : 16384 ≤ P - o.stream.payloadHandled)]

-- A read that hands out the rest of the section sets `full_payload_handled` and looks ahead; the
-- current window, its iterator and the log stay as they were.
theorem readBody_finished (length P : Nat) (o : Outgoing) (hh : o.stream.payloadHandled < P)
    (h32 : P < 2 ^ 32) (hP : P - o.stream.payloadHandled < 2 ^ 31)
    (hf : o.stream.payloadHandled + bodyReadLength length P o.stream.payloadHandled = P) :
    ∃ o1 eof,
      readBody length P o = (o1, .Length (bodyReadLength length P o.stream.payloadHandled) eof false) ∧
      o1.stream.fullPayloadHandled = true ∧ o1.stream.currStreamData = o.stream.currStreamData ∧
      o1.stream.currStreamDataIter = o.stream.currStreamDataIter ∧
      o1.stream.currStreamDataResult = o.stream.currStreamDataResult ∧ o1.log = o.log := by
  unfold bodyReadLength QD_ADAPTOR_MAX_BUFFER_SIZE at hf ⊢
  have hs := sizeSub_of_le (a := P) (b := o.stream.payloadHandled) (Nat.le_of_lt hh) (by omega)
  have hn : min length (min 16384 (P - o.stream.payloadHandled)) = P - o.stream.payloadHandled := by
    omega
  simp only [readBody, hs, toCInt_of_lt hP, QD_ADAPTOR_MAX_BUFFER_SIZE, hn]
  rw [if_pos (by omega), toSizeT_natCast (by omega), if_neg (by omega)]
  split <;> exact ⟨_, _, rfl, rfl, rfl, rfl, rfl, rfl⟩

-- With `P - h` in [2^31, 2^32) the `int` is negative: the read hands out whatever length the
-- codec asks for and leaves `full_payload_handled` clear.
theorem readBody_wrapped (length P : Nat) (o : Outgoing) (hh : o.stream.payloadHandled ≤ P)
    (h32 : P < 2 ^ 32) (hw : 2 ^ 31 ≤ P - o.stream.payloadHandled) (hl : length < 2 ^ 63) :
    readBody length P o =
      ({ o with stream.fullPayloadHandled := false, stream.bytesOut := o.stream.bytesOut + length },
        .Length length false false) := by
  have hs := sizeSub_of_le (a := P) (b := o.stream.payloadHandled) hh (by omega)
  have hc := toCInt_of_ge hw (by omega)
  have hz := toSizeT_of_neg (x := P - o.stream.payloadHandled) (by omega)
  simp only [readBody, hs, hc, QD_ADAPTOR_MAX_BUFFER_SIZE]
  rw [if_pos (by omega), if_pos (by omega)]

end Round

theorem tailRoom_pos (t : Nat) : 0 < if t = 0 then QD_ADAPTOR_MAX_BUFFER_SIZE else t := by
  split
  · decide
  · omega

-- The copy loop of `send_data_callback` on an iterator holding at least `n` bytes: every pass
-- copies at least one byte, so it ends within `n + 1` passes, having copied the next `n` bytes.
theorem copyLoop_of_le (passes n t : Nat) (rest : Bytes) (hp : n < passes) (ht : 0 < t)
    (hr : n ≤ rest.length) : copyLoop passes n t rest = .done (rest.take n, rest.drop n) := by
  induction passes generalizing n t rest with
  | zero => omega
  | succ passes ih =>
    by_cases h0 : n = 0
    · subst h0; simp [copyLoop]
    · have hlen : min (min t n) rest.length ≠ 0 := by omega
      have hle : min (min t n) rest.length ≤ n := by omega
      simp only [copyLoop, h0, hlen, if_false]
      rw [ih _ _ _ (by omega) (tailRoom_pos _) (by simp only [List.length_drop]; omega)]
      simp only [Outcome.done_bind, ← List.take_add, List.drop_drop, Nat.add_sub_cancel' hle,
        Nat.sub_add_cancel hle]

-- `send_data_callback` for `n ≥ 1` bytes of an iterator that holds them: one DATA frame of the
-- iterator's next `n` bytes, with the iterator moved past them.
theorem sendDataCallback_body (n t : Nat) (e : Bool) (o : Outgoing) (w : Window) (rest : Bytes)
    (hi : o.stream.currStreamDataIter = some ⟨w, rest⟩) (hn : 0 < n) (hr : n ≤ rest.length) :
    sendDataCallback n t e o = .done (finishDataFrame n
      ({ o with stream.currStreamDataIter := some ⟨w, rest.drop n⟩ }.emit
        (.Write (.Data (rest.take n) e)))) := by
  have hl : (rest.take n).length = n := by simp; omega
  simp only [sendDataCallback, writeDataFrame, Nat.pos_iff_ne_zero.mp hn, if_false, hi,
    copyLoop_of_le (n + 1) n _ rest (Nat.lt_succ_self n) (tailRoom_pos t) hr,
    Outcome.done_bind, Outcome.bind, hl]

theorem finishDataFrame_unfinished (n : Nat) (o : Outgoing)
    (hf : o.stream.fullPayloadHandled = false) :
    finishDataFrame n o = { o with stream.payloadHandled := o.stream.payloadHandled + n } := by
  simp [finishDataFrame, hf]

theorem finishDataFrame_finished (n : Nat) (o : Outgoing) (w : Window)
    (hf : o.stream.fullPayloadHandled = true) (hc : o.stream.currStreamData = some w)
    (hr : o.stream.currStreamDataResult = .BodyOk) :
    (finishDataFrame n o).stream.payloadHandled = 0 ∧
      (finishDataFrame n o).stream.currStreamData = none ∧
      (finishDataFrame n o).log = o.log ++ [.StreamDataRelease w] := by
  simp [finishDataFrame, hf, hc, hr, Outgoing.release, Outgoing.emit]

-- The loop body of `pullData`: a read that hands out bytes, then their DATA frame.
theorem pullData_cons_of_read {r : CodecRead} {rs : List CodecRead} {o o1 o2 : Outgoing} {n : Nat}
    {eof : Bool} (h1 : readDataCallback r o = .done (o1, .Length n eof false))
    (h2 : sendDataCallback n r.tailRoom eof o1 = .done o2) :
    pullData (r :: rs) o = (if eof then .done (o2, .Ended) else pullData rs o2) := by
  simp only [pullData, CodecRead.within_none, h1, Outcome.done_bind, Bool.false_eq_true, and_false,
    if_false, Bool.not_false, Bool.and_true, h2, Option.map_none']

section Rounds

variable {r : CodecRead} {i : Nat} {p : Bytes} {h : Nat} {o : Outgoing}

theorem bodyReadLength_pos (hb : BodyInProgress i p h o) (hr : 0 < r.length) :
    0 < bodyReadLength r.length p.length h := by
  have := hb.lt
  unfold bodyReadLength QD_ADAPTOR_MAX_BUFFER_SIZE; omega

theorem bodyReadLength_le : bodyReadLength r.length p.length h ≤ (p.drop h).length := by
  simp only [bodyReadLength, List.length_drop]; omega

-- A round that leaves bytes of the section over: the section goes on from byte `h + n`.
theorem bodyRound_unfinished (hb : BodyInProgress i p h o) (h32 : p.length < 2 ^ 32)
    (hP : p.length - h < 2 ^ 31) (hr : 0 < r.length) (hc : 0 < r.capacity)
    (hu : h + bodyReadLength r.length p.length h < p.length) :
    ∃ o1 o2,
      readDataCallback r o = .done (o1, .Length (bodyReadLength r.length p.length h) false false) ∧
      o1.stream.fullPayloadHandled = false ∧
      sendDataCallback (bodyReadLength r.length p.length h) r.tailRoom false o1 = .done o2 ∧
      BodyInProgress i p (h + bodyReadLength r.length p.length h) o2 ∧
      o2.log = o.log ++
        [.Write (.Data ((p.drop h).take (bodyReadLength r.length p.length h)) false)] := by
  have hrb := readBody_unfinished r.length p.length o h32 (by rw [hb.handled]; exact hP)
    (by rw [hb.handled]; exact hu)
  rw [hb.handled] at hrb
  have hsend := sendDataCallback_body _ r.tailRoom false (o := { o with
    stream.fullPayloadHandled := false,
    stream.bytesOut := o.stream.bytesOut + bodyReadLength r.length p.length h }) _ _ hb.iter
    (bodyReadLength_pos hb hr) bodyReadLength_le
  refine ⟨_, _, by rw [readDataCallback_body r hb hc, hrb], rfl, hsend, ?_, rfl⟩
  rw [finishDataFrame_unfinished _ _ rfl]
  refine ⟨hb.depth, hb.current, ?_, hb.result, hb.noNext, hb.noLatch, ?_, hu⟩
  · simp only [List.drop_drop, hb.iter]; rfl
  · simp only [hb.handled]; rfl

-- The round that hands out the rest of the section: its window is released and
-- `payload_handled` is back to 0.
theorem bodyRound_finished (hb : BodyInProgress i p h o) (h32 : p.length < 2 ^ 32)
    (hP : p.length - h < 2 ^ 31) (hr : 0 < r.length) (hc : 0 < r.capacity)
    (hf : h + bodyReadLength r.length p.length h = p.length) :
    ∃ o1 eof o2,
      readDataCallback r o = .done (o1, .Length (bodyReadLength r.length p.length h) eof false) ∧
      o1.stream.fullPayloadHandled = true ∧
      sendDataCallback (bodyReadLength r.length p.length h) r.tailRoom eof o1 = .done o2 ∧
      o2.stream.payloadHandled = 0 ∧ o2.stream.currStreamData = none ∧
      o2.log = o.log ++ [.Write (.Data (p.drop h) eof), .StreamDataRelease ⟨i, .Body p⟩] := by
  obtain ⟨o1, eof, hrb, hfull, hcur, hiter, hres, hlog⟩ := readBody_finished r.length p.length o
    (by rw [hb.handled]; exact hb.lt) h32 (by rw [hb.handled]; exact hP)
    (by rw [hb.handled]; exact hf)
  rw [hb.handled] at hrb
  have hsend := sendDataCallback_body _ r.tailRoom eof o1 _ _ (hiter.trans hb.iter)
    (bodyReadLength_pos hb hr) bodyReadLength_le
  obtain ⟨hph, hcd, hl⟩ := finishDataFrame_finished (bodyReadLength r.length p.length h)
    ({ o1 with stream.currStreamDataIter := some ⟨⟨i, .Body p⟩,
        (p.drop h).drop (bodyReadLength r.length p.length h)⟩ }.emit
      (.Write (.Data ((p.drop h).take (bodyReadLength r.length p.length h)) eof)))
    ⟨i, .Body p⟩ hfull (hcur.trans hb.current) (hres.trans hb.result)
  have htake : (p.drop h).take (bodyReadLength r.length p.length h) = p.drop h :=
    List.take_of_length_le (by simp only [List.length_drop]; omega)
  refine ⟨o1, eof, _, by rw [readDataCallback_body r hb hc, hrb], hfull, hsend, hph, hcd, ?_⟩
  rw [hl]
  simp [Outgoing.emit, hlog, htake]

end Rounds

-- One read and send round on the body section `p`, `h` bytes of it handed out, where `P - h`
-- fits in an `int`: `remaining_payload_length` holds `P - h`; the read hands out
-- `n = min (requested, 16384, P - h) ≥ 1` bytes and sets `full_payload_handled` exactly when
-- `h + n = P`; the send copies the section's next `n` bytes into one DATA frame. Unfinished, the
-- section goes on from byte `h + n`; finished, its window is released and `payload_handled` is 0.
theorem pullData_body_round (r : CodecRead) (rs : List CodecRead) (i : Nat) (p : Bytes) (h : Nat)
    (o : Outgoing) (hb : BodyInProgress i p h o) (h32 : p.length < 2 ^ 32) (hP : p.length - h < 2 ^ 31)
    (hr : 0 < r.length) (hc : 0 < r.capacity) :
    toCInt (sizeSub p.length h) = (p.length - h : Nat) ∧ 0 < bodyReadLength r.length p.length h ∧
      ∃ o1 eof, readDataCallback r o = .done (o1, .Length (bodyReadLength r.length p.length h) eof false) ∧
        o1.stream.fullPayloadHandled = decide (h + bodyReadLength r.length p.length h = p.length) ∧
        ∃ o2, sendDataCallback (bodyReadLength r.length p.length h) r.tailRoom eof o1 = .done o2 ∧
          pullData (r :: rs) o = (if eof then .done (o2, .Ended) else pullData rs o2) ∧
          if h + bodyReadLength r.length p.length h < p.length then
            eof = false ∧ BodyInProgress i p (h + bodyReadLength r.length p.length h) o2 ∧
              o2.log = o.log ++ [.Write (.Data ((p.drop h).take (bodyReadLength r.length p.length h)) false)]
          else o2.stream.payloadHandled = 0 ∧ o2.stream.currStreamData = none ∧
            o2.log = o.log ++ [.Write (.Data (p.drop h) eof), .StreamDataRelease ⟨i, .Body p⟩] := by
  refine ⟨by rw [sizeSub_of_le (Nat.le_of_lt hb.lt) (by omega), toCInt_of_lt hP],
    bodyReadLength_pos hb hr, ?_⟩
  by_cases hu : h + bodyReadLength r.length p.length h < p.length
  · obtain ⟨o1, o2, hread, hfull, hsend, hb2, hlog⟩ := bodyRound_unfinished hb h32 hP hr hc hu
    refine ⟨o1, false, hread, by rw [hfull, decide_eq_false (Nat.ne_of_lt hu)], o2, hsend,
      pullData_cons_of_read hread hsend, ?_⟩
    rw [if_pos hu]
    exact ⟨rfl, hb2, hlog⟩
  · have hf : h + bodyReadLength r.length p.length h = p.length := by
      have := hb.lt
      simp only [bodyReadLength] at hu ⊢; omega
    obtain ⟨o1, eof, o2, hread, hfull, hsend, hph, hcd, hlog⟩ :=
      bodyRound_finished hb h32 hP hr hc hf
    refine ⟨o1, eof, hread, by rw [hfull, decide_eq_true hf], o2, hsend,
      pullData_cons_of_read hread hsend, ?_⟩
    rw [if_neg hu]
    exact ⟨hph, hcd, hlog⟩

theorem pullData_body_round_mid_section :
    let p : Bytes := [1, 2, 3, 4, 5]
    let o : Outgoing := ⟨{ createQdrHttp2StreamData 1 "flow" with
        outDlv := some 9, currStreamData := some ⟨0, .Body p⟩,
        currStreamDataIter := some ⟨⟨0, .Body p⟩, p.drop 2⟩, payloadHandled := 2 },
      ⟨[], [.Body p], true, .Ok, 1, false, none⟩, []⟩
    let r : CodecRead := ⟨2, 1, 100⟩
    BodyInProgress 0 p 2 o ∧ p.length < 2 ^ 32 ∧ p.length - 2 < 2 ^ 31 ∧ 0 < r.length ∧
      0 < r.capacity ∧
      (toCInt (sizeSub p.length 2) = (p.length - 2 : Nat) ∧ 0 < bodyReadLength r.length p.length 2 ∧
        ∃ o1 eof, readDataCallback r o = .done (o1, .Length (bodyReadLength r.length p.length 2) eof false) ∧
          o1.stream.fullPayloadHandled = decide (2 + bodyReadLength r.length p.length 2 = p.length) ∧
          ∃ o2, sendDataCallback (bodyReadLength r.length p.length 2) r.tailRoom eof o1 = .done o2 ∧
            pullData [r] o = (if eof then .done (o2, .Ended) else pullData [] o2) ∧
            if 2 + bodyReadLength r.length p.length 2 < p.length then
              eof = false ∧ BodyInProgress 0 p (2 + bodyReadLength r.length p.length 2) o2 ∧
                o2.log = o.log ++ [.Write (.Data ((p.drop 2).take (bodyReadLength r.length p.length 2)) false)]
            else o2.stream.payloadHandled = 0 ∧ o2.stream.currStreamData = none ∧
              o2.log = o.log ++ [.Write (.Data (p.drop 2) eof), .StreamDataRelease ⟨0, .Body p⟩]) :=
  have hb : BodyInProgress 0 [1, 2, 3, 4, 5] 2 _ := ⟨rfl, rfl, rfl, rfl, rfl, by decide, rfl, by decide⟩
  ⟨hb, by decide, by decide, by decide, by decide,
    pullData_body_round ⟨2, 1, 100⟩ [] 0 _ 2 _ hb (by decide) (by decide) (by decide) (by decide)⟩

-- The bytes a schedule of rounds hands out while the section stays unfinished:
-- `min (length, 16384)` a round.
@[simp] def unfinishedRoundsLength : List CodecRead → Nat
  | [] => 0
  | r :: rs => min r.length QD_ADAPTOR_MAX_BUFFER_SIZE + unfinishedRoundsLength rs

-- Over every schedule of rounds that leaves a section of fewer than 2^31 bytes unfinished, each
-- round hands out `min (requested, 16384)` bytes in one DATA frame, the frames are the section's
-- bytes from `payload_handled` on, in order, and the section is still in progress after them.
theorem pullData_body_rounds (i : Nat) (p : Bytes) (hP : p.length < 2 ^ 31) (rs rest : List CodecRead) :
    ∀ (h : Nat) (o : Outgoing), BodyInProgress i p h o → (∀ r ∈ rs, 0 < r.length ∧ 0 < r.capacity) →
      h + unfinishedRoundsLength rs < p.length →
      ∃ (o' : Outgoing) (chunks : List Bytes), pullData (rs ++ rest) o = pullData rest o' ∧
        BodyInProgress i p (h + unfinishedRoundsLength rs) o' ∧
        o'.log = o.log ++ chunks.map (fun d => .Write (.Data d false)) ∧
        chunks.map List.length = rs.map (fun r => min r.length QD_ADAPTOR_MAX_BUFFER_SIZE) ∧
        chunks.flatten = (p.drop h).take (unfinishedRoundsLength rs) := by
  induction rs with
  | nil => exact fun h o hb _ _ => ⟨o, [], rfl, by simpa using hb, by simp, rfl, by simp⟩
  | cons r rs ih =>
    intro h o hb hrs hsum
    obtain ⟨hr, hc⟩ := hrs r (List.mem_cons_self _ _)
    simp only [unfinishedRoundsLength, List.map_cons] at hsum ⊢
    have hn : bodyReadLength r.length p.length h = min r.length QD_ADAPTOR_MAX_BUFFER_SIZE := by
      unfold bodyReadLength QD_ADAPTOR_MAX_BUFFER_SIZE at *; omega
    obtain ⟨o1, o2, hread, -, hsend, hb2, hlog2⟩ :=
      bodyRound_unfinished (r := r) hb (by omega) (by omega) hr hc (by rw [hn]; omega)
    rw [hn] at hread hsend hb2 hlog2
    obtain ⟨o', chunks, hrun, hb', hlog', hlen', hjoin'⟩ :=
      ih (h + min r.length QD_ADAPTOR_MAX_BUFFER_SIZE) o2 hb2
        (fun r' hr' => hrs r' (List.mem_cons_of_mem r hr')) (by omega)
    refine ⟨o', (p.drop h).take (min r.length QD_ADAPTOR_MAX_BUFFER_SIZE) :: chunks,
      ?_, ?_, ?_, ?_, ?_⟩
    · rw [List.cons_append, pullData_cons_of_read hread hsend, if_neg Bool.false_ne_true, hrun]
    · rwa [← Nat.add_assoc]
    · rw [hlog', hlog2, List.map_cons, List.append_assoc, List.singleton_append]
    · rw [List.map_cons, hlen', List.length_take, List.length_drop, Nat.min_eq_left (by omega)]
    · rw [List.flatten_cons, hjoin', List.take_add, List.drop_drop]

theorem pullData_body_rounds_two_of_five :
    let p : Bytes := [1, 2, 3, 4, 5]
    let o : Outgoing := ⟨{ createQdrHttp2StreamData 1 "flow" with
        outDlv := some 9, currStreamData := some ⟨0, .Body p⟩,
        currStreamDataIter := some ⟨⟨0, .Body p⟩, p⟩ },
      ⟨[], [.Body p], true, .Ok, 1, false, none⟩, []⟩
    let rs : List CodecRead := [⟨2, 1, 100⟩]
    p.length < 2 ^ 31 ∧ BodyInProgress 0 p 0 o ∧ (∀ r ∈ rs, 0 < r.length ∧ 0 < r.capacity) ∧
      0 + unfinishedRoundsLength rs < p.length ∧
      ∃ (o' : Outgoing) (chunks : List Bytes), pullData (rs ++ []) o = pullData [] o' ∧
        BodyInProgress 0 p (0 + unfinishedRoundsLength rs) o' ∧
        o'.log = o.log ++ chunks.map (fun d => .Write (.Data d false)) ∧
        chunks.map List.length = rs.map (fun r => min r.length QD_ADAPTOR_MAX_BUFFER_SIZE) ∧
        chunks.flatten = (p.drop 0).take (unfinishedRoundsLength rs) :=
  have hb : BodyInProgress 0 [1, 2, 3, 4, 5] 0 _ := ⟨rfl, rfl, rfl, rfl, rfl, by decide, rfl, by decide⟩
  ⟨by decide, hb, by decide, by decide,
    pullData_body_rounds 0 _ (by decide) [⟨2, 1, 100⟩] [] 0 _ hb (by decide) (by decide)⟩

-- A body section of 2^31 bytes: `remaining_payload_length` wraps to -2^31, the
-- `<= QD_ADAPTOR_MAX_BUFFER_SIZE` branch is taken, and `length < remaining_payload_length`
-- compares with `(size_t) -2^31`. The read hands out all 20000 bytes the codec asks for, above
-- the 16 KiB bound, with `full_payload_handled` clear.
theorem readDataCallback_section_of_two_gib :
    let w : Window := ⟨0, .Body (List.replicate (2 ^ 31) 0)⟩
    let o : Outgoing := ⟨{ createQdrHttp2StreamData 1 "flow" with
        outDlv := some 9, currStreamData := some w,
        currStreamDataIter := some (qdMessageStreamDataIterator w) },
      ⟨[⟨QD_AP_FLOW_ID, "flow"⟩], [w.item], true, .Ok, 1, false, none⟩, []⟩
    toCInt (sizeSub (qdMessageStreamDataPayloadLength w) o.stream.payloadHandled) = -2 ^ 31 ∧
      ∃ o', readDataCallback ⟨20000, 1, 100⟩ o = .done (o', .Length 20000 false false) ∧
        o'.stream.fullPayloadHandled = false := by
  intro w o
  have hl : qdMessageStreamDataPayloadLength w = 2 ^ 31 := List.length_replicate _ _
  have hb : BodyInProgress 0 (List.replicate (2 ^ 31) 0) 0 o :=
    ⟨rfl, rfl, rfl, rfl, rfl, by decide, rfl,
      by rw [List.length_replicate]; exact Nat.two_pow_pos 31⟩
  have h0 : o.stream.payloadHandled = 0 := rfl
  rw [hl, readDataCallback_body _ hb (by decide), List.length_replicate,
    readBody_wrapped _ _ o (by omega) (by decide) (by rw [h0]; decide) (by decide),
    sizeSub_of_le (by omega) (by decide), toCInt_of_ge (by omega) (by omega), h0]
  exact ⟨by decide, _, rfl, rfl⟩

end SkupperRouter.Http2
