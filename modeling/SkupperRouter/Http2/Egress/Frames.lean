import SkupperRouter.Http2.Egress.Headers
import SkupperRouter.Http2.Egress.Payload

namespace SkupperRouter.Http2

-- The stream-data sections of a complete message: its body sections, then its footer.
def messageItems (ps : List Bytes) (footer : Option (List Field)) : List StreamItem :=
  ps.map .Body ++ footer.toList.map .Footer

-- The DATA frames of one body section cut into the chunks `cs`, END_STREAM on the last one
-- when `es`.
def dataFrames (es : Bool) : List Bytes → List Effect
  | [] => []
  | c :: cs => .Write (.Data c (es && cs.isEmpty)) :: dataFrames es cs

-- The body sections, the `i`-th first, each sent as the DATA frames of its chunks and released
-- once sent; END_STREAM on the last frame of the last section when `es`.
def bodyLog (i : Nat) (es : Bool) : List (List Bytes) → List Effect
  | [] => []
  | cs :: css =>
    dataFrames (es && css.isEmpty) cs ++ [.StreamDataRelease ⟨i, .Body cs.flatten⟩] ++
      bodyLog (i + 1) es css

-- What `handle_outgoing_http` writes and releases for a complete message whose body sections
-- are cut into the chunks `css`: HEADERS, then the DATA frames with END_STREAM on the last
-- one; or, with a footer, the trailers with END_STREAM after the last DATA frame.
def sentLog (hdrs : List Field) (css : List (List Bytes)) : Option (List Field) → List Effect
  | none =>
    .Write (.Headers hdrs false) :: if css = [] then [.Write (.Data [] true)] else bodyLog 0 true css
  | some f =>
    .Write (.Headers hdrs false) :: (bodyLog 0 false css ++
      [.Write (.Headers f true), .StreamDataRelease ⟨css.length, .Footer f⟩])

section Lookahead

variable {m : OutMessage}

theorem qdMessageNextStreamData_body {q : Bytes} (h : m.items[m.cursor]? = some (.Body q)) :
    qdMessageNextStreamData m =
      (.BodyOk, some ⟨m.cursor, .Body q⟩, { m with cursor := m.cursor + 1 }) := by
  simp [qdMessageNextStreamData, h]

theorem qdMessageNextStreamData_footer {f : List Field} (h : m.items[m.cursor]? = some (.Footer f)) :
    qdMessageNextStreamData m =
      (.FooterOk, some ⟨m.cursor, .Footer f⟩, { m with cursor := m.cursor + 1 }) := by
  simp [qdMessageNextStreamData, h]

theorem qdMessageNextStreamData_end (h : m.items[m.cursor]? = none) (hc : m.receiveComplete = true) :
    qdMessageNextStreamData m = (.NoMore, none, m) := by
  simp [qdMessageNextStreamData, h, hc]

end Lookahead

-- The message beyond the current section: the cursor stands at section `j`, what is left is the
-- body sections `ps` then the footer, the message is complete, and the stream has seen neither a
-- footer nor the end of its body.
structure Pending (j : Nat) (ps : List Bytes) (footer : Option (List Field)) (o : Outgoing) :
    Prop where
  cursor : o.message.cursor = j
  items : o.message.items.drop j = messageItems ps footer
  complete : o.message.receiveComplete = true
  hasBody : o.stream.outMsgHasBody = true
  noFooter : o.stream.outMsgHasFooter = false
  noEof : o.stream.outMsgDataFlagEof = false

section Rounds

variable {i j : Nat} {p q : Bytes} {h : Nat} {o : Outgoing} {ps : List Bytes}
  {footer : Option (List Field)}

-- A round that leaves bytes of the section over, as `pullData` runs it.
theorem pullData_round_unfinished (r : CodecRead) (rs : List CodecRead)
    (hb : BodyInProgress i p h o) (hP : p.length < 2 ^ 31) (hr : 0 < r.length) (hc : 0 < r.capacity)
    (hu : h + bodyReadLength r.length p.length h < p.length) :
    ∃ o2, pullData (r :: rs) o = pullData rs o2 ∧
      BodyInProgress i p (h + bodyReadLength r.length p.length h) o2 ∧
      o2.log = o.log ++ [.Write (.Data ((p.drop h).take (bodyReadLength r.length p.length h)) false)] ∧
      ∀ k qs f, Pending k qs f o → Pending k qs f o2 := by
  have hrb := readBody_unfinished r.length p.length o (by omega) (by rw [hb.handled]; omega)
    (by rw [hb.handled]; exact hu)
  rw [hb.handled] at hrb
  have hsend := sendDataCallback_body _ r.tailRoom false { o with
    stream.fullPayloadHandled := false,
    stream.bytesOut := o.stream.bytesOut + bodyReadLength r.length p.length h } _ _ hb.iter
    (bodyReadLength_pos hb hr) bodyReadLength_le
  rw [finishDataFrame_unfinished _ _ rfl] at hsend
  refine ⟨_, (pullData_cons_of_read (by rw [readDataCallback_body r hb hc, hrb]) hsend).trans
    (if_neg Bool.false_ne_true), ⟨hb.depth, hb.current, ?_, hb.result, hb.noNext, hb.noLatch, ?_, hu⟩,
    rfl, fun _ _ _ hp => ⟨hp.cursor, hp.items, hp.complete, hp.hasBody, hp.noFooter, hp.noEof⟩⟩
  · simp only [List.drop_drop, hb.iter]; rfl
  · simp only [hb.handled]; rfl

theorem pullData_takeStreamData {k : Nat} (rs : List CodecRead) (hd : o.message.depth = .Ok)
    (hb : BodyInProgress j q k (takeStreamData o)) :
    pullData rs o = pullData rs (takeStreamData o) := by
  cases rs with
  | nil => rfl
  | cons r rs => simp only [pullData, readDataCallback, hd, hb.depth, takeStreamData_of_body hb]

-- The state a section ends in, seen through the next read's `takeStreamData`.
theorem exists_takeStreamData {Q : Outgoing → Prop} {k : Nat} (rs : List CodecRead) (o3 : Outgoing)
    (hd : o3.message.depth = .Ok) (hbq : BodyInProgress j q k (takeStreamData o3))
    (hq : Q (takeStreamData o3)) :
    ∃ o', pullData rs o3 = pullData rs o' ∧ BodyInProgress j q k o' ∧ Q o' :=
  ⟨_, pullData_takeStreamData rs hd hbq, hbq, hq⟩

-- The fits of the read that hands out the rest of a section of fewer than 2^31 bytes.
theorem last_read_fits {length : Nat} (hb : BodyInProgress i p h o) (hP : p.length < 2 ^ 31)
    (hf : h + bodyReadLength length p.length h = p.length) :
    toCInt (sizeSub p.length o.stream.payloadHandled) = (p.length - h : Nat) ∧
      ((p.length - h : Nat) : Int) ≤ (QD_ADAPTOR_MAX_BUFFER_SIZE : Nat) ∧
      toSizeT (p.length - h : Nat) = p.length - h ∧ ¬length < p.length - h := by
  have hlt := hb.lt
  unfold bodyReadLength QD_ADAPTOR_MAX_BUFFER_SIZE at hf
  rw [hb.handled, sizeSub_of_le (Nat.le_of_lt hlt) (by omega), toCInt_of_lt (by omega),
    toSizeT_natCast (by omega)]
  unfold QD_ADAPTOR_MAX_BUFFER_SIZE
  omega

theorem pullData_round_next_section (r : CodecRead) (rs : List CodecRead)
    (hb : BodyInProgress i p h o) (hpend : Pending (i + 1) (q :: ps) footer o) (hq : 0 < q.length)
    (hP : p.length < 2 ^ 31) (hc : 0 < r.capacity)
    (hf : h + bodyReadLength r.length p.length h = p.length) :
    ∃ o', pullData (r :: rs) o = pullData rs o' ∧ BodyInProgress (i + 1) q 0 o' ∧
      Pending (i + 2) ps footer o' ∧
      o'.log = o.log ++ [.Write (.Data (p.drop h) false), .StreamDataRelease ⟨i, .Body p⟩] := by
  have hm : o.message.items[o.message.cursor]? = some (.Body q) := by
    rw [hpend.cursor, ← List.head?_drop, hpend.items]; rfl
  obtain ⟨h1, h2, h3, h4⟩ := last_read_fits hb hP hf
  have hread : readDataCallback r o = .done ({ o with
      message := { o.message with cursor := o.message.cursor + 1 },
      stream.fullPayloadHandled := true, stream.nextStreamDataResult := .BodyOk,
      stream.nextStreamData := some ⟨o.message.cursor, .Body q⟩,
      stream.bytesOut := o.stream.bytesOut + (p.length - h) }, .Length (p.length - h) false false) := by
    rw [readDataCallback_body r hb hc]
    simp only [readBody, h1, if_pos h2, h3, if_neg h4, Outgoing.lookAhead,
      qdMessageNextStreamData_body hm]
  rw [pullData_cons_of_read hread (sendDataCallback_body _ _ _ _ _ _ hb.iter
    (by have := hb.lt; omega) (by simp)), if_neg Bool.false_ne_true]
  refine exists_takeStreamData rs _ (by simp [hb.depth]) ?_ ⟨?_, ?_⟩
  · constructor <;> simp [takeStreamData, finishDataFrame, hb.current, hb.result, Outgoing.release,
      Outgoing.emit, hb.depth, hpend.cursor, qdMessageStreamDataIterator, Window.payload, hq]
  · have hi2 : o.message.items.drop (i + 2) = messageItems ps footer := by
      rw [← List.tail_drop, hpend.items]; rfl
    constructor <;> simp [takeStreamData, finishDataFrame, hb.current, hb.result, Outgoing.release,
      Outgoing.emit, hpend.cursor, hpend.complete, hpend.hasBody, hpend.noFooter, hpend.noEof, hi2]
  · simp [takeStreamData, finishDataFrame, hb.current, hb.result, Outgoing.release, Outgoing.emit]

-- The read that hands out the rest of the last body section of a message without footer looks
-- ahead to NO_MORE: its DATA frame carries END_STREAM and the codec's item ends.
theorem pullData_round_end (r : CodecRead) (rs : List CodecRead)
    (hb : BodyInProgress i p h o) (hpend : Pending (i + 1) [] none o) (hP : p.length < 2 ^ 31)
    (hc : 0 < r.capacity) (hf : h + bodyReadLength r.length p.length h = p.length) :
    ∃ o', pullData (r :: rs) o = .done (o', .Ended) ∧
      o'.log = o.log ++ [.Write (.Data (p.drop h) true), .StreamDataRelease ⟨i, .Body p⟩] ∧
      o'.stream.outMsgHasBody = true ∧ o'.stream.outMsgHasFooter = false ∧
      o'.stream.outMsgBodySent = true := by
  have hm : o.message.items[o.message.cursor]? = none := by
    rw [hpend.cursor, ← List.head?_drop, hpend.items]; rfl
  obtain ⟨h1, h2, h3, h4⟩ := last_read_fits hb hP hf
  have hread : readDataCallback r o = .done ({ o with
      stream.fullPayloadHandled := true, stream.nextStreamDataResult := .NoMore,
      stream.nextStreamData := none, stream.outMsgDataFlagEof := true, stream.outMsgBodySent := true,
      stream.outDlvLocalDisposition := PN_ACCEPTED,
      stream.bytesOut := o.stream.bytesOut + (p.length - h) }, .Length (p.length - h) true false) := by
    rw [readDataCallback_body r hb hc]
    simp only [readBody, h1, if_pos h2, h3, if_neg h4, Outgoing.lookAhead,
      qdMessageNextStreamData_end hm hpend.complete]
  rw [pullData_cons_of_read hread (sendDataCallback_body _ _ _ _ _ _ hb.iter
    (by have := hb.lt; omega) (by simp)), if_pos rfl]
  refine ⟨_, rfl, ?_, ?_, ?_, ?_⟩ <;>
    simp [finishDataFrame, hb.current, hb.result, Outgoing.release, Outgoing.emit, hpend.hasBody,
      hpend.noFooter]

-- The read that hands out the rest of the last body section of a message with a footer looks
-- ahead to FOOTER_OK; the next read takes the footer's window to `footer_stream_data`, and the
-- one after it finds NO_MORE and sets EOF with NO_END_STREAM, which ends the item with no frame.
theorem pullData_round_footer {f : List Field} (r r1 r2 : CodecRead) (rs : List CodecRead)
    (hb : BodyInProgress i p h o) (hpend : Pending (i + 1) [] (some f) o) (hP : p.length < 2 ^ 31)
    (hc : 0 < r.capacity) (hc2 : 0 < r2.capacity)
    (hf : h + bodyReadLength r.length p.length h = p.length) :
    ∃ o', pullData (r :: r1 :: r2 :: rs) o = .done (o', .Ended) ∧
      o'.log = o.log ++ [.Write (.Data (p.drop h) false), .StreamDataRelease ⟨i, .Body p⟩] ∧
      o'.stream.footerStreamData = some ⟨i + 1, .Footer f⟩ ∧
      o'.stream.footerStreamDataIter = some ⟨⟨i + 1, .Footer f⟩, []⟩ ∧
      o'.stream.currStreamData = none ∧ o'.stream.nextStreamData = none ∧
      o'.stream.outMsgHasBody = true ∧ o'.stream.outMsgHasFooter = true ∧
      o'.stream.outMsgBodySent = true := by
  have hm : o.message.items[o.message.cursor]? = some (.Footer f) := by
    rw [hpend.cursor, ← List.head?_drop, hpend.items]; rfl
  have hm2 : o.message.items[i + 1 + 1]? = none := by
    rw [← List.head?_drop, ← List.tail_drop, hpend.items]; rfl
  obtain ⟨h1, h2, h3, h4⟩ := last_read_fits hb hP hf
  have hread : readDataCallback r o = .done ({ o with
      message := { o.message with cursor := o.message.cursor + 1 },
      stream.fullPayloadHandled := true, stream.nextStreamDataResult := .FooterOk,
      stream.nextStreamData := some ⟨o.message.cursor, .Footer f⟩, stream.outMsgHasFooter := true,
      stream.outMsgBodySent := true,
      stream.bytesOut := o.stream.bytesOut + (p.length - h) }, .Length (p.length - h) false false) := by
    rw [readDataCallback_body r hb hc]
    simp only [readBody, h1, if_pos h2, h3, if_neg h4, Outgoing.lookAhead,
      qdMessageNextStreamData_footer hm]
  rw [pullData_cons_of_read hread (sendDataCallback_body _ _ _ _ _ _ hb.iter
    (by have := hb.lt; omega) (by simp)), if_neg Bool.false_ne_true]
  simp [pullData, readDataCallback, hb.depth, takeStreamData, finishDataFrame, hb.current, hb.result,
    Outgoing.release, Outgoing.emit, readStreamData, readFooter, sendDataCallback, writeDataFrame,
    qdMessageNextStreamData_end, hm2, hpend.complete, qdMessageStreamDataIterator, Window.payload,
    Nat.pos_iff_ne_zero.mp hc2, hpend.cursor, hpend.hasBody, hpend.noEof, Outcome.bind]

@[simp] theorem dataFrames_false (cs : List Bytes) :
    dataFrames false cs = cs.map fun c => .Write (.Data c false) := by
  induction cs with
  | nil => rfl
  | cons c cs ih => simp [dataFrames, ih]

theorem bodyReadLength_le_max (length P h : Nat) :
    bodyReadLength length P h ≤ QD_ADAPTOR_MAX_BUFFER_SIZE := by
  unfold bodyReadLength; omega

-- The rounds of a section before the one that hands out its last bytes: each hands out one
-- chunk of at most 16 KiB, the section stays in progress, and the reads left keep up with the
-- bytes left.
theorem pullData_rounds_to_last (hP : p.length < 2 ^ 31) (extra : Nat) :
    ∀ (rs : List CodecRead) (h : Nat) (o : Outgoing), BodyInProgress i p h o →
      Pending j ps footer o → (∀ r ∈ rs, 0 < r.length ∧ 0 < r.capacity) →
      p.length - h + extra ≤ rs.length →
      ∃ (cs : List Bytes) (h' : Nat) (r : CodecRead) (rest : List CodecRead) (o' : Outgoing),
        pullData rs o = pullData (r :: rest) o' ∧ BodyInProgress i p h' o' ∧ Pending j ps footer o' ∧
        h' + bodyReadLength r.length p.length h' = p.length ∧
        (∀ r' ∈ r :: rest, 0 < r'.length ∧ 0 < r'.capacity) ∧ p.length - h' + extra ≤ rest.length + 1 ∧
        o'.log = o.log ++ cs.map (fun c => .Write (.Data c false)) ∧
        cs.flatten ++ p.drop h' = p.drop h ∧
        ∀ c ∈ cs, 0 < c.length ∧ c.length ≤ QD_ADAPTOR_MAX_BUFFER_SIZE := by
  intro rs
  induction rs with
  | nil => intro h o hb _ _ hlen; have := hb.lt; simp at hlen; omega
  | cons r rs ih =>
    intro h o hb hp hpos hlen
    obtain ⟨hr, hc⟩ := hpos r (List.mem_cons_self _ _)
    have hn := bodyReadLength_pos hb hr
    have hle : bodyReadLength r.length p.length h ≤ p.length - h := by
      unfold bodyReadLength; omega
    by_cases hu : h + bodyReadLength r.length p.length h < p.length
    · obtain ⟨o2, hrun, hb2, hlog2, hp2⟩ := pullData_round_unfinished r rs hb hP hr hc hu
      obtain ⟨cs, h', r', rest, o', hrun', hb', hp', hfin, hpos', hlen', hlog', hflat, hsz⟩ :=
        ih _ o2 hb2 (hp2 _ _ _ hp) (fun r' hr' => hpos r' (List.mem_cons_of_mem r hr'))
          (by simp at hlen; omega)
      refine ⟨(p.drop h).take (bodyReadLength r.length p.length h) :: cs, h', r', rest, o',
        hrun.trans hrun', hb', hp', hfin, hpos', hlen', by simp [hlog', hlog2], ?_, ?_⟩
      · rw [List.flatten_cons, List.append_assoc, hflat, ← List.drop_drop, List.take_append_drop]
      · intro c hc'
        rcases List.mem_cons.mp hc' with rfl | hc'
        · have := bodyReadLength_le_max r.length p.length h
          simp only [List.length_take, List.length_drop]; omega
        · exact hsz c hc'
    · exact ⟨[], h, r, rs, o, rfl, hb, hp, by omega, hpos, hlen, by simp, by simp, by simp⟩

theorem dataFrames_append_singleton (es : Bool) (cs : List Bytes) (c : Bytes) :
    dataFrames es (cs ++ [c]) = cs.map (fun c => .Write (.Data c false)) ++ [.Write (.Data c es)] := by
  induction cs with
  | nil => simp [dataFrames]
  | cons x cs ih => simp [dataFrames, ih]

-- Where the body of a message ends: the stream has sent it, and a footer has gone to
-- `footer_stream_data` as the `k`-th section with an iterator at its end.
structure BodyDone (footer : Option (List Field)) (k : Nat) (o : Outgoing) : Prop where
  hasBody : o.stream.outMsgHasBody = true
  bodySent : o.stream.outMsgBodySent = true
  hasFooter : o.stream.outMsgHasFooter = footer.isSome
  footerWindow : ∀ f, footer = some f →
    o.stream.footerStreamData = some ⟨k, .Footer f⟩ ∧
      o.stream.footerStreamDataIter = some ⟨⟨k, .Footer f⟩, []⟩ ∧
      o.stream.currStreamData = none ∧ o.stream.nextStreamData = none

-- The last section's last read, and the footer's reads after it.
theorem pullData_last_section (r : CodecRead) (rest : List CodecRead) (hb : BodyInProgress i p h o)
    (hpend : Pending (i + 1) [] footer o) (hP : p.length < 2 ^ 31)
    (hpos : ∀ r' ∈ r :: rest, 0 < r'.length ∧ 0 < r'.capacity)
    (hlen : (if footer.isSome then 2 else 0) ≤ rest.length)
    (hf : h + bodyReadLength r.length p.length h = p.length) :
    ∃ o', pullData (r :: rest) o = .done (o', .Ended) ∧
      o'.log = o.log ++ [.Write (.Data (p.drop h) footer.isNone), .StreamDataRelease ⟨i, .Body p⟩] ∧
      BodyDone footer (i + 1) o' := by
  have hc := (hpos r (List.mem_cons_self _ _)).2
  cases footer with
  | none =>
    obtain ⟨o', hrun, hlog, hbody, hfoot, hsent⟩ := pullData_round_end r rest hb hpend hP hc hf
    exact ⟨o', hrun, by simpa using hlog, ⟨hbody, hsent, hfoot, fun _ h => nomatch h⟩⟩
  | some f =>
    obtain ⟨r1, r2, rs, rfl⟩ : ∃ r1 r2 rs, rest = r1 :: r2 :: rs := by
      match rest, hlen with
      | r1 :: r2 :: rs, _ => exact ⟨r1, r2, rs, rfl⟩
    obtain ⟨o', hrun, hlog, hfw, hfi, hcur, hnext, hbody, hfoot, hsent⟩ :=
      pullData_round_footer r r1 r2 rs hb hpend hP hc
        (hpos r2 (by simp)).2 hf
    refine ⟨o', hrun, by simpa using hlog, ⟨hbody, hsent, hfoot, ?_⟩⟩
    rintro _ ⟨⟩
    exact ⟨hfw, hfi, hcur, hnext⟩

-- From the first byte of body section `p`, the `i`-th, with the sections `ps` and the footer left:
-- every schedule of reads that hand out bytes, one read per byte at least and two more for a
-- footer, sends each section as DATA frames of at most 16 KiB in order, releasing each window
-- once it is sent, and ends the codec's item.
theorem pullData_sections (footer : Option (List Field)) :
    ∀ (ps : List Bytes) (i : Nat) (p : Bytes) (o : Outgoing) (rs : List CodecRead),
      BodyInProgress i p 0 o → Pending (i + 1) ps footer o →
      (∀ q ∈ p :: ps, q.length < 2 ^ 31 ∧ 0 < q.length) →
      (∀ r ∈ rs, 0 < r.length ∧ 0 < r.capacity) →
      (p :: ps).flatten.length + (if footer.isSome then 2 else 0) ≤ rs.length →
      ∃ (css : List (List Bytes)) (o' : Outgoing), pullData rs o = .done (o', .Ended) ∧
        css.map List.flatten = p :: ps ∧
        (∀ c ∈ css.flatten, 0 < c.length ∧ c.length ≤ QD_ADAPTOR_MAX_BUFFER_SIZE) ∧
        o'.log = o.log ++ bodyLog i footer.isNone css ∧
        BodyDone footer (i + css.length) o' := by
  intro ps
  induction ps with
  | nil =>
    intro i p o rs hb hpend hsz hpos hlen
    obtain ⟨cs, h', r, rest, o1, hrun, hb1, hp1, hfin, hpos1, hlen1, hlog1, hflat, hcs⟩ :=
      pullData_rounds_to_last (hsz p (List.mem_cons_self _ _)).1 _ rs 0 o hb hpend hpos
        (by simpa using hlen)
    have hlt := hb1.lt
    obtain ⟨o', hrun', hlog', hdone⟩ := pullData_last_section r rest hb1 hp1
      (hsz p (List.mem_cons_self _ _)).1 hpos1 (by omega) hfin
    have hflat' : (cs ++ [p.drop h']).flatten = p := by simpa using hflat
    refine ⟨[cs ++ [p.drop h']], o', hrun.trans hrun', by simp [hflat'], ?_, ?_, hdone⟩
    · have hn := bodyReadLength_pos hb1 (hpos1 r (List.mem_cons_self _ _)).1
      have hm := bodyReadLength_le_max r.length p.length h'
      intro c hc
      simp only [List.flatten_cons, List.flatten_nil, List.append_nil, List.mem_append,
        List.mem_singleton] at hc
      rcases hc with hc | rfl
      · exact hcs c hc
      · simp only [List.length_drop]; omega
    · rw [hlog', hlog1]
      simp [bodyLog, dataFrames_append_singleton, hflat']
  | cons q ps ih =>
    intro i p o rs hb hpend hsz hpos hlen
    have hP := (hsz p (List.mem_cons_self _ _)).1
    obtain ⟨cs, h', r, rest, o1, hrun, hb1, hp1, hfin, hpos1, hlen1, hlog1, hflat, hcs⟩ :=
      pullData_rounds_to_last hP ((q :: ps).flatten.length + (if footer.isSome then 2 else 0)) rs 0 o
        hb hpend hpos (by simp only [List.flatten_cons, List.length_append] at hlen ⊢; omega)
    obtain ⟨o2, hrun2, hb2, hp2, hlog2⟩ := pullData_round_next_section r rest hb1 hp1
      (hsz q (by simp)).2 hP (hpos1 r (List.mem_cons_self _ _)).2 hfin
    have hlt := hb1.lt
    obtain ⟨css, o', hrun', hflat', hcs', hlog', hdone⟩ := ih (i + 1) q o2 rest hb2 hp2
      (fun x hx => hsz x (List.mem_cons_of_mem p hx))
      (fun r' hr' => hpos1 r' (List.mem_cons_of_mem r hr')) (by omega)
    have hflat'' : (cs ++ [p.drop h']).flatten = p := by simpa using hflat
    have hne : css ≠ [] := by rintro rfl; simp at hflat'
    refine ⟨(cs ++ [p.drop h']) :: css, o', hrun.trans (hrun2.trans hrun'), by simp [hflat'', hflat'],
      ?_, ?_, ?_⟩
    · have hn := bodyReadLength_pos hb1 (hpos1 r (List.mem_cons_self _ _)).1
      have hm := bodyReadLength_le_max r.length p.length h'
      intro c hc
      simp only [List.flatten_cons, List.mem_append, List.mem_singleton] at hc
      rcases hc with (hc | rfl) | hc
      · exact hcs c hc
      · simp only [List.length_drop]; omega
      · exact hcs' c hc
    · rw [hlog', hlog2, hlog1]
      simp [bodyLog, dataFrames_append_singleton, hflat'', hne]
    · convert hdone using 1
      simp only [List.length_cons]; omega

end Rounds

-- The sending fields of a stream record that `handle_outgoing_http` has not touched yet, as
-- `create_qdr_http2_stream_data` leaves them.
structure SendReady (s : StreamData) : Prop where
  headerNotSent : s.outMsgHeaderSent = false
  notComplete : s.outMsgSendComplete = false
  hasBody : s.outMsgHasBody = true
  noFooter : s.outMsgHasFooter = false
  noEof : s.outMsgDataFlagEof = false
  noNext : s.nextStreamData = none
  nextResult : s.nextStreamDataResult = .BodyOk
  handled : s.payloadHandled = 0

theorem sendReady_createQdrHttp2StreamData (sid : Int) (flowId : String) :
    SendReady (createQdrHttp2StreamData sid flowId) :=
  ⟨rfl, rfl, rfl, rfl, rfl, rfl, rfl, rfl⟩

theorem outgoingHeaders_of_flowId {props : List Field}
    (h : props.any (fun f => f.name = QD_AP_FLOW_ID)) :
    outgoingHeaders props = .done (props.eraseP fun f => f.name = QD_AP_FLOW_ID) := by
  have hne : props ≠ [] := by rintro rfl; simp at h
  rw [outgoingHeaders_eq, if_neg hne, if_pos h]

-- The header phase on a complete message whose first section is a body section: HEADERS without
-- END_STREAM, and the section is the current window from its first byte.
theorem submitOutgoingHeaders_first_section {o : Outgoing} {p : Bytes} {ps : List Bytes}
    {footer : Option (List Field)} (hready : SendReady o.stream)
    (hitems : o.message.items = messageItems (p :: ps) footer) (hcomplete : o.message.receiveComplete = true)
    (hdepth : o.message.depth = .Ok) (hcursor : o.message.cursor = 0)
    (hflow : o.message.appProperties.any (fun f => f.name = QD_AP_FLOW_ID)) (hp : 0 < p.length) :
    ∃ o', submitOutgoingHeaders o = .done o' ∧ BodyInProgress 0 p 0 o' ∧ Pending 1 ps footer o' ∧
      o'.log = o.log ++
        [.Write (.Headers (o.message.appProperties.eraseP fun f => f.name = QD_AP_FLOW_ID) false)] ∧
      o'.stream.outMsgHeaderSent = false ∧ o'.stream.outMsgSendComplete = false ∧
      o'.stream.outDlv = o.stream.outDlv := by
  have hm : o.message.items[o.message.cursor]? = some (.Body p) := by
    rw [hcursor, hitems]; simp [messageItems]
  have hne : p.length ≠ 0 := by omega
  simp only [submitOutgoingHeaders, prepareOutgoingHeaders, outgoingHeaders_of_flowId hflow,
    qdMessageNextStreamData_body hm, qdMessageStreamDataPayloadLength, Window.payload, hne, if_false,
    Outcome.done_bind, Outcome.bind]
  refine ⟨_, rfl, ⟨hdepth, by simp [Outgoing.emit, hcursor], by
    simp [Outgoing.emit, hcursor, qdMessageStreamDataIterator, Window.payload], rfl,
    hready.noNext, by simp [Outgoing.emit, hready.nextResult], hready.handled, hp⟩,
    ⟨by simp [Outgoing.emit, hcursor], ?_, hcomplete, hready.hasBody, hready.noFooter, hready.noEof⟩,
    rfl, hready.headerNotSent, hready.notComplete, rfl⟩
  simp [Outgoing.emit, hitems, hcursor, messageItems]

theorem completeOutgoing_sendComplete (dlv : DlvId) {o : Outgoing}
    (h : o.stream.outMsgBodySent = true) : (completeOutgoing dlv o).stream.outMsgSendComplete = true := by
  unfold completeOutgoing
  simp only [h, Bool.or_true, if_true]
  split <;> rfl

theorem handleOutgoingHttp_sends_message (rs : List CodecRead) (o : Outgoing) (dlv : DlvId)
    (ps : List Bytes) (footer : Option (List Field)) (hready : SendReady o.stream)
    (hdlv : o.stream.outDlv = some dlv) (hitems : o.message.items = messageItems ps footer)
    (hcomplete : o.message.receiveComplete = true) (hdepth : o.message.depth = .Ok)
    (hcursor : o.message.cursor = 0)
    (hflow : o.message.appProperties.any (fun f => f.name = QD_AP_FLOW_ID))
    (hps : ∀ p ∈ ps, 0 < p.length ∧ p.length < 2 ^ 31) (hfooter : footer.isSome → ps ≠ [])
    (hrs : ∀ r ∈ rs, 0 < r.length ∧ 0 < r.capacity)
    (hlen : ps.flatten.length + (if footer.isSome then 2 else 1) ≤ rs.length) :
    ∃ (css : List (List Bytes)) (o' : Outgoing),
      handleOutgoingHttp false rs .Unsubmitted o = .done (completeOutgoing dlv o', .Ended) ∧
      css.map List.flatten = ps ∧
      (∀ c ∈ css.flatten, 0 < c.length ∧ c.length ≤ QD_ADAPTOR_MAX_BUFFER_SIZE) ∧
      o'.log = o.log ++
        sentLog (o.message.appProperties.eraseP fun f => f.name = QD_AP_FLOW_ID) css footer ∧
      (completeOutgoing dlv o').stream.outMsgSendComplete = true := by
  cases ps with
  | nil =>
    cases footer with
    | some f => exact absurd rfl (hfooter rfl)
    | none =>
    obtain ⟨r, rs, rfl⟩ : ∃ r rs', rs = r :: rs' := by
      cases rs with
      | nil => simp at hlen
      | cons r rs => exact ⟨r, rs, rfl⟩
    have hm : o.message.items[o.message.cursor]? = none := by simp [hitems, hcursor, messageItems]
    have hc := (hrs r (List.mem_cons_self _ _)).2
    simp only [handleOutgoingHttp, hdlv, hready.notComplete, hready.headerNotSent, Bool.false_eq_true,
      if_false, submitOutgoingHeaders, prepareOutgoingHeaders, outgoingHeaders_of_flowId hflow,
      qdMessageNextStreamData_end hm hcomplete, Outcome.done_bind, sendOutgoing,
      sendOutgoingBody, Outgoing.emit, hready.hasBody, if_true, nghttp2SessionSend, pullData,
      CodecRead.within_none, and_false, readDataCallback, hdepth, takeStreamData, hready.noNext, readStreamData,
      Nat.pos_iff_ne_zero.mp hc, hready.noFooter, sendDataCallback, writeDataFrame, finishDataFrame,
      Outcome.bind, hready.nextResult, hready.noEof, true_and, reduceCtorEq, or_self, if_false,
      and_true, Bool.false_and]
    exact ⟨[], _, rfl, rfl, by simp, by simp [sentLog], completeOutgoing_sendComplete dlv rfl⟩
  | cons p ps =>
    obtain ⟨oh, hhead, hb, hpend, hlogh, hsent, hcompl, hdlvh⟩ :=
      submitOutgoingHeaders_first_section hready hitems hcomplete hdepth hcursor hflow
        (hps p (List.mem_cons_self _ _)).1
    obtain ⟨css, o', hrun, hflat, hcs, hlog, hdone⟩ := pullData_sections footer ps 0 p oh rs hb hpend
      (fun q hq => ⟨(hps q hq).2, (hps q hq).1⟩) hrs (by cases footer <;> simp at hlen ⊢ <;> omega)
    have hne : css ≠ [] := by rintro rfl; simp at hflat
    have hsend : sendOutgoingBody rs .Unsubmitted oh = .done (o', .Ended) := by
      simp only [sendOutgoingBody, hpend.hasBody, hsent, if_true, nghttp2SessionSend, hrun]
      rfl
    simp only [handleOutgoingHttp, hdlv, hready.notComplete, hready.headerNotSent, Bool.false_eq_true,
      if_false, hhead, sendOutgoing, hsend, Outcome.done_bind, hdone.hasFooter, hdone.bodySent]
    cases footer with
    | none =>
      refine ⟨css, _, rfl, hflat, hcs, ?_, completeOutgoing_sendComplete dlv rfl⟩
      simp [hlog, hlogh, sentLog, hne]
    | some f =>
      obtain ⟨hfw, hfi, hcur, hnext⟩ := hdone.footerWindow f rfl
      simp only [Option.isSome_some, Bool.not_true, Bool.and_false, Bool.not_false, Bool.and_self,
        if_true, sendOutgoingFooter, qdParseFooter, hfi, hfw, hcur, hnext, Outcome.done_bind,
        Outcome.bind]
      refine ⟨css, _, rfl, hflat, hcs, ?_, completeOutgoing_sendComplete dlv rfl⟩
      simp [Outgoing.dropNext, Outgoing.release, Outgoing.emit, hnext, hlog, hlogh, sentLog]

theorem handleOutgoingHttp_sends_two_sections_and_footer :
    let ps : List Bytes := [[1, 2, 3], [4, 5]]
    let footer : Option (List Field) := some [⟨"grpc-status", "0"⟩]
    let o : Outgoing := ⟨{ createQdrHttp2StreamData 1 "flow" with outDlv := some 9 },
      ⟨[⟨QD_AP_FLOW_ID, "flow"⟩, ⟨":status", "200"⟩], messageItems ps footer, true, .Ok, 0, false,
        none⟩, []⟩
    let rs : List CodecRead := List.replicate 7 ⟨2, 1, 100⟩
    SendReady o.stream ∧ (∀ p ∈ ps, 0 < p.length ∧ p.length < 2 ^ 31) ∧
      (∀ r ∈ rs, 0 < r.length ∧ 0 < r.capacity) ∧
      ∃ (css : List (List Bytes)) (o' : Outgoing),
        handleOutgoingHttp false rs .Unsubmitted o = .done (completeOutgoing 9 o', .Ended) ∧
        css.map List.flatten = ps ∧
        (∀ c ∈ css.flatten, 0 < c.length ∧ c.length ≤ QD_ADAPTOR_MAX_BUFFER_SIZE) ∧
        o'.log = o.log ++
          sentLog (o.message.appProperties.eraseP fun f => f.name = QD_AP_FLOW_ID) css footer ∧
        (completeOutgoing 9 o').stream.outMsgSendComplete = true :=
  have hready : SendReady { createQdrHttp2StreamData 1 "flow" with outDlv := some 9 } :=
    ⟨rfl, rfl, rfl, rfl, rfl, rfl, rfl, rfl⟩
  ⟨hready, by decide, by decide,
    handleOutgoingHttp_sends_message _ _ 9 _ _ hready rfl rfl rfl rfl rfl (by decide) (by decide)
      (by decide) (by decide) (by decide)⟩

end SkupperRouter.Http2
