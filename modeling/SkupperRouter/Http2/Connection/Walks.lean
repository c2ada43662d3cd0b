import Mathlib.Data.List.Nodup
import Mathlib.Data.List.Rotate
import SkupperRouter.Http2.Connection
import SkupperRouter.Http2.Egress.PullLoop

namespace SkupperRouter.Http2

section Assoc

variable {α β : Type} [DecidableEq α]

@[simp] theorem assocErase_lookup_of_ne (l : List (α × β)) {h k : α} (hk : k ≠ h) :
    (assocErase l h).lookup k = l.lookup k := by
  induction l with
  | nil => rfl
  | cons p l ih =>
    obtain ⟨a, b⟩ := p
    by_cases ha : a = h
    · subst ha
      simpa [assocErase, List.filter_cons, List.lookup_cons, beq_eq_false_iff_ne.mpr hk] using ih
    · simp only [assocErase, List.filter_cons, ne_eq, ha, not_false_eq_true, decide_True, if_true,
        List.lookup_cons] at ih ⊢
      split <;> simp_all

@[simp] theorem assocSet_lookup_self (l : List (α × β)) (h : α) (v : β) :
    (assocSet l h v).lookup h = some v := by
  simp [assocSet, List.lookup_cons]

@[simp] theorem assocSet_lookup_of_ne (l : List (α × β)) {h k : α} (v : β) (hk : k ≠ h) :
    (assocSet l h v).lookup k = l.lookup k := by
  change ((h, v) :: assocErase l h).lookup k = _
  simp [List.lookup_cons, beq_eq_false_iff_ne.mpr hk, hk]

end Assoc

section Lists

variable {kept rest : List Handle} {h : Handle}

-- `DEQ_NEXT` on a list without repeats: the record after `h` heads what follows `h`.
theorem nextStream_of_nodup (hnd : (kept ++ h :: rest).Nodup) :
    nextStream (kept ++ h :: rest) h = rest.head? := by
  induction kept with
  | nil => simp [nextStream]
  | cons x kept ih =>
    have hx : x ≠ h := by rintro rfl; simp at hnd
    rw [List.cons_append, nextStream, if_neg hx, ih hnd.of_cons]

-- `DEQ_REMOVE` of a record that is in the list once.
theorem erase_of_nodup (hnd : (kept ++ h :: rest).Nodup) :
    (kept ++ h :: rest).erase h = kept ++ rest := by
  have hk : h ∉ kept := fun hm =>
    (List.nodup_cons.mp (List.nodup_middle.mp hnd)).1 (List.mem_append_left _ hm)
  rw [List.erase_append_right _ hk, List.erase_cons_head]

theorem not_mem_rest_of_nodup (hnd : (kept ++ h :: rest).Nodup) {k : Handle} (hk : k ∈ rest) :
    k ≠ h := by
  rintro rfl
  exact (List.nodup_cons.mp (List.nodup_middle.mp hnd)).1 (List.mem_append_right _ hk)

-- A visit that unlinks the record under the cursor, or leaves it, splits the list again as a
-- prefix followed by the rest of the walk, still without repeats.
theorem nodup_walk_next (hnd : (kept ++ h :: rest).Nodup) (b : Bool) :
    (if b then (kept ++ h :: rest).erase h else kept ++ h :: rest) =
        (if b then kept else kept ++ [h]) ++ rest ∧
      ((if b then kept else kept ++ [h]) ++ rest).Nodup := by
  cases b
  · simpa using hnd
  · exact ⟨erase_of_nodup hnd, (List.nodup_middle.mp hnd).of_cons⟩

end Lists

section Records

variable {c : Conn} {h : Handle} {o : Outgoing}

theorem Conn.record_of_lookup (ho : c.records.lookup h = some o) : c.record h = .done o := by
  simp [Conn.record, ho]

@[simp] theorem Conn.put_streams (o : Outgoing) : (c.put h o).streams = c.streams := rfl

@[simp] theorem Conn.put_freed (o : Outgoing) : (c.put h o).freed = c.freed := rfl

theorem Conn.put_lookup_self (o : Outgoing) :
    (c.put h o).records.lookup h = some { o with log := [] } :=
  assocSet_lookup_self _ _ _

theorem Conn.put_lookup_of_ne (o : Outgoing) {k : Handle} (hk : k ≠ h) :
    (c.put h o).records.lookup k = c.records.lookup k :=
  assocSet_lookup_of_ne _ _ hk

@[simp] theorem Conn.setCodec_streams (sid : Int) (f : CodecStream → CodecStream) :
    (c.setCodec sid f).streams = c.streams := by
  unfold Conn.setCodec; split <;> rfl

@[simp] theorem Conn.setCodec_freed (sid : Int) (f : CodecStream → CodecStream) :
    (c.setCodec sid f).freed = c.freed := by
  unfold Conn.setCodec; split <;> rfl

@[simp] theorem Conn.setCodec_records (sid : Int) (f : CodecStream → CodecStream) :
    (c.setCodec sid f).records = c.records := by
  unfold Conn.setCodec; split <;> rfl

-- `free_http2_stream_data` on a live record unlinks it from `conn->streams` and frees it, and no
-- other record.
theorem Conn.freeHttp2StreamData_spec (ho : c.records.lookup h = some o) :
    ∃ c', c.freeHttp2StreamData h = .done c' ∧ c'.streams = c.streams.erase h ∧
      c'.records = assocErase c.records h ∧ c'.freed = c.freed ++ [h] := by
  simp only [Conn.freeHttp2StreamData, Conn.record_of_lookup ho]
  refine ⟨_, rfl, ?_⟩
  split <;> simp_all

-- `handle_outgoing_http` writes its own record and the codec, and leaves the list alone.
theorem Conn.handleOutgoing_frame {reads : List CodecRead} {c' : Conn}
    (hd : c.handleOutgoing reads h = .done c') :
    c'.streams = c.streams ∧ c'.freed = c.freed ∧
      ∀ k ≠ h, c'.records.lookup k = c.records.lookup k := by
  obtain ⟨o, -, hd⟩ := Outcome.bind_eq_done.mp hd
  obtain ⟨r, -, hd⟩ := Outcome.bind_eq_done.mp hd
  cases hd
  unfold Conn.afterOutgoing
  dsimp only
  split <;> split <;>
    exact ⟨by simp [Conn.afterSend], by simp [Conn.afterSend], fun k hk => by simp [Conn.put, Conn.afterSend, hk]⟩

end Records

-- The test `free_unprocessed_streams` makes on a record of the list.
def Conn.aboveLast (c : Conn) (last : Int) (h : Handle) : Bool :=
  (c.records.lookup h).any fun o => o.stream.streamId > last

-- The loop invariant of `free_unprocessed_streams`: the list is `kept ++ rest`, with the cursor on
-- the head of `rest`, whose records are still those of `c₀`.
theorem Conn.freeUnprocessedStreams_suffix (last : Int) (c₀ : Conn) (rest : List Handle) :
    ∀ (kept : List Handle) (fuel : Nat) (c : Conn), rest.length ≤ fuel → c.streams = kept ++ rest →
      (kept ++ rest).Nodup →
      (∀ k ∈ rest, c.records.lookup k = c₀.records.lookup k ∧ (c₀.records.lookup k).isSome) →
      ∃ c', Conn.freeUnprocessedStreams last fuel c rest.head? = .done c' ∧
        c'.freed = c.freed ++ rest.filter (c₀.aboveLast last) ∧
        c'.streams = kept ++ rest.filter fun k => !c₀.aboveLast last k := by
  induction rest with
  | nil => exact fun kept fuel c _ hs _ _ => ⟨c, by cases fuel <;> rfl, by simp, by simp [hs]⟩
  | cons h rest ih =>
    intro kept fuel c hf hs hnd hlive
    obtain ⟨fuel, rfl⟩ : ∃ f, fuel = f + 1 := ⟨fuel - 1, by simp at hf; omega⟩
    have hf' : rest.length ≤ fuel := Nat.le_of_succ_le_succ hf
    obtain ⟨hl, hsome⟩ := hlive h (List.mem_cons_self _ _)
    obtain ⟨o, ho⟩ := Option.isSome_iff_exists.mp hsome
    have hc : c.records.lookup h = some o := hl.trans ho
    have hnext : nextStream c.streams h = rest.head? := by rw [hs]; exact nextStream_of_nodup hnd
    have hrest := fun k hk => hlive k (List.mem_cons_of_mem h hk)
    by_cases habove : o.stream.streamId > last
    · -- the record is freed, after its successor is saved
      have hab : c₀.aboveLast last h = true := by simp [Conn.aboveLast, ho, habove]
      obtain ⟨c1, hfree, hs1, hr1, hf1⟩ := Conn.freeHttp2StreamData_spec hc
      obtain ⟨c', hrun, hfr, hst⟩ := ih kept fuel c1 hf' (by rw [hs1, hs, erase_of_nodup hnd])
        (List.nodup_middle.mp hnd).of_cons fun k hk => by
          rw [hr1, assocErase_lookup_of_ne _ (not_mem_rest_of_nodup hnd hk)]; exact hrest k hk
      refine ⟨c', ?_, ?_, ?_⟩
      · simp only [Conn.freeUnprocessedStreams, Conn.record_of_lookup hc, Outcome.bind,
          if_pos habove, hnext, hfree, hrun, List.head?_cons]
      · rw [hfr, hf1, List.filter_cons_of_pos hab, List.append_assoc, List.singleton_append]
      · rw [hst, List.filter_cons_of_neg (by simp [hab])]
    · -- the cursor moves past the record
      have hab : c₀.aboveLast last h = false := by simp [Conn.aboveLast, ho, habove]
      obtain ⟨c', hrun, hfr, hst⟩ :=
        ih (kept ++ [h]) fuel c hf' (by simp [hs]) (by simpa using hnd) hrest
      refine ⟨c', ?_, ?_, ?_⟩
      · simp only [Conn.freeUnprocessedStreams, Conn.record_of_lookup hc, Outcome.bind,
          if_neg habove, hnext, hrun, List.head?_cons]
      · rw [hfr, List.filter_cons_of_neg (by simp [hab])]
      · rw [hst, List.filter_cons_of_pos (by simp [hab])]; simp

-- For every list of live stream records without repeats and every `last_stream_id`,
-- `free_unprocessed_streams` returns, having freed exactly the records whose stream id is above
-- it, in list order, and left the others in the list in their order.
theorem freeUnprocessedStreams_frees_above (last : Int) (c : Conn) (hnd : c.streams.Nodup)
    (hlive : ∀ h ∈ c.streams, (c.records.lookup h).isSome) :
    ∃ c', Conn.freeUnprocessedStreams last c.streams.length c c.streams.head? = .done c' ∧
      c'.freed = c.freed ++ c.streams.filter (c.aboveLast last) ∧
      c'.streams = c.streams.filter fun h => !c.aboveLast last h :=
  Conn.freeUnprocessedStreams_suffix last c c.streams [] _ c le_rfl rfl hnd
    fun h hh => ⟨rfl, hlive h hh⟩

theorem freeUnprocessedStreams_frees_above_goaway :
    let c : Conn := { Conn.initial ⟨true, some "addr", none⟩ with
      records := [(1, ⟨createQdrHttp2StreamData 1 "1", ⟨[], [], false, .Incomplete, 0, false, none⟩, []⟩),
                  (2, ⟨createQdrHttp2StreamData 3 "2", ⟨[], [], false, .Incomplete, 0, false, none⟩, []⟩)],
      streams := [1, 2] }
    c.streams.Nodup ∧ (∀ h ∈ c.streams, (c.records.lookup h).isSome) ∧
      ∃ c', Conn.freeUnprocessedStreams 1 c.streams.length c c.streams.head? = .done c' ∧
        c'.freed = c.freed ++ c.streams.filter (c.aboveLast 1) ∧
        c'.streams = c.streams.filter fun h => !c.aboveLast 1 h :=
  ⟨by decide, by decide, freeUnprocessedStreams_frees_above 1 _ (by decide) (by decide)⟩

theorem settleOutDlv_flags (s : StreamData) :
    (settleOutDlv s).1.outMsgSendComplete = s.outMsgSendComplete ∧
      (settleOutDlv s).1.dispApplied = s.dispApplied := by
  unfold settleOutDlv
  split
  · split <;> exact ⟨rfl, rfl⟩
  · exact ⟨rfl, rfl⟩

-- What `restart_streams` frees of a record it visits: FULLY_CLOSED, with the message sent and
-- the disposition applied.
def Outgoing.restartFrees (o : Outgoing) : Bool :=
  o.stream.status = .FullyClosed && o.stream.outMsgSendComplete && o.stream.dispApplied

def Conn.restartFrees (c : Conn) (h : Handle) : Bool := (c.records.lookup h).any Outgoing.restartFrees

-- One pass of the loop on a live record: the cursor moves to the record's successor, the list
-- loses the record exactly when it is freed, and no other record changes.
theorem Conn.restartVisit_spec {c : Conn} {h : Handle} {o : Outgoing} {rs : List (List CodecRead)}
    {r : List (List CodecRead) × Conn × Option Handle} (ho : c.records.lookup h = some o)
    (hv : c.restartVisit rs h = .done r) :
    r.2.2 = nextStream c.streams h ∧ (∀ k ≠ h, r.2.1.records.lookup k = c.records.lookup k) ∧
      r.2.1.streams = (if o.restartFrees then c.streams.erase h else c.streams) ∧
      r.2.1.freed = c.freed ++ (if o.restartFrees then [h] else []) := by
  simp only [Conn.restartVisit, Conn.record_of_lookup ho, Outcome.bind] at hv
  by_cases hfc : o.stream.status = .FullyClosed
  · -- settled in place, then freed once its message is out and its disposition applied
    rw [if_pos hfc] at hv
    obtain ⟨hsc, hda⟩ := settleOutDlv_flags o.stream
    have hput := Conn.put_lookup_self (c := c) (h := h)
      { o with stream := (settleOutDlv o.stream).1, log := o.log ++ (settleOutDlv o.stream).2 }
    by_cases hfr : o.restartFrees
    · rw [if_pos (by simpa [Outgoing.restartFrees, hsc, hda, hfc] using hfr)] at hv
      obtain ⟨c1, hfree, hs1, hr1, hf1⟩ := Conn.freeHttp2StreamData_spec hput
      rw [hfree] at hv
      cases hv
      exact ⟨rfl, fun k hk => by rw [hr1, assocErase_lookup_of_ne _ hk, Conn.put_lookup_of_ne _ hk],
        by rw [if_pos hfr, hs1]; rfl, by rw [if_pos hfr, hf1]; rfl⟩
    · rw [if_neg (by simpa [Outgoing.restartFrees, hsc, hda, hfc] using hfr)] at hv
      cases hv
      exact ⟨rfl, fun k hk => Conn.put_lookup_of_ne _ hk, by rw [if_neg hfr]; rfl, by simp [hfr]⟩
  · -- restarted by `handle_outgoing_http` or passed over
    rw [if_neg hfc] at hv
    have hfr : o.restartFrees = false := by simp [Outgoing.restartFrees, hfc]
    simp only [hfr, Bool.false_eq_true, if_false, List.append_nil]
    split at hv
    · obtain ⟨c1, hh, hv⟩ := Outcome.bind_eq_done.mp hv
      cases hv
      obtain ⟨hs1, hf1, hr1⟩ := Conn.handleOutgoing_frame hh
      exact ⟨by rw [hs1], hr1, hs1, hf1⟩
    · cases hv
      exact ⟨rfl, fun _ _ => rfl, rfl, rfl⟩

-- The visits of `restart_streams`, in list order, each from the state the one before left.
def Conn.restartVisits : List (List CodecRead) → Conn → List Handle → Outcome Conn
  | _, c, [] => .done c
  | rs, c, h :: hs => (c.restartVisit rs h).bind fun r => Conn.restartVisits r.1 r.2.1 hs

-- The loop invariant of `restart_streams`: the list is `kept ++ rest` with the cursor on the
-- head of `rest`, and the rest of the walk is the visits of `rest` in order.
theorem Conn.restartFrom_suffix (rest : List Handle) :
    ∀ (kept : List Handle) (fuel : Nat) (rs : List (List CodecRead)) (c : Conn),
      rest.length ≤ fuel → c.streams = kept ++ rest → (kept ++ rest).Nodup →
      (∀ k ∈ rest, (c.records.lookup k).isSome) →
      Conn.restartFrom fuel rs c rest.head? = Conn.restartVisits rs c rest := by
  induction rest with
  | nil => intro kept fuel rs c _ _ _ _; cases fuel <;> rfl
  | cons h rest ih =>
    intro kept fuel rs c hf hs hnd hlive
    obtain ⟨fuel, rfl⟩ : ∃ f, fuel = f + 1 := ⟨fuel - 1, by simp at hf; omega⟩
    have hf' : rest.length ≤ fuel := Nat.le_of_succ_le_succ hf
    obtain ⟨o, ho⟩ := Option.isSome_iff_exists.mp (hlive h (List.mem_cons_self _ _))
    refine Outcome.bind_congr fun r hv => ?_
    obtain ⟨hnext, hrec, hst, -⟩ := Conn.restartVisit_spec ho hv
    have hlive' : ∀ k ∈ rest, (r.2.1.records.lookup k).isSome := fun k hk => by
      rw [hrec k (not_mem_rest_of_nodup hnd hk)]; exact hlive k (List.mem_cons_of_mem h hk)
    obtain ⟨hs', hnd'⟩ := nodup_walk_next hnd o.restartFrees
    rw [hnext, hs, nextStream_of_nodup hnd]
    exact ih _ fuel r.1 r.2.1 hf' (by rw [hst, hs]; exact hs') hnd' hlive'

-- When the visits return, the list has lost exactly the records they freed: those of `rest`
-- that `restartFrees` picks out, in order.
theorem Conn.restartVisits_done (c₀ : Conn) (rest : List Handle) :
    ∀ (kept : List Handle) (rs : List (List CodecRead)) (c c' : Conn), c.streams = kept ++ rest →
      (kept ++ rest).Nodup →
      (∀ k ∈ rest, c.records.lookup k = c₀.records.lookup k ∧ (c₀.records.lookup k).isSome) →
      Conn.restartVisits rs c rest = .done c' →
      c'.streams = kept ++ rest.filter (fun k => !c₀.restartFrees k) ∧
        c'.freed = c.freed ++ rest.filter c₀.restartFrees := by
  induction rest with
  | nil => intro kept rs c c' hs _ _ hd; cases hd; simp [hs]
  | cons h rest ih =>
    intro kept rs c c' hs hnd hlive hd
    obtain ⟨r, hv, hd⟩ := Outcome.bind_eq_done.mp hd
    obtain ⟨hl, hsome⟩ := hlive h (List.mem_cons_self _ _)
    obtain ⟨o, ho⟩ := Option.isSome_iff_exists.mp hsome
    obtain ⟨-, hrec, hst, hfd⟩ := Conn.restartVisit_spec (hl.trans ho) hv
    have hlive' : ∀ k ∈ rest, r.2.1.records.lookup k = c₀.records.lookup k ∧
        (c₀.records.lookup k).isSome := fun k hk => by
      rw [hrec k (not_mem_rest_of_nodup hnd hk)]; exact hlive k (List.mem_cons_of_mem h hk)
    obtain ⟨hs', hnd'⟩ := nodup_walk_next hnd o.restartFrees
    obtain ⟨h1, h2⟩ := ih _ r.1 r.2.1 c' (by rw [hst, hs]; exact hs') hnd' hlive' hd
    have hab : c₀.restartFrees h = o.restartFrees := by simp [Conn.restartFrees, ho]
    rw [h1, h2, hfd, List.filter_cons, List.filter_cons, hab]
    cases o.restartFrees <;> simp

-- For every list s0, .., s(n-1) of live stream records without repeats and every state of them,
-- `restart_streams` is exactly the visits of s1, .., s(n-1), s0, once each and in that order,
-- each from the state the one before left. When they return, it has freed exactly the visited
-- records that `restartFrees` picks out, in that order, and left s1, .., s(n-1), s0 without them.
theorem Conn.restartStreams_visits_rotated (rs : List (List CodecRead)) (c : Conn)
    (hnd : c.streams.Nodup) (hlive : ∀ h ∈ c.streams, (c.records.lookup h).isSome) :
    c.restartStreams rs =
        Conn.restartVisits rs { c with streams := c.streams.rotate 1 } (c.streams.rotate 1) ∧
      ∀ c', c.restartStreams rs = .done c' →
        c'.streams = (c.streams.rotate 1).filter (fun h => !c.restartFrees h) ∧
        c'.freed = c.freed ++ (c.streams.rotate 1).filter c.restartFrees := by
  have hlive' : ∀ h ∈ c.streams.rotate 1, (c.records.lookup h).isSome := fun h hh =>
    hlive h (List.mem_rotate.mp hh)
  have heq : c.restartStreams rs =
      Conn.restartVisits rs { c with streams := c.streams.rotate 1 } (c.streams.rotate 1) := by
    unfold Conn.restartStreams
    split
    · next hs => cases c; simp_all [Conn.restartVisits]
    · next h hs hc =>
      have hrot : c.streams.rotate 1 = hs ++ [h] := by
        rw [hc, List.rotate_cons_succ, List.rotate_zero]
      rw [hrot]
      exact Conn.restartFrom_suffix _ [] _ rs _ le_rfl rfl (hrot ▸ List.nodup_rotate.mpr hnd)
        (hrot ▸ hlive')
  refine ⟨heq, fun c' hd => ?_⟩
  rw [heq] at hd
  exact Conn.restartVisits_done c _ [] rs { c with streams := c.streams.rotate 1 } c' rfl
    (List.nodup_rotate.mpr hnd) (fun k hk => ⟨rfl, hlive' k hk⟩) hd

theorem Conn.restartStreams_visits_rotated_two_streams :
    let c : Conn := { Conn.initial ⟨false, some "svc", none⟩ with
      records := [(1, ⟨{ createQdrHttp2StreamData 1 "1" with
                          status := .FullyClosed, outMsgSendComplete := true, dispApplied := true },
                        ⟨[], [], true, .Ok, 0, true, none⟩, []⟩),
                  (2, ⟨createQdrHttp2StreamData 3 "2", ⟨[], [], false, .Incomplete, 0, false, none⟩, []⟩)],
      streams := [1, 2] }
    c.streams.Nodup ∧ (∀ h ∈ c.streams, (c.records.lookup h).isSome) ∧
      (c.restartStreams [] =
          Conn.restartVisits [] { c with streams := c.streams.rotate 1 } (c.streams.rotate 1) ∧
        ∀ c', c.restartStreams [] = .done c' →
          c'.streams = (c.streams.rotate 1).filter (fun h => !c.restartFrees h) ∧
          c'.freed = c.freed ++ (c.streams.rotate 1).filter c.restartFrees) :=
  ⟨by decide, by decide, Conn.restartStreams_visits_rotated [] _ (by decide) (by decide)⟩

-- A stream that has sent its headers and holds a deferred DATA item, on a message whose depth
-- check has turned INVALID: `restart_streams` restarts it, and its `handle_outgoing_http` pulls the
-- DATA item forever, whatever the codec reads, so `restart_streams` never returns.
theorem restartStreams_depth_invalid_never_returns :
    let c : Conn := { Conn.initial ⟨false, some "svc", none⟩ with
      records := [(1, ⟨{ createQdrHttp2StreamData 1 "1" with outDlv := some 9, outMsgHeaderSent := true },
        ⟨[⟨QD_AP_FLOW_ID, "1"⟩], [.Corrupt], true, .Invalid, 0, false, none⟩, []⟩)],
      streams := [1],
      codec := [(1, { CodecStream.opened (some 1) with item := .Deferred })] }
    ∀ rs, c.restartStreams rs = .running := by
  intro c rs
  simp [c, Conn.initial, Conn.restartStreams, Conn.restartFrom, Conn.restartVisit, Conn.record,
    Conn.handleOutgoing, handleOutgoingHttp, sendOutgoing, sendOutgoingBody,
    createQdrHttp2StreamData, PN_ACCEPTED, CodecStream.opened, NGHTTP2_INITIAL_WINDOW_SIZE,
    Conn.submitError, NGHTTP2_MAX_STREAM_ID,
    nghttp2SessionSend_depth_invalid _ _ (some 65535) (by decide), Outcome.bind]

end SkupperRouter.Http2
