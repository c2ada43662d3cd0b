import SkupperRouter.Http2.Connection.Frame
import SkupperRouter.Http2.Connection.Walks

namespace SkupperRouter.Http2

-- The part of a connection that says which stream records exist and how the router reaches them.
structure Conn.Table where
  records : List (Handle × Outgoing)
  streams : List Handle
  freed : List Handle
  nextHandle : Handle
  linkContext : List (LinkId × Handle)
  dispatcher : Option LinkId

def Conn.table (c : Conn) : Conn.Table :=
  ⟨c.records, c.streams, c.freed, c.nextHandle, c.linkContext, c.dispatcher⟩

-- Link `l` is one of the two the record was created with.
def Outgoing.hasLink (o : Outgoing) (l : LinkId) : Prop :=
  o.stream.inLink = some l ∨ o.stream.outLink = some l

-- The record table of every connection reached from its start: `conn->streams` holds each live
-- record once and a freed record never again, handles are never reused, and the context of
-- every link but the stream dispatcher is a live record the link belongs to.
structure ConnInvariant (c : Conn) : Prop where
  nodup : (c.streams ++ c.freed).Nodup
  live : ∀ h, (c.records.lookup h).isSome ↔ h ∈ c.streams
  fresh : ∀ h ∈ c.streams ++ c.freed, h < c.nextHandle
  links : ∀ p ∈ c.linkContext, c.dispatcher = some p.1 ∨
    ∃ o, c.records.lookup p.2 = some o ∧ o.hasLink p.1

section Table

variable {c c' : Conn}

theorem ConnInvariant.of_table (hi : ConnInvariant c) (h : c'.table = c.table) : ConnInvariant c' := by
  simp only [Conn.table, Conn.Table.mk.injEq] at h
  obtain ⟨hr, hs, hf, hn, hl, hd⟩ := h
  exact ⟨by rw [hs, hf]; exact hi.nodup, by rw [hr, hs]; exact hi.live,
    by rw [hs, hf, hn]; exact hi.fresh, by rw [hl, hd, hr]; exact hi.links⟩

@[simp] theorem Conn.setCodec_table (sid : Int) (f : CodecStream → CodecStream) :
    (c.setCodec sid f).table = c.table := by
  unfold Conn.setCodec; split <;> rfl

@[simp] theorem Conn.setCodec_nextHandle (sid : Int) (f : CodecStream → CodecStream) :
    (c.setCodec sid f).nextHandle = c.nextHandle := by
  unfold Conn.setCodec; split <;> rfl

@[simp] theorem Conn.setCodec_linkContext (sid : Int) (f : CodecStream → CodecStream) :
    (c.setCodec sid f).linkContext = c.linkContext := by
  unfold Conn.setCodec; split <;> rfl

@[simp] theorem Conn.setCodec_cfg (sid : Int) (f : CodecStream → CodecStream) :
    (c.setCodec sid f).cfg = c.cfg := by
  unfold Conn.setCodec; split <;> rfl

@[simp] theorem Conn.put_cfg (h : Handle) (o : Outgoing) : (c.put h o).cfg = c.cfg := rfl

@[simp] theorem Conn.setCodec_dispatcher (sid : Int) (f : CodecStream → CodecStream) :
    (c.setCodec sid f).dispatcher = c.dispatcher := by
  unfold Conn.setCodec; split <;> rfl

@[simp] theorem Conn.afterSend_table (sid : Int) (o : Outgoing) (item : DataItem) :
    (c.afterSend sid o item).table = c.table :=
  Conn.setCodec_table _ _

@[simp] theorem Conn.submitData_table (sid : Int) : (c.submitData sid).table = c.table := by
  unfold Conn.submitData; repeat' split
  all_goals simp

@[simp] theorem Conn.table_dataPrdSource (p : Option Handle) :
    { c with dataPrdSource := p }.table = c.table := rfl

@[simp] theorem Conn.onSettings_table (w : Nat) : (c.onSettings w).table = c.table := rfl

@[simp] theorem Conn.deliverEffects_table (h : Handle) (effs : List Effect) :
    (c.deliverEffects h effs).table = c.table := by
  induction effs generalizing c with
  | nil => rfl
  | cons e effs ih =>
    unfold Conn.deliverEffects
    split <;> rw [ih] <;> rfl

@[simp] theorem Conn.remoteEnd_table (sid : Int) (es : Bool) : (c.remoteEnd sid es).table = c.table := by
  unfold Conn.remoteEnd; split <;> simp

@[simp] theorem Conn.closeAbove_table (last : Int) : (c.closeAbove last).table = c.table := by
  unfold Conn.closeAbove; split <;> rfl

theorem Conn.lookup_of_record {h : Handle} {o : Outgoing} (ho : c.record h = .done o) :
    c.records.lookup h = some o := by
  unfold Conn.record at ho
  split at ho <;> cases ho
  assumption

end Table

section Assoc

variable {α β : Type} [DecidableEq α]

@[simp] theorem assocErase_lookup_self (l : List (α × β)) (k : α) : (assocErase l k).lookup k = none := by
  induction l with
  | nil => rfl
  | cons p l ih =>
    by_cases hp : p.1 = k
    · simpa [assocErase, List.filter_cons, hp] using ih
    · simpa [assocErase, List.filter_cons, hp, List.lookup_cons, Ne.symm hp] using ih

theorem mem_assocSet {l : List (α × β)} {k : α} {v : β} {p : α × β} :
    p ∈ assocSet l k v ↔ p = (k, v) ∨ p ∈ l ∧ p.1 ≠ k := by
  simp [assocSet, List.mem_filter]

end Assoc

theorem Outgoing.hasLink_congr {o o' : Outgoing} (hl : o'.stream.links = o.stream.links) (l : LinkId) :
    o'.hasLink l ↔ o.hasLink l := by
  simp only [StreamData.links, Prod.mk.injEq] at hl
  simp [Outgoing.hasLink, hl]

section Keeps

variable {c c' : Conn}

-- Writing a live record back, with the links it had.
theorem ConnInvariant.put (hi : ConnInvariant c) {h : Handle} {o o' : Outgoing}
    (ho : c.records.lookup h = some o) (hl : o'.stream.links = o.stream.links) :
    ConnInvariant (c.put h o') := by
  have hh : h ∈ c.streams := (hi.live h).mp (by simp [ho])
  refine ⟨hi.nodup, fun k => ?_, hi.fresh, fun p hp => ?_⟩
  · by_cases hk : k = h
    · subst hk; simp [Conn.put_lookup_self, hh]
    · rw [Conn.put_lookup_of_ne _ hk]; exact hi.live k
  · rcases hi.links p hp with hd | ⟨o₀, h₀, hl₀⟩
    · exact .inl hd
    · right
      by_cases hk : p.2 = h
      · rw [hk, ho] at h₀
        cases h₀
        exact ⟨{ o' with log := [] }, by rw [hk]; exact Conn.put_lookup_self o',
          (Outgoing.hasLink_congr hl p.1).mpr hl₀⟩
      · exact ⟨o₀, by rw [Conn.put_lookup_of_ne _ hk]; exact h₀, hl₀⟩

theorem Conn.freeHttp2StreamData_table {h : Handle} {o : Outgoing} (ho : c.records.lookup h = some o)
    (hne : c.streams ≠ []) :
    ∃ c', c.freeHttp2StreamData h = .done c' ∧
      c'.table = ⟨assocErase c.records h, c.streams.erase h, c.freed ++ [h], c.nextHandle,
        c.linkContext.filter (fun p => some p.1 ≠ o.stream.inLink ∧ some p.1 ≠ o.stream.outLink),
        c.dispatcher⟩ := by
  simp only [Conn.freeHttp2StreamData, Conn.record_of_lookup ho, Outcome.bind]
  refine ⟨_, rfl, ?_⟩
  simp [Conn.table, hne]

-- `free_http2_stream_data` moves a live record from the list to the freed ones and detaches its
-- links.
theorem ConnInvariant.freeHttp2StreamData (hi : ConnInvariant c) {h : Handle}
    (hfree : c.freeHttp2StreamData h = .done c') : ConnInvariant c' := by
  obtain ⟨o, ho, -⟩ := Outcome.bind_eq_done.mp hfree
  have ho := Conn.lookup_of_record ho
  have hh : h ∈ c.streams := (hi.live h).mp (by simp [ho])
  obtain ⟨c₁, hfree₁, ht⟩ := Conn.freeHttp2StreamData_table ho (List.ne_nil_of_mem hh)
  obtain rfl : c₁ = c' := Outcome.done.inj (hfree₁.symm.trans hfree)
  simp only [Conn.table, Conn.Table.mk.injEq] at ht
  obtain ⟨hr, hs, hf, hn, hl, hd⟩ := ht
  have hperm : (c₁.streams ++ c₁.freed).Perm (c.streams ++ c.freed) := by
    rw [hs, hf, ← List.append_assoc]
    exact (List.perm_append_singleton _ _).trans ((List.perm_cons_erase hh).append_right _).symm
  refine ⟨hperm.nodup_iff.mpr hi.nodup, fun k => ?_, fun k hk => hn ▸ hi.fresh k (hperm.subset hk),
    fun p hp => ?_⟩
  · rw [hr, hs]
    by_cases hk : k = h
    · subst hk
      simp [(List.nodup_append.mp hi.nodup).1.not_mem_erase]
    · rw [assocErase_lookup_of_ne _ hk, hi.live k, List.mem_erase_of_ne hk]
  · rw [hl, List.mem_filter] at hp
    rw [hd, hr]
    rcases hi.links p hp.1 with hd' | ⟨o₀, h₀, hl₀⟩
    · exact .inl hd'
    · -- the freed record's links are gone, so the context is another record
      have hk : p.2 ≠ h := by
        rintro hk
        rw [hk, ho] at h₀
        cases h₀
        simp only [Outgoing.hasLink] at hl₀
        simp only [ne_eq, decide_eq_true_eq] at hp
        rcases hl₀ with h' | h' <;> simp [h'] at hp
      exact .inr ⟨o₀, by rw [assocErase_lookup_of_ne _ hk]; exact h₀, hl₀⟩

-- A new record at the next handle, reached from the links `l` and `l + 1` it was created with.
theorem ConnInvariant.addRecord (hi : ConnInvariant c) (l : LinkId) (o : Outgoing)
    (hl : o.hasLink l ∧ o.hasLink (l + 1))
    (ht : c'.table = ⟨assocSet c.records c.nextHandle o, c.streams ++ [c.nextHandle], c.freed,
      c.nextHandle + 1, assocSet (assocSet c.linkContext l c.nextHandle) (l + 1) c.nextHandle,
      c.dispatcher⟩) : ConnInvariant c' := by
  simp only [Conn.table, Conn.Table.mk.injEq] at ht
  obtain ⟨hr, hs, hf, hn, hlc, hd⟩ := ht
  have hnew : c.nextHandle ∉ c.streams ++ c.freed := fun hm => Nat.lt_irrefl _ (hi.fresh _ hm)
  have hperm : (c'.streams ++ c'.freed).Perm (c.nextHandle :: (c.streams ++ c.freed)) := by
    rw [hs, hf, List.append_assoc]
    exact List.perm_middle
  have hold : ∀ k, (c.records.lookup k).isSome → k ≠ c.nextHandle := fun k hk hk' => by
    rw [hi.live, hk'] at hk
    exact hnew (List.mem_append_left _ hk)
  refine ⟨hperm.nodup_iff.mpr (List.nodup_cons.mpr ⟨hnew, hi.nodup⟩), fun k => ?_, fun k hk => ?_,
    fun p hp => ?_⟩
  · rw [hr, hs]
    by_cases hk : k = c.nextHandle
    · subst hk; simp
    · rw [assocSet_lookup_of_ne _ _ hk, hi.live k]; simp [hk]
  · rw [hn]
    rcases List.mem_cons.mp (hperm.subset hk) with rfl | hk
    · exact Nat.lt_succ_self _
    · exact Nat.lt_succ_of_lt (hi.fresh k hk)
  · rw [hlc] at hp
    rw [hd, hr]
    simp only [mem_assocSet] at hp
    rcases hp with rfl | ⟨rfl | ⟨hp, hp1⟩, -⟩
    · exact .inr ⟨o, by simp, hl.2⟩
    · exact .inr ⟨o, by simp, hl.1⟩
    · rcases hi.links p hp with hd' | ⟨o₀, h₀, hl₀⟩
      · exact .inl hd'
      · exact .inr ⟨o₀, by rw [assocSet_lookup_of_ne _ _ (hold _ (by simp [h₀]))]; exact h₀, hl₀⟩

theorem ConnInvariant.put_record (hi : ConnInvariant c) {h : Handle} {o o' : Outgoing}
    (ho : c.record h = .done o) (hl : o'.stream.links = o.stream.links) : ConnInvariant (c.put h o') :=
  hi.put (Conn.lookup_of_record ho) hl

-- Writing a record back into a connection that differs from `c` in no record and no link.
theorem ConnInvariant.put_of_table (hi : ConnInvariant c) {c₁ : Conn} (ht : c₁.table = c.table)
    {h : Handle} {o o' : Outgoing} (ho : c.records.lookup h = some o)
    (hl : o'.stream.links = o.stream.links) : ConnInvariant (c₁.put h o') :=
  (hi.of_table ht).put (by rw [show c₁.records = c.records from congrArg Conn.Table.records ht]; exact ho) hl

-- What `nghttp2_session_send` does to a connection: it moves the codec's items, windows and
-- closed sides, and writes back each record it pulls with only the sending side's fields changed.
theorem Conn.sendItems_induction (P : Conn → Prop)
    (hcodec : ∀ c sid f, (∀ cs, (f cs).userData = cs.userData) → P c → P (c.setCodec sid f))
    (hput : ∀ c p o o', P c → c.records.lookup p = some o →
      o'.stream.sendFrame = o.stream.sendFrame → P (c.put p o')) :
    ∀ {rs : List (List CodecRead)} {items : List (Int × CodecStream)} {c c' : Conn}, P c →
      c.sendItems rs items = .done c' → P c'
  | _, [], _, _, hp, h => by cases h; exact hp
  | _, (_, _) :: _, _, _, hp, h => by
    unfold Conn.sendItems at h
    split at h
    · split at h
      · refine Conn.sendItems_induction P hcodec hput ?_ h
        exact hcodec _ _ _ (fun _ => rfl) hp
      split at h
      · cases h
      obtain ⟨o, ho, h⟩ := Outcome.bind_eq_done.mp h
      obtain ⟨r, hr, h⟩ := Outcome.bind_eq_done.mp h
      refine Conn.sendItems_induction P hcodec hput (hput _ _ o _ ?_ ?_ (pullData_sendFrame hr)) h
      · exact hcodec _ _ _ (fun _ => rfl) hp
      · simpa [Conn.afterSend] using Conn.lookup_of_record ho
    · exact Conn.sendItems_induction P hcodec hput hp h

theorem ConnInvariant.sendItems (hi : ConnInvariant c) {rs : List (List CodecRead)}
    {items : List (Int × CodecStream)} (h : c.sendItems rs items = .done c') : ConnInvariant c' :=
  Conn.sendItems_induction ConnInvariant (fun _ _ _ _ hi => hi.of_table (Conn.setCodec_table _ _))
    (fun _ _ _ _ hi ho hf => hi.put ho (congrArg (fun p => p.1.links) hf)) hi h

theorem ConnInvariant.onRecord (hi : ConnInvariant c) {h : Handle}
    {f : DlvId → StreamData → Except Fault (StreamData × List Effect)}
    (hf : ∀ dlv s s' effs, f dlv s = .ok (s', effs) → s'.links = s.links)
    (hr : c.onRecord h f = .done c') : ConnInvariant c' := by
  obtain ⟨o, ho, hr⟩ := Outcome.bind_eq_done.mp hr
  split at hr
  · cases hr
  · rename_i s effs hs
    cases hr
    exact (hi.put_record ho (hf _ _ _ _ hs)).of_table (Conn.deliverEffects_table _ _)

-- The stream callbacks write their record through the ingress model, which keeps its links.
theorem ConnInvariant.onRecord_step (hi : ConnInvariant c) {h : Handle} (e : StreamEvent)
    (hr : c.onRecord h (fun dlv s => streamStep c.cfg dlv s e) = .done c') : ConnInvariant c' :=
  hi.onRecord (fun _ _ _ _ hs => congrArg RecordKeys.links (streamStep_keys hs)) hr

theorem ConnInvariant.onStream (hi : ConnInvariant c) {sid : Int} (e : StreamEvent)
    (hr : c.onStream sid (fun dlv s => streamStep c.cfg dlv s e) = .done c') : ConnInvariant c' := by
  unfold Conn.onStream at hr
  split at hr
  · cases hr; exact hi
  · exact hi.onRecord_step e hr

theorem ConnInvariant.freeUnprocessedStreams (last : Int) :
    ∀ (fuel : Nat) {c c' : Conn} {cur : Option Handle}, ConnInvariant c →
      Conn.freeUnprocessedStreams last fuel c cur = .done c' → ConnInvariant c'
  | fuel, _, _, none, hi, h => by
    cases fuel <;> simp only [Conn.freeUnprocessedStreams, Outcome.done.injEq] at h <;> exact h ▸ hi
  | 0, _, _, some _, _, h => by cases h
  | fuel + 1, _, _, some _, hi, h => by
    obtain ⟨o, -, h⟩ := Outcome.bind_eq_done.mp h
    split at h
    · obtain ⟨c₁, h₁, h⟩ := Outcome.bind_eq_done.mp h
      exact ConnInvariant.freeUnprocessedStreams last fuel (hi.freeHttp2StreamData h₁) h
    · exact ConnInvariant.freeUnprocessedStreams last fuel hi h

theorem ConnInvariant.freeAllConnectionStreams :
    ∀ (hs : List Handle) {c c' : Conn}, ConnInvariant c →
      Conn.freeAllConnectionStreams c hs = .done c' → ConnInvariant c'
  | [], _, _, hi, h => by cases h; exact hi
  | _ :: hs, _, _, hi, h => by
    obtain ⟨c₁, h₁, h⟩ := Outcome.bind_eq_done.mp h
    exact ConnInvariant.freeAllConnectionStreams hs (hi.freeHttp2StreamData h₁) h

-- `handle_outgoing_http` writes only the record back into the table, with the links it had.
theorem Conn.afterOutgoing_table (c : Conn) (h : Handle) (before o : Outgoing) (item : DataItem) :
    ∃ o' : Outgoing, o'.stream.links = o.stream.links ∧
      (c.afterOutgoing h before o item).table = (c.put h o').table := by
  unfold Conn.afterOutgoing
  dsimp only
  split
  · refine ⟨{ o with stream.streamId := c.nextStreamId }, rfl, ?_⟩
    split <;> simp only [Conn.afterSend_table, Conn.table_dataPrdSource, Conn.setCodec_table] <;> rfl
  · refine ⟨o, rfl, ?_⟩
    split <;> simp only [Conn.afterSend_table, Conn.table_dataPrdSource, Conn.setCodec_table]

theorem ConnInvariant.afterOutgoing (hi : ConnInvariant c) {h : Handle} {before o : Outgoing}
    (item : DataItem) (hb : c.records.lookup h = some before) (hl : o.stream.links = before.stream.links) :
    ConnInvariant (c.afterOutgoing h before o item) := by
  obtain ⟨o', hl', ht⟩ := c.afterOutgoing_table h before o item
  exact (hi.put hb (hl'.trans hl)).of_table ht

theorem ConnInvariant.handleOutgoing (hi : ConnInvariant c) {reads : List CodecRead} {h : Handle}
    (hd : c.handleOutgoing reads h = .done c') : ConnInvariant c' := by
  obtain ⟨o, ho, hd⟩ := Outcome.bind_eq_done.mp hd
  obtain ⟨r, hr, hd⟩ := Outcome.bind_eq_done.mp hd
  cases hd
  exact hi.afterOutgoing _ (Conn.lookup_of_record ho) (handleOutgoingHttp_links hr)

theorem ConnInvariant.submitDataAndSend (hi : ConnInvariant c) {reads : List CodecRead} {sid : Int}
    (hs : c.submitDataAndSend reads sid = .done c') : ConnInvariant c' :=
  (hi.of_table (Conn.submitData_table sid)).sendItems hs

theorem ConnInvariant.deliveryUpdate (hi : ConnInvariant c) {reads : List CodecRead} {dlv : DlvId}
    {disp : Nat} {h : Handle} (hu : c.deliveryUpdate reads dlv disp h = .done c') : ConnInvariant c' := by
  obtain ⟨o, ho, hu⟩ := Outcome.bind_eq_done.mp hu
  have hi₁ : ∀ o₁ : Outgoing, o₁.stream.links = o.stream.links → ∀ sid f,
      ConnInvariant ((c.put h o₁).setCodec sid f) :=
    fun _ hl _ _ => (hi.put_record ho hl).of_table (Conn.setCodec_table _ _)
  obtain ⟨c₂, hsent, hu⟩ := Outcome.bind_eq_done.mp hu
  -- the forced close or the response is written back, then an egress stream sends its body
  have hi₂ : ConnInvariant c₂ := by
    simp only [Conn.setCodec_cfg, Conn.put_cfg] at hsent
    by_cases hb : (!c.cfg.ingress && badDisposition disp) = true
    · rw [if_pos hb] at hsent
      obtain ⟨c₃, h₃, hsent⟩ := Outcome.bind_eq_done.mp hsent
      obtain ⟨o₃, h₄, hsent⟩ := Outcome.bind_eq_done.mp hsent
      cases hsent
      exact ((hi₁ _ (by split <;> rfl) _ _).submitDataAndSend h₃).put_record h₄ rfl
    · rw [if_neg hb] at hsent
      cases hsent
      exact hi₁ _ (by split <;> rfl) _ _
  -- `in_dlv` released, then the record freed or marked applied
  obtain ⟨o₂, h₂, hu⟩ := Outcome.bind_eq_done.mp hu
  have hi₃ : ∀ o₃ : Outgoing, o₃.stream.links = o₂.stream.links →
      ConnInvariant ({ c₂ with dlvContext := assocErase c₂.dlvContext dlv }.put h o₃) :=
    fun _ hl => hi₂.put_of_table (by rfl) (Conn.lookup_of_record h₂) hl
  dsimp only at hu
  split at hu
  · exact (hi₃ _ (by rfl)).freeHttp2StreamData hu
  · obtain ⟨o₄, h₄, hu⟩ := Outcome.bind_eq_done.mp hu
    cases hu
    exact (hi₃ _ (by rfl)).put_record h₄ rfl

theorem ConnInvariant.qdrHttpDeliveryUpdate (hi : ConnInvariant c) {reads : List CodecRead}
    {dlv : DlvId} {disp : Nat} {settled : Bool}
    (hu : c.qdrHttpDeliveryUpdate reads dlv disp settled = .done c') : ConnInvariant c' := by
  unfold Conn.qdrHttpDeliveryUpdate at hu
  split at hu
  · cases hu; exact hi
  · split at hu
    · exact hi.deliveryUpdate hu
    · cases hu; exact hi

-- On the stream dispatcher a new record takes the request with two new links; on a stream's own
-- link the record takes the delivery and sends.
theorem ConnInvariant.qdrHttpDeliver (hi : ConnInvariant c) {reads : List CodecRead} {link : LinkId}
    {dlv : DlvId} {msg : OutMessage} (hd : c.qdrHttpDeliver reads link dlv msg = .done c') :
    ConnInvariant c' := by
  unfold Conn.qdrHttpDeliver at hd
  split at hd
  · cases hd; exact hi
  · split at hd
    · cases hd
      exact hi.addRecord c.nextLink _ ⟨.inr rfl, .inl rfl⟩ rfl
    · obtain ⟨o, ho, hd⟩ := Outcome.bind_eq_done.mp hd
      exact (hi.put_record ho (by dsimp only; split <;> rfl)).handleOutgoing hd

theorem ConnInvariant.restartVisit (hi : ConnInvariant c) {rs : List (List CodecRead)} {h : Handle}
    {r : List (List CodecRead) × Conn × Option Handle} (hv : c.restartVisit rs h = .done r) :
    ConnInvariant r.2.1 := by
  obtain ⟨o, ho, hv⟩ := Outcome.bind_eq_done.mp hv
  split at hv
  · -- settled in place, freed once its message is sent and its disposition applied
    have hi₁ : ConnInvariant (c.put h { o with
        stream := (settleOutDlv o.stream).1
        log := o.log ++ (settleOutDlv o.stream).2 }) := hi.put_record ho (congrArg RecordKeys.links (settleOutDlv_keys o.stream))
    dsimp only at hv
    split at hv
    · obtain ⟨c₁, h₁, hv⟩ := Outcome.bind_eq_done.mp hv
      cases hv
      exact hi₁.freeHttp2StreamData h₁
    · cases hv; exact hi₁
  · split at hv
    · obtain ⟨c₁, h₁, hv⟩ := Outcome.bind_eq_done.mp hv
      cases hv
      exact hi.handleOutgoing h₁
    · cases hv; exact hi

theorem ConnInvariant.restartFrom :
    ∀ (fuel : Nat) {rs : List (List CodecRead)} {c c' : Conn} {cur : Option Handle}, ConnInvariant c →
      Conn.restartFrom fuel rs c cur = .done c' → ConnInvariant c'
  | fuel, _, _, _, none, hi, h => by
    cases fuel <;> simp only [Conn.restartFrom, Outcome.done.injEq] at h <;> exact h ▸ hi
  | 0, _, _, _, some _, _, h => by cases h
  | fuel + 1, _, _, _, some _, hi, h => by
    obtain ⟨r, hr, h⟩ := Outcome.bind_eq_done.mp h
    exact ConnInvariant.restartFrom fuel (hi.restartVisit hr) h

-- `restart_streams` moves the head of the list to its tail.
theorem ConnInvariant.rotate (hi : ConnInvariant c) {k : Handle} {ks : List Handle}
    (hs : c.streams = k :: ks) : ConnInvariant { c with streams := ks ++ [k] } := by
  have hperm : (ks ++ [k] ++ c.freed).Perm (c.streams ++ c.freed) := by
    rw [hs]; exact (List.perm_append_singleton k ks).append_right _
  exact ⟨hperm.nodup_iff.mpr hi.nodup,
    fun h => by rw [hi.live h, hs]; exact (List.perm_append_singleton k ks).mem_iff.symm,
    fun h hh => hi.fresh h (hperm.subset hh), hi.links⟩

theorem ConnInvariant.restartStreams (hi : ConnInvariant c) {rs : List (List CodecRead)}
    (h : c.restartStreams rs = .done c') : ConnInvariant c' := by
  unfold Conn.restartStreams at h
  split at h
  · cases h; exact hi
  · rename_i k ks hs
    exact ConnInvariant.restartFrom _ (hi.rotate hs) h

theorem ConnInvariant.onBeginHeaders (hi : ConnInvariant c) {sid : Int} {request : Bool}
    (hb : c.onBeginHeaders sid request = .done c') : ConnInvariant c' := by
  unfold Conn.onBeginHeaders at hb
  split at hb
  · cases hb
    exact hi.addRecord c.nextLink _ ⟨.inl rfl, .inr rfl⟩ rfl
  · split at hb
    · split at hb
      · cases hb
      · obtain ⟨o, -, hb⟩ := Outcome.bind_eq_done.mp hb
        cases hb; exact hi
    · cases hb; exact hi

theorem ConnInvariant.onHeader (hi : ConnInvariant c) {sid : Int} {f : Field}
    (hh : c.onHeader sid f = .done c') : ConnInvariant c' := by
  unfold Conn.onHeader at hh
  split at hh
  · split at hh
    · cases hh; exact hi
    · split at hh
      · cases hh
      · exact hi.onRecord_step (.Header f) hh
  · cases hh; exact hi

-- RST_STREAM rejects `out_dlv` on the record, then frees it.
theorem ConnInvariant.onRstStream (hi : ConnInvariant c) {sid : Int}
    (hr : c.onRstStream sid = .done c') : ConnInvariant c' := by
  unfold Conn.onRstStream at hr
  split at hr
  · cases hr; exact hi
  · obtain ⟨o, ho, hr⟩ := Outcome.bind_eq_done.mp hr
    obtain ⟨c₁, h₁, hr⟩ := Outcome.bind_eq_done.mp hr
    cases hr
    refine (ConnInvariant.freeHttp2StreamData ?_ h₁).of_table (Conn.setCodec_table _ _)
    -- the record with `out_dlv` rejected, and the context of `in_dlv` dropped
    have hi₁ : ∀ o₁ : Outgoing, o₁.stream.links = o.stream.links → ∀ c₂ : Conn,
        c₂.table = (c.put _ o₁).table → ConnInvariant c₂ :=
      fun _ hl _ ht => (hi.put_record ho hl).of_table ht
    repeat' split
    all_goals exact hi₁ _ (by rfl) _ rfl

-- `handle_disconnected` drops the stream dispatcher, then frees every record.
theorem ConnInvariant.dropDispatcher (hi : ConnInvariant c) :
    ConnInvariant (match c.dispatcher with
      | some l => { c with linkContext := assocErase c.linkContext l, dispatcher := none }
      | none => c) := by
  split
  · rename_i l hl
    refine ⟨hi.nodup, hi.live, hi.fresh, fun p hp => .inr ?_⟩
    simp only [assocErase, List.mem_filter, ne_eq, decide_eq_true_eq] at hp
    rcases hi.links p hp.1 with hd | h
    · exact absurd (Option.some.inj (hl.symm.trans hd)) (Ne.symm hp.2)
    · exact h
  · exact hi

theorem ConnInvariant.handleDisconnected (hi : ConnInvariant c) (hd : c.handleDisconnected = .done c') :
    ConnInvariant c' := by
  unfold Conn.handleDisconnected at hd
  obtain ⟨c₁, h₁, hd⟩ := Outcome.bind_eq_done.mp hd
  cases hd
  exact (ConnInvariant.freeAllConnectionStreams _ hi.dropDispatcher h₁).of_table rfl

theorem ConnInvariant.step (hi : ConnInvariant c) {e : ConnEvent} (hs : connStep c e = .done c') :
    ConnInvariant c' := by
  cases e with
  | BeginHeaders sid request => exact hi.onBeginHeaders hs
  | Header sid f => exact hi.onHeader hs
  | HeadersFrame sid eh es =>
    obtain ⟨c₁, h₁, hs⟩ := Outcome.bind_eq_done.mp hs
    cases hs
    exact (hi.onStream (.HeadersFrame eh es) h₁).of_table (Conn.remoteEnd_table _ _)
  | DataChunk sid d => exact hi.onStream (.DataChunk d) hs
  | DataFrame sid es =>
    obtain ⟨c₁, h₁, hs⟩ := Outcome.bind_eq_done.mp hs
    cases hs
    exact (hi.onStream (.DataFrame es) h₁).of_table (Conn.remoteEnd_table _ _)
  | RstStream sid => exact hi.onRstStream hs
  | GoAway last =>
    obtain ⟨c₁, h₁, hs⟩ := Outcome.bind_eq_done.mp hs
    cases hs
    exact (ConnInvariant.freeUnprocessedStreams last _ hi h₁).of_table (Conn.closeAbove_table _)
  | Flow link credit =>
    dsimp only [connStep] at hs
    split at hs
    · split at hs
      · exact hi.onRecord_step (.Flow credit) hs
      · cases hs; exact hi
    · cases hs; exact hi
  | SecondAttach link a =>
    dsimp only [connStep] at hs
    split at hs
    · exact hi.onRecord_step (.SecondAttach a) hs
    · cases hs; exact hi
  | Deliver link dlv msg reads => exact hi.qdrHttpDeliver hs
  | DeliveryUpdate dlv disp settled reads => exact hi.qdrHttpDeliveryUpdate hs
  | WindowUpdate sid increment rs => exact (hi.of_table (Conn.setCodec_table _ _)).sendItems hs
  | Settings w rs => exact (hi.of_table (Conn.onSettings_table w)).sendItems hs
  | Written rs => exact hi.restartStreams hs
  | Disconnected => exact hi.handleDisconnected hs

theorem ConnInvariant.run : ∀ {c c' : Conn} {evs : List ConnEvent}, ConnInvariant c →
    runConn c evs = .done c' → ConnInvariant c'
  | _, _, [], hi, h => by cases h; exact hi
  | _, _, _ :: _, hi, h => by
    obtain ⟨c₁, h₁, h⟩ := Outcome.bind_eq_done.mp h
    exact ConnInvariant.run (hi.step h₁) h

theorem ConnInvariant.initial (cfg : Config) : ConnInvariant (.initial cfg) := by
  refine ⟨by simp [Conn.initial], fun _ => by simp [Conn.initial], fun _ hh => by simp [Conn.initial] at hh,
    fun p hp => .inl ?_⟩
  cases hc : cfg.ingress <;> simp only [Conn.initial, hc, if_false, if_true, List.mem_singleton,
    List.not_mem_nil, Bool.false_eq_true] at hp ⊢
  rw [hp]

end Keeps

theorem mem_of_lookup_eq_some {α β : Type} [DecidableEq α] {l : List (α × β)} {a : α} {b : β}
    (h : l.lookup a = some b) : (a, b) ∈ l := by
  induction l with
  | nil => cases h
  | cons p l ih =>
    obtain ⟨a', b'⟩ := p
    by_cases ha : a = a'
    · subst ha
      simp only [List.lookup_cons, beq_self_eq_true, Option.some.injEq] at h
      simp [h]
    · simp only [List.lookup_cons, beq_eq_false_iff_ne.mpr ha] at h
      exact List.mem_cons_of_mem _ (ih h)

-- The context of a link other than the stream dispatcher is a live record.
theorem ConnInvariant.link_record {c : Conn} (hi : ConnInvariant c) {link : LinkId} {h : Handle}
    (hd : c.dispatcher ≠ some link) (hl : c.linkContext.lookup link = some h) : ∃ o, c.record h = .done o := by
  rcases hi.links _ (mem_of_lookup_eq_some hl) with hd' | ⟨o, ho, -⟩
  · exact absurd hd' hd
  · exact ⟨o, Conn.record_of_lookup ho⟩

theorem Conn.onRecord_ok {c : Conn} {h : Handle} {o : Outgoing} (ho : c.record h = .done o)
    (f : DlvId → StreamData → StreamData × List Effect) :
    ∃ c', c.onRecord h (fun dlv s => .ok (f dlv s)) = .done c' := by
  simp only [Conn.onRecord, ho, Outcome.bind]
  exact ⟨_, rfl⟩

-- A flow or second-attach callback on a link other than the stream dispatcher finds a live
-- record, and returns.
theorem ConnInvariant.flow_returns {c : Conn} (hi : ConnInvariant c) {link : LinkId}
    (hd : c.dispatcher ≠ some link) (credit : Int) : ∃ c', connStep c (.Flow link credit) = .done c' := by
  simp only [connStep]
  split
  · split
    · rename_i k hk
      obtain ⟨o, ho⟩ := hi.link_record hd hk
      exact Conn.onRecord_ok ho _
    · exact ⟨c, rfl⟩
  · exact ⟨c, rfl⟩

theorem ConnInvariant.secondAttach_returns {c : Conn} (hi : ConnInvariant c) {link : LinkId}
    (hd : c.dispatcher ≠ some link) (address : String) :
    ∃ c', connStep c (.SecondAttach link address) = .done c' := by
  simp only [connStep]
  split
  · rename_i k hk
    obtain ⟨o, ho⟩ := hi.link_record hd hk
    exact Conn.onRecord_ok ho _
  · exact ⟨c, rfl⟩

-- Every connection reached from its start, by callbacks that return, keeps its record table
-- sound: the list holds the live records once each, a freed record is never live again, handles
-- are not reused, and every link context but the dispatcher's is a live record the link belongs
-- to.
theorem runConn_invariant (cfg : Config) (evs : List ConnEvent) (c : Conn)
    (h : runConn (.initial cfg) evs = .done c) :
    c.streams.Nodup ∧ (∀ k, (c.records.lookup k).isSome ↔ k ∈ c.streams) ∧
      (∀ k ∈ c.freed, k ∉ c.streams) ∧ (∀ k ∈ c.streams ++ c.freed, k < c.nextHandle) ∧
      ∀ p ∈ c.linkContext, c.dispatcher = some p.1 ∨
        ∃ o, c.records.lookup p.2 = some o ∧ o.hasLink p.1 := by
  have hi := (ConnInvariant.initial cfg).run h
  have hnd := List.nodup_append.mp hi.nodup
  exact ⟨hnd.1, hi.live, fun _ hf hs => hnd.2.2 hs hf, hi.fresh, hi.links⟩

-- An ingress request routed, then freed by the client's GOAWAY.
theorem runConn_invariant_after_goaway :
    ∃ c, runConn (.initial ⟨true, some "addr", none⟩)
      [.BeginHeaders 1 true, .Header 1 ⟨":method", "GET"⟩, .HeadersFrame 1 true true,
       .SecondAttach 2 "reply", .Flow 1 1, .GoAway 0] = .done c ∧
      c.freed = [1] ∧ (c.streams.Nodup ∧ (∀ k, (c.records.lookup k).isSome ↔ k ∈ c.streams) ∧
        (∀ k ∈ c.freed, k ∉ c.streams) ∧ (∀ k ∈ c.streams ++ c.freed, k < c.nextHandle) ∧
        ∀ p ∈ c.linkContext, c.dispatcher = some p.1 ∨
          ∃ o, c.records.lookup p.2 = some o ∧ o.hasLink p.1) :=
  ⟨_, rfl, rfl, runConn_invariant ⟨true, some "addr", none⟩
    [.BeginHeaders 1 true, .Header 1 ⟨":method", "GET"⟩, .HeadersFrame 1 true true,
     .SecondAttach 2 "reply", .Flow 1 1, .GoAway 0] _ rfl⟩

-- In every connection reached from its start, a flow or second-attach callback on any link but
-- the stream dispatcher returns: the link's context is never a freed record.
theorem runConn_link_callbacks_return (cfg : Config) (evs : List ConnEvent) (c : Conn)
    (h : runConn (.initial cfg) evs = .done c) (link : LinkId) (hd : c.dispatcher ≠ some link)
    (credit : Int) (address : String) :
    (∃ c', connStep c (.Flow link credit) = .done c') ∧
      ∃ c', connStep c (.SecondAttach link address) = .done c' := by
  have hi := (ConnInvariant.initial cfg).run h
  exact ⟨hi.flow_returns hd credit, hi.secondAttach_returns hd address⟩

-- An egress connection after the stream dispatcher took a request: the record's `in_link` is
-- link 2.
theorem runConn_link_callbacks_return_egress :
    let req : OutMessage := ⟨[⟨QD_AP_FLOW_ID, "f"⟩, ⟨":method", "GET"⟩], [], true, .Ok, 0, false,
      some "reply"⟩
    ∃ c, runConn (.initial ⟨false, some "svc", none⟩) [.Deliver 0 100 req []] = .done c ∧
      c.dispatcher ≠ some 2 ∧ (∃ c', connStep c (.Flow 2 1) = .done c') ∧
        ∃ c', connStep c (.SecondAttach 2 "reply") = .done c' :=
  ⟨_, rfl, by decide, runConn_link_callbacks_return ⟨false, some "svc", none⟩
    [.Deliver 0 100 ⟨[⟨QD_AP_FLOW_ID, "f"⟩, ⟨":method", "GET"⟩], [], true, .Ok, 0, false, some "reply"⟩ []]
    _ rfl 2 (by decide) 1 "reply"⟩

end SkupperRouter.Http2
