import SkupperRouter.Http2.Connection.Invariant
import SkupperRouter.Http2.Ingress.Body
import SkupperRouter.Http2.Ingress.HeaderBlock

namespace SkupperRouter.Http2

-- The states a stream record can be in: created fresh, then changed by its own stream's callbacks
-- and by writes of the sending side, which leave what it composes alone.
inductive RecordReachable : StreamData → Prop
  | create (sid : Int) (flowId : String) {s : StreamData} :
      s.composing = (createQdrHttp2StreamData sid flowId).composing → RecordReachable s
  | callback {cfg : Config} {dlv : DlvId} {e : StreamEvent} {s s' : StreamData} {effs : List Effect} :
      RecordReachable s → streamStep cfg dlv s e = .ok (s', effs) → RecordReachable s'
  | frame {s s' : StreamData} : RecordReachable s → s'.composing = s.composing → RecordReachable s'

-- A write of a connection callback to a live record: the record keeps its keys, or has now sent
-- its HEADERS, and stays reachable.
structure RecordWrite (s s' : StreamData) : Prop where
  keys : s'.keys = s.keys ∨ s'.keys = { s.keys with headerSent := true }
  reachable : RecordReachable s → RecordReachable s'

section Writes

variable {s s' : StreamData}

theorem RecordWrite.frame (h : s'.sendFrame = s.sendFrame) : RecordWrite s s' :=
  ⟨.inl (congrArg Prod.fst h), fun r => r.frame (congrArg Prod.snd h)⟩

theorem RecordWrite.send (h : s'.sendFrame = s.sendFrame ∨
    s'.sendFrame = ({ s.keys with headerSent := true }, s.composing)) : RecordWrite s s' := by
  rcases h with h | h
  · exact .frame h
  · exact ⟨.inr (congrArg Prod.fst h), fun r => r.frame (congrArg Prod.snd h)⟩

theorem RecordWrite.callback {cfg : Config} {dlv : DlvId} {e : StreamEvent} {effs : List Effect}
    (h : streamStep cfg dlv s e = .ok (s', effs)) : RecordWrite s s' :=
  ⟨.inl (streamStep_keys h), fun r => r.callback h⟩

theorem RecordWrite.links (hw : RecordWrite s s') : s'.links = s.links := by
  rcases hw.keys with h | h <;> exact congrArg RecordKeys.links h

theorem RecordWrite.streamId (hw : RecordWrite s s') : s'.streamId = s.streamId := by
  rcases hw.keys with h | h <;> exact congrArg RecordKeys.streamId h

theorem RecordWrite.headerSent (hw : RecordWrite s s') (h : s.outMsgHeaderSent = true) :
    s'.outMsgHeaderSent = true := by
  rcases hw.keys with hk | hk
  · exact (congrArg RecordKeys.headerSent hk).trans h
  · exact congrArg RecordKeys.headerSent hk

end Writes

theorem settleOutDlv_sendFrame (s : StreamData) : (settleOutDlv s).1.sendFrame = s.sendFrame := by
  unfold settleOutDlv
  repeat' split
  all_goals rfl

theorem Conn.setCodec_lookup (c : Conn) (sid : Int) (f : CodecStream → CodecStream) (k : Int) :
    (c.setCodec sid f).codec.lookup k =
      if k = sid then (c.codec.lookup sid).map f else c.codec.lookup k := by
  unfold Conn.setCodec
  split <;> rename_i hcs <;> by_cases hk : k = sid
  all_goals first | (subst hk; simp [hcs]) | simp [hk]

theorem lookup_map_of_fst {α β : Type} [DecidableEq α] (l : List (α × β)) (f : α × β → α × β)
    (hf : ∀ p, (f p).1 = p.1) (k : α) :
    (l.map f).lookup k = (l.lookup k).map fun b => (f (k, b)).2 := by
  induction l with
  | nil => rfl
  | cons p l ih =>
    obtain ⟨a, b⟩ := p
    rw [List.map_cons, show f (a, b) = (a, (f (a, b)).2) from Prod.ext (hf (a, b)) rfl]
    by_cases hk : k = a
    · subst hk; simp [List.lookup_cons]
    · simp [List.lookup_cons, beq_eq_false_iff_ne.mpr hk, ih]

-- Beyond the record table of `ConnInvariant`: every live record is reachable, and the user data
-- of a codec stream is a live record with that stream id, which on an egress connection has sent
-- its HEADERS.
structure RecordsInvariant (c : Conn) : Prop where
  table : ConnInvariant c
  reachable : ∀ h o, c.records.lookup h = some o → RecordReachable o.stream
  codec : ∀ sid cs h, c.codec.lookup sid = some cs → cs.userData = some h →
    ∃ o, c.records.lookup h = some o ∧ o.stream.streamId = sid ∧
      (c.cfg.ingress = false → o.stream.outMsgHeaderSent = true)

section Keeps

variable {c c' : Conn}

theorem reachable_assocSet {l : List (Handle × Outgoing)}
    (hl : ∀ h o, l.lookup h = some o → RecordReachable o.stream) (k : Handle) {o : Outgoing}
    (hs : RecordReachable o.stream) : ∀ h o', (assocSet l k o).lookup h = some o' →
      RecordReachable o'.stream := by
  intro h o' hh
  by_cases hk : h = k
  · subst hk
    rw [assocSet_lookup_self] at hh
    cases hh
    exact hs
  · rw [assocSet_lookup_of_ne _ _ hk] at hh
    exact hl h o' hh

-- A live record's handle is below `next_handle`, so a new record is never the user data of a
-- codec stream.
theorem RecordsInvariant.codec_lt (hi : RecordsInvariant c) {sid : Int} {cs : CodecStream}
    {h : Handle} (hcs : c.codec.lookup sid = some cs) (hu : cs.userData = some h) :
    h < c.nextHandle := by
  obtain ⟨o, ho, -⟩ := hi.codec sid cs h hcs hu
  exact hi.table.fresh h (List.mem_append_left _ ((hi.table.live h).mp (by simp [ho])))

-- A connection with the same records, and the same user data on each codec stream.
theorem RecordsInvariant.of_codec (hi : RecordsInvariant c) (ht : c'.table = c.table)
    (hcfg : c'.cfg = c.cfg)
    (hc : ∀ sid cs', c'.codec.lookup sid = some cs' →
      ∃ cs, c.codec.lookup sid = some cs ∧ cs'.userData = cs.userData) : RecordsInvariant c' := by
  have hr : c'.records = c.records := congrArg Conn.Table.records ht
  refine ⟨hi.table.of_table ht, fun k o hk => hi.reachable k o (hr ▸ hk), fun sid cs' k hcs hk => ?_⟩
  obtain ⟨cs, hcs₀, hu⟩ := hc sid cs' hcs
  rw [hr, hcfg]
  exact hi.codec sid cs k hcs₀ (hu ▸ hk)

theorem RecordsInvariant.of_eq (hi : RecordsInvariant c) (ht : c'.table = c.table)
    (hcfg : c'.cfg = c.cfg) (hc : c'.codec = c.codec) : RecordsInvariant c' :=
  hi.of_codec ht hcfg fun _ cs' h => ⟨cs', hc ▸ h, rfl⟩

-- Closing a codec stream, or changing its DATA item, keeps its user data.
theorem RecordsInvariant.setCodec (hi : RecordsInvariant c) (sid : Int) {f : CodecStream → CodecStream}
    (hf : ∀ cs, (f cs).userData = cs.userData) : RecordsInvariant (c.setCodec sid f) := by
  refine hi.of_codec (Conn.setCodec_table _ _) (Conn.setCodec_cfg _ _) fun k cs' h => ?_
  rw [Conn.setCodec_lookup] at h
  split at h
  · rename_i hk
    obtain ⟨cs, hcs, rfl⟩ := Option.map_eq_some'.mp h
    exact ⟨cs, hk ▸ hcs, hf cs⟩
  · exact ⟨cs', h, rfl⟩

-- Writing a live record back.
theorem RecordsInvariant.put (hi : RecordsInvariant c) {h : Handle} {o o' : Outgoing}
    (ho : c.records.lookup h = some o) (hw : RecordWrite o.stream o'.stream) :
    RecordsInvariant (c.put h o') := by
  refine ⟨hi.table.put ho hw.links,
    reachable_assocSet hi.reachable h (o := { o' with log := [] }) (hw.reachable (hi.reachable h o ho)),
    fun sid cs k hcs hk => ?_⟩
  obtain ⟨o₁, h₁, hs₁, hsent⟩ := hi.codec sid cs k hcs hk
  by_cases hkh : k = h
  · subst hkh
    rw [ho] at h₁
    cases h₁
    exact ⟨_, Conn.put_lookup_self o', hw.streamId.trans hs₁, fun he => hw.headerSent (hsent he)⟩
  · exact ⟨o₁, by rw [Conn.put_lookup_of_ne _ hkh]; exact h₁, hs₁, hsent⟩

theorem RecordsInvariant.put_record (hi : RecordsInvariant c) {h : Handle} {o o' : Outgoing}
    (ho : c.record h = .done o) (hw : RecordWrite o.stream o'.stream) : RecordsInvariant (c.put h o') :=
  hi.put (Conn.lookup_of_record ho) hw

-- `free_http2_stream_data` clears the user data of the record's codec stream, the only one that
-- designates it.
theorem RecordsInvariant.freeHttp2StreamData (hi : RecordsInvariant c) {h : Handle}
    (hfree : c.freeHttp2StreamData h = .done c') : RecordsInvariant c' := by
  obtain ⟨o, ho, -⟩ := Outcome.bind_eq_done.mp hfree
  have ho := Conn.lookup_of_record ho
  have hne : c.streams ≠ [] := List.ne_nil_of_mem ((hi.table.live h).mp (by simp [ho]))
  obtain ⟨c₁, h₁, -, hrec, -⟩ := Conn.freeHttp2StreamData_spec ho
  obtain rfl : c₁ = c' := Outcome.done.inj (h₁.symm.trans hfree)
  have hc : (∀ k, c₁.codec.lookup k = if k = o.stream.streamId then
      (c.codec.lookup o.stream.streamId).map (fun cs => { cs with userData := none })
      else c.codec.lookup k) ∧ c₁.cfg = c.cfg := by
    simp only [Conn.freeHttp2StreamData, Conn.record_of_lookup ho, Outcome.bind,
      Outcome.done.injEq] at h₁
    subst h₁
    simp only [hne, if_false]
    exact ⟨fun k => Conn.setCodec_lookup _ _ _ k, Conn.setCodec_cfg _ _⟩
  refine ⟨hi.table.freeHttp2StreamData hfree, fun k o₁ hk => ?_, fun sid cs k hcs hk => ?_⟩
  · by_cases hkh : k = h
    · subst hkh
      simp [hrec] at hk
    · rw [hrec, assocErase_lookup_of_ne _ hkh] at hk
      exact hi.reachable k o₁ hk
  · rw [hc.1] at hcs
    rw [hc.2]
    split at hcs
    · obtain ⟨cs₀, -, rfl⟩ := Option.map_eq_some'.mp hcs
      cases hk
    · rename_i hsid
      obtain ⟨o₁, hl₁, hs₁, hsent⟩ := hi.codec sid cs k hcs hk
      have hkh : k ≠ h := by
        rintro rfl
        rw [ho] at hl₁
        cases hl₁
        exact hsid hs₁.symm
      exact ⟨o₁, by rw [hrec, assocErase_lookup_of_ne _ hkh]; exact hl₁, hs₁, hsent⟩

theorem Conn.deliverEffects_codec (c : Conn) (h : Handle) (effs : List Effect) :
    (c.deliverEffects h effs).codec = c.codec ∧ (c.deliverEffects h effs).cfg = c.cfg := by
  induction effs generalizing c with
  | nil => exact ⟨rfl, rfl⟩
  | cons e effs ih =>
    unfold Conn.deliverEffects
    split <;> exact ih _

theorem RecordsInvariant.onRecord_step (hi : RecordsInvariant c) {h : Handle} (e : StreamEvent)
    (hr : c.onRecord h (fun dlv s => streamStep c.cfg dlv s e) = .done c') : RecordsInvariant c' := by
  obtain ⟨o, ho, hr⟩ := Outcome.bind_eq_done.mp hr
  split at hr
  · cases hr
  · rename_i s effs hs
    cases hr
    have hd := Conn.deliverEffects_codec (c.put h { o with stream := s }) h effs
    exact (hi.put_record ho (.callback hs)).of_eq (Conn.deliverEffects_table _ _) hd.2 hd.1

theorem RecordsInvariant.onStream (hi : RecordsInvariant c) {sid : Int} (e : StreamEvent)
    (hr : c.onStream sid (fun dlv s => streamStep c.cfg dlv s e) = .done c') :
    RecordsInvariant c' := by
  unfold Conn.onStream at hr
  split at hr
  · cases hr; exact hi
  · exact hi.onRecord_step e hr

theorem RecordsInvariant.freeUnprocessedStreams (last : Int) :
    ∀ (fuel : Nat) {c c' : Conn} {cur : Option Handle}, RecordsInvariant c →
      Conn.freeUnprocessedStreams last fuel c cur = .done c' → RecordsInvariant c'
  | fuel, _, _, none, hi, h => by
    cases fuel <;> simp only [Conn.freeUnprocessedStreams, Outcome.done.injEq] at h <;> exact h ▸ hi
  | 0, _, _, some _, _, h => by cases h
  | fuel + 1, _, _, some _, hi, h => by
    obtain ⟨o, -, h⟩ := Outcome.bind_eq_done.mp h
    split at h
    · obtain ⟨c₁, h₁, h⟩ := Outcome.bind_eq_done.mp h
      exact RecordsInvariant.freeUnprocessedStreams last fuel (hi.freeHttp2StreamData h₁) h
    · exact RecordsInvariant.freeUnprocessedStreams last fuel hi h

theorem RecordsInvariant.freeAllConnectionStreams :
    ∀ (hs : List Handle) {c c' : Conn}, RecordsInvariant c →
      Conn.freeAllConnectionStreams c hs = .done c' → RecordsInvariant c'
  | [], _, _, hi, h => by cases h; exact hi
  | _ :: hs, _, _, hi, h => by
    obtain ⟨c₁, h₁, h⟩ := Outcome.bind_eq_done.mp h
    exact RecordsInvariant.freeAllConnectionStreams hs (hi.freeHttp2StreamData h₁) h

-- After `handle_outgoing_http`: the HEADERS of an egress request just went out, so the codec opens
-- the request's stream on the record, which no codec stream designated before.
theorem RecordsInvariant.afterOutgoing (hi : RecordsInvariant c) {h : Handle} {before o : Outgoing}
    (item : DataItem) (hb : c.records.lookup h = some before) (hw : RecordWrite before.stream o.stream) :
    RecordsInvariant (c.afterOutgoing h before o item) := by
  unfold Conn.afterOutgoing
  dsimp only
  -- a first DATA item and the send move only the codec's items
  have hsrc : ∀ {c₁ : Conn} (b : Bool) (sid : Int), RecordsInvariant c₁ → RecordsInvariant
      (if b then { c₁.setCodec sid fun cs => { cs with source := some h } with dataPrdSource := some h }
        else c₁) :=
    fun {c₁} b sid hi₁ => by
      split
      · have : RecordsInvariant (c₁.setCodec sid fun cs => { cs with source := some h }) :=
          hi₁.setCodec sid fun _ => rfl
        exact this.of_eq rfl rfl rfl
      · exact hi₁
  split <;> dsimp only <;> refine (hsrc _ _ ?_).setCodec _ fun _ => rfl
  · rename_i hnow
    simp only [Bool.and_eq_true, Bool.not_eq_true'] at hnow
    obtain ⟨⟨hbefore, hsent⟩, hegress⟩ := hnow
    refine ⟨ConnInvariant.put (ConnInvariant.of_table hi.table (by rfl)) hb hw.links,
      fun k o' hk => ?_, fun sid cs k hcs hk => ?_⟩
    · exact reachable_assocSet hi.reachable h ((hw.reachable (hi.reachable h before hb)).frame (by rfl))
        k o' hk
    · -- the stream just opened designates the record, which now has its id
      by_cases hsid : sid = c.nextStreamId
      · subst hsid
        simp only [Conn.put, assocSet_lookup_self, Option.some.injEq] at hcs
        subst hcs
        cases hk
        exact ⟨_, assocSet_lookup_self _ _ _, rfl, fun _ => hsent⟩
      · simp only [Conn.put, assocSet_lookup_of_ne _ _ hsid] at hcs
        obtain ⟨o₁, hl₁, hs₁, hsent₁⟩ := hi.codec sid cs k hcs hk
        have hkh : k ≠ h := by
          rintro rfl
          rw [hb] at hl₁
          cases hl₁
          exact absurd (hsent₁ hegress) (by simp [hbefore])
        exact ⟨o₁, by rw [Conn.put_lookup_of_ne _ hkh]; exact hl₁, hs₁, hsent₁⟩
  · exact hi.put hb hw

theorem RecordsInvariant.handleOutgoing (hi : RecordsInvariant c) {reads : List CodecRead}
    {h : Handle} (hd : c.handleOutgoing reads h = .done c') : RecordsInvariant c' := by
  obtain ⟨o, ho, hd⟩ := Outcome.bind_eq_done.mp hd
  obtain ⟨r, hr, hd⟩ := Outcome.bind_eq_done.mp hd
  cases hd
  exact hi.afterOutgoing _ (Conn.lookup_of_record ho) (.send (handleOutgoingHttp_sendFrame hr))

theorem RecordsInvariant.sendItems (hi : RecordsInvariant c) {rs : List (List CodecRead)}
    {items : List (Int × CodecStream)} (h : c.sendItems rs items = .done c') : RecordsInvariant c' :=
  Conn.sendItems_induction RecordsInvariant (fun _ sid _ hf hi => hi.setCodec sid hf)
    (fun _ _ _ _ hi ho hf => hi.put ho (.frame hf)) hi h

theorem RecordsInvariant.submitDataAndSend (hi : RecordsInvariant c) {reads : List CodecRead}
    {sid : Int} (hs : c.submitDataAndSend reads sid = .done c') : RecordsInvariant c' := by
  refine RecordsInvariant.sendItems ?_ hs
  unfold Conn.submitData
  repeat' split
  all_goals first | exact hi | exact hi.setCodec _ fun _ => rfl

theorem RecordsInvariant.deliveryUpdate (hi : RecordsInvariant c) {reads : List CodecRead}
    {dlv : DlvId} {disp : Nat} {h : Handle} (hu : c.deliveryUpdate reads dlv disp h = .done c') :
    RecordsInvariant c' := by
  obtain ⟨o, ho, hu⟩ := Outcome.bind_eq_done.mp hu
  have hi₁ : ∀ o₁ : Outgoing, o₁.stream.sendFrame = o.stream.sendFrame → ∀ sid
      {f : CodecStream → CodecStream}, (∀ cs, (f cs).userData = cs.userData) →
      RecordsInvariant ((c.put h o₁).setCodec sid f) :=
    fun _ hs _ _ hf => (hi.put_record ho (.frame hs)).setCodec _ hf
  obtain ⟨c₂, hsent, hu⟩ := Outcome.bind_eq_done.mp hu
  -- the forced close or the response is written back, then an egress stream sends its body
  have hi₂ : RecordsInvariant c₂ := by
    simp only [Conn.setCodec_cfg, Conn.put_cfg] at hsent
    by_cases hb : (!c.cfg.ingress && badDisposition disp) = true
    · rw [if_pos hb] at hsent
      obtain ⟨c₃, h₃, hsent⟩ := Outcome.bind_eq_done.mp hsent
      obtain ⟨o₃, h₄, hsent⟩ := Outcome.bind_eq_done.mp hsent
      cases hsent
      exact ((hi₁ _ (by split <;> rfl) _ (by intro; rfl)).submitDataAndSend h₃).put_record h₄
        (.frame rfl)
    · rw [if_neg hb] at hsent
      cases hsent
      exact hi₁ _ (by split <;> rfl) _ (by intro; rfl)
  -- `in_dlv` released, then the record freed or marked applied
  obtain ⟨o₂, h₂, hu⟩ := Outcome.bind_eq_done.mp hu
  have hi₃ : ∀ o₃ : Outgoing, o₃.stream.sendFrame = o₂.stream.sendFrame →
      RecordsInvariant ({ c₂ with dlvContext := assocErase c₂.dlvContext dlv }.put h o₃) :=
    fun _ hs => (hi₂.of_eq rfl rfl rfl :
      RecordsInvariant { c₂ with dlvContext := assocErase c₂.dlvContext dlv }).put
        (Conn.lookup_of_record h₂) (.frame hs)
  dsimp only at hu
  split at hu
  · exact (hi₃ _ (by rfl)).freeHttp2StreamData hu
  · obtain ⟨o₄, h₄, hu⟩ := Outcome.bind_eq_done.mp hu
    cases hu
    exact (hi₃ _ (by rfl)).put_record h₄ (.frame rfl)

theorem RecordsInvariant.qdrHttpDeliveryUpdate (hi : RecordsInvariant c) {reads : List CodecRead}
    {dlv : DlvId} {disp : Nat} {settled : Bool}
    (hu : c.qdrHttpDeliveryUpdate reads dlv disp settled = .done c') : RecordsInvariant c' := by
  unfold Conn.qdrHttpDeliveryUpdate at hu
  split at hu
  · cases hu; exact hi
  · split at hu
    · exact hi.deliveryUpdate hu
    · cases hu; exact hi

-- On the stream dispatcher a fresh record takes the request, which no codec stream designates
-- yet; on a stream's own link the record takes the delivery and sends.
theorem RecordsInvariant.qdrHttpDeliver (hi : RecordsInvariant c) {reads : List CodecRead}
    {link : LinkId} {dlv : DlvId} {msg : OutMessage}
    (hd : c.qdrHttpDeliver reads link dlv msg = .done c') : RecordsInvariant c' := by
  unfold Conn.qdrHttpDeliver at hd
  split at hd
  · cases hd; exact hi
  · split at hd
    · cases hd
      refine ⟨hi.table.addRecord c.nextLink _ ⟨.inr rfl, .inl rfl⟩ rfl,
        reachable_assocSet hi.reachable _ (.create 0 (toString c.nextHandle) rfl),
        fun sid cs k hcs hk => ?_⟩
      obtain ⟨o₁, hl₁, hrest⟩ := hi.codec sid cs k hcs hk
      exact ⟨o₁, by rw [assocSet_lookup_of_ne _ _ (Nat.ne_of_lt (hi.codec_lt hcs hk))]; exact hl₁,
        hrest⟩
    · obtain ⟨o, ho, hd⟩ := Outcome.bind_eq_done.mp hd
      exact (hi.put_record ho (.frame (by dsimp only; split <;> rfl))).handleOutgoing hd

theorem RecordsInvariant.restartVisit (hi : RecordsInvariant c) {rs : List (List CodecRead)}
    {h : Handle} {r : List (List CodecRead) × Conn × Option Handle}
    (hv : c.restartVisit rs h = .done r) : RecordsInvariant r.2.1 := by
  obtain ⟨o, ho, hv⟩ := Outcome.bind_eq_done.mp hv
  split at hv
  · -- settled in place, freed once its message is sent and its disposition applied
    have hi₁ : RecordsInvariant (c.put h { o with
        stream := (settleOutDlv o.stream).1
        log := o.log ++ (settleOutDlv o.stream).2 }) :=
      hi.put_record ho (.frame (settleOutDlv_sendFrame o.stream))
    dsimp only at hv
    split at hv
    · obtain ⟨c₁, h₁, hv⟩ := Outcome.bind_eq_done.mp hv
      cases hv
      exact hi₁.freeHttp2StreamData h₁
    · cases hv; exact hi₁
  · split at hv
    · obtain ⟨c₁, h₁, hv⟩ := Outcome.bind_eq_done.mp hv
      cases hv
      exact hi.handleOutgoing h₁
    · cases hv; exact hi

theorem RecordsInvariant.restartFrom :
    ∀ (fuel : Nat) {rs : List (List CodecRead)} {c c' : Conn} {cur : Option Handle},
      RecordsInvariant c → Conn.restartFrom fuel rs c cur = .done c' → RecordsInvariant c'
  | fuel, _, _, _, none, hi, h => by
    cases fuel <;> simp only [Conn.restartFrom, Outcome.done.injEq] at h <;> exact h ▸ hi
  | 0, _, _, _, some _, _, h => by cases h
  | fuel + 1, _, _, _, some _, hi, h => by
    obtain ⟨r, hr, h⟩ := Outcome.bind_eq_done.mp h
    exact RecordsInvariant.restartFrom fuel (hi.restartVisit hr) h

theorem RecordsInvariant.restartStreams (hi : RecordsInvariant c) {rs : List (List CodecRead)}
    (h : c.restartStreams rs = .done c') : RecordsInvariant c' := by
  unfold Conn.restartStreams at h
  split at h
  · cases h; exact hi
  · rename_i k ks hs
    exact RecordsInvariant.restartFrom _ ⟨hi.table.rotate hs, hi.reachable, hi.codec⟩ h

-- A request opens a fresh record as the user data of its new codec stream.
theorem RecordsInvariant.onBeginHeaders (hi : RecordsInvariant c) {sid : Int} {request : Bool}
    (hb : c.onBeginHeaders sid request = .done c') : RecordsInvariant c' := by
  unfold Conn.onBeginHeaders at hb
  split at hb
  · rename_i hreq
    cases hb
    refine ⟨hi.table.addRecord c.nextLink _ ⟨.inl rfl, .inr rfl⟩ rfl,
      reachable_assocSet hi.reachable _ (.create sid (toString c.nextHandle) rfl),
      fun sid' cs k hcs hk => ?_⟩
    by_cases hs : sid' = sid
    · subst hs
      rw [assocSet_lookup_self] at hcs
      cases hcs
      simp only [CodecStream.opened, Option.some.injEq] at hk
      subst hk
      exact ⟨_, assocSet_lookup_self _ _ _, rfl, fun he => by simp only at he; simp [he] at hreq⟩
    · rw [assocSet_lookup_of_ne _ _ hs] at hcs
      obtain ⟨o₁, hl₁, hrest⟩ := hi.codec sid' cs k hcs hk
      exact ⟨o₁, by rw [assocSet_lookup_of_ne _ _ (Nat.ne_of_lt (hi.codec_lt hcs hk))]; exact hl₁,
        hrest⟩
  · split at hb
    · split at hb
      · cases hb
      · obtain ⟨o, -, hb⟩ := Outcome.bind_eq_done.mp hb
        cases hb; exact hi
    · cases hb; exact hi

theorem RecordsInvariant.onHeader (hi : RecordsInvariant c) {sid : Int} {f : Field}
    (hh : c.onHeader sid f = .done c') : RecordsInvariant c' := by
  unfold Conn.onHeader at hh
  split at hh
  · split at hh
    · cases hh; exact hi
    · split at hh
      · cases hh
      · exact hi.onRecord_step (.Header f) hh
  · cases hh; exact hi

-- RST_STREAM rejects `out_dlv` on the record, frees it, then the codec closes the stream.
theorem RecordsInvariant.onRstStream (hi : RecordsInvariant c) {sid : Int}
    (hr : c.onRstStream sid = .done c') : RecordsInvariant c' := by
  unfold Conn.onRstStream at hr
  split at hr
  · cases hr; exact hi
  · obtain ⟨o, ho, hr⟩ := Outcome.bind_eq_done.mp hr
    obtain ⟨c₁, h₁, hr⟩ := Outcome.bind_eq_done.mp hr
    cases hr
    refine (RecordsInvariant.freeHttp2StreamData ?_ h₁).setCodec _ fun _ => rfl
    have hi₁ : ∀ o₁ : Outgoing, o₁.stream.sendFrame = o.stream.sendFrame → ∀ c₂ : Conn,
        c₂.table = (c.put _ o₁).table → c₂.cfg = c.cfg → c₂.codec = c.codec → RecordsInvariant c₂ :=
      fun _ hs _ ht hcfg hc => (hi.put_record ho (.frame hs)).of_eq ht hcfg hc
    repeat' split
    all_goals exact hi₁ _ (by rfl) _ rfl rfl rfl

theorem RecordsInvariant.handleDisconnected (hi : RecordsInvariant c)
    (hd : c.handleDisconnected = .done c') : RecordsInvariant c' := by
  unfold Conn.handleDisconnected at hd
  obtain ⟨c₁, h₁, hd⟩ := Outcome.bind_eq_done.mp hd
  cases hd
  -- the dispatcher dropped, every record freed, and the codec session deleted
  have hi₁ := RecordsInvariant.freeAllConnectionStreams _
    ⟨hi.table.dropDispatcher, by split <;> exact hi.reachable, by split <;> exact hi.codec⟩ h₁
  exact ⟨hi₁.table.of_table rfl, hi₁.reachable, fun _ _ _ hcs => nomatch hcs⟩

theorem RecordsInvariant.remoteEnd (hi : RecordsInvariant c) (sid : Int) (es : Bool) :
    RecordsInvariant (c.remoteEnd sid es) := by
  unfold Conn.remoteEnd
  split
  · exact hi.setCodec _ fun _ => rfl
  · exact hi

-- GOAWAY: the codec closes the streams it opened above the last stream id.
theorem RecordsInvariant.closeAbove (hi : RecordsInvariant c) (last : Int) :
    RecordsInvariant (c.closeAbove last) := by
  unfold Conn.closeAbove
  split
  · exact hi
  · refine hi.of_codec rfl rfl fun sid cs' h => ?_
    rw [lookup_map_of_fst _ _ (fun p => by dsimp only; split <;> rfl)] at h
    obtain ⟨cs, hcs, rfl⟩ := Option.map_eq_some'.mp h
    exact ⟨cs, hcs, by dsimp only; split <;> rfl⟩

-- The peer's SETTINGS move every stream's window and keep its user data.
theorem RecordsInvariant.onSettings (hi : RecordsInvariant c) (w : Nat) :
    RecordsInvariant (c.onSettings w) := by
  refine hi.of_codec rfl rfl fun sid cs' h => ?_
  simp only [Conn.onSettings] at h
  rw [lookup_map_of_fst _ _ (fun _ => by rfl)] at h
  obtain ⟨cs, hcs, rfl⟩ := Option.map_eq_some'.mp h
  exact ⟨cs, hcs, CodecStream.widen_userData _ _⟩

theorem RecordsInvariant.step (hi : RecordsInvariant c) {e : ConnEvent}
    (hs : connStep c e = .done c') : RecordsInvariant c' := by
  cases e with
  | BeginHeaders sid request => exact hi.onBeginHeaders hs
  | Header sid f => exact hi.onHeader hs
  | HeadersFrame sid eh es =>
    obtain ⟨c₁, h₁, hs⟩ := Outcome.bind_eq_done.mp hs
    cases hs
    exact (hi.onStream (.HeadersFrame eh es) h₁).remoteEnd _ _
  | DataChunk sid d => exact hi.onStream (.DataChunk d) hs
  | DataFrame sid es =>
    obtain ⟨c₁, h₁, hs⟩ := Outcome.bind_eq_done.mp hs
    cases hs
    exact (hi.onStream (.DataFrame es) h₁).remoteEnd _ _
  | RstStream sid => exact hi.onRstStream hs
  | GoAway last =>
    obtain ⟨c₁, h₁, hs⟩ := Outcome.bind_eq_done.mp hs
    cases hs
    exact (RecordsInvariant.freeUnprocessedStreams last _ hi h₁).closeAbove _
  | WindowUpdate sid increment rs => exact (hi.setCodec sid fun _ => CodecStream.widen_userData _ _).sendItems hs
  | Settings w rs => exact (hi.onSettings w).sendItems hs
  | Flow link credit =>
    dsimp only [connStep] at hs
    split at hs
    · split at hs
      · exact hi.onRecord_step (.Flow credit) hs
      · cases hs; exact hi
    · cases hs; exact hi
  | SecondAttach link a =>
    dsimp only [connStep] at hs
    split at hs
    · exact hi.onRecord_step (.SecondAttach a) hs
    · cases hs; exact hi
  | Deliver link dlv msg reads => exact hi.qdrHttpDeliver hs
  | DeliveryUpdate dlv disp settled reads => exact hi.qdrHttpDeliveryUpdate hs
  | Written rs => exact hi.restartStreams hs
  | Disconnected => exact hi.handleDisconnected hs

theorem RecordsInvariant.run : ∀ {c c' : Conn} {evs : List ConnEvent}, RecordsInvariant c →
    runConn c evs = .done c' → RecordsInvariant c'
  | _, _, [], hi, h => by cases h; exact hi
  | _, _, _ :: _, hi, h => by
    obtain ⟨c₁, h₁, h⟩ := Outcome.bind_eq_done.mp h
    exact RecordsInvariant.run (hi.step h₁) h

-- What the codec hands a callback as the user data of an open stream.
theorem RecordsInvariant.userData_record (hi : RecordsInvariant c) {sid : Int} {h : Handle}
    (hu : c.streamUserData sid = some h) :
    ∃ o, c.records.lookup h = some o ∧ o.stream.streamId = sid ∧
      (c.cfg.ingress = false → o.stream.outMsgHeaderSent = true) := by
  unfold Conn.streamUserData at hu
  split at hu
  · rename_i cs hcs
    split at hu
    · cases hu
    · exact hi.codec sid cs h hcs hu
  · cases hu

theorem RecordsInvariant.initial (cfg : Config) : RecordsInvariant (.initial cfg) :=
  ⟨.initial cfg, fun _ _ h => (nomatch h), fun _ _ _ h => (nomatch h)⟩

end Keeps

section Invariants

variable {s s' : StreamData}

theorem HeaderInvariant.of_composing (hc : s'.composing = s.composing) (hi : HeaderInvariant s) :
    HeaderInvariant s' := by
  simp only [StreamData.composing, Composing.mk.injEq] at hc
  obtain ⟨hm, ha, -, -, he, hp, -, hu, -, -, -, -⟩ := hc
  exact (HeaderStep.of_frame ha hu he hp ⟨[], by simp [hm]⟩).inv hi

theorem BodyInvariant.of_composing (hc : s'.composing = s.composing) (hi : BodyInvariant s) :
    BodyInvariant s' := by
  simp only [StreamData.composing, Composing.mk.injEq] at hc
  obtain ⟨hm, -, -, hb, -, hp, -, -, -, hd, -, -⟩ := hc
  exact ⟨fun h => by rw [hp]; exact hi.routed (by rwa [← hd]),
    fun h => by rw [hm]; exact hi.uncomposed (by rwa [← hp]),
    fun h => by rw [hb]; exact hi.composed (by rwa [← hp])⟩

-- A reachable record keeps the header block and the body invariants of its stream.
theorem RecordReachable.header_body (h : RecordReachable s) : HeaderInvariant s ∧ BodyInvariant s := by
  induction h with
  | create sid flowId hc =>
    exact ⟨(HeaderInvariant.create sid flowId).of_composing hc,
      (BodyInvariant.create sid flowId).of_composing hc⟩
  | callback _ hs ih => exact ⟨(streamStep_header hs).inv ih.1, (streamStep_body hs).inv ih.2⟩
  | frame _ hc ih => exact ⟨ih.1.of_composing hc, ih.2.of_composing hc⟩

end Invariants

-- Whatever interleaving of codec callbacks, router-core callbacks and raw-connection events a
-- connection went through, every live stream record keeps the invariants of its own stream: a
-- record whose delivery was routed has composed its message, the header block was complete
-- before that, the composed message starts with the header/properties section and the record's
-- application properties, and the body is whole in `body_buffers` before composing and whole in
-- the message after.
theorem runConn_records_keep_stream_invariants (cfg : Config) (evs : List ConnEvent) (c : Conn)
    (h : runConn (.initial cfg) evs = .done c) (k : Handle) (o : Outgoing)
    (hk : c.records.lookup k = some o) : HeaderInvariant o.stream ∧ BodyInvariant o.stream :=
  (((RecordsInvariant.initial cfg).run h).reachable k o hk).header_body

-- Two requests on one ingress connection, their frames interleaved, the first one routed.
theorem runConn_records_keep_stream_invariants_two_requests :
    let cfg : Config := ⟨true, some "addr", none⟩
    let evs : List ConnEvent := [.BeginHeaders 1 true, .BeginHeaders 3 true,
      .Header 1 ⟨":method", "POST"⟩, .Header 3 ⟨":method", "GET"⟩, .HeadersFrame 1 true false,
      .DataChunk 1 [1, 2], .HeadersFrame 3 true true, .SecondAttach 2 "reply", .Flow 1 1]
    ∃ c o, runConn (.initial cfg) evs = .done c ∧ c.records.lookup 1 = some o ∧
      HeaderInvariant o.stream ∧ BodyInvariant o.stream :=
  ⟨_, _, rfl, rfl, runConn_records_keep_stream_invariants ⟨true, some "addr", none⟩
    [.BeginHeaders 1 true, .BeginHeaders 3 true, .Header 1 ⟨":method", "POST"⟩,
      .Header 3 ⟨":method", "GET"⟩, .HeadersFrame 1 true false, .DataChunk 1 [1, 2],
      .HeadersFrame 3 true true, .SecondAttach 2 "reply", .Flow 1 1] _ rfl 1 _ rfl⟩

-- Whatever interleaving came before, the user data the codec hands a callback for stream `sid` is
-- the live record of that very stream, never another stream's: `on_begin_headers_callback` and
-- `handle_outgoing_http` set it to the record whose id it is, and `free_http2_stream_data` clears
-- it. On an egress connection it is a record whose request HEADERS went out.
theorem runConn_stream_user_data_is_own_record (cfg : Config) (evs : List ConnEvent) (c : Conn)
    (h : runConn (.initial cfg) evs = .done c) (sid : Int) (k : Handle)
    (hu : c.streamUserData sid = some k) :
    ∃ o, c.records.lookup k = some o ∧ o.stream.streamId = sid ∧
      (c.cfg.ingress = false → o.stream.outMsgHeaderSent = true) :=
  ((RecordsInvariant.initial cfg).run h).userData_record hu

-- An egress request delivered through the stream dispatcher, then sent on its own link: the codec
-- opens stream 1 for it.
theorem runConn_stream_user_data_is_own_record_egress :
    let req : OutMessage := ⟨[⟨QD_AP_FLOW_ID, "f"⟩, ⟨":method", "GET"⟩], [], true, .Ok, 0, false,
      some "reply"⟩
    ∃ c, runConn (.initial ⟨false, some "svc", none⟩) [.Deliver 0 100 req [],
        .Deliver 1 100 req [⟨16384, 1, 100⟩]] = .done c ∧ c.streamUserData 1 = some 1 ∧
      ∃ o, c.records.lookup 1 = some o ∧ o.stream.streamId = 1 ∧
        (c.cfg.ingress = false → o.stream.outMsgHeaderSent = true) :=
  ⟨_, rfl, rfl, runConn_stream_user_data_is_own_record ⟨false, some "svc", none⟩
    [.Deliver 0 100 ⟨[⟨QD_AP_FLOW_ID, "f"⟩, ⟨":method", "GET"⟩], [], true, .Ok, 0, false, some "reply"⟩ [],
     .Deliver 1 100 ⟨[⟨QD_AP_FLOW_ID, "f"⟩, ⟨":method", "GET"⟩], [], true, .Ok, 0, false, some "reply"⟩
       [⟨16384, 1, 100⟩]]
    _ rfl 1 1 rfl⟩

end SkupperRouter.Http2
