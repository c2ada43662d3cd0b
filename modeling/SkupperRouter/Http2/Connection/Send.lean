import SkupperRouter.Http2.Connection.Records

namespace SkupperRouter.Http2

section Items

-- A pull leaves its DATA item deferred, stalled or ended, never active.
theorem pullData_item_ne_active {rs : List CodecRead} {o : Outgoing} {w : Option Nat}
    {x : Outgoing × DataItem} (h : pullData rs o w = .done x) : x.2 ≠ .Active := by
  induction rs generalizing o w with
  | nil =>
    rcases eq_or_ne w (some 0) with rfl | hw
    · rw [pullData.eq_1] at h; cases h; nofun
    · rw [pullData.eq_2 _ _ hw] at h; cases h
  | cons r rs ih =>
    rcases eq_or_ne w (some 0) with rfl | hw
    · rw [pullData.eq_1] at h; cases h; nofun
    rw [pullData.eq_3 _ _ _ _ hw] at h
    obtain ⟨⟨o1, ret⟩, -, h⟩ := Outcome.bind_eq_done.mp h
    dsimp only at h
    split at h
    · cases h; nofun
    split at h
    · cases h; nofun
    obtain ⟨o2, -, h⟩ := Outcome.bind_eq_done.mp h
    split at h
    · cases h; nofun
    · exact ih h

theorem nghttp2SessionSend_item_ne_active {rs : List CodecRead} {item : DataItem} {o : Outgoing}
    {w : Option Nat} {x : Outgoing × DataItem} (h : nghttp2SessionSend rs item o w = .done x) :
    x.2 ≠ .Active := by
  unfold nghttp2SessionSend at h
  split at h
  · exact pullData_item_ne_active h
  · cases h; assumption

-- `handle_outgoing_http` on an item that is not active leaves it so.
theorem handleOutgoingHttp_item_ne_active {raw : Bool} {rs : List CodecRead} {item : DataItem}
    {o : Outgoing} {w : Option Nat} {err : Option Int} {x : Outgoing × DataItem}
    (hi : item ≠ .Active) (h : handleOutgoingHttp raw rs item o w err = .done x) : x.2 ≠ .Active := by
  have hsend : ∀ {o₁ r}, sendOutgoing rs item o₁ w = .done r → r.2 ≠ .Active := by
    intro o₁ r hr
    obtain ⟨⟨o₂, item₂⟩, h₂, hr⟩ := Outcome.bind_eq_done.mp hr
    have l₂ : item₂ ≠ .Active := by
      unfold sendOutgoingBody at h₂
      split at h₂
      · split at h₂ <;> exact nghttp2SessionSend_item_ne_active h₂
      · cases h₂; exact hi
    dsimp only at hr
    split at hr
    · obtain ⟨_, -, hr⟩ := Outcome.bind_eq_done.mp hr
      cases hr; exact l₂
    · cases hr; exact l₂
  unfold handleOutgoingHttp at h
  split at h
  · cases h; exact hi
  split at h
  · cases h; exact hi
  split at h
  · cases h; exact hi
  split at h
  · obtain ⟨_, -, h⟩ := Outcome.bind_eq_done.mp h
    cases h; exact hi
  dsimp only at h
  split at h <;> obtain ⟨_, -, h⟩ := Outcome.bind_eq_done.mp h <;>
    obtain ⟨r, hr, h⟩ := Outcome.bind_eq_done.mp h <;> rw [← Outcome.done.inj h] <;>
    exact fun e => hsend hr e

end Items

theorem lookup_ne_none_of_mem {α β : Type} [DecidableEq α] {l : List (α × β)} {p : α × β}
    (hp : p ∈ l) : l.lookup p.1 ≠ none := by
  induction l with
  | nil => cases hp
  | cons q l ih =>
    obtain ⟨a, b⟩ := q
    by_cases ha : p.1 = a
    · simp [List.lookup_cons, ha]
    · rw [List.lookup_cons, beq_eq_false_iff_ne.mpr ha]
      exact ih ((List.mem_cons.mp hp).resolve_left fun e => ha (by rw [e]))

-- Changing the codec stream `sid` replaces its entry, if it has one, and keeps the others.
theorem Conn.mem_setCodec {c : Conn} {sid : Int} {f : CodecStream → CodecStream}
    {p : Int × CodecStream} (hp : p ∈ (c.setCodec sid f).codec) :
    (∃ cs, c.codec.lookup sid = some cs ∧ p = (sid, f cs)) ∨ (p ∈ c.codec ∧ p.1 ≠ sid) := by
  unfold Conn.setCodec at hp
  split at hp
  · rename_i cs hcs
    rcases mem_assocSet.mp hp with rfl | h
    · exact .inl ⟨cs, hcs, rfl⟩
    · exact .inr h
  · rename_i hcs
    exact .inr ⟨hp, fun e => lookup_ne_none_of_mem hp (e ▸ hcs)⟩

-- Between callbacks no DATA item waits to be pulled: each session send pulls every active item of
-- an open stream until it ends, defers or stalls, and one follows every callback that makes an
-- item active. So the connection-wide `nghttp2_session_send` of the codec callbacks and of
-- `handle_outgoing_http` pulls no other stream's item.
def Conn.Quiet (c : Conn) : Prop := ∀ p ∈ c.codec, p.2.item ≠ .Active

section Quiet

variable {c c' : Conn}

theorem Conn.Quiet.of_codec (hq : c.Quiet) (h : c'.codec = c.codec) : c'.Quiet :=
  fun p hp => hq p (h ▸ hp)

theorem Conn.Quiet.put (hq : c.Quiet) (h : Handle) (o : Outgoing) : (c.put h o).Quiet := hq

theorem Conn.Quiet.setCodec (hq : c.Quiet) (sid : Int) (f : CodecStream → CodecStream)
    (hf : ∀ cs, cs.item ≠ .Active → (f cs).item ≠ .Active) : (c.setCodec sid f).Quiet := by
  intro p hp
  rcases Conn.mem_setCodec hp with ⟨cs, hcs, rfl⟩ | ⟨hp, -⟩
  · exact hf cs (hq _ (mem_of_lookup_eq_some hcs))
  · exact hq p hp

-- A session send pulls every active item of an open stream it meets and leaves it not active.
theorem Conn.sendItems_quiet : ∀ {rs : List (List CodecRead)} {items : List (Int × CodecStream)}
    {c c' : Conn}, (∀ p ∈ c.codec, p.2.item = .Active → p.2.closed = false ∧ p ∈ items) →
      c.sendItems rs items = .done c' → c'.Quiet
  | _, [], _, _, hp, h => by
    cases h
    exact fun p hm ha => by simpa using (hp p hm ha).2
  | _, (sid, cs) :: rest, c, _, hp, h => by
    -- an item the step made not active is off the list; every other active one is in `rest`
    have next : ∀ f : CodecStream → CodecStream, (∀ cs, (f cs).item ≠ .Active) →
        ∀ p ∈ (c.setCodec sid f).codec, p.2.item = .Active → p.2.closed = false ∧ p ∈ rest := by
      intro f hf p hm ha
      rcases Conn.mem_setCodec hm with ⟨cs, -, rfl⟩ | ⟨hm, hne⟩
      · exact absurd ha (hf cs)
      · obtain ⟨hc, hr⟩ := hp p hm ha
        exact ⟨hc, (List.mem_cons.mp hr).resolve_left fun e => hne (by rw [e])⟩
    unfold Conn.sendItems at h
    split at h
    · split at h
      · refine Conn.sendItems_quiet (fun p hm ha => next _ ?_ p hm ha) h
        intro _ h; cases h
      split at h
      · cases h
      obtain ⟨o, -, h⟩ := Outcome.bind_eq_done.mp h
      obtain ⟨r, hr, h⟩ := Outcome.bind_eq_done.mp h
      refine Conn.sendItems_quiet ?_ h
      intro p hm ha
      refine next _ ?_ p hm ha
      exact fun _ => pullData_item_ne_active hr
    · rename_i hcs
      refine Conn.sendItems_quiet (fun p hm ha => ?_) h
      obtain ⟨hc, hr⟩ := hp p hm ha
      refine ⟨hc, (List.mem_cons.mp hr).resolve_left ?_⟩
      rintro rfl
      exact hcs ⟨ha, hc⟩

-- A session send from a connection whose active items are all on open streams.
theorem Conn.sessionSend_quiet {rs : List (List CodecRead)}
    (hp : ∀ p ∈ c.codec, p.2.item = .Active → p.2.closed = false)
    (h : c.sessionSend rs = .done c') : c'.Quiet :=
  Conn.sendItems_quiet (fun p hm ha => ⟨hp p hm ha, hm⟩) h

-- A window that opens makes active only an item of an open stream.
theorem CodecStream.widen_active {cs : CodecStream} {delta : Int} (hi : cs.item ≠ .Active)
    (ha : (cs.widen delta).item = .Active) : (cs.widen delta).closed = false := by
  unfold CodecStream.widen at ha ⊢
  split at ha
  · exact absurd ha hi
  · rename_i hc
    rw [if_neg hc]
    simpa [CodecStream.closed] using hc

theorem Conn.Quiet.onRecord {h : Handle}
    {f : DlvId → StreamData → Except Fault (StreamData × List Effect)}
    (hr : c.onRecord h f = .done c') (hq : c.Quiet) : c'.Quiet := by
  obtain ⟨o, -, hr⟩ := Outcome.bind_eq_done.mp hr
  split at hr
  · cases hr
  · cases hr
    exact hq.of_codec (Conn.deliverEffects_codec _ _ _).1

theorem Conn.Quiet.onStream {sid : Int}
    {f : DlvId → StreamData → Except Fault (StreamData × List Effect)}
    (hr : c.onStream sid f = .done c') (hq : c.Quiet) : c'.Quiet := by
  unfold Conn.onStream at hr
  split at hr
  · cases hr; exact hq
  · exact hq.onRecord hr

theorem Conn.Quiet.freeHttp2StreamData {h : Handle}
    (hf : c.freeHttp2StreamData h = .done c') (hq : c.Quiet) : c'.Quiet := by
  obtain ⟨o, -, hf⟩ := Outcome.bind_eq_done.mp hf
  cases hf
  intro p hp
  dsimp only at hp
  split at hp
  · exact hq p hp
  · rcases Conn.mem_setCodec hp with ⟨cs, hcs, rfl⟩ | ⟨hp, -⟩
    · have := hq _ (mem_of_lookup_eq_some hcs)
      exact this
    · exact hq p hp

theorem Conn.Quiet.freeUnprocessedStreams (last : Int) :
    ∀ (fuel : Nat) {c c' : Conn} {cur : Option Handle}, c.Quiet →
      Conn.freeUnprocessedStreams last fuel c cur = .done c' → c'.Quiet
  | fuel, _, _, none, hq, h => by
    cases fuel <;> simp only [Conn.freeUnprocessedStreams, Outcome.done.injEq] at h <;> exact h ▸ hq
  | 0, _, _, some _, _, h => by cases h
  | fuel + 1, _, _, some _, hq, h => by
    obtain ⟨o, -, h⟩ := Outcome.bind_eq_done.mp h
    split at h
    · obtain ⟨c₁, h₁, h⟩ := Outcome.bind_eq_done.mp h
      exact Conn.Quiet.freeUnprocessedStreams last fuel (hq.freeHttp2StreamData h₁) h
    · exact Conn.Quiet.freeUnprocessedStreams last fuel hq h

-- `handle_outgoing_http` records the item its send left, which is not active.
theorem Conn.Quiet.afterOutgoing (hq : c.Quiet) {h : Handle} {before o : Outgoing}
    {item : DataItem} (hi : item ≠ .Active) : (c.afterOutgoing h before o item).Quiet := by
  unfold Conn.afterOutgoing
  dsimp only
  refine Conn.Quiet.setCodec ?_ _ _ fun _ _ => hi
  have hsrc : ∀ {c₁ : Conn} (b : Bool) (sid : Int), c₁.Quiet → Conn.Quiet
      (if b then { c₁.setCodec sid fun cs => { cs with source := some h } with dataPrdSource := some h }
        else c₁) := fun b sid hq₁ => by
    split
    · exact hq₁.setCodec sid (fun cs => { cs with source := some h }) fun _ h => h
    · exact hq₁
  split
  · -- the request's stream opens with no DATA item
    refine hsrc _ _ fun p hp => ?_
    rcases mem_assocSet.mp hp with rfl | ⟨hp, -⟩
    · nofun
    · exact hq p hp
  · exact hsrc _ _ hq

theorem Conn.Quiet.handleOutgoing {reads : List CodecRead} {h : Handle}
    (hd : c.handleOutgoing reads h = .done c') (hq : c.Quiet) : c'.Quiet := by
  obtain ⟨o, -, hd⟩ := Outcome.bind_eq_done.mp hd
  obtain ⟨r, hr, hd⟩ := Outcome.bind_eq_done.mp hd
  cases hd
  refine hq.afterOutgoing (handleOutgoingHttp_item_ne_active ?_ hr)
  -- the item it starts from is the codec's, or none yet
  cases hl : c.codec.lookup o.stream.streamId with
  | none => nofun
  | some cs => exact hq _ (mem_of_lookup_eq_some hl)

-- `nghttp2_submit_data` attaches an active item only to a stream whose side is open.
theorem Conn.Quiet.submitDataAndSend {reads : List CodecRead} {sid : Int}
    (hs : c.submitDataAndSend reads sid = .done c') (hq : c.Quiet) : c'.Quiet := by
  refine Conn.sessionSend_quiet (fun p hp ha => ?_) hs
  unfold Conn.submitData at hp
  split at hp
  · split at hp
    · exact absurd ha (hq p hp)
    · rename_i cs₀ hcs₀ hne
      rcases Conn.mem_setCodec hp with ⟨cs, hcs, rfl⟩ | ⟨hp, -⟩
      · obtain rfl : cs = cs₀ := Option.some.inj (hcs.symm.trans hcs₀)
        simp only [not_or] at hne
        simp [CodecStream.closed, hne.2.2.2]
      · exact absurd ha (hq p hp)
  · exact absurd ha (hq p hp)

theorem Conn.Quiet.deliveryUpdate {reads : List CodecRead} {dlv : DlvId} {disp : Nat}
    {h : Handle} (hu : c.deliveryUpdate reads dlv disp h = .done c') (hq : c.Quiet) : c'.Quiet := by
  obtain ⟨o, -, hu⟩ := Outcome.bind_eq_done.mp hu
  obtain ⟨c₂, hsent, hu⟩ := Outcome.bind_eq_done.mp hu
  -- the forced close or the response closes our side, then an egress stream sends its body
  have hq₁ : ∀ (o₁ : Outgoing) (sid : Int) (f : CodecStream → CodecStream),
      (∀ cs, (f cs).item = cs.item) → Conn.Quiet ((c.put h o₁).setCodec sid f) :=
    fun o₁ _ _ hf => (hq.put h o₁).setCodec _ _ fun cs => (hf cs).symm ▸ id
  have hq₂ : c₂.Quiet := by
    simp only [Conn.setCodec_cfg, Conn.put_cfg] at hsent
    split at hsent
    · obtain ⟨c₃, h₃, hsent⟩ := Outcome.bind_eq_done.mp hsent
      obtain ⟨o₃, -, hsent⟩ := Outcome.bind_eq_done.mp hsent
      cases hsent
      exact (Conn.Quiet.submitDataAndSend h₃ (hq₁ _ _ _ fun _ => rfl)).put _ _
    · cases hsent; exact hq₁ _ _ _ fun _ => rfl
  -- `in_dlv` released, then the record freed or marked applied
  obtain ⟨o₂, -, hu⟩ := Outcome.bind_eq_done.mp hu
  dsimp only at hu
  split at hu
  · exact hq₂.freeHttp2StreamData hu
  · obtain ⟨o₄, -, hu⟩ := Outcome.bind_eq_done.mp hu
    cases hu; exact hq₂

theorem Conn.Quiet.qdrHttpDeliver {reads : List CodecRead} {link : LinkId}
    {dlv : DlvId} {msg : OutMessage} (hd : c.qdrHttpDeliver reads link dlv msg = .done c')
    (hq : c.Quiet) : c'.Quiet := by
  unfold Conn.qdrHttpDeliver at hd
  split at hd
  · cases hd; exact hq
  split at hd
  · cases hd; exact hq
  · obtain ⟨o, -, hd⟩ := Outcome.bind_eq_done.mp hd
    exact hq.handleOutgoing hd

theorem Conn.Quiet.restartVisit {rs : List (List CodecRead)} {h : Handle}
    {r : List (List CodecRead) × Conn × Option Handle} (hv : c.restartVisit rs h = .done r)
    (hq : c.Quiet) : r.2.1.Quiet := by
  obtain ⟨o, -, hv⟩ := Outcome.bind_eq_done.mp hv
  split at hv
  · dsimp only at hv
    split at hv
    · obtain ⟨c₁, h₁, hv⟩ := Outcome.bind_eq_done.mp hv
      cases hv
      exact hq.freeHttp2StreamData h₁
    · cases hv; exact hq
  · split at hv
    · obtain ⟨c₁, h₁, hv⟩ := Outcome.bind_eq_done.mp hv
      cases hv
      exact hq.handleOutgoing h₁
    · cases hv; exact hq

theorem Conn.Quiet.restartStreams {rs : List (List CodecRead)}
    (h : c.restartStreams rs = .done c') (hq : c.Quiet) : c'.Quiet := by
  have hfrom : ∀ (fuel : Nat) {rs : List (List CodecRead)} {c c' : Conn} {cur : Option Handle},
      Conn.restartFrom fuel rs c cur = .done c' → c.Quiet → c'.Quiet := by
    intro fuel
    induction fuel with
    | zero => intro _ _ _ cur h hq; cases cur <;> cases h; exact hq
    | succ fuel ih =>
      intro _ _ _ cur h hq
      cases cur with
      | none => cases h; exact hq
      | some _ =>
        obtain ⟨r, hr, h⟩ := Outcome.bind_eq_done.mp h
        exact ih h (hq.restartVisit hr)
  unfold Conn.restartStreams at h
  split at h
  · cases h; exact hq
  · exact hfrom _ h hq

theorem Conn.Quiet.step {e : ConnEvent} (hs : connStep c e = .done c') (hq : c.Quiet) : c'.Quiet := by
  cases e with
  | BeginHeaders sid request =>
    dsimp only [connStep] at hs
    unfold Conn.onBeginHeaders at hs
    split at hs
    · cases hs
      intro p hp
      rcases mem_assocSet.mp hp with rfl | ⟨hp, -⟩
      · nofun
      · exact hq p hp
    split at hs
    · split at hs
      · cases hs
      · obtain ⟨_, -, hs⟩ := Outcome.bind_eq_done.mp hs
        cases hs; exact hq
    · cases hs; exact hq
  | Header sid f =>
    dsimp only [connStep] at hs
    unfold Conn.onHeader at hs
    split at hs
    · split at hs
      · cases hs; exact hq
      split at hs
      · cases hs
      · exact hq.onRecord hs
    · cases hs; exact hq
  | HeadersFrame sid eh es | DataFrame sid es =>
    obtain ⟨c₁, h₁, hs⟩ := Outcome.bind_eq_done.mp hs
    cases hs
    unfold Conn.remoteEnd
    split
    · exact (hq.onStream h₁).setCodec _ _ fun _ h => h
    · exact hq.onStream h₁
  | DataChunk sid d => exact hq.onStream hs
  | RstStream sid =>
    dsimp only [connStep] at hs
    unfold Conn.onRstStream at hs
    split at hs
    · cases hs; exact hq
    obtain ⟨o, -, hs⟩ := Outcome.bind_eq_done.mp hs
    obtain ⟨c₁, h₁, hs⟩ := Outcome.bind_eq_done.mp hs
    cases hs
    refine Conn.Quiet.setCodec (Conn.Quiet.freeHttp2StreamData h₁ ?_) _ _ fun _ h => h
    repeat' split
    all_goals exact hq
  | GoAway last =>
    obtain ⟨c₁, h₁, hs⟩ := Outcome.bind_eq_done.mp hs
    cases hs
    have hq₁ := Conn.Quiet.freeUnprocessedStreams last _ hq h₁
    unfold Conn.closeAbove
    split
    · exact hq₁
    · intro p hp
      obtain ⟨q, hq', rfl⟩ := List.mem_map.mp hp
      split <;> exact hq₁ q hq'
  | WindowUpdate sid increment rs =>
    refine Conn.sessionSend_quiet (fun p hp ha => ?_) hs
    rcases Conn.mem_setCodec hp with ⟨cs, hcs, rfl⟩ | ⟨hp, -⟩
    · exact CodecStream.widen_active (hq _ (mem_of_lookup_eq_some hcs)) ha
    · exact absurd ha (hq p hp)
  | Settings w rs =>
    refine Conn.sessionSend_quiet (fun p hp ha => ?_) hs
    obtain ⟨q, hq', rfl⟩ := List.mem_map.mp hp
    exact CodecStream.widen_active (hq q hq') ha
  | Flow link credit =>
    dsimp only [connStep] at hs
    split at hs
    · split at hs
      · exact hq.onRecord hs
      · cases hs; exact hq
    · cases hs; exact hq
  | SecondAttach link a =>
    dsimp only [connStep] at hs
    split at hs
    · exact hq.onRecord hs
    · cases hs; exact hq
  | Deliver link dlv msg reads => exact hq.qdrHttpDeliver hs
  | DeliveryUpdate dlv disp settled reads =>
    dsimp only [connStep] at hs
    unfold Conn.qdrHttpDeliveryUpdate at hs
    split at hs
    · cases hs; exact hq
    split at hs
    · exact hq.deliveryUpdate hs
    · cases hs; exact hq
  | Written rs => exact hq.restartStreams hs
  | Disconnected =>
    obtain ⟨c₁, -, hs⟩ := Outcome.bind_eq_done.mp hs
    cases hs
    intro _ hp
    cases hp

theorem Conn.Quiet.run : ∀ {c c' : Conn} {evs : List ConnEvent}, c.Quiet →
    runConn c evs = .done c' → c'.Quiet
  | _, _, [], hq, h => by cases h; exact hq
  | _, _, _ :: _, hq, h => by
    obtain ⟨c₁, h₁, h⟩ := Outcome.bind_eq_done.mp h
    exact Conn.Quiet.run (hq.step h₁) h

end Quiet

end SkupperRouter.Http2
