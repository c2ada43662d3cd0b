import SkupperRouter.Http2.Ingress
import SkupperRouter.Http2.Egress.Headers

namespace SkupperRouter.Http2

-- The fields of the first header block of a run of callbacks: those before its first END_HEADERS.
def headerBlock : List StreamEvent → List Field
  | [] => []
  | .Header f :: es => f :: headerBlock es
  | .HeadersFrame true _ :: _ => []
  | _ :: es => headerBlock es

def StreamEvent.headerField : StreamEvent → List Field
  | .Header f => [f]
  | _ => []

theorem headerBlock_cons (e : StreamEvent) (es : List StreamEvent) :
    headerBlock (e :: es) = e.headerField ++ if e.endsHeaders then [] else headerBlock es := by
  cases e with
  | HeadersFrame eh es' => cases eh <;> rfl
  | _ => rfl

-- The header block is complete before the message is composed, and the composed message starts
-- with the header/properties section and the application properties the record holds.
structure HeaderInvariant (s : StreamData) : Prop where
  footerAfterHeaders : s.entireHeaderArrived = true → s.useFooterProperties = true
  composedAfterHeaders : s.headerAndPropsComposed = true → s.entireHeaderArrived = true
  held : s.headerAndPropsComposed = false → s.appProperties.held = true
  sections : s.headerAndPropsComposed = true →
    ∃ hp rest, s.message.sections = hp :: .ApplicationProperties s.appProperties.map :: rest

theorem HeaderInvariant.create (sid : Int) (flowId : String) :
    HeaderInvariant (createQdrHttp2StreamData sid flowId) :=
  ⟨(nomatch ·), (nomatch ·), fun _ => rfl, (nomatch ·)⟩

-- What a callback does to the header block: it appends `b` to the application properties while
-- no END_HEADERS has been seen, and END_HEADERS (`ends`) moves later fields to the footer.
structure HeaderStep (b : List Field) (ends : Bool) (s s' : StreamData) : Prop where
  inv : HeaderInvariant s → HeaderInvariant s'
  map : s'.appProperties.map = s.appProperties.map ++ if s.useFooterProperties then [] else b
  footer : s'.useFooterProperties = (s.useFooterProperties || ends)

section Steps

variable {b : List Field} {ends : Bool} {s s₁ s' : StreamData}

theorem HeaderStep.comp (h₁ : HeaderStep [] false s s₁) (h₂ : HeaderStep b ends s₁ s') :
    HeaderStep b ends s s' :=
  ⟨fun hi => h₂.inv (h₁.inv hi), by rw [h₂.map, h₁.map, h₁.footer]; simp,
    by rw [h₂.footer, h₁.footer, Bool.or_false]⟩

-- A change to none of the fields the invariant reads, or to the message after its first two
-- sections.
theorem HeaderStep.of_frame (hm : s'.appProperties = s.appProperties)
    (hf : s'.useFooterProperties = s.useFooterProperties)
    (he : s'.entireHeaderArrived = s.entireHeaderArrived)
    (hc : s'.headerAndPropsComposed = s.headerAndPropsComposed)
    (hs : ∃ more, s'.message.sections = s.message.sections ++ more) : HeaderStep [] false s s' := by
  refine ⟨fun hi => ⟨?_, ?_, ?_, ?_⟩, by simp [hm], by simp [hf]⟩
  · rw [he, hf]; exact hi.footerAfterHeaders
  · rw [hc, he]; exact hi.composedAfterHeaders
  · rw [hc, hm]; exact hi.held
  · intro h
    obtain ⟨hp, rest, hsec⟩ := hi.sections (hc ▸ h)
    obtain ⟨more, hmore⟩ := hs
    exact ⟨hp, rest ++ more, by rw [hmore, hsec, hm]; rfl⟩

theorem HeaderStep.comp_frame (h₁ : HeaderStep b ends s s₁) (h₂ : HeaderStep [] false s₁ s') :
    HeaderStep b ends s s' :=
  ⟨fun hi => h₂.inv (h₁.inv hi), by rw [h₂.map, h₁.map]; simp, by rw [h₂.footer, h₁.footer, Bool.or_false]⟩

theorem HeaderStep.rfl' : HeaderStep [] false s s := .of_frame rfl rfl rfl rfl ⟨[], by simp⟩

end Steps

-- Composing puts the application properties right after the header/properties section.
theorem composeMessage_header {cfg : Config} {rc : Bool} {s s' : StreamData} {effs : List Effect}
    (he : s.entireHeaderArrived = true) (hu : s.headerAndPropsComposed = false)
    (h : composeMessage cfg rc s = some (s', effs)) : HeaderStep [] false s s' := by
  obtain ⟨more, hs, hm, hf, he', hc⟩ : ∃ more, s'.message.sections = headerAndProps cfg s ::
      ((if s.appProperties.held then [.ApplicationProperties s.appProperties.map] else []) ++ more) ∧
      s'.appProperties.map = s.appProperties.map ∧ s'.useFooterProperties = s.useFooterProperties ∧
      s'.entireHeaderArrived = s.entireHeaderArrived ∧ s'.headerAndPropsComposed = true := by
    unfold composeMessage at h
    split at h
    · split at h
      · simp only [Option.some.injEq, Prod.mk.injEq] at h
        obtain ⟨rfl, rfl⟩ := h
        simp [StreamData.composed, qdMessageStreamDataFooterAppend, qdMessageStreamDataAppend,
          qdMessageCompose3]
      · cases h
    · split at h <;> simp only [Option.some.injEq, Prod.mk.injEq] at h <;> obtain ⟨rfl, rfl⟩ := h <;>
        simp [StreamData.composed, qdMessageStreamDataAppend, qdMessageCompose3]
  refine ⟨fun hi => ⟨?_, fun _ => he'.trans he, fun h => absurd hc (by simp [h]), fun _ => ?_⟩,
    by simp [hm], by simp [hf]⟩
  · rw [he', hf]; exact hi.footerAfterHeaders
  · exact ⟨_, more, by rw [hs, hm, hi.held hu]; rfl⟩

theorem composeAndDeliver_header (cfg : Config) (dlv : DlvId) (rc : Bool) {s : StreamData}
    (he : s.entireHeaderArrived = true) :
    HeaderStep [] false s (composeAndDeliver cfg dlv rc s).2.1 := by
  unfold composeAndDeliver
  split
  · exact .rfl'
  · rename_i s₁ effs hc
    have h₁ : HeaderStep [] false s s₁ := by
      split at hc
      · simp only [Option.some.injEq, Prod.mk.injEq] at hc
        obtain ⟨rfl, rfl⟩ := hc
        exact .rfl'
      · rename_i hu
        exact composeMessage_header he (by simpa using hu) hc
    split
    · exact h₁.comp (.of_frame rfl rfl rfl rfl ⟨[], by simp⟩)
    · exact h₁

theorem routeDelivery_header (cfg : Config) (dlv : DlvId) (rc : Bool) (s : StreamData) :
    HeaderStep [] false s (routeDelivery cfg dlv rc s).2.1 := by
  unfold routeDelivery
  split
  · exact .rfl'
  · split
    · split
      · rename_i h
        exact composeAndDeliver_header cfg dlv rc h.2.1
      · exact .rfl'
    · split
      · rename_i h
        exact composeAndDeliver_header cfg dlv rc h.1
      · exact .rfl'

theorem settleOutDlv_header (s : StreamData) : HeaderStep [] false s (settleOutDlv s).1 := by
  unfold settleOutDlv
  split
  · split
    · exact .of_frame rfl rfl rfl rfl ⟨[], by simp⟩
    · exact .rfl'
  · exact .rfl'

theorem endOfHeaderBlock_header {s s' : StreamData} (h : endOfHeaderBlock s = .ok s') :
    HeaderStep [] true s s' := by
  unfold endOfHeaderBlock at h
  split at h
  · rename_i huf
    split at h
    · cases h
    · rename_i c _
      cases h
      refine ⟨fun hi => ⟨fun _ => huf, fun _ => rfl, hi.held, fun hc => ?_⟩, by simp [huf],
        by simp [huf]⟩
      obtain ⟨hp, rest, hsec⟩ := hi.sections hc
      exact ⟨hp, rest ++ if c.held then [.Footer c.map] else [], by simp [qdMessageExtend, hsec]⟩
  · rename_i huf
    cases h
    refine ⟨fun hi => ⟨fun _ => rfl, fun _ => rfl, hi.held, hi.sections⟩, by simp [huf], by simp [huf]⟩

theorem onFrameRecvCallbackHeaders_header {cfg : Config} {dlv : DlvId} {eh es : Bool}
    {s s' : StreamData} {effs : List Effect}
    (h : onFrameRecvCallbackHeaders cfg dlv eh es s = .ok (s', effs)) :
    HeaderStep [] (StreamEvent.HeadersFrame eh es).endsHeaders s s' := by
  unfold onFrameRecvCallbackHeaders at h
  split at h
  · rename_i heh
    subst heh
    cases he : endOfHeaderBlock s with
    | error f => simp [he, Except.map] at h
    | ok s₁ =>
      simp only [he, Except.map, Except.ok.injEq, Prod.mk.injEq] at h
      obtain ⟨rfl, -⟩ := h
      -- after END_HEADERS: the end of the stream, routing, settling; none touches the block
      have he' : HeaderStep [] false s₁ (if es then endOfStream s₁ else s₁) := by
        split
        · exact .of_frame rfl rfl rfl rfl ⟨[], by simp [endOfStream, qdMessageSetReceiveComplete]⟩
        · exact .rfl'
      have ha : HeaderStep [] false s₁
          (afterHeaderBlock cfg dlv es (if es then endOfStream s₁ else s₁)).1 := by
        unfold afterHeaderBlock
        split
        · exact he'
        · exact he'.comp (routeDelivery_header ..)
      simpa [StreamEvent.endsHeaders] using
        (endOfHeaderBlock_header he).comp_frame (ha.comp (settleOutDlv_header _))
  · rename_i heh
    simp only [Except.ok.injEq, Prod.mk.injEq] at h
    obtain ⟨rfl, -⟩ := h
    simpa [StreamEvent.endsHeaders, heh] using (HeaderStep.rfl' : HeaderStep [] false s s)

-- A header field goes to the application properties until END_HEADERS, and to the footer
-- builder after it.
theorem onHeaderCallback_header (f : Field) (s : StreamData) :
    HeaderStep [f] false s (onHeaderCallback f s) := by
  unfold onHeaderCallback
  split
  · rename_i huf
    exact ⟨fun hi => ⟨hi.footerAfterHeaders, hi.composedAfterHeaders, hi.held, hi.sections⟩,
      by simp [huf], by simp⟩
  · rename_i huf
    refine ⟨fun hi => ⟨hi.footerAfterHeaders, hi.composedAfterHeaders, hi.held, fun hc => ?_⟩,
      by simp [huf, Composed.insert], by simp⟩
    exact absurd (hi.footerAfterHeaders (hi.composedAfterHeaders hc)) huf

theorem onDataChunkRecvCallback_header (data : Bytes) (s : StreamData) :
    HeaderStep [] false s (onDataChunkRecvCallback data s).1 := by
  unfold onDataChunkRecvCallback
  split
  · exact .rfl'
  · dsimp only
    split
    · split
      · exact .of_frame rfl rfl rfl rfl
          ⟨[.BodyData s.bodyBuffers, .BodyData data], by simp [qdMessageStreamDataAppend]⟩
      · exact .of_frame rfl rfl rfl rfl ⟨[.BodyData data], by simp [qdMessageStreamDataAppend]⟩
    · exact .of_frame rfl rfl rfl rfl ⟨[], by simp⟩

theorem onFrameRecvCallbackData_header (es : Bool) (s : StreamData) :
    HeaderStep [] false s (onFrameRecvCallbackData es s).1 := by
  unfold onFrameRecvCallbackData
  refine HeaderStep.comp ?_ (settleOutDlv_header _)
  split
  · exact .of_frame rfl rfl rfl rfl ⟨[], by split <;> simp [qdMessageSetReceiveComplete]⟩
  · exact .rfl'

theorem qdrHttpFlow_header (cfg : Config) (dlv : DlvId) (credit : Int) (s : StreamData) :
    HeaderStep [] false s (qdrHttpFlow cfg dlv credit s).1 := by
  unfold qdrHttpFlow
  split
  · dsimp only
    split
    · refine HeaderStep.comp ?_ (routeDelivery_header ..)
      exact .of_frame rfl rfl rfl rfl ⟨[], by simp⟩
    · exact .of_frame rfl rfl rfl rfl ⟨[], by simp⟩
  · exact .rfl'

theorem qdrHttpSecondAttach_header (cfg : Config) (dlv : DlvId) (a : String) (s : StreamData) :
    HeaderStep [] false s (qdrHttpSecondAttach cfg dlv a s).1 := by
  unfold qdrHttpSecondAttach
  split
  · refine HeaderStep.comp ?_ (routeDelivery_header ..)
    exact .of_frame rfl rfl rfl rfl ⟨[], by simp⟩
  · exact .rfl'

theorem streamStep_header {cfg : Config} {dlv : DlvId} {s s' : StreamData} {e : StreamEvent}
    {effs : List Effect} (h : streamStep cfg dlv s e = .ok (s', effs)) :
    HeaderStep e.headerField e.endsHeaders s s' := by
  cases e with
  | HeadersFrame eh es => exact onFrameRecvCallbackHeaders_header h
  | Header f =>
    cases h
    exact onHeaderCallback_header f s
  | DataChunk d =>
    obtain rfl : s' = _ := (congrArg Prod.fst (Except.ok.inj h)).symm
    exact onDataChunkRecvCallback_header d s
  | DataFrame es =>
    obtain rfl : s' = _ := (congrArg Prod.fst (Except.ok.inj h)).symm
    exact onFrameRecvCallbackData_header es s
  | Flow c =>
    obtain rfl : s' = _ := (congrArg Prod.fst (Except.ok.inj h)).symm
    exact qdrHttpFlow_header cfg dlv c s
  | SecondAttach a =>
    obtain rfl : s' = _ := (congrArg Prod.fst (Except.ok.inj h)).symm
    exact qdrHttpSecondAttach_header cfg dlv a s

-- Over any run that does not fail, the application properties gain exactly the fields of the
-- first header block, in order, and the invariant holds throughout.
theorem runStream_header (cfg : Config) (dlv : DlvId) :
    ∀ (s s' : StreamData) (es : List StreamEvent) (effs : List Effect),
      HeaderInvariant s → runStream cfg dlv s es = .ok (s', effs) →
        HeaderInvariant s' ∧ s'.appProperties.map =
          s.appProperties.map ++ if s.useFooterProperties then [] else headerBlock es
  | s, s', [], effs, hi, h => by
    simp only [runStream, Except.ok.injEq, Prod.mk.injEq] at h
    obtain ⟨rfl, -⟩ := h
    simp [hi, headerBlock]
  | s, s', e :: es, effs, hi, h => by
    simp only [runStream] at h
    split at h
    · cases h
    · rename_i s₁ e₁ hs
      obtain ⟨r, hr, hr'⟩ : ∃ r, runStream cfg dlv s₁ es = .ok r ∧ (r.1, e₁ ++ r.2) = (s', effs) := by
        cases hrun : runStream cfg dlv s₁ es <;> simp_all [Except.map]
      have hstep := streamStep_header hs
      obtain ⟨hi', hm'⟩ := runStream_header cfg dlv s₁ r.1 es r.2 (hstep.inv hi) hr
      simp only [Prod.mk.injEq] at hr'
      obtain ⟨rfl, -⟩ := hr'
      refine ⟨hi', ?_⟩
      rw [hm', hstep.map, hstep.footer, headerBlock_cons]
      cases s.useFooterProperties <;> cases e.endsHeaders <;> simp

-- HTTP/2 request headers survive the AMQP message: once the message of a new stream is
-- composed, its application-properties section is what `handle_outgoing_http` turns back into
-- exactly the fields of the request's header block, in order, whatever else the run did.
theorem runStream_header_round_trip (cfg : Config) (dlv : DlvId) (sid : Int) (flowId : String)
    (es : List StreamEvent) (s' : StreamData) (effs : List Effect)
    (h : runStream cfg dlv (createQdrHttp2StreamData sid flowId) es = .ok (s', effs))
    (hc : s'.headerAndPropsComposed = true) :
    ∃ hp props rest, s'.message.sections = hp :: .ApplicationProperties props :: rest ∧
      outgoingHeaders props = .done (headerBlock es) := by
  obtain ⟨hi, hm⟩ := runStream_header cfg dlv _ _ es effs (HeaderInvariant.create sid flowId) h
  obtain ⟨hp, rest, hs⟩ := hi.sections hc
  refine ⟨hp, _, rest, hs, ?_⟩
  rw [hm, outgoingHeaders_eq]
  simp [createQdrHttp2StreamData]

-- A GET with a path: the reply-to arrives after the header block and routing composes.
theorem runStream_header_round_trip_get :
    let es : List StreamEvent := [.Header ⟨":method", "GET"⟩, .Header ⟨":path", "/"⟩,
      .HeadersFrame true true, .SecondAttach "reply", .Flow 1]
    ∃ r, runStream ⟨true, some "addr", none⟩ 7 (createQdrHttp2StreamData 1 "flow") es = .ok r ∧
      r.1.headerAndPropsComposed = true ∧
      ∃ hp props rest, r.1.message.sections = hp :: .ApplicationProperties props :: rest ∧
        outgoingHeaders props = .done (headerBlock es) :=
  ⟨_, rfl, rfl, runStream_header_round_trip ⟨true, some "addr", none⟩ 7 1 "flow" _ _ _ rfl rfl⟩

end SkupperRouter.Http2
