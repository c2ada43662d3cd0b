import SkupperRouter.Http2.Ingress

namespace SkupperRouter.Http2

-- The body the router reads from a message: the payloads of its body-data sections, in order.
def bodyBytes : List AmqpSection → Bytes
  | [] => []
  | .BodyData p :: ss => p ++ bodyBytes ss
  | .HeaderAndProperties .. :: ss | .ApplicationProperties _ :: ss | .Footer _ :: ss => bodyBytes ss

@[simp] theorem bodyBytes_append (ss ts : List AmqpSection) :
    bodyBytes (ss ++ ts) = bodyBytes ss ++ bodyBytes ts := by
  induction ss with
  | nil => rfl
  | cons s ss ih => cases s <;> simp [bodyBytes, ih]

@[simp] theorem qdMessageStreamDataAppend_body (m : Message) (data : Bytes) :
    bodyBytes (qdMessageStreamDataAppend m data).1.sections = bodyBytes m.sections ++ data := by
  simp [qdMessageStreamDataAppend, bodyBytes]

@[simp] theorem qdMessageCompose3_body (cfg : Config) (s : StreamData) (m : Message) (app : Composed)
    (rc : Bool) : bodyBytes (qdMessageCompose3 m (headerAndProps cfg s) app rc).sections = [] := by
  unfold qdMessageCompose3 headerAndProps qdMessageComposeAmqp
  split <;> split <;> rfl

@[simp] theorem qdMessageExtend_body (m : Message) (c : Composed) :
    bodyBytes (qdMessageExtend m c).1.sections = bodyBytes m.sections := by
  unfold qdMessageExtend
  split <;> simp [bodyBytes]

@[simp] theorem qdMessageStreamDataFooterAppend_body (m : Message) (f : List Field) :
    bodyBytes (qdMessageStreamDataFooterAppend m f).sections = bodyBytes m.sections := by
  simp [qdMessageStreamDataFooterAppend, bodyBytes]

-- The DATA payload a callback hands the stream.
def StreamEvent.data : StreamEvent → Bytes
  | .DataChunk d => d
  | _ => []

def receivedData : List StreamEvent → Bytes
  | [] => []
  | e :: es => e.data ++ receivedData es

-- The body a stream record holds: what its message carries, then what `body_buffers` holds.
def StreamData.payload (s : StreamData) : Bytes := bodyBytes s.message.sections ++ s.bodyBuffers

-- Until the message is composed the DATA payload waits in `body_buffers`, the message carries no
-- body and nothing is routed; once it is composed every chunk goes to the message.
structure BodyInvariant (s : StreamData) : Prop where
  routed : s.inDlv ≠ none → s.headerAndPropsComposed = true
  uncomposed : s.headerAndPropsComposed = false → bodyBytes s.message.sections = []
  composed : s.headerAndPropsComposed = true → s.bodyBuffers = []

theorem BodyInvariant.create (sid : Int) (flowId : String) :
    BodyInvariant (createQdrHttp2StreamData sid flowId) :=
  ⟨fun h => absurd rfl h, fun _ => rfl, fun _ => rfl⟩

-- What a callback does to the body of a record that keeps the invariant: it appends `d` to the
-- payload. No callback of the stream touches `stream_force_closed`.
structure BodyStep (d : Bytes) (s s' : StreamData) : Prop where
  inv : BodyInvariant s → BodyInvariant s'
  payload : BodyInvariant s → s'.payload = s.payload ++ d
  forceClosed : s'.streamForceClosed = s.streamForceClosed

section Steps

variable {d : Bytes} {s s₁ s' : StreamData}

theorem BodyStep.comp (h₁ : BodyStep [] s s₁) (h₂ : BodyStep d s₁ s') : BodyStep d s s' :=
  ⟨fun hi => h₂.inv (h₁.inv hi), fun hi => by rw [h₂.payload (h₁.inv hi), h₁.payload hi,
    List.append_nil], h₂.forceClosed.trans h₁.forceClosed⟩

-- A change to none of the fields the invariant reads.
theorem BodyStep.of_frame (hb : bodyBytes s'.message.sections = bodyBytes s.message.sections)
    (hbb : s'.bodyBuffers = s.bodyBuffers) (hc : s'.headerAndPropsComposed = s.headerAndPropsComposed)
    (hd : s'.inDlv = s.inDlv) (hf : s'.streamForceClosed = s.streamForceClosed) : BodyStep [] s s' :=
  ⟨fun hi => ⟨fun h => hc ▸ hi.routed (hd ▸ h), fun h => hb ▸ hi.uncomposed (hc ▸ h),
    fun h => hbb ▸ hi.composed (hc ▸ h)⟩, fun _ => by simp [StreamData.payload, hb, hbb], hf⟩

theorem BodyStep.rfl' : BodyStep [] s s := .of_frame rfl rfl rfl rfl rfl

end Steps

-- Composing moves `body_buffers` into the message, after the sections it rebuilds.
theorem composeMessage_body {cfg : Config} {rc : Bool} {s s' : StreamData} {effs : List Effect}
    (h : composeMessage cfg rc s = some (s', effs)) :
    s'.headerAndPropsComposed = true ∧ s'.bodyBuffers = [] ∧
      bodyBytes s'.message.sections = s.bodyBuffers ∧ s'.inDlv = s.inDlv ∧
      s'.streamForceClosed = s.streamForceClosed := by
  unfold composeMessage at h
  split at h
  · split at h
    · simp only [Option.some.injEq, Prod.mk.injEq] at h
      obtain ⟨rfl, rfl⟩ := h
      simp [StreamData.composed]
    · cases h
  · split at h <;> simp only [Option.some.injEq, Prod.mk.injEq] at h <;> obtain ⟨rfl, rfl⟩ := h
    · simp [StreamData.composed]
    · rename_i hb
      obtain ⟨-, hbb⟩ : rc = false ∧ s.bodyBuffers = [] := by simpa using hb
      simp [StreamData.composed, hbb]

theorem composeAndDeliver_body (cfg : Config) (dlv : DlvId) (rc : Bool) (s : StreamData) :
    BodyStep [] s (composeAndDeliver cfg dlv rc s).2.1 := by
  unfold composeAndDeliver
  split
  · exact .rfl'
  · rename_i s₁ effs hc
    -- the record once composed, whether it was already or is now
    have hs : BodyStep [] s s₁ ∧ s₁.headerAndPropsComposed = true := by
      split at hc
      · rename_i hcomp
        simp only [Option.some.injEq, Prod.mk.injEq] at hc
        obtain ⟨rfl, rfl⟩ := hc
        exact ⟨.rfl', hcomp⟩
      · rename_i hcomp
        obtain ⟨h1, h2, h3, h4, h5⟩ := composeMessage_body hc
        have hu : s.headerAndPropsComposed = false := by simpa using hcomp
        refine ⟨⟨fun _ => ⟨fun _ => h1, fun h => absurd h1 (by simp [h]), fun _ => h2⟩,
          fun hi => ?_, h5⟩, h1⟩
        simp [StreamData.payload, h2, h3, hi.uncomposed hu]
    split
    · -- routing sets `in_dlv` on a composed record
      have h₂ : BodyStep [] s₁ { s₁ with inDlv := some dlv, inLinkCredit := s₁.inLinkCredit - 1 } :=
        ⟨fun hi => ⟨fun _ => hs.2, hi.uncomposed, hi.composed⟩, fun _ => by simp [StreamData.payload],
          rfl⟩
      exact hs.1.comp h₂
    · simpa using hs.1

theorem routeDelivery_body (cfg : Config) (dlv : DlvId) (rc : Bool) (s : StreamData) :
    BodyStep [] s (routeDelivery cfg dlv rc s).2.1 := by
  unfold routeDelivery
  split
  · exact .rfl'
  · split
    · split
      · exact composeAndDeliver_body ..
      · exact .rfl'
    · split
      · exact composeAndDeliver_body ..
      · exact .rfl'

theorem settleOutDlv_body (s : StreamData) : BodyStep [] s (settleOutDlv s).1 := by
  unfold settleOutDlv
  split
  · split
    · exact .of_frame rfl rfl rfl rfl rfl
    · exact .rfl'
  · exact .rfl'

theorem BodyStep.settleOutDlv {s s₁ : StreamData} (h : BodyStep [] s s₁) :
    BodyStep [] s (settleOutDlv s₁).1 :=
  h.comp (settleOutDlv_body s₁)

theorem endOfHeaderBlock_body {s s' : StreamData} (h : endOfHeaderBlock s = .ok s') :
    BodyStep [] s s' := by
  unfold endOfHeaderBlock at h
  split at h
  · split at h
    · cases h
    · cases h
      exact .of_frame (by simp) rfl rfl rfl rfl
  · cases h
    exact .of_frame rfl rfl rfl rfl rfl

theorem onFrameRecvCallbackHeaders_body {cfg : Config} {dlv : DlvId} {eh es : Bool}
    {s s' : StreamData} {effs : List Effect}
    (h : onFrameRecvCallbackHeaders cfg dlv eh es s = .ok (s', effs)) : BodyStep [] s s' := by
  unfold onFrameRecvCallbackHeaders at h
  split at h
  · cases he : endOfHeaderBlock s with
    | error f => simp [he, Except.map] at h
    | ok s₁ =>
      simp only [he, Except.map, Except.ok.injEq, Prod.mk.injEq] at h
      obtain ⟨rfl, -⟩ := h
      -- the END_HEADERS bookkeeping adds no body, then routing and settling
      have he' : BodyStep [] s₁ (if es then endOfStream s₁ else s₁) := by
        split
        · exact .of_frame rfl rfl rfl rfl rfl
        · exact .rfl'
      have ha : ∀ t, BodyStep [] t (afterHeaderBlock cfg dlv es t).1 := by
        intro t
        unfold afterHeaderBlock
        split
        · exact .rfl'
        · exact routeDelivery_body ..
      exact ((endOfHeaderBlock_body he).comp (he'.comp (ha _))).settleOutDlv
  · simp only [Except.ok.injEq, Prod.mk.injEq] at h
    obtain ⟨rfl, -⟩ := h
    exact .rfl'

theorem onFrameRecvCallbackData_body (es : Bool) (s : StreamData) :
    BodyStep [] s (onFrameRecvCallbackData es s).1 := by
  unfold onFrameRecvCallbackData
  apply BodyStep.settleOutDlv
  split
  · exact .of_frame (by split <;> rfl) rfl rfl rfl rfl
  · exact .rfl'

-- A DATA chunk joins the payload at its end: in `body_buffers` before composing, in the message
-- after, and nowhere once the stream is force-closed.
theorem onDataChunkRecvCallback_body (data : Bytes) (s : StreamData) :
    BodyStep (if s.streamForceClosed then [] else data) s (onDataChunkRecvCallback data s).1 := by
  unfold onDataChunkRecvCallback
  split
  · rename_i hf
    simpa [hf] using (BodyStep.rfl' : BodyStep [] s s)
  · rename_i hf
    simp only [hf, Bool.false_eq_true, if_false]
    split
    · rename_i hr
      refine ⟨fun hi => ?_, fun hi => ?_, by simp [hf]⟩
      -- a routed record is composed, so `body_buffers` is empty and nothing is flushed
      · have hc : s.headerAndPropsComposed = true := by
          rcases hr with hr | hr
          · exact hi.routed hr
          · exact hr
        exact ⟨fun _ => hc, fun h => absurd hc (by simp_all), fun _ => by simp [hi.composed hc]⟩
      · have hc : s.headerAndPropsComposed = true := by
          rcases hr with hr | hr
          · exact hi.routed hr
          · exact hr
        simp [StreamData.payload, hi.composed hc]
    · rename_i hr
      have hc : s.headerAndPropsComposed = false := by simpa using (not_or.mp hr).2
      have hd : s.inDlv = none := by simpa using (not_or.mp hr).1
      exact ⟨fun hi => ⟨fun h => absurd hd h, hi.uncomposed, fun h => absurd h (by simp [hc])⟩,
        fun _ => by simp [StreamData.payload], by simp [hf]⟩

theorem qdrHttpFlow_body (cfg : Config) (dlv : DlvId) (credit : Int) (s : StreamData) :
    BodyStep [] s (qdrHttpFlow cfg dlv credit s).1 := by
  unfold qdrHttpFlow
  split
  · dsimp only
    split
    · refine BodyStep.comp ?_ (routeDelivery_body _ _ _ _)
      exact .of_frame rfl rfl rfl rfl rfl
    · exact .of_frame rfl rfl rfl rfl rfl
  · exact .rfl'

theorem qdrHttpSecondAttach_body (cfg : Config) (dlv : DlvId) (a : String) (s : StreamData) :
    BodyStep [] s (qdrHttpSecondAttach cfg dlv a s).1 := by
  unfold qdrHttpSecondAttach
  split
  · dsimp only
    refine BodyStep.comp ?_ (routeDelivery_body _ _ _ _)
    exact .of_frame rfl rfl rfl rfl rfl
  · exact .rfl'

theorem streamStep_body {cfg : Config} {dlv : DlvId} {s s' : StreamData} {e : StreamEvent}
    {effs : List Effect} (h : streamStep cfg dlv s e = .ok (s', effs)) :
    BodyStep (if s.streamForceClosed then [] else e.data) s s' := by
  cases e with
  | Header f =>
    simp only [streamStep, Except.ok.injEq, Prod.mk.injEq] at h
    obtain ⟨rfl, -⟩ := h
    unfold onHeaderCallback
    simpa [StreamEvent.data] using
      (show BodyStep [] s _ from by split <;> exact .of_frame rfl rfl rfl rfl rfl)
  | HeadersFrame eh es => simpa [StreamEvent.data] using onFrameRecvCallbackHeaders_body h
  | DataChunk d =>
    simp only [streamStep, Except.ok.injEq] at h
    obtain rfl : s' = _ := (congrArg Prod.fst h).symm
    exact onDataChunkRecvCallback_body d s
  | DataFrame es =>
    simp only [streamStep, Except.ok.injEq] at h
    obtain rfl : s' = _ := (congrArg Prod.fst h).symm
    simpa [StreamEvent.data] using onFrameRecvCallbackData_body es s
  | Flow c =>
    simp only [streamStep, Except.ok.injEq] at h
    obtain rfl : s' = _ := (congrArg Prod.fst h).symm
    simpa [StreamEvent.data] using qdrHttpFlow_body cfg dlv c s
  | SecondAttach a =>
    simp only [streamStep, Except.ok.injEq] at h
    obtain rfl : s' = _ := (congrArg Prod.fst h).symm
    simpa [StreamEvent.data] using qdrHttpSecondAttach_body cfg dlv a s

-- Over any run of the stream's callbacks that does not fail, the body a record holds grows by
-- exactly the DATA payload received, in order: the bytes in the composed message, then the bytes
-- still waiting in `body_buffers`, are what arrived; a force-closed stream takes none.
theorem runStream_body (cfg : Config) (dlv : DlvId) :
    ∀ (s s' : StreamData) (es : List StreamEvent) (effs : List Effect),
      BodyInvariant s → runStream cfg dlv s es = .ok (s', effs) →
        BodyInvariant s' ∧
          s'.payload = s.payload ++ (if s.streamForceClosed then [] else receivedData es)
  | s, s', [], effs, hi, h => by
    simp only [runStream, Except.ok.injEq, Prod.mk.injEq] at h
    obtain ⟨rfl, -⟩ := h
    simp [hi, receivedData]
  | s, s', e :: es, effs, hi, h => by
    simp only [runStream] at h
    split at h
    · cases h
    · rename_i s₁ e₁ hs
      obtain ⟨r, hr, hr'⟩ : ∃ r, runStream cfg dlv s₁ es = .ok r ∧ (r.1, e₁ ++ r.2) = (s', effs) := by
        cases hrun : runStream cfg dlv s₁ es <;> simp_all [Except.map]
      have hstep := streamStep_body hs
      obtain ⟨hi', hp'⟩ := runStream_body cfg dlv s₁ r.1 es r.2 (hstep.inv hi) hr
      simp only [Prod.mk.injEq] at hr'
      obtain ⟨rfl, -⟩ := hr'
      refine ⟨hi', ?_⟩
      rw [hp', hstep.payload hi, hstep.forceClosed]
      split <;> simp [receivedData]

-- A POST whose first chunk arrives before the reply-to: it waits in `body_buffers`, composing
-- moves it into the message, and the second chunk follows it there.
theorem runStream_body_chunk_before_route :
    let s := createQdrHttp2StreamData 1 "flow"
    let es : List StreamEvent := [.Header ⟨":method", "POST"⟩, .HeadersFrame true false,
      .DataChunk [1, 2], .SecondAttach "reply", .Flow 1, .DataChunk [3]]
    BodyInvariant s ∧ ∃ r, runStream ⟨true, some "addr", none⟩ 7 s es = .ok r ∧
      BodyInvariant r.1 ∧
        r.1.payload = s.payload ++ (if s.streamForceClosed then [] else receivedData es) :=
  ⟨BodyInvariant.create 1 "flow", _, rfl,
    runStream_body ⟨true, some "addr", none⟩ 7 _ _ _ _ (BodyInvariant.create 1 "flow") rfl⟩

end SkupperRouter.Http2
