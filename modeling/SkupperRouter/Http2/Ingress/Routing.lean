import SkupperRouter.Http2.Ingress

namespace SkupperRouter.Http2

def Effect.isLinkDeliver : Effect → Bool
  | .LinkDeliver _ => true
  | _ => false

def linkDelivers (effs : List Effect) : Nat := effs.countP Effect.isLinkDeliver

@[simp] theorem linkDelivers_nil : linkDelivers [] = 0 := rfl
@[simp] theorem linkDelivers_append (a b : List Effect) :
    linkDelivers (a ++ b) = linkDelivers a + linkDelivers b := List.countP_append _ _ _
@[simp] theorem linkDelivers_linkDeliver (d : DlvId) : linkDelivers [.LinkDeliver d] = 1 := rfl
@[simp] theorem linkDelivers_deliveryContinue (d : DlvId) :
    linkDelivers [.DeliveryContinue d] = 0 := rfl
@[simp] theorem linkDelivers_q2Effect (b : Bool) : linkDelivers (q2Effect b) = 0 := by
  cases b <;> rfl

def TrailerPending (s : StreamData) : Prop := s.footerProperties ≠ none ∧ s.entireFooterArrived = false

def RoutingReady (cfg : Config) (s : StreamData) : Prop :=
  s.entireHeaderArrived = true ∧ (cfg.ingress = true → s.replyTo ≠ none) ∧ 0 < s.inLinkCredit ∧
    ¬(TrailerPending s ∧ s.headerAndPropsComposed = false)

theorem composeMessage_spec {cfg : Config} {rc : Bool} {s s' : StreamData} {effs : List Effect}
    (h : composeMessage cfg rc s = some (s', effs)) :
    s'.inDlv = s.inDlv ∧ s'.inLinkCredit = s.inLinkCredit ∧ s'.replyTo = s.replyTo ∧
      s'.entireHeaderArrived = s.entireHeaderArrived ∧ s'.headerAndPropsComposed = true ∧
      linkDelivers effs = 0 := by
  unfold composeMessage at h
  split at h
  · split at h
    · simp only [Option.some.injEq, Prod.mk.injEq] at h
      obtain ⟨rfl, rfl⟩ := h
      split <;> simp [StreamData.composed]
    · cases h
  · split at h <;> simp only [Option.some.injEq, Prod.mk.injEq] at h <;> obtain ⟨rfl, rfl⟩ := h <;>
      simp [StreamData.composed]

theorem composeMessage_isSome (cfg : Config) (rc : Bool) {s : StreamData}
    (h : ¬TrailerPending s) : (composeMessage cfg rc s).isSome := by
  unfold composeMessage
  unfold TrailerPending at h
  split
  · rename_i f hf
    have : s.entireFooterArrived = true := by simpa [hf] using h
    simp [this]
  · split <;> simp

-- What a callback did to the routing of `in_link`: nothing, or it routed `dlv` on one unit
-- of the credit it found.
def RoutesAtMost (dlv : DlvId) (inDlv : Option DlvId) (credit : Int) (s : StreamData)
    (effs : List Effect) : Prop :=
  (s.inDlv = inDlv ∧ s.inLinkCredit = credit ∧ linkDelivers effs = 0) ∨
    (inDlv = none ∧ 0 < credit ∧ s.inDlv = some dlv ∧ s.inLinkCredit = credit - 1 ∧
      linkDelivers effs = 1)

theorem RoutesAtMost.rfl' {dlv : DlvId} {s : StreamData} {effs : List Effect}
    (h : linkDelivers effs = 0) : RoutesAtMost dlv s.inDlv s.inLinkCredit s effs :=
  .inl ⟨rfl, rfl, h⟩

theorem composeAndDeliver_routes (cfg : Config) (dlv : DlvId) (rc : Bool) (s : StreamData) :
    RoutesAtMost dlv s.inDlv s.inLinkCredit (composeAndDeliver cfg dlv rc s).2.1
      (composeAndDeliver cfg dlv rc s).2.2 := by
  unfold composeAndDeliver
  split
  · exact .rfl' rfl
  · rename_i s' effs hc
    have hs : s'.inDlv = s.inDlv ∧ s'.inLinkCredit = s.inLinkCredit ∧ linkDelivers effs = 0 := by
      split at hc
      · simp only [Option.some.injEq, Prod.mk.injEq] at hc
        obtain ⟨rfl, rfl⟩ := hc
        simp
      · obtain ⟨h1, h2, -, -, -, h6⟩ := composeMessage_spec hc
        exact ⟨h1, h2, h6⟩
    obtain ⟨h1, h2, h3⟩ := hs
    split
    · rename_i hd
      right
      simp [← h1, ← h2, hd.1, hd.2, h3]
    · left
      simp [h1, h2, h3]

theorem routeDelivery_routes (cfg : Config) (dlv : DlvId) (rc : Bool) (s : StreamData) :
    RoutesAtMost dlv s.inDlv s.inLinkCredit (routeDelivery cfg dlv rc s).2.1
      (routeDelivery cfg dlv rc s).2.2 := by
  unfold routeDelivery
  split
  · exact .rfl' rfl
  · split
    · split
      · exact composeAndDeliver_routes ..
      · exact .rfl' rfl
    · split
      · exact composeAndDeliver_routes ..
      · exact .rfl' rfl

theorem composeAndDeliver_ready (cfg : Config) (dlv : DlvId) (rc : Bool) (s : StreamData) :
    RoutingReady cfg (composeAndDeliver cfg dlv rc s).2.1 →
      (composeAndDeliver cfg dlv rc s).2.1.inDlv ≠ none := by
  unfold composeAndDeliver
  split
  · rename_i hc
    intro hr
    split at hc
    · cases hc
    · rename_i hcomp
      have hp : TrailerPending s := by
        by_contra hp
        simpa [hc] using composeMessage_isSome cfg rc hp
      exact absurd ⟨hp, by simpa using hcomp⟩ hr.2.2.2
  · split
    · simp
    · rename_i hd
      intro hr
      intro hn
      exact hd ⟨hn, hr.2.2.1⟩

theorem routeDelivery_ready (cfg : Config) (dlv : DlvId) (rc : Bool) (s : StreamData) :
    RoutingReady cfg (routeDelivery cfg dlv rc s).2.1 →
      (routeDelivery cfg dlv rc s).2.1.inDlv ≠ none := by
  unfold routeDelivery
  split
  · exact fun _ => ‹_›
  · rename_i hd
    split
    · rename_i hi
      split
      · exact composeAndDeliver_ready cfg dlv rc s
      · rename_i hc
        intro hr
        exact absurd ⟨hr.2.1 hi, hr.1, by simpa using hd⟩ hc
    · split
      · exact composeAndDeliver_ready cfg dlv rc s
      · rename_i hc
        intro hr
        exact absurd ⟨hr.1, by simpa using hd⟩ hc

-- The fields of a record that routing reads.
def StreamData.routing (s : StreamData) :
    Bool × Option String × Int × Bool × Bool × Bool × Option DlvId :=
  (s.entireHeaderArrived, s.replyTo, s.inLinkCredit, s.footerProperties.isSome,
    s.entireFooterArrived, s.headerAndPropsComposed, s.inDlv)

theorem routingReady_congr {cfg : Config} {s s' : StreamData} (h : s'.routing = s.routing) :
    RoutingReady cfg s' ↔ RoutingReady cfg s := by
  simp only [StreamData.routing, Prod.mk.injEq] at h
  obtain ⟨h1, h2, h3, h4, h5, h6, -⟩ := h
  simp only [RoutingReady, TrailerPending, ne_eq, ← Option.isSome_iff_ne_none,
    h1, h2, h3, h4, h5, h6]

theorem inDlv_eq_of_routing {s s' : StreamData} (h : s'.routing = s.routing) :
    s'.inDlv = s.inDlv := by
  simp only [StreamData.routing, Prod.mk.injEq] at h
  exact h.2.2.2.2.2.2

theorem routing_inLinkCredit {s s' : StreamData} (h : s'.routing = s.routing) :
    s'.inLinkCredit = s.inLinkCredit := by
  simp only [StreamData.routing, Prod.mk.injEq] at h
  exact h.2.2.1

@[simp] theorem settleOutDlv_routing (s : StreamData) : (settleOutDlv s).1.routing = s.routing := by
  unfold settleOutDlv
  split
  · split <;> rfl
  · rfl

@[simp] theorem linkDelivers_settleOutDlv (s : StreamData) :
    linkDelivers (settleOutDlv s).2 = 0 := by
  unfold settleOutDlv
  split
  · split <;> rfl
  · rfl

@[simp] theorem onDataChunkRecvCallback_routing (d : Bytes) (s : StreamData) :
    (onDataChunkRecvCallback d s).1.routing = s.routing := by
  unfold onDataChunkRecvCallback
  dsimp only
  split
  · rfl
  · split <;> rfl

@[simp] theorem linkDelivers_onDataChunkRecvCallback (d : Bytes) (s : StreamData) :
    linkDelivers (onDataChunkRecvCallback d s).2 = 0 := by
  unfold onDataChunkRecvCallback
  dsimp only
  split
  · rfl
  · split <;> simp

@[simp] theorem onFrameRecvCallbackData_routing (es : Bool) (s : StreamData) :
    (onFrameRecvCallbackData es s).1.routing = s.routing := by
  unfold onFrameRecvCallbackData
  dsimp only
  rw [settleOutDlv_routing]
  split <;> rfl

@[simp] theorem linkDelivers_onFrameRecvCallbackData (es : Bool) (s : StreamData) :
    linkDelivers (onFrameRecvCallbackData es s).2 = 0 := by
  unfold onFrameRecvCallbackData
  dsimp only
  simp only [linkDelivers_append, linkDelivers_settleOutDlv, Nat.add_zero]
  split <;> simp [apply_ite linkDelivers]

theorem onHeaderCallback_routing (cfg : Config) (f : Field) (s : StreamData) :
    (onHeaderCallback f s).inDlv = s.inDlv ∧ (onHeaderCallback f s).inLinkCredit = s.inLinkCredit ∧
      (RoutingReady cfg (onHeaderCallback f s) → RoutingReady cfg s) := by
  unfold onHeaderCallback
  split
  · refine ⟨rfl, rfl, fun ⟨h1, h2, h3, h4⟩ =>
      ⟨h1, h2, h3, fun ⟨⟨hf, he⟩, hc⟩ => h4 ⟨⟨by simp, he⟩, hc⟩⟩⟩
  · exact ⟨rfl, rfl, id⟩

@[simp] theorem endOfStream_routing (s : StreamData) : (endOfStream s).routing = s.routing := rfl

theorem endOfHeaderBlock_routing {s s' : StreamData} (h : endOfHeaderBlock s = .ok s') :
    s'.inDlv = s.inDlv ∧ s'.inLinkCredit = s.inLinkCredit := by
  unfold endOfHeaderBlock at h
  split at h
  · split at h
    · cases h
    · cases h; exact ⟨rfl, rfl⟩
  · cases h; exact ⟨rfl, rfl⟩

theorem afterHeaderBlock_routes (cfg : Config) (dlv : DlvId) (rc : Bool) (s : StreamData) :
    RoutesAtMost dlv s.inDlv s.inLinkCredit (afterHeaderBlock cfg dlv rc s).1
      (afterHeaderBlock cfg dlv rc s).2 := by
  unfold afterHeaderBlock
  split
  · exact .rfl' rfl
  · exact routeDelivery_routes ..

theorem afterHeaderBlock_ready (cfg : Config) (dlv : DlvId) (rc : Bool) (s : StreamData) :
    RoutingReady cfg (afterHeaderBlock cfg dlv rc s).1 →
      (afterHeaderBlock cfg dlv rc s).1.inDlv ≠ none := by
  unfold afterHeaderBlock
  split
  · rename_i hd
    simp [hd]
  · exact routeDelivery_ready cfg dlv rc s

-- The credit one event grants on `in_link`: `qdr_http_flow` ignores non-positive credit.
def StreamEvent.credit : StreamEvent → Int
  | .Flow c => if 0 < c then c else 0
  | _ => 0

def creditGranted : List StreamEvent → Int
  | [] => 0
  | e :: es => e.credit + creditGranted es

theorem RoutesAtMost.settle {dlv : DlvId} {i : Option DlvId} {c : Int} {s : StreamData}
    {effs : List Effect} (h : RoutesAtMost dlv i c s effs) :
    RoutesAtMost dlv i c (settleOutDlv s).1 (effs ++ (settleOutDlv s).2) := by
  have hi := inDlv_eq_of_routing (settleOutDlv_routing s)
  have hc := routing_inLinkCredit (settleOutDlv_routing s)
  simp only [RoutesAtMost, hi, hc, linkDelivers_append, linkDelivers_settleOutDlv, Nat.add_zero]
  exact h

theorem RoutesAtMost.of_eq {dlv : DlvId} {i : Option DlvId} {c : Int} {s : StreamData}
    {effs : List Effect} (hi : s.inDlv = i) (hc : s.inLinkCredit = c) (he : linkDelivers effs = 0) :
    RoutesAtMost dlv i c s effs := .inl ⟨hi, hc, he⟩

theorem onFrameRecvCallbackHeaders_routes {cfg : Config} {dlv : DlvId} {eh es : Bool}
    {s s' : StreamData} {effs : List Effect}
    (h : onFrameRecvCallbackHeaders cfg dlv eh es s = .ok (s', effs)) :
    RoutesAtMost dlv s.inDlv s.inLinkCredit s' effs := by
  unfold onFrameRecvCallbackHeaders at h
  split at h
  · cases hb : endOfHeaderBlock s with
    | error f => simp [hb, Except.map] at h
    | ok s1 =>
      simp only [hb, Except.map, Except.ok.injEq, Prod.mk.injEq] at h
      obtain ⟨rfl, rfl⟩ := h
      obtain ⟨h1, h2⟩ := endOfHeaderBlock_routing hb
      have hr := (afterHeaderBlock_routes cfg dlv es (if es then endOfStream s1 else s1)).settle
      have hs : (if es then endOfStream s1 else s1).inDlv = s1.inDlv ∧
          (if es then endOfStream s1 else s1).inLinkCredit = s1.inLinkCredit := by
        split <;> exact ⟨rfl, rfl⟩
      rwa [hs.1, hs.2, h1, h2] at hr
  · obtain ⟨rfl, rfl⟩ := Prod.ext_iff.mp (Except.ok.inj h)
    exact .of_eq rfl rfl rfl

theorem qdrHttpFlow_routes (cfg : Config) (dlv : DlvId) (c : Int) (s : StreamData) :
    RoutesAtMost dlv s.inDlv (s.inLinkCredit + if 0 < c then c else 0) (qdrHttpFlow cfg dlv c s).1
      (qdrHttpFlow cfg dlv c s).2 := by
  unfold qdrHttpFlow
  split
  · rename_i hc
    simp only [hc, if_true]
    split
    · exact routeDelivery_routes cfg dlv _ { s with inLinkCredit := s.inLinkCredit + c }
    · exact .of_eq rfl rfl rfl
  · rename_i hc
    exact .of_eq rfl (by simp [hc]) rfl

theorem qdrHttpSecondAttach_routes (cfg : Config) (dlv : DlvId) (a : String) (s : StreamData) :
    RoutesAtMost dlv s.inDlv s.inLinkCredit (qdrHttpSecondAttach cfg dlv a s).1
      (qdrHttpSecondAttach cfg dlv a s).2 := by
  unfold qdrHttpSecondAttach
  split
  · exact routeDelivery_routes cfg dlv _ { s with replyTo := some a }
  · exact .of_eq rfl rfl rfl

theorem streamStep_routes {cfg : Config} {dlv : DlvId} {s s' : StreamData} {e : StreamEvent}
    {effs : List Effect} (h : streamStep cfg dlv s e = .ok (s', effs)) :
    RoutesAtMost dlv s.inDlv (s.inLinkCredit + e.credit) s' effs := by
  cases e with
  | HeadersFrame eh es =>
    simpa [StreamEvent.credit] using onFrameRecvCallbackHeaders_routes h
  | Flow c =>
    obtain ⟨rfl, rfl⟩ := Prod.ext_iff.mp (Except.ok.inj h)
    exact qdrHttpFlow_routes cfg dlv c s
  | Header f =>
    obtain ⟨rfl, rfl⟩ := Prod.ext_iff.mp (Except.ok.inj h)
    obtain ⟨h1, h2, -⟩ := onHeaderCallback_routing cfg f s
    exact .of_eq h1 (by simp [h2, StreamEvent.credit]) rfl
  | DataChunk d =>
    obtain ⟨rfl, rfl⟩ := Prod.ext_iff.mp (Except.ok.inj h)
    exact .of_eq (inDlv_eq_of_routing (by simp))
      (by simp [routing_inLinkCredit (onDataChunkRecvCallback_routing d s), StreamEvent.credit])
      (by simp)
  | DataFrame es =>
    obtain ⟨rfl, rfl⟩ := Prod.ext_iff.mp (Except.ok.inj h)
    exact .of_eq (inDlv_eq_of_routing (by simp))
      (by simp [routing_inLinkCredit (onFrameRecvCallbackData_routing es s), StreamEvent.credit])
      (by simp)
  | SecondAttach a =>
    obtain ⟨rfl, rfl⟩ := Prod.ext_iff.mp (Except.ok.inj h)
    simpa [StreamEvent.credit] using qdrHttpSecondAttach_routes cfg dlv a s

-- Whether the record is ready to route implies it has routed.
def RoutedWhenReady (cfg : Config) (s : StreamData) : Prop := RoutingReady cfg s → s.inDlv ≠ none

theorem routedWhenReady_congr {cfg : Config} {s s' : StreamData} (h : s'.routing = s.routing)
    (hs : RoutedWhenReady cfg s) : RoutedWhenReady cfg s' := fun hr =>
  (inDlv_eq_of_routing h) ▸ hs ((routingReady_congr h).mp hr)

theorem onFrameRecvCallbackHeaders_ready {cfg : Config} {dlv : DlvId} {eh es : Bool}
    {s s' : StreamData} {effs : List Effect} (hs : RoutedWhenReady cfg s)
    (h : onFrameRecvCallbackHeaders cfg dlv eh es s = .ok (s', effs)) : RoutedWhenReady cfg s' := by
  unfold onFrameRecvCallbackHeaders at h
  split at h
  · cases hb : endOfHeaderBlock s with
    | error f => simp [hb, Except.map] at h
    | ok s1 =>
      simp only [hb, Except.map, Except.ok.injEq, Prod.mk.injEq] at h
      obtain ⟨rfl, rfl⟩ := h
      exact routedWhenReady_congr (settleOutDlv_routing _) (afterHeaderBlock_ready cfg dlv es _)
  · obtain ⟨rfl, rfl⟩ := Prod.ext_iff.mp (Except.ok.inj h)
    exact hs

theorem streamStep_ready {cfg : Config} {dlv : DlvId} {s s' : StreamData} {e : StreamEvent}
    {effs : List Effect} (hs : RoutedWhenReady cfg s)
    (h : streamStep cfg dlv s e = .ok (s', effs)) :
    RoutedWhenReady cfg s' := by
  cases e with
  | HeadersFrame eh es => exact onFrameRecvCallbackHeaders_ready hs h
  | Header f =>
    obtain ⟨rfl, rfl⟩ := Prod.ext_iff.mp (Except.ok.inj h)
    obtain ⟨h1, -, h3⟩ := onHeaderCallback_routing cfg f s
    exact fun hr => h1 ▸ hs (h3 hr)
  | DataChunk d =>
    obtain ⟨rfl, rfl⟩ := Prod.ext_iff.mp (Except.ok.inj h)
    exact routedWhenReady_congr (by simp) hs
  | DataFrame es =>
    obtain ⟨rfl, rfl⟩ := Prod.ext_iff.mp (Except.ok.inj h)
    exact routedWhenReady_congr (by simp) hs
  | Flow c =>
    simp only [streamStep, qdrHttpFlow, Except.ok.injEq] at h
    obtain ⟨rfl, rfl⟩ := Prod.ext_iff.mp h
    split
    · split
      · exact routeDelivery_ready cfg dlv _ _
      · rename_i hd
        exact fun _ => hd
    · exact hs
  | SecondAttach a =>
    simp only [streamStep, qdrHttpSecondAttach, Except.ok.injEq] at h
    obtain ⟨rfl, rfl⟩ := Prod.ext_iff.mp h
    split
    · exact routeDelivery_ready cfg dlv _ _
    · exact hs

theorem StreamEvent.credit_nonneg (e : StreamEvent) : 0 ≤ e.credit := by
  cases e <;> simp only [StreamEvent.credit] <;> (try split) <;> omega

@[simp] theorem creditGranted_nil : creditGranted [] = 0 := rfl
@[simp] theorem creditGranted_cons (e : StreamEvent) (es : List StreamEvent) :
    creditGranted (e :: es) = e.credit + creditGranted es := rfl

-- What holds of a record reached from a fresh one: `in_dlv` was routed once at most, as `dlv`,
-- and stays routed; the credit left is the credit granted minus that one delivery; and a
-- record ready to route has routed.
structure RoutingInvariant (cfg : Config) (dlv : DlvId) (granted : Int) (s : StreamData)
    (effs : List Effect) : Prop where
  routed_once : linkDelivers effs = if s.inDlv = none then 0 else 1
  routed_dlv : s.inDlv = none ∨ s.inDlv = some dlv
  credit_nonneg : 0 ≤ s.inLinkCredit
  credit_eq : s.inLinkCredit = granted - linkDelivers effs
  ready : RoutedWhenReady cfg s

theorem RoutingInvariant.step {cfg : Config} {dlv : DlvId} {g : Int} {s s' : StreamData}
    {e : StreamEvent} {effs effs' : List Effect} (hi : RoutingInvariant cfg dlv g s effs)
    (h : streamStep cfg dlv s e = .ok (s', effs')) :
    RoutingInvariant cfg dlv (g + e.credit) s' (effs ++ effs') := by
  have hr := streamStep_ready hi.ready h
  have hc := e.credit_nonneg
  have := hi.credit_nonneg
  have := hi.credit_eq
  rcases streamStep_routes h with ⟨h1, h2, h3⟩ | ⟨h1, h2, h3, h4, h5⟩
  · refine ⟨?_, h1 ▸ hi.routed_dlv, by omega, by simp [h2, h3]; omega, hr⟩
    simp [h1, h3, hi.routed_once]
  · have h0 : linkDelivers effs = 0 := by simpa [h1] using hi.routed_once
    exact ⟨by simp [h3, h5, h0], .inr h3, by omega, by simp [h4, h5, h0]; omega, hr⟩

theorem runStream_cons_ok {cfg : Config} {dlv : DlvId} {s s' : StreamData} {e : StreamEvent}
    {es : List StreamEvent} {effs : List Effect}
    (h : runStream cfg dlv s (e :: es) = .ok (s', effs)) :
    ∃ s₁ e₁ r, streamStep cfg dlv s e = .ok (s₁, e₁) ∧ runStream cfg dlv s₁ es = .ok (s', r) ∧
      effs = e₁ ++ r := by
  simp only [runStream] at h
  split at h
  · cases h
  · rename_i s₁ e₁ h₁
    cases hrun : runStream cfg dlv s₁ es with
    | error f => simp [hrun, Except.map] at h
    | ok r =>
      simp only [hrun, Except.map, Except.ok.injEq, Prod.mk.injEq] at h
      exact ⟨s₁, e₁, r.2, h₁, by rw [← h.1]; exact hrun, h.2.symm⟩

theorem RoutingInvariant.run {cfg : Config} {dlv : DlvId} :
    ∀ {g : Int} {s s' : StreamData} {es : List StreamEvent} {effs effs' : List Effect},
      RoutingInvariant cfg dlv g s effs → runStream cfg dlv s es = .ok (s', effs') →
        RoutingInvariant cfg dlv (g + creditGranted es) s' (effs ++ effs')
  | g, s, s', [], effs, effs', hi, h => by
    simp only [runStream, Except.ok.injEq, Prod.mk.injEq] at h
    obtain ⟨rfl, rfl⟩ := h
    simpa using hi
  | g, s, s', e :: es, effs, effs', hi, h => by
    obtain ⟨s₁, e₁, r, h₁, hr, rfl⟩ := runStream_cons_ok h
    simpa [Int.add_assoc] using RoutingInvariant.run (hi.step h₁) hr

@[simp] theorem creditGranted_append (es₁ es₂ : List StreamEvent) :
    creditGranted (es₁ ++ es₂) = creditGranted es₁ + creditGranted es₂ := by
  induction es₁ with
  | nil => simp
  | cons e es ih => simp [ih, Int.add_assoc]

theorem RoutingInvariant.init (cfg : Config) (dlv : DlvId) {s : StreamData} (h : s.inDlv = none)
    (hc : s.inLinkCredit = 0) : RoutingInvariant cfg dlv 0 s [] :=
  ⟨by simp [h], .inl h, by omega, by simp [hc], fun hr => absurd hr.2.2.1 (by omega)⟩

-- The event routing waits for besides credit and the end of the header block: the reply-to of
-- the dynamic `out_link`.
def StreamEvent.attachesReplyTo : StreamEvent → Bool
  | .SecondAttach _ => true
  | _ => false

-- What the callbacks record of those events: `entire_header_arrived` and a reply-to.
def StreamData.heard (s : StreamData) : Bool × Bool := (s.entireHeaderArrived, s.replyTo.isSome)

theorem heard_congr {s s' : StreamData} (h : s'.routing = s.routing) : s'.heard = s.heard := by
  simp only [StreamData.routing, Prod.mk.injEq] at h
  simp only [StreamData.heard, h.1, h.2.1]

theorem composeAndDeliver_heard (cfg : Config) (dlv : DlvId) (rc : Bool) (s : StreamData) :
    (composeAndDeliver cfg dlv rc s).2.1.heard = s.heard := by
  unfold composeAndDeliver
  split
  · rfl
  · rename_i s' effs hc
    have hs : s'.heard = s.heard := by
      split at hc
      · cases hc; rfl
      · obtain ⟨-, -, h3, h4, -⟩ := composeMessage_spec hc
        simp only [StreamData.heard, h3, h4]
    split <;> exact hs

theorem routeDelivery_heard (cfg : Config) (dlv : DlvId) (rc : Bool) (s : StreamData) :
    (routeDelivery cfg dlv rc s).2.1.heard = s.heard := by
  unfold routeDelivery
  split_ifs <;> first | rfl | exact composeAndDeliver_heard ..

theorem afterHeaderBlock_heard (cfg : Config) (dlv : DlvId) (rc : Bool) (s : StreamData) :
    (afterHeaderBlock cfg dlv rc s).1.heard = s.heard := by
  unfold afterHeaderBlock
  split
  · rfl
  · exact routeDelivery_heard ..

theorem endOfHeaderBlock_heard {s s' : StreamData} (h : endOfHeaderBlock s = .ok s') :
    s'.heard = (true, s.replyTo.isSome) := by
  unfold endOfHeaderBlock at h
  split at h
  · split at h
    · cases h
    · cases h; rfl
  · cases h; rfl

-- An event that neither ends the header block nor attaches a reply-to leaves what was heard.
theorem heard_of_unrecorded {cfg : Config} {s s' : StreamData} {e : StreamEvent}
    (he : e.endsHeaders = false) (ha : e.attachesReplyTo = false) (h : s'.heard = s.heard) :
    s'.heard = (s.entireHeaderArrived || e.endsHeaders,
      s.replyTo.isSome || (cfg.ingress && e.attachesReplyTo)) := by
  rw [h, he, ha]
  simp [StreamData.heard]

-- One callback records exactly the END_HEADERS and reply-to events it handles.
theorem streamStep_heard {cfg : Config} {dlv : DlvId} {s s' : StreamData} {e : StreamEvent}
    {effs : List Effect} (h : streamStep cfg dlv s e = .ok (s', effs)) :
    s'.heard = (s.entireHeaderArrived || e.endsHeaders,
      s.replyTo.isSome || (cfg.ingress && e.attachesReplyTo)) := by
  cases e with
  | HeadersFrame eh es =>
    simp only [streamStep, onFrameRecvCallbackHeaders] at h
    split at h
    · cases hb : endOfHeaderBlock s with
      | error f => simp [hb, Except.map] at h
      | ok s1 =>
        simp only [hb, Except.map, Except.ok.injEq, Prod.mk.injEq] at h
        obtain ⟨rfl, rfl⟩ := h
        have he : (if es then endOfStream s1 else s1).routing = s1.routing := by split <;> rfl
        rw [heard_congr (settleOutDlv_routing _), afterHeaderBlock_heard, heard_congr he,
          endOfHeaderBlock_heard hb]
        simp [StreamEvent.endsHeaders, StreamEvent.attachesReplyTo, *]
    · obtain ⟨rfl, rfl⟩ := Prod.ext_iff.mp (Except.ok.inj h)
      simp [StreamData.heard, StreamEvent.endsHeaders, StreamEvent.attachesReplyTo, *]
  | Header f =>
    obtain ⟨rfl, rfl⟩ := Prod.ext_iff.mp (Except.ok.inj h)
    exact heard_of_unrecorded rfl rfl (by unfold onHeaderCallback; split <;> rfl)
  | DataChunk d =>
    obtain ⟨rfl, rfl⟩ := Prod.ext_iff.mp (Except.ok.inj h)
    exact heard_of_unrecorded rfl rfl (heard_congr (onDataChunkRecvCallback_routing d s))
  | DataFrame es =>
    obtain ⟨rfl, rfl⟩ := Prod.ext_iff.mp (Except.ok.inj h)
    exact heard_of_unrecorded rfl rfl (heard_congr (onFrameRecvCallbackData_routing es s))
  | Flow c =>
    obtain ⟨rfl, rfl⟩ := Prod.ext_iff.mp (Except.ok.inj h)
    refine heard_of_unrecorded rfl rfl ?_
    unfold qdrHttpFlow
    dsimp only
    split_ifs <;> first | rfl | exact routeDelivery_heard ..
  | SecondAttach a =>
    obtain ⟨rfl, rfl⟩ := Prod.ext_iff.mp (Except.ok.inj h)
    unfold qdrHttpSecondAttach
    dsimp only
    split
    · rw [routeDelivery_heard]
      simp [StreamData.heard, StreamEvent.endsHeaders, StreamEvent.attachesReplyTo, *]
    · simp [StreamData.heard, StreamEvent.endsHeaders, StreamEvent.attachesReplyTo, *]

-- A whole run records whether its events ended the header block and attached a reply-to.
theorem runStream_heard {cfg : Config} {dlv : DlvId} :
    ∀ {s s' : StreamData} {es : List StreamEvent} {effs : List Effect},
      runStream cfg dlv s es = .ok (s', effs) →
        s'.heard = (s.entireHeaderArrived || es.any StreamEvent.endsHeaders,
          s.replyTo.isSome || (cfg.ingress && es.any StreamEvent.attachesReplyTo))
  | s, s', [], effs, h => by
    simp only [runStream, Except.ok.injEq, Prod.mk.injEq] at h
    obtain ⟨rfl, -⟩ := h
    simp [StreamData.heard]
  | s, s', e :: es, effs, h => by
    obtain ⟨s₁, e₁, r, h₁, hr, -⟩ := runStream_cons_ok h
    have h₁' := streamStep_heard h₁
    rw [runStream_heard hr]
    simp only [StreamData.heard, Prod.mk.injEq] at h₁' ⊢
    rw [h₁'.1, h₁'.2]
    cases cfg.ingress <;> simp [Bool.or_assoc]

theorem runStream_append {cfg : Config} {dlv : DlvId} :
    ∀ {s₀ s₁ s₂ : StreamData} {es₁ es₂ : List StreamEvent} {effs₁ effs₂ : List Effect},
      runStream cfg dlv s₀ es₁ = .ok (s₁, effs₁) → runStream cfg dlv s₁ es₂ = .ok (s₂, effs₂) →
        runStream cfg dlv s₀ (es₁ ++ es₂) = .ok (s₂, effs₁ ++ effs₂)
  | s₀, s₁, s₂, [], es₂, effs₁, effs₂, h₁, h₂ => by
    simp only [runStream, Except.ok.injEq, Prod.mk.injEq] at h₁
    obtain ⟨rfl, rfl⟩ := h₁
    exact h₂
  | s₀, s₁, s₂, e :: es, es₂, effs₁, effs₂, h₁, h₂ => by
    obtain ⟨t, e₁, r, ht, hr, rfl⟩ := runStream_cons_ok h₁
    rw [List.cons_append]
    simp only [runStream, ht]
    rw [runStream_append hr h₂]
    simp [Except.map]

-- Over any interleaving of a stream's header, data, credit and reply-to callbacks: `in_dlv` is
-- routed once at most and, once set, never changes; the credit left is the credit granted
-- minus the deliveries routed; whenever the record is ready to route, it has routed; and it has
-- routed once the run ended the header block, attached the reply-to an ingress stream waits
-- for, and granted credit, unless a trailer is still pending before composition.
theorem routing_invariant (cfg : Config) (dlv : DlvId) (s₀ s₁ s₂ : StreamData)
    (es₁ es₂ : List StreamEvent) (effs₁ effs₂ : List Effect)
    (h₀ : s₀.inDlv = none ∧ s₀.inLinkCredit = 0)
    (h₁ : runStream cfg dlv s₀ es₁ = .ok (s₁, effs₁))
    (h₂ : runStream cfg dlv s₁ es₂ = .ok (s₂, effs₂)) :
    (linkDelivers (effs₁ ++ effs₂) ≤ 1 ∧ (s₁.inDlv ≠ none → s₂.inDlv = s₁.inDlv)) ∧
      (0 ≤ s₂.inLinkCredit ∧
        s₂.inLinkCredit = creditGranted (es₁ ++ es₂) - linkDelivers (effs₁ ++ effs₂)) ∧
      (RoutingReady cfg s₂ → s₂.inDlv ≠ none) ∧
      ((es₁ ++ es₂).any StreamEvent.endsHeaders = true →
        (cfg.ingress = true → (es₁ ++ es₂).any StreamEvent.attachesReplyTo = true) →
        0 < creditGranted (es₁ ++ es₂) → ¬(TrailerPending s₂ ∧ s₂.headerAndPropsComposed = false) →
        s₂.inDlv ≠ none) := by
  have i₁ := (RoutingInvariant.init cfg dlv h₀.1 h₀.2).run h₁
  have i₂ := i₁.run h₂
  simp only [List.nil_append, Int.zero_add] at i₁ i₂
  have once := i₂.routed_once
  have hh := runStream_heard (runStream_append h₁ h₂)
  simp only [StreamData.heard, Prod.mk.injEq] at hh
  refine ⟨⟨by split at once <;> omega, fun hs => ?_⟩, ⟨i₂.credit_nonneg, ?_⟩, i₂.ready,
    fun he ha hc ht hn => i₂.ready ⟨by simp [hh.1, he], fun hi => ?_, ?_, ht⟩ hn⟩
  · have h1 := i₁.routed_once
    simp only [hs, if_false] at h1
    simp only [linkDelivers_append, h1] at once
    rcases i₂.routed_dlv with h | h
    · simp [h] at once
    · rcases i₁.routed_dlv with h' | h'
      · exact absurd h' hs
      · rw [h, h']
  · rw [i₂.credit_eq, creditGranted_append]
  · rw [← Option.isSome_iff_ne_none, hh.2, hi, ha hi, Bool.and_true, Bool.or_true]
  · have h0 : linkDelivers (effs₁ ++ effs₂) = 0 := by simpa [hn] using once
    have := i₂.credit_eq
    simp only [creditGranted_append] at hc
    omega

-- A GET whose header block ends the stream and whose reply-to is attached routes on its first
-- credit.
theorem routing_invariant_routes_get :
    ∃ s₁ effs₁ s₂ effs₂,
      ((createQdrHttp2StreamData 1 "flow").inDlv = none ∧
        (createQdrHttp2StreamData 1 "flow").inLinkCredit = 0) ∧
      runStream ⟨true, some "addr", none⟩ 7 (createQdrHttp2StreamData 1 "flow")
        [.Header ⟨":method", "GET"⟩, .HeadersFrame true true, .SecondAttach "reply"] =
          .ok (s₁, effs₁) ∧
      runStream ⟨true, some "addr", none⟩ 7 s₁ [.Flow 1] = .ok (s₂, effs₂) ∧ s₂.inDlv = some 7 ∧
      ((linkDelivers (effs₁ ++ effs₂) ≤ 1 ∧ (s₁.inDlv ≠ none → s₂.inDlv = s₁.inDlv)) ∧
        (0 ≤ s₂.inLinkCredit ∧
          s₂.inLinkCredit = creditGranted ([.Header ⟨":method", "GET"⟩, .HeadersFrame true true,
            .SecondAttach "reply"] ++ [.Flow 1]) - linkDelivers (effs₁ ++ effs₂)) ∧
        (RoutingReady ⟨true, some "addr", none⟩ s₂ → s₂.inDlv ≠ none) ∧
        (([.Header ⟨":method", "GET"⟩, .HeadersFrame true true, .SecondAttach "reply"] ++
              [.Flow 1] : List StreamEvent).any StreamEvent.endsHeaders = true →
          (Config.ingress ⟨true, some "addr", none⟩ = true →
            ([.Header ⟨":method", "GET"⟩, .HeadersFrame true true, .SecondAttach "reply"] ++
              [.Flow 1] : List StreamEvent).any StreamEvent.attachesReplyTo = true) →
          0 < creditGranted ([.Header ⟨":method", "GET"⟩, .HeadersFrame true true,
            .SecondAttach "reply"] ++ [.Flow 1]) →
          ¬(TrailerPending s₂ ∧ s₂.headerAndPropsComposed = false) → s₂.inDlv ≠ none)) :=
  ⟨_, _, _, _, ⟨rfl, rfl⟩, rfl, rfl, rfl,
    routing_invariant ⟨true, some "addr", none⟩ 7 (createQdrHttp2StreamData 1 "flow") _ _
      [.Header ⟨":method", "GET"⟩, .HeadersFrame true true, .SecondAttach "reply"] [.Flow 1] _ _
      ⟨rfl, rfl⟩ rfl rfl⟩

end SkupperRouter.Http2
