import SkupperRouter.Http2.Ingress
import SkupperRouter.Http2.Egress

namespace SkupperRouter.Http2

-- The router links a stream record was created with, `in_link` and `out_link`: the connection
-- finds the record from them, and `free_http2_stream_data` detaches them. No callback that
-- writes the record changes them.
def StreamData.links (s : StreamData) : Option LinkId × Option LinkId := (s.inLink, s.outLink)

-- The state of the message a record composes for `in_link`: the first group of
-- `qdr_http2_stream_data_t` but for the fields the sending side writes too (`method`,
-- `request_status`, `reply_to`, `stream_force_closed`, `in_dlv_decrefed`).
structure Composing where
  message : Message
  appProperties : Composed
  footerProperties : Option Composed
  bodyBuffers : Bytes
  entireHeaderArrived : Bool
  headerAndPropsComposed : Bool
  bodyDataAddedToMsg : Bool
  useFooterProperties : Bool
  entireFooterArrived : Bool
  inDlv : Option DlvId
  inLinkCredit : Int
  bytesIn : Nat
  deriving DecidableEq, Repr

def StreamData.composing (s : StreamData) : Composing :=
  ⟨s.message, s.appProperties, s.footerProperties, s.bodyBuffers, s.entireHeaderArrived,
    s.headerAndPropsComposed, s.bodyDataAddedToMsg, s.useFooterProperties, s.entireFooterArrived,
    s.inDlv, s.inLinkCredit, s.bytesIn⟩

-- What the codec and the router core find a record by, and whether its HEADERS went out:
-- `handle_outgoing_http` opens the codec's stream of an egress request when it sets
-- `out_msg_header_sent`, and nothing clears that flag.
structure RecordKeys where
  streamId : Int
  links : Option LinkId × Option LinkId
  headerSent : Bool
  deriving DecidableEq, Repr

def StreamData.keys (s : StreamData) : RecordKeys := ⟨s.streamId, s.links, s.outMsgHeaderSent⟩

-- What the sending side's callbacks never write in a record, `out_msg_header_sent` apart.
def StreamData.sendFrame (s : StreamData) : RecordKeys × Composing := (s.keys, s.composing)

section SendFrame

variable {o : Outgoing}

@[simp] theorem Outgoing.emit_stream (e : Effect) : (o.emit e).stream = o.stream := rfl

@[simp] theorem Outgoing.release_stream (w : Option Window) : (o.release w).stream = o.stream := by
  cases w <;> rfl

@[simp] theorem Outgoing.dropCurr_sendFrame :
    o.dropCurr.stream.sendFrame = o.stream.sendFrame := by
  simp [Outgoing.dropCurr, StreamData.sendFrame, StreamData.keys, StreamData.links,
    StreamData.composing]

@[simp] theorem Outgoing.dropNext_sendFrame :
    o.dropNext.stream.sendFrame = o.stream.sendFrame := by
  simp [Outgoing.dropNext, StreamData.sendFrame, StreamData.keys, StreamData.links,
    StreamData.composing]

@[simp] theorem Outgoing.lookAhead_sendFrame :
    o.lookAhead.stream.sendFrame = o.stream.sendFrame := rfl

theorem takeStreamData_sendFrame :
    (takeStreamData o).stream.sendFrame = o.stream.sendFrame := by
  unfold takeStreamData
  dsimp only
  repeat' split
  all_goals rfl

theorem readEmptyBody_sendFrame :
    (readEmptyBody o).1.stream.sendFrame = o.stream.sendFrame := by
  unfold readEmptyBody
  dsimp only
  repeat' split
  all_goals simp [StreamData.sendFrame, StreamData.keys, StreamData.links, StreamData.composing,
    Outgoing.dropCurr, Outgoing.dropNext, Outgoing.lookAhead]

theorem readBody_sendFrame (n p : Nat) :
    (readBody n p o).1.stream.sendFrame = o.stream.sendFrame := by
  unfold readBody
  dsimp only
  repeat' split
  all_goals rfl

theorem readFooter_sendFrame : (readFooter o).stream.sendFrame = o.stream.sendFrame := by
  unfold readFooter
  dsimp only
  repeat' split
  all_goals simp [StreamData.sendFrame, StreamData.keys, StreamData.links, StreamData.composing,
    Outgoing.dropCurr, Outgoing.dropNext, Outgoing.lookAhead]

theorem readStreamData_sendFrame {r : CodecRead} {x : Outgoing × ReadReturn}
    (h : readStreamData r o = .done x) : x.1.stream.sendFrame = o.stream.sendFrame := by
  unfold readStreamData at h
  split at h
  · split at h
    · cases h; rfl
    · split at h
      · cases h
      · split at h <;> cases h
        · exact readEmptyBody_sendFrame
        · exact readBody_sendFrame _ _
  · cases h; exact readFooter_sendFrame
  · cases h; rfl
  · split at h <;> cases h <;> rfl
  all_goals cases h; split <;>
    simp [StreamData.sendFrame, StreamData.keys, StreamData.links, StreamData.composing,
      Outgoing.dropCurr]

theorem readDataCallback_sendFrame {r : CodecRead} {x : Outgoing × ReadReturn}
    (h : readDataCallback r o = .done x) : x.1.stream.sendFrame = o.stream.sendFrame := by
  unfold readDataCallback at h
  split at h
  · rw [readStreamData_sendFrame h, takeStreamData_sendFrame]
  all_goals cases h; rfl

theorem writeDataFrame_sendFrame {n t : Nat} {e : Bool} {x : Outgoing × Nat}
    (h : writeDataFrame n t e o = .done x) : x.1.stream.sendFrame = o.stream.sendFrame := by
  unfold writeDataFrame at h
  split at h
  · cases h; split <;> rfl
  · split at h
    · cases h
    · obtain ⟨c, -, h⟩ := Outcome.bind_eq_done.mp h
      cases h; rfl

theorem finishDataFrame_sendFrame (k : Nat) :
    (finishDataFrame k o).stream.sendFrame = o.stream.sendFrame := by
  unfold finishDataFrame
  repeat' split
  all_goals simp [StreamData.sendFrame, StreamData.keys, StreamData.links, StreamData.composing]

theorem sendDataCallback_sendFrame {n t : Nat} {e : Bool} {o' : Outgoing}
    (h : sendDataCallback n t e o = .done o') : o'.stream.sendFrame = o.stream.sendFrame := by
  obtain ⟨x, hw, h⟩ := Outcome.bind_eq_done.mp h
  cases h
  rw [finishDataFrame_sendFrame, writeDataFrame_sendFrame hw]

theorem pullData_sendFrame {rs : List CodecRead} {w : Option Nat} {x : Outgoing × DataItem}
    (h : pullData rs o w = .done x) : x.1.stream.sendFrame = o.stream.sendFrame := by
  induction rs generalizing o w with
  | nil =>
    rcases eq_or_ne w (some 0) with rfl | hw
    · rw [pullData.eq_1] at h; cases h; rfl
    · rw [pullData.eq_2 _ _ hw] at h; cases h
  | cons r rs ih =>
    rcases eq_or_ne w (some 0) with rfl | hw
    · rw [pullData.eq_1] at h; cases h; rfl
    rw [pullData.eq_3 _ _ _ _ hw] at h
    obtain ⟨⟨o1, ret⟩, h1, h⟩ := Outcome.bind_eq_done.mp h
    rw [← readDataCallback_sendFrame h1]
    dsimp only at h
    split at h
    · cases h; rfl
    split at h
    · cases h; rfl
    obtain ⟨o2, h2, h⟩ := Outcome.bind_eq_done.mp h
    rw [← sendDataCallback_sendFrame h2]
    split at h
    · cases h; rfl
    · exact ih h

theorem nghttp2SessionSend_sendFrame {rs : List CodecRead} {item : DataItem} {w : Option Nat}
    {x : Outgoing × DataItem} (h : nghttp2SessionSend rs item o w = .done x) :
    x.1.stream.sendFrame = o.stream.sendFrame := by
  unfold nghttp2SessionSend at h
  split at h
  · exact pullData_sendFrame h
  · cases h; rfl

theorem prepareOutgoingHeaders_sendFrame {r : Outgoing × List Field × Bool}
    (h : prepareOutgoingHeaders o = .done r) : r.1.stream.sendFrame = o.stream.sendFrame := by
  unfold prepareOutgoingHeaders at h
  obtain ⟨hdrs, -, h⟩ := Outcome.bind_eq_done.mp h
  cases h
  dsimp only
  repeat' split
  all_goals simp [StreamData.sendFrame, StreamData.keys, StreamData.links, StreamData.composing,
    Outgoing.dropCurr, Outgoing.dropNext, Outgoing.lookAhead]

theorem submitOutgoingHeaders_sendFrame {o' : Outgoing} (h : submitOutgoingHeaders o = .done o') :
    o'.stream.sendFrame = o.stream.sendFrame := by
  obtain ⟨r, hr, h⟩ := Outcome.bind_eq_done.mp h
  cases h
  exact prepareOutgoingHeaders_sendFrame hr

theorem sendOutgoingFooter_sendFrame {o' : Outgoing} (h : sendOutgoingFooter o = .done o') :
    o'.stream.sendFrame = o.stream.sendFrame := by
  obtain ⟨fields, -, h⟩ := Outcome.bind_eq_done.mp h
  cases h
  split <;> simp

theorem completeOutgoing_sendFrame (dlv : DlvId) :
    (completeOutgoing dlv o).stream.sendFrame = o.stream.sendFrame := by
  unfold completeOutgoing
  dsimp only
  repeat' split
  all_goals simp [StreamData.sendFrame, StreamData.keys, StreamData.links, StreamData.composing,
    setStreamDataDeliveryFlags]

theorem sendOutgoing_sendFrame {rs : List CodecRead} {item : DataItem} {w : Option Nat}
    {x : Outgoing × DataItem} (h : sendOutgoing rs item o w = .done x) :
    x.1.stream.sendFrame = ({ o.stream.keys with headerSent := true }, o.stream.composing) := by
  obtain ⟨⟨o1, item1⟩, h1, h⟩ := Outcome.bind_eq_done.mp h
  have l1 : o1.stream.sendFrame = o.stream.sendFrame := by
    unfold sendOutgoingBody at h1
    split at h1
    · split at h1 <;> exact nghttp2SessionSend_sendFrame h1
    · cases h1; rfl
  obtain ⟨hk, hc⟩ := Prod.mk.inj l1
  rw [← hk, ← hc]
  dsimp only at h
  split at h
  · obtain ⟨o2, h2, h⟩ := Outcome.bind_eq_done.mp h
    cases h
    rw [sendOutgoingFooter_sendFrame h2]; rfl
  · cases h; rfl

-- `handle_outgoing_http` leaves a record as it was, or has sent its HEADERS.
theorem handleOutgoingHttp_sendFrame {raw : Bool} {rs : List CodecRead} {item : DataItem}
    {w : Option Nat} {err : Option Int} {x : Outgoing × DataItem}
    (h : handleOutgoingHttp raw rs item o w err = .done x) :
    x.1.stream.sendFrame = o.stream.sendFrame ∨
      x.1.stream.sendFrame = ({ o.stream.keys with headerSent := true }, o.stream.composing) := by
  unfold handleOutgoingHttp at h
  split at h
  · cases h; exact .inl rfl
  split at h
  · cases h; exact .inl rfl
  split at h
  · cases h; exact .inl rfl
  -- a failed submit, or the header phase, then the body and footer phases
  have hsend : ∀ dlv o1, o1.stream.sendFrame = o.stream.sendFrame →
      ∀ r, sendOutgoing rs item o1 w = .done r → (completeOutgoing dlv r.1).stream.sendFrame =
        ({ o.stream.keys with headerSent := true }, o.stream.composing) := fun _ o1 l1 r hr => by
    obtain ⟨hk, hc⟩ := Prod.mk.inj l1
    rw [completeOutgoing_sendFrame, sendOutgoing_sendFrame hr, hk, hc]
  split at h
  · obtain ⟨r, hr, h⟩ := Outcome.bind_eq_done.mp h
    cases h
    exact .inl (prepareOutgoingHeaders_sendFrame hr)
  dsimp only at h
  split at h <;> obtain ⟨o1, h1, h⟩ := Outcome.bind_eq_done.mp h <;>
    obtain ⟨r, hr, h⟩ := Outcome.bind_eq_done.mp h <;> cases h
  · cases h1
    exact .inr (hsend _ o rfl r hr)
  · exact .inr (hsend _ o1 (submitOutgoingHeaders_sendFrame h1) r hr)

theorem handleOutgoingHttp_links {raw : Bool} {rs : List CodecRead} {item : DataItem}
    {w : Option Nat} {err : Option Int} {x : Outgoing × DataItem}
    (h : handleOutgoingHttp raw rs item o w err = .done x) :
    x.1.stream.links = o.stream.links := by
  rcases handleOutgoingHttp_sendFrame h with h | h <;> exact congrArg (fun p => p.1.links) h

end SendFrame

section Keys

variable {cfg : Config} {dlv : DlvId} {s s' : StreamData}

theorem composeMessage_keys {rc : Bool} {effs : List Effect}
    (h : composeMessage cfg rc s = some (s', effs)) : s'.keys = s.keys := by
  unfold composeMessage at h
  repeat' split at h
  all_goals simp only [Option.some.injEq, Prod.mk.injEq, reduceCtorEq] at h
  all_goals obtain ⟨rfl, -⟩ := h; rfl

theorem composeAndDeliver_keys (rc : Bool) : (composeAndDeliver cfg dlv rc s).2.1.keys = s.keys := by
  unfold composeAndDeliver
  split
  · rfl
  · rename_i s₁ effs hc
    have l₁ : s₁.keys = s.keys := by
      split at hc
      · cases hc; rfl
      · exact composeMessage_keys hc
    split <;> exact l₁

theorem routeDelivery_keys (rc : Bool) : (routeDelivery cfg dlv rc s).2.1.keys = s.keys := by
  unfold routeDelivery
  repeat' split
  all_goals first | rfl | exact composeAndDeliver_keys rc

theorem settleOutDlv_keys (s : StreamData) : (settleOutDlv s).1.keys = s.keys := by
  unfold settleOutDlv
  repeat' split
  all_goals rfl

theorem onHeaderCallback_keys (f : Field) (s : StreamData) : (onHeaderCallback f s).keys = s.keys := by
  unfold onHeaderCallback
  split <;> rfl

theorem endOfHeaderBlock_keys (h : endOfHeaderBlock s = .ok s') : s'.keys = s.keys := by
  unfold endOfHeaderBlock at h
  repeat' split at h
  all_goals cases h <;> rfl

theorem afterHeaderBlock_keys (rc : Bool) : (afterHeaderBlock cfg dlv rc s).1.keys = s.keys := by
  unfold afterHeaderBlock
  split
  · rfl
  · exact routeDelivery_keys rc

theorem onFrameRecvCallbackHeaders_keys {eh es : Bool} {effs : List Effect}
    (h : onFrameRecvCallbackHeaders cfg dlv eh es s = .ok (s', effs)) : s'.keys = s.keys := by
  unfold onFrameRecvCallbackHeaders at h
  split at h
  · cases he : endOfHeaderBlock s with
    | error f => simp [he, Except.map] at h
    | ok s₁ =>
      simp only [he, Except.map, Except.ok.injEq, Prod.mk.injEq] at h
      obtain ⟨rfl, -⟩ := h
      rw [settleOutDlv_keys, afterHeaderBlock_keys, ← endOfHeaderBlock_keys he]
      split <;> rfl
  · cases h
    rfl

theorem onDataChunkRecvCallback_keys (d : Bytes) (s : StreamData) :
    (onDataChunkRecvCallback d s).1.keys = s.keys := by
  unfold onDataChunkRecvCallback
  dsimp only
  repeat' split
  all_goals rfl

theorem onFrameRecvCallbackData_keys (es : Bool) (s : StreamData) :
    (onFrameRecvCallbackData es s).1.keys = s.keys := by
  unfold onFrameRecvCallbackData
  rw [settleOutDlv_keys]
  split <;> rfl

theorem qdrHttpFlow_keys (credit : Int) : (qdrHttpFlow cfg dlv credit s).1.keys = s.keys := by
  unfold qdrHttpFlow
  dsimp only
  repeat' split
  all_goals first | rfl | exact routeDelivery_keys _

theorem qdrHttpSecondAttach_keys (a : String) : (qdrHttpSecondAttach cfg dlv a s).1.keys = s.keys := by
  unfold qdrHttpSecondAttach
  split
  · exact routeDelivery_keys _
  · rfl

theorem streamStep_keys {e : StreamEvent} {effs : List Effect}
    (h : streamStep cfg dlv s e = .ok (s', effs)) : s'.keys = s.keys := by
  cases e with
  | HeadersFrame eh es => exact onFrameRecvCallbackHeaders_keys h
  | Header f =>
    cases h
    exact onHeaderCallback_keys f s
  | DataChunk d =>
    obtain rfl : s' = _ := (congrArg Prod.fst (Except.ok.inj h)).symm
    exact onDataChunkRecvCallback_keys d s
  | DataFrame es =>
    obtain rfl : s' = _ := (congrArg Prod.fst (Except.ok.inj h)).symm
    exact onFrameRecvCallbackData_keys es s
  | Flow c =>
    obtain rfl : s' = _ := (congrArg Prod.fst (Except.ok.inj h)).symm
    exact qdrHttpFlow_keys c
  | SecondAttach a =>
    obtain rfl : s' = _ := (congrArg Prod.fst (Except.ok.inj h)).symm
    exact qdrHttpSecondAttach_keys a

end Keys

end SkupperRouter.Http2
