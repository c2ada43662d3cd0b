import SkupperRouter.Http2.Stream

namespace SkupperRouter.Http2

-- The connection fields the stream callbacks read: `conn->ingress` and the address and
-- site id configured on the listener or connector.
structure Config where
  ingress : Bool
  address : Option String
  siteId : Option String
  deriving DecidableEq, Repr

-- `qd_message_compose_amqp`: the header and properties sections (to, subject, reply-to, group-id).
def qdMessageComposeAmqp (toAddress subject replyTo groupId : Option String) : AmqpSection :=
  .HeaderAndProperties toAddress subject replyTo groupId

-- The header and properties of the routed message: ingress streams send a request to the
-- configured address, egress streams answer the request's reply-to.
def headerAndProps (cfg : Config) (s : StreamData) : AmqpSection :=
  if cfg.ingress then qdMessageComposeAmqp cfg.address s.method s.replyTo cfg.siteId
  else qdMessageComposeAmqp s.replyTo s.requestStatus none cfg.siteId

def q2Effect (blocked : Bool) : List Effect := if blocked then [.Q2Blocked] else []

-- The record once `compose_and_deliver` has composed its message `m`: the builders' buffers
-- belong to the message and `body_buffers` is empty.
def StreamData.composed (s : StreamData) (m : Message) (added : Bool) (f : Option Composed) :
    StreamData :=
  { s with message := m, appProperties := { s.appProperties with held := false }, bodyBuffers := [],
           bodyDataAddedToMsg := added, footerProperties := f, headerAndPropsComposed := true }

-- The composing half of `compose_and_deliver`, run while `header_and_props_composed` is false,
-- with its branches grouped by whether a footer builder exists. It declines (`none`) while a
-- trailer block has started but not ended, unless the message is receive-complete. An empty
-- `body_buffers` is appended with a null Q2 pointer, so it reports nothing.
def composeMessage (cfg : Config) (receiveComplete : Bool) (s : StreamData) :
    Option (StreamData × List Effect) :=
  let m := qdMessageCompose3 s.message (headerAndProps cfg s) s.appProperties receiveComplete
  let body := qdMessageStreamDataAppend m s.bodyBuffers
  match s.footerProperties with
  | some f =>
    if receiveComplete ∨ s.entireFooterArrived then
      some (s.composed (qdMessageStreamDataFooterAppend body.1 f.buffers) true
          (some { f with held := false }),
        if receiveComplete ∨ s.bodyBuffers ≠ [] then q2Effect body.2 else [])
    else none
  | none =>
    if receiveComplete ∨ s.bodyBuffers ≠ [] then some (s.composed body.1 true none, q2Effect body.2)
    else some (s.composed m false none, [])

def composeAndDeliver (cfg : Config) (dlv : DlvId) (receiveComplete : Bool) (s : StreamData) :
    Bool × StreamData × List Effect :=
  match (if s.headerAndPropsComposed then some (s, []) else composeMessage cfg receiveComplete s) with
  | none => (false, s, [])
  | some (s, effs) =>
    if s.inDlv = none ∧ 0 < s.inLinkCredit then
      (true, { s with inDlv := some dlv, inLinkCredit := s.inLinkCredit - 1 }, effs ++ [.LinkDeliver dlv])
    else (false, s, effs)

def routeDelivery (cfg : Config) (dlv : DlvId) (receiveComplete : Bool) (s : StreamData) :
    Bool × StreamData × List Effect :=
  if s.inDlv ≠ none then (false, s, [])
  else if cfg.ingress then
    if s.replyTo ≠ none ∧ s.entireHeaderArrived ∧ s.inDlv = none then
      composeAndDeliver cfg dlv receiveComplete s
    else (false, s, [])
  else if s.entireHeaderArrived ∧ s.inDlv = none then composeAndDeliver cfg dlv receiveComplete s
  else (false, s, [])

-- `on_header_callback` for a HEADERS frame: fields before the first END_HEADERS go to the
-- application properties, later ones to the footer map, which the first of them allocates.
def onHeaderCallback (f : Field) (s : StreamData) : StreamData :=
  if s.useFooterProperties then
    { s with footerProperties := some ((s.footerProperties.getD ⟨[], true⟩).insert f) }
  else
    { s with method := if f.name = METHOD then some f.value else s.method,
             requestStatus := if f.name = STATUS then some f.value else s.requestStatus,
             appProperties := s.appProperties.insert f }

-- The disposition update guarded by `disp_updated` in the DATA and HEADERS branches of
-- `on_frame_recv_callback` and in `restart_streams`.
def settleOutDlv (s : StreamData) : StreamData × List Effect :=
  match s.outDlv with
  | some d =>
    if ¬s.dispUpdated ∧ ¬s.outDlvDecrefed ∧ s.status = .FullyClosed then
      ({ s with dispUpdated := true }, [.RemoteStateUpdated d s.outDlvLocalDisposition])
    else (s, [])
  | none => (s, [])

-- The END_HEADERS part of `on_frame_recv_callback` for HEADERS and CONTINUATION frames.
def endOfHeaderBlock (s : StreamData) : Except Fault StreamData :=
  if s.useFooterProperties then
    match s.footerProperties with
    | none => .error .AbsentFooterBuilder
    | some f =>
      .ok { s with entireHeaderArrived := true, entireFooterArrived := true,
                   message := (qdMessageExtend s.message f).1,
                   footerProperties := some (qdMessageExtend s.message f).2 }
  else .ok { s with entireHeaderArrived := true, useFooterProperties := true }

def endOfStream (s : StreamData) : StreamData :=
  { s with message := qdMessageSetReceiveComplete s.message, status := advanceStreamStatus s.status }

-- After END_HEADERS: a routed delivery is continued once the footer is in, otherwise routing
-- is tried.
def afterHeaderBlock (cfg : Config) (dlv : DlvId) (receiveComplete : Bool) (s : StreamData) :
    StreamData × List Effect :=
  match s.entireFooterArrived, s.inDlv with
  | true, some d => (s, [.DeliveryContinue d])
  | _, _ => (routeDelivery cfg dlv receiveComplete s).2

def onFrameRecvCallbackHeaders (cfg : Config) (dlv : DlvId) (endHeaders endStream : Bool)
    (s : StreamData) : Except Fault (StreamData × List Effect) :=
  if endHeaders then
    (endOfHeaderBlock s).map fun s =>
      let r := afterHeaderBlock cfg dlv endStream (if endStream then endOfStream s else s)
      let t := settleOutDlv r.1
      (t.1, r.2 ++ t.2)
  else .ok (s, [])

def onFrameRecvCallbackData (endStream : Bool) (s : StreamData) : StreamData × List Effect :=
  let s := if endStream then
      { s with message := if s.streamForceClosed then s.message
                          else qdMessageSetReceiveComplete s.message,
               status := advanceStreamStatus s.status }
    else s
  let effs : List Effect := match s.inDlv with
    | some d => if s.streamForceClosed then [] else [.DeliveryContinue d]
    | none => []
  let t := settleOutDlv s
  (t.1, effs ++ t.2)

def onDataChunkRecvCallback (data : Bytes) (s : StreamData) : StreamData × List Effect :=
  if s.streamForceClosed then (s, [])
  else
    let s := { s with bytesIn := s.bytesIn + data.length }
    if s.inDlv ≠ none ∨ s.headerAndPropsComposed then
      let flush := decide (s.bodyBuffers ≠ [] ∧ ¬s.bodyDataAddedToMsg)
      let held := if flush then qdMessageStreamDataAppend s.message s.bodyBuffers
        else (s.message, false)
      let chunk := qdMessageStreamDataAppend held.1 data
      ({ s with message := chunk.1, bodyBuffers := if flush then [] else s.bodyBuffers,
                bodyDataAddedToMsg := true }, q2Effect (held.2 || chunk.2))
    else ({ s with bodyBuffers := s.bodyBuffers ++ data }, [])

def qdrHttpFlow (cfg : Config) (dlv : DlvId) (credit : Int) (s : StreamData) :
    StreamData × List Effect :=
  if 0 < credit then
    let s := { s with inLinkCredit := s.inLinkCredit + credit }
    if s.inDlv = none then (routeDelivery cfg dlv s.message.receiveComplete s).2 else (s, [])
  else (s, [])

-- `qdr_http_second_attach` on the dynamic `out_link` of an ingress stream: the reply-to.
def qdrHttpSecondAttach (cfg : Config) (dlv : DlvId) (address : String) (s : StreamData) :
    StreamData × List Effect :=
  if cfg.ingress then
    let s := { s with replyTo := some address }
    (routeDelivery cfg dlv s.message.receiveComplete s).2
  else (s, [])

-- The callbacks that compose and route the message of one stream, on its record.
inductive StreamEvent where
  | Header (f : Field)
  | HeadersFrame (endHeaders endStream : Bool)
  | DataChunk (data : Bytes)
  | DataFrame (endStream : Bool)
  | Flow (credit : Int)
  | SecondAttach (address : String)
  deriving DecidableEq, Repr

-- The event that ends a header block: HEADERS or CONTINUATION with END_HEADERS.
def StreamEvent.endsHeaders : StreamEvent → Bool
  | .HeadersFrame true _ => true
  | _ => false

def streamStep (cfg : Config) (dlv : DlvId) (s : StreamData) :
    StreamEvent → Except Fault (StreamData × List Effect)
  | .Header f => .ok (onHeaderCallback f s, [])
  | .HeadersFrame eh es => onFrameRecvCallbackHeaders cfg dlv eh es s
  | .DataChunk d => .ok (onDataChunkRecvCallback d s)
  | .DataFrame es => .ok (onFrameRecvCallbackData es s)
  | .Flow c => .ok (qdrHttpFlow cfg dlv c s)
  | .SecondAttach a => .ok (qdrHttpSecondAttach cfg dlv a s)

def runStream (cfg : Config) (dlv : DlvId) : StreamData → List StreamEvent →
    Except Fault (StreamData × List Effect)
  | s, [] => .ok (s, [])
  | s, e :: es =>
    match streamStep cfg dlv s e with
    | .error f => .error f
    | .ok (s, e1) => (runStream cfg dlv s es).map fun r => (r.1, e1 ++ r.2)

-- A GET whose trailer block ends the stream before the dynamic reply-to is attached: the
-- END_HEADERS of the trailer extends the still uncomposed message with the footer, composing
-- later replaces the content, and the footer builder it appends has no buffers left.
theorem runStream_trailer_before_reply_to :
    (runStream ⟨true, some "addr", none⟩ 7 (createQdrHttp2StreamData 1 "flow")
        [.Header ⟨":method", "GET"⟩, .HeadersFrame true false,
         .Header ⟨"grpc-status", "0"⟩, .HeadersFrame true true,
         .SecondAttach "reply", .Flow 1]).toOption.map (fun r => (r.1.inDlv, r.1.message.sections)) =
      some (some 7,
        [.HeaderAndProperties (some "addr") (some "GET") (some "reply") none,
         .ApplicationProperties [⟨QD_AP_FLOW_ID, "flow"⟩, ⟨":method", "GET"⟩],
         .BodyData [], .Footer []]) := by
  decide

-- An empty trailer block: no field allocated `footer_properties` before its END_HEADERS.
theorem runStream_empty_trailer_block :
    runStream ⟨true, some "addr", none⟩ 7 (createQdrHttp2StreamData 1 "flow")
        [.Header ⟨":method", "GET"⟩, .HeadersFrame true false, .HeadersFrame true true] =
      .error .AbsentFooterBuilder := rfl

end SkupperRouter.Http2
