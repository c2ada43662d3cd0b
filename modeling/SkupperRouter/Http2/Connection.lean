import SkupperRouter.Http2.Ingress
import SkupperRouter.Http2.Egress

namespace SkupperRouter.Http2

-- `NGHTTP2_INITIAL_WINDOW_SIZE`: a stream's send window until the peer's SETTINGS change it
-- (nghttp2 is not among the sources).
def NGHTTP2_INITIAL_WINDOW_SIZE : Int := 65535

-- `nghttp2_submit_request` fails once the client's stream ids pass `INT32_MAX`.
def NGHTTP2_MAX_STREAM_ID : Int := 2 ^ 31 - 1
def NGHTTP2_ERR_STREAM_ID_NOT_AVAILABLE : Int := -509

-- The codec's view of one HTTP/2 stream: the user data of
-- `nghttp2_session_set_stream_user_data`, which sides have sent END_STREAM, its DATA item
-- with the record that its data provider's `source.ptr` designates, and its send window.
structure CodecStream where
  userData : Option Handle
  localClosed : Bool
  remoteClosed : Bool
  item : DataItem
  source : Option Handle
  window : Int
  deriving DecidableEq, Repr

def CodecStream.closed (cs : CodecStream) : Bool := cs.localClosed && cs.remoteClosed

def CodecStream.opened (userData : Option Handle) (window : Int := NGHTTP2_INITIAL_WINDOW_SIZE) :
    CodecStream :=
  ⟨userData, false, false, .Unsubmitted, none, window⟩

-- A window moved by `delta`: an item that flow control deferred resumes once the window is
-- open (`nghttp2_session_resume_data` resumes only what the read callback deferred). A closed
-- stream is gone from the codec.
def CodecStream.widen (cs : CodecStream) (delta : Int) : CodecStream :=
  if cs.closed then cs
  else { cs with window := cs.window + delta,
                 item := if cs.item = .Stalled ∧ 0 < cs.window + delta then .Active else cs.item }

@[simp] theorem CodecStream.widen_userData (cs : CodecStream) (delta : Int) :
    (cs.widen delta).userData = cs.userData := by
  unfold CodecStream.widen; split <;> rfl

-- `qdr_http2_connection_t` with what its callbacks reach: the live stream records (each with
-- the message of its `out_dlv`), the records freed so far, `conn->streams`, the codec's streams,
-- the contexts the router core keeps for deliveries and links, the stream dispatcher link of an
-- egress connection with its dummy record, `conn->data_prd.source.ptr`, the peer's
-- SETTINGS_INITIAL_WINDOW_SIZE and `conn->q2_blocked`. `log` holds the side effects in program
-- order.
structure Conn where
  cfg : Config
  records : List (Handle × Outgoing)
  freed : List Handle
  nextHandle : Handle
  streams : List Handle
  codec : List (Int × CodecStream)
  nextStreamId : Int
  dlvContext : List (DlvId × Handle)
  linkContext : List (LinkId × Handle)
  nextLink : LinkId
  nextDlv : DlvId
  dispatcher : Option LinkId
  dataPrdSource : Option Handle
  initialWindow : Int
  rawClosedWrite : Bool
  q2Blocked : Bool
  log : List Effect
  deriving DecidableEq, Repr

def assocSet {α β : Type} [DecidableEq α] (l : List (α × β)) (k : α) (v : β) : List (α × β) :=
  (k, v) :: l.filter fun p => p.1 ≠ k

def assocErase {α β : Type} [DecidableEq α] (l : List (α × β)) (k : α) : List (α × β) :=
  l.filter fun p => p.1 ≠ k

-- Dereferencing a record pointer; a pointer to a freed record is undefined behaviour.
def Conn.record (c : Conn) (h : Handle) : Outcome Outgoing :=
  match c.records.lookup h with
  | some o => .done o
  | none => .fault .FreedStreamRecord

-- `nghttp2_session_get_stream_user_data`: null once the codec has closed the stream.
def Conn.streamUserData (c : Conn) (sid : Int) : Option Handle :=
  match c.codec.lookup sid with
  | some cs => if cs.closed then none else cs.userData
  | none => none

def Conn.setCodec (c : Conn) (sid : Int) (f : CodecStream → CodecStream) : Conn :=
  match c.codec.lookup sid with
  | some cs => { c with codec := assocSet c.codec sid (f cs) }
  | none => c

-- Store record `h` back and move its new effects to the connection's log.
def Conn.put (c : Conn) (h : Handle) (o : Outgoing) : Conn :=
  { c with records := assocSet c.records h { o with log := [] }, log := c.log ++ o.log }

-- The effects of a composing callback: `qdr_link_deliver` returns the next delivery, and
-- `compose_and_deliver` makes the record its context; a Q2 block sets `conn->q2_blocked`.
def Conn.deliverEffects (c : Conn) (h : Handle) : List Effect → Conn
  | [] => c
  | e :: es =>
    let c := { c with log := c.log ++ [e] }
    match e with
    | .LinkDeliver d =>
      Conn.deliverEffects { c with dlvContext := assocSet c.dlvContext d h, nextDlv := c.nextDlv + 1 } h es
    | .Q2Blocked => Conn.deliverEffects { c with q2Blocked := true } h es
    | _ => Conn.deliverEffects c h es

-- Run a callback of the ingress model on record `h`, the next delivery being `c.nextDlv`.
def Conn.onRecord (c : Conn) (h : Handle)
    (f : DlvId → StreamData → Except Fault (StreamData × List Effect)) : Outcome Conn :=
  (c.record h).bind fun o =>
    match f c.nextDlv o.stream with
    | .error e => .fault e
    | .ok (s, effs) => .done ((c.put h { o with stream := s }).deliverEffects h effs)

-- The callbacks that check `stream_data` for null reach a record only through the user data
-- of an open codec stream.
def Conn.onStream (c : Conn) (sid : Int)
    (f : DlvId → StreamData → Except Fault (StreamData × List Effect)) : Outcome Conn :=
  match c.streamUserData sid with
  | none => .done c
  | some h => c.onRecord h f

-- `free_http2_stream_data (stream_data, false)`: detach the links, unlink the record from the
-- list and the codec, release the windows and deliveries it still holds, free it.
def Conn.freeHttp2StreamData (c : Conn) (h : Handle) : Outcome Conn :=
  (c.record h).bind fun o =>
    let s := o.stream
    let c := { c with linkContext := c.linkContext.filter fun p => some p.1 ≠ s.inLink ∧ some p.1 ≠ s.outLink }
    let c := if c.streams = [] then c
      else { c.setCodec s.streamId fun cs => { cs with userData := none } with streams := c.streams.erase h }
    let o := match s.inDlv with
      | some d =>
        if !s.inDlvDecrefed then
          let o := o.dropCurr.dropNext
          { o with stream := setStreamDataDeliveryFlags o.stream s.inDlv }.emit (.DeliveryDecref d)
        else o
      | none => o
    let o := match o.stream.outDlv with
      | some d =>
        if !o.stream.outDlvDecrefed then
          let o := o.dropCurr.dropNext
          { o with stream := setStreamDataDeliveryFlags o.stream o.stream.inDlv }.emit (.DeliveryDecref d)
        else o
      | none => o
    .done { c with records := assocErase c.records h, freed := c.freed ++ [h], log := c.log ++ o.log }

-- `DEQ_NEXT (stream_data)`: the record after `h` in `conn->streams`.
def nextStream : List Handle → Handle → Option Handle
  | [], _ => none
  | x :: xs, h => if x = h then xs.head? else nextStream xs h

-- `free_unprocessed_streams`: from the record at the cursor, free every stream whose id is above
-- `last`, taking its successor before it is unlinked. Each pass visits one record; `fuel`
-- bounds the passes.
def Conn.freeUnprocessedStreams (last : Int) : Nat → Conn → Option Handle → Outcome Conn
  | _, c, none => .done c
  | 0, _, some _ => .running
  | fuel + 1, c, some h => (c.record h).bind fun o =>
    if o.stream.streamId > last then
      let next := nextStream c.streams h
      (c.freeHttp2StreamData h).bind fun c => Conn.freeUnprocessedStreams last fuel c next
    else Conn.freeUnprocessedStreams last fuel c (nextStream c.streams h)

-- `free_all_connection_streams`: free the head of the list until it is empty.
def Conn.freeAllConnectionStreams : Conn → List Handle → Outcome Conn
  | c, [] => .done c
  | c, h :: hs => (c.freeHttp2StreamData h).bind fun c => Conn.freeAllConnectionStreams c hs

-- Record what one send of the codec did to stream `sid`: the DATA item's new state, the window
-- its frames used, and our side closed by a frame with END_STREAM.
def Conn.afterSend (c : Conn) (sid : Int) (o : Outgoing) (item : DataItem) : Conn :=
  c.setCodec sid fun cs =>
    { cs with item := item, window := cs.window - dataBytesSent o.log,
              localClosed := cs.localClosed || o.log.any Effect.endsStream }

-- Record what `handle_outgoing_http` did to the codec: an egress request opens a new stream
-- (user data: the record) when its HEADERS are submitted, and a first DATA item points
-- `conn->data_prd.source.ptr` at the record.
def Conn.afterOutgoing (c : Conn) (h : Handle) (before : Outgoing) (o : Outgoing) (item : DataItem) :
    Conn :=
  let headersNow := !before.stream.outMsgHeaderSent && o.stream.outMsgHeaderSent
  let (c, o) := if headersNow && !c.cfg.ingress then
      ({ c with codec := assocSet c.codec c.nextStreamId (.opened (some h) c.initialWindow),
                nextStreamId := c.nextStreamId + 2 }, { o with stream.streamId := c.nextStreamId })
    else (c, o)
  let c := c.put h o
  let c := if headersNow && o.stream.outMsgHasBody then
      { c.setCodec o.stream.streamId fun cs => { cs with source := some h } with dataPrdSource := some h }
    else c
  c.afterSend o.stream.streamId o item

-- The submit of an egress request fails once the stream ids are used up.
def Conn.submitError (c : Conn) : Option Int :=
  if !c.cfg.ingress && decide (NGHTTP2_MAX_STREAM_ID < c.nextStreamId) then
    some NGHTTP2_ERR_STREAM_ID_NOT_AVAILABLE
  else none

-- `handle_outgoing_http` on record `h`, with the reads the codec makes while it sends the
-- stream's DATA within its window (a request not yet submitted has the initial window).
def Conn.handleOutgoing (reads : List CodecRead) (c : Conn) (h : Handle) : Outcome Conn :=
  (c.record h).bind fun o =>
    let cs := (c.codec.lookup o.stream.streamId).getD (.opened none c.initialWindow)
    (handleOutgoingHttp c.rawClosedWrite reads cs.item o (some cs.window.toNat) c.submitError).bind
      fun r => .done (c.afterOutgoing h o r.1 r.2)

-- The loop of `nghttp2_session_send` over the codec's streams: an active DATA item of an open
-- stream with a closed window is deferred for flow control; one with an open window is pulled
-- through its data provider's `source.ptr`, with the next schedule of reads.
def Conn.sendItems : Conn → List (List CodecRead) → List (Int × CodecStream) → Outcome Conn
  | c, _, [] => .done c
  | c, rs, (sid, cs) :: rest =>
    if cs.item = .Active ∧ cs.closed = false then
      if cs.window ≤ 0 then Conn.sendItems (c.setCodec sid fun cs => { cs with item := .Stalled }) rs rest
      else match cs.source with
        | none => .fault .AbsentStreamRecord
        | some p => (c.record p).bind fun o =>
          (pullData (rs.headD []) o (some cs.window.toNat)).bind fun r =>
            Conn.sendItems ((c.afterSend sid r.1 r.2).put p r.1) rs.tail rest
    else Conn.sendItems c rs rest

-- `nghttp2_session_send (conn->session)`: every stream's DATA item, in the order of the
-- codec's streams.
def Conn.sessionSend (rs : List (List CodecRead)) (c : Conn) : Outcome Conn :=
  c.sendItems rs c.codec

/-- Modelled from the spec: `nghttp2_submit_data` attaches a DATA item to a stream that has
none (`NGHTTP2_ERR_DATA_EXIST` otherwise); an item for a stream whose side is already closed
is never sent. The item's data provider is `conn->data_prd` as it stands. -/
def Conn.submitData (c : Conn) (sid : Int) : Conn :=
  match c.codec.lookup sid with
  | some cs =>
    if cs.item = .Active ∨ cs.item = .Deferred ∨ cs.item = .Stalled ∨ cs.localClosed then c
    else c.setCodec sid fun cs => { cs with item := .Active, source := c.dataPrdSource }
  | none => c

-- `nghttp2_submit_data` and the `nghttp2_session_send` after it.
def Conn.submitDataAndSend (reads : List CodecRead) (c : Conn) (sid : Int) : Outcome Conn :=
  (c.submitData sid).sessionSend [reads]

-- The response `qdr_http_delivery_update` synthesizes on an ingress stream whose request
-- delivery was released, modified or rejected.
def dispositionHeaders (disp : Nat) : List Field :=
  [⟨":status", if disp = PN_REJECTED then "400" else "503"⟩,
   ⟨"content-type", "text/html; charset=utf-8"⟩, ⟨"content-length", "0"⟩]

def badDisposition (disp : Nat) : Bool :=
  disp = PN_RELEASED || disp = PN_MODIFIED || disp = PN_REJECTED

-- `qdr_http_delivery_update` for a delivery whose context is the record `h`.
def Conn.deliveryUpdate (reads : List CodecRead) (c : Conn) (dlv : DlvId) (disp : Nat) (h : Handle) :
    Outcome Conn :=
  (c.record h).bind fun o =>
    let bad := badDisposition disp
    let o := { o with stream.streamForceClosed := o.stream.streamForceClosed || (!c.cfg.ingress && bad) }
    let o := if c.cfg.ingress && bad then o.emit (.Write (.Headers (dispositionHeaders disp) true)) else o
    let sid := o.stream.streamId
    let c := (c.put h o).setCodec sid fun cs =>
      { cs with localClosed := cs.localClosed || (c.cfg.ingress && bad) }
    let sent : Outcome Conn := if !c.cfg.ingress && bad then
        (c.submitDataAndSend reads sid).bind fun c => (c.record h).bind fun o =>
          .done (c.put h { o with stream.status := advanceStreamStatus o.stream.status,
                                  stream.outMsgSendComplete := true })
      else .done c
    sent.bind fun c => (c.record h).bind fun o =>
      let c := { c with dlvContext := assocErase c.dlvContext dlv }
      let sendComplete := o.stream.outMsgSendComplete
      let c := c.put h ({ o with stream := setStreamDataDeliveryFlags o.stream (some dlv) }.emit
        (.DeliveryDecref dlv))
      if sendComplete && o.stream.status = .FullyClosed then c.freeHttp2StreamData h
      else (c.record h).bind fun o => .done (c.put h { o with stream.dispApplied := true })

def Conn.qdrHttpDeliveryUpdate (reads : List CodecRead) (c : Conn) (dlv : DlvId) (disp : Nat)
    (settled : Bool) : Outcome Conn :=
  match c.dlvContext.lookup dlv with
  | none => .done c
  | some h =>
    if settled then c.deliveryUpdate reads dlv disp h
    else .done c

-- `qdr_http_deliver`: on the stream dispatcher a new record takes the request, with a link for
-- it and one for the response; on a stream's own link the delivery goes out.
def Conn.qdrHttpDeliver (reads : List CodecRead) (c : Conn) (link : LinkId) (dlv : DlvId)
    (msg : OutMessage) : Outcome Conn :=
  match c.linkContext.lookup link with
  | none => .done c
  | some h =>
    if c.dispatcher = some link then
      let h := c.nextHandle
      let s := { createQdrHttp2StreamData 0 (toString h) with
        outDlv := some dlv, outLink := some c.nextLink, inLink := some (c.nextLink + 1),
        replyTo := msg.replyTo }
      .done { c with records := assocSet c.records h ⟨s, msg, []⟩, nextHandle := h + 1,
                     streams := c.streams ++ [h],
                     linkContext := assocSet (assocSet c.linkContext c.nextLink h) (c.nextLink + 1) h,
                     nextLink := c.nextLink + 2 }
    else (c.record h).bind fun o =>
      let o := if c.cfg.ingress && o.stream.outDlv = none then
          { o with stream.outDlv := some dlv, message := msg } else o
      (c.put h o).handleOutgoing reads h

-- One pass of the `restart_streams` loop on the record at the cursor, with the cursor it moves
-- to: a FULLY_CLOSED stream settles `out_dlv` if it must, takes its successor and is freed once
-- its message is sent and its disposition applied; another stream whose local disposition is
-- not ACCEPTED is restarted by `handle_outgoing_http`.
def Conn.restartVisit (rs : List (List CodecRead)) (c : Conn) (h : Handle) :
    Outcome (List (List CodecRead) × Conn × Option Handle) :=
  (c.record h).bind fun o =>
    if o.stream.status = .FullyClosed then
      let t := settleOutDlv o.stream
      let c := c.put h { o with stream := t.1, log := o.log ++ t.2 }
      let next := nextStream c.streams h
      if t.1.outMsgSendComplete && t.1.dispApplied then
        (c.freeHttp2StreamData h).bind fun c => .done (rs, c, next)
      else .done (rs, c, next)
    else if o.stream.outDlvLocalDisposition ≠ PN_ACCEPTED then
      (c.handleOutgoing (rs.headD []) h).bind fun c => .done (rs.tail, c, nextStream c.streams h)
    else .done (rs, c, nextStream c.streams h)

def Conn.restartFrom : Nat → List (List CodecRead) → Conn → Option Handle → Outcome Conn
  | _, _, c, none => .done c
  | 0, _, _, some _ => .running
  | fuel + 1, rs, c, some h =>
    (c.restartVisit rs h).bind fun r => Conn.restartFrom fuel r.1 r.2.1 r.2.2

-- `restart_streams`: move the head of the list to its tail, then walk the list from its head.
-- Each pass visits one record, so the list's length bounds the passes.
def Conn.restartStreams (rs : List (List CodecRead)) (c : Conn) : Outcome Conn :=
  match c.streams with
  | [] => .done c
  | h :: hs => Conn.restartFrom (hs ++ [h]).length rs { c with streams := hs ++ [h] } (hs ++ [h]).head?

-- `on_begin_headers_callback`: a request opens a stream record with its two links; on an
-- egress connection the response's record is dereferenced.
def Conn.onBeginHeaders (c : Conn) (sid : Int) (request : Bool) : Outcome Conn :=
  if request && c.cfg.ingress then
    let h := c.nextHandle
    let s := { createQdrHttp2StreamData sid (toString h) with
      inLink := some c.nextLink, outLink := some (c.nextLink + 1) }
    .done { c with records := assocSet c.records h ⟨s, ⟨[], [], false, .Incomplete, 0, false, none⟩, []⟩,
                   nextHandle := h + 1, streams := c.streams ++ [h],
                   codec := assocSet c.codec sid (.opened (some h) c.initialWindow),
                   linkContext := assocSet (assocSet c.linkContext c.nextLink h) (c.nextLink + 1) h,
                   nextLink := c.nextLink + 2 }
  else if !c.cfg.ingress then
    match c.streamUserData sid with
    | none => .fault .AbsentStreamRecord
    | some h => (c.record h).bind fun _ => .done c
  else .done c

-- `on_header_callback` dereferences the user data without a check.
def Conn.onHeader (c : Conn) (sid : Int) (f : Field) : Outcome Conn :=
  match c.codec.lookup sid with
  | some cs =>
    if cs.closed then .done c
    else match c.streamUserData sid with
      | none => .fault .AbsentStreamRecord
      | some h => c.onRecord h fun _ s => .ok (onHeaderCallback f s, [])
  | none => .done c

def Conn.remoteEnd (c : Conn) (sid : Int) (endStream : Bool) : Conn :=
  if endStream then c.setCodec sid fun cs => { cs with remoteClosed := true } else c

-- `on_frame_recv_callback` for RST_STREAM: reject `out_dlv`, drop the context of `in_dlv`, free
-- the record; the codec then closes the stream.
def Conn.onRstStream (c : Conn) (sid : Int) : Outcome Conn :=
  match c.streamUserData sid with
  | none => .done c
  | some h => (c.record h).bind fun o =>
    let o := match o.stream.outDlv with
      | some d => { o with stream.outDlvLocalDisposition := PN_REJECTED }.emit (.RemoteStateUpdated d PN_REJECTED)
      | none => o
    let c := c.put h o
    let c := match o.stream.inDlv with
      | some d => if !o.stream.inDlvDecrefed then { c with dlvContext := assocErase c.dlvContext d } else c
      | none => c
    (c.freeHttp2StreamData h).bind fun c =>
      .done (c.setCodec sid fun cs => { cs with localClosed := true, remoteClosed := true })

/-- Modelled from the spec: on GOAWAY the codec closes the streams it opened itself (the
requests of an egress connection) above `last_stream_id`. -/
def Conn.closeAbove (c : Conn) (last : Int) : Conn :=
  if c.cfg.ingress then c
  else { c with codec := c.codec.map fun p =>
    if p.1 > last then (p.1, { p.2 with localClosed := true, remoteClosed := true }) else p }

-- A WINDOW_UPDATE frame for a stream widens its send window; one for stream 0 widens the
-- connection's window, which is not modelled.
def Conn.onWindowUpdate (c : Conn) (sid : Int) (increment : Nat) : Conn :=
  c.setCodec sid fun cs => cs.widen increment

-- The peer's SETTINGS_INITIAL_WINDOW_SIZE moves every stream's window by the change.
def Conn.onSettings (c : Conn) (initialWindowSize : Nat) : Conn :=
  { c with initialWindow := initialWindowSize,
           codec := c.codec.map fun p => (p.1, p.2.widen (initialWindowSize - c.initialWindow)) }

-- `handle_disconnected`: the stream dispatcher goes, the records are freed and the codec
-- session is deleted.
def Conn.handleDisconnected (c : Conn) : Outcome Conn :=
  let c := match c.dispatcher with
    | some l => { c with linkContext := assocErase c.linkContext l, dispatcher := none }
    | none => c
  (c.freeAllConnectionStreams c.streams).bind fun c => .done { c with codec := [] }

-- The callbacks the codec, the router core and the raw connection make on the connection. A
-- WINDOW_UPDATE or SETTINGS frame is followed by the `nghttp2_session_send` that ends the read
-- which carried it (`handle_incoming_http`).
inductive ConnEvent where
  | BeginHeaders (sid : Int) (request : Bool)
  | Header (sid : Int) (f : Field)
  | HeadersFrame (sid : Int) (endHeaders endStream : Bool)
  | DataChunk (sid : Int) (data : Bytes)
  | DataFrame (sid : Int) (endStream : Bool)
  | RstStream (sid : Int)
  | GoAway (lastStreamId : Int)
  | WindowUpdate (sid : Int) (increment : Nat) (reads : List (List CodecRead))
  | Settings (initialWindowSize : Nat) (reads : List (List CodecRead))
  | Flow (link : LinkId) (credit : Int)
  | SecondAttach (link : LinkId) (address : String)
  | Deliver (link : LinkId) (dlv : DlvId) (msg : OutMessage) (reads : List CodecRead)
  | DeliveryUpdate (dlv : DlvId) (disp : Nat) (settled : Bool) (reads : List CodecRead)
  | Written (reads : List (List CodecRead))
  | Disconnected
  deriving DecidableEq, Repr

def connStep (c : Conn) : ConnEvent → Outcome Conn
  | .BeginHeaders sid request => c.onBeginHeaders sid request
  | .Header sid f => c.onHeader sid f
  | .HeadersFrame sid eh es =>
    (c.onStream sid fun dlv s => onFrameRecvCallbackHeaders c.cfg dlv eh es s).bind fun c =>
      .done (c.remoteEnd sid es)
  | .DataChunk sid d => c.onStream sid fun _ s => .ok (onDataChunkRecvCallback d s)
  | .DataFrame sid es =>
    (c.onStream sid fun _ s => .ok (onFrameRecvCallbackData es s)).bind fun c =>
      .done (c.remoteEnd sid es)
  | .RstStream sid => c.onRstStream sid
  | .GoAway last =>
    (Conn.freeUnprocessedStreams last c.streams.length c c.streams.head?).bind fun c => .done (c.closeAbove last)
  | .WindowUpdate sid increment rs => (c.onWindowUpdate sid increment).sessionSend rs
  | .Settings w rs => (c.onSettings w).sessionSend rs
  | .Flow link credit =>
    if 0 < credit then
      match c.linkContext.lookup link with
      | some h => c.onRecord h fun dlv s => .ok (qdrHttpFlow c.cfg dlv credit s)
      | none => .done c
    else .done c
  | .SecondAttach link a =>
    match c.linkContext.lookup link with
    | some h => c.onRecord h fun dlv s => .ok (qdrHttpSecondAttach c.cfg dlv a s)
    | none => .done c
  | .Deliver link dlv msg reads => c.qdrHttpDeliver reads link dlv msg
  | .DeliveryUpdate dlv disp settled reads => c.qdrHttpDeliveryUpdate reads dlv disp settled
  | .Written rs => c.restartStreams rs
  | .Disconnected => c.handleDisconnected

def runConn : Conn → List ConnEvent → Outcome Conn
  | c, [] => .done c
  | c, e :: es => (connStep c e).bind fun c => runConn c es

-- A connection before any stream: an ingress connection of a listener, or an egress
-- connection of a connector with its stream dispatcher link (link 0, dummy record 0).
def Conn.initial (cfg : Config) : Conn where
  cfg := cfg
  records := []
  freed := []
  nextHandle := 1
  streams := []
  codec := []
  nextStreamId := 1
  dlvContext := []
  linkContext := if cfg.ingress then [] else [(0, 0)]
  nextLink := 1
  nextDlv := 1
  dispatcher := if cfg.ingress then none else some 0
  dataPrdSource := none
  initialWindow := NGHTTP2_INITIAL_WINDOW_SIZE
  rawClosedWrite := false
  q2Blocked := false
  log := []

-- An ingress request is routed, then the client's GOAWAY with last stream id 0 frees its record
-- through `free_unprocessed_streams`. The context of `in_dlv` still designates the freed record,
-- and the router core's next `qdr_http_delivery_update` on it dereferences that record.
theorem runConn_goaway_keeps_delivery_context :
    let evs : List ConnEvent :=
      [.BeginHeaders 1 true, .Header 1 ⟨":method", "GET"⟩, .HeadersFrame 1 true true,
       .SecondAttach 2 "reply", .Flow 1 1, .GoAway 0]
    (runConn (.initial ⟨true, some "addr", none⟩) evs).bind
        (fun c => .done (c.dlvContext, c.freed, c.records)) = .done ([(1, 1)], [1], []) ∧
      runConn (.initial ⟨true, some "addr", none⟩) (evs ++ [.DeliveryUpdate 1 PN_ACCEPTED true []]) =
        .fault .FreedStreamRecord := by
  decide

-- An egress request whose body is still streaming; the response's delivery is released by the
-- router core, which counts the stream as closed on our side; the server's END_STREAM then
-- makes it FULLY_CLOSED and settles `out_dlv`, and the server's RST_STREAM settles it again.
theorem runConn_out_dlv_settled_twice :
    let req : OutMessage := ⟨[⟨QD_AP_FLOW_ID, "f"⟩, ⟨":method", "POST"⟩], [.Body [1, 2]], false,
      .Ok, 0, false, some "reply"⟩
    (runConn (.initial ⟨false, some "svc", none⟩)
      [.Deliver 0 100 req [], .Deliver 1 100 req [⟨16384, 1, 100⟩, ⟨16384, 1, 100⟩],
       .BeginHeaders 1 false, .Header 1 ⟨":status", "200"⟩, .HeadersFrame 1 true false,
       .Flow 2 1, .DeliveryUpdate 1 PN_RELEASED true [], .DataFrame 1 true, .RstStream 1]).bind
        (fun c => .done (c.log.drop 3, c.freed)) =
      .done ([.LinkDeliver 1, .DeliveryDecref 1, .RemoteStateUpdated 100 0,
        .RemoteStateUpdated 100 PN_REJECTED, .DeliveryDecref 100], [1]) := by
  decide

end SkupperRouter.Http2
