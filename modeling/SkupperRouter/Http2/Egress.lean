import SkupperRouter.Http2.Stream

namespace SkupperRouter.Http2

-- What the codec passes to one `read_data_callback`, and what the raw connection answers
-- meanwhile: the length asked for, `pn_raw_connection_write_buffers_capacity`, and the room
-- left in the tail of `conn->out_buffs` once `send_data_callback` has appended the frame header.
structure CodecRead where
  length : Nat
  capacity : Nat
  tailRoom : Nat
  deriving DecidableEq, Repr

-- The return of `read_data_callback`: `NGHTTP2_ERR_DEFERRED`, or a length with the
-- `NGHTTP2_DATA_FLAG_EOF` and `NGHTTP2_DATA_FLAG_NO_END_STREAM` flags.
inductive ReadReturn where
  | Deferred
  | Length (n : Nat) (eof noEndStream : Bool)
  deriving DecidableEq, Repr

-- The codec's DATA item for the stream (`nghttp2_submit_data`): not submitted, pulled by
-- `nghttp2_session_send`, deferred until `nghttp2_session_resume_data`, ended by EOF, or stalled:
-- deferred for flow control until a WINDOW_UPDATE or SETTINGS frame reopens the stream's window.
inductive DataItem where
  | Unsubmitted
  | Active
  | Deferred
  | Ended
  | Stalled
  deriving DecidableEq, Repr

-- An outgoing stream: its record, the message of its `out_dlv` (`qdr_delivery_message`), and
-- what the callbacks wrote and released so far.
structure Outgoing where
  stream : StreamData
  message : OutMessage
  log : List Effect
  deriving DecidableEq, Repr

def Outgoing.emit (o : Outgoing) (e : Effect) : Outgoing := { o with log := o.log ++ [e] }

-- `qd_message_stream_data_release`, which ignores a null window.
def Outgoing.release (o : Outgoing) : Option Window → Outgoing
  | some w => o.emit (.StreamDataRelease w)
  | none => o

@[simp] theorem Outgoing.emit_message (o : Outgoing) (e : Effect) : (o.emit e).message = o.message :=
  rfl

@[simp] theorem Outgoing.release_message (o : Outgoing) (w : Option Window) :
    (o.release w).message = o.message := by
  cases w <;> rfl

-- Release `curr_stream_data` and clear it with its iterator.
def Outgoing.dropCurr (o : Outgoing) : Outgoing :=
  { o.release o.stream.currStreamData with
    stream.currStreamData := none, stream.currStreamDataIter := none }

-- `if (next_stream_data) { release; next_stream_data = 0; }`
def Outgoing.dropNext (o : Outgoing) : Outgoing :=
  { o.release o.stream.nextStreamData with stream.nextStreamData := none }

-- `next_stream_data_result = qd_message_next_stream_data (message, &next_stream_data)`
def Outgoing.lookAhead (o : Outgoing) : Outgoing :=
  let r := qdMessageNextStreamData o.message
  { o with message := r.2.2, stream.nextStreamDataResult := r.1, stream.nextStreamData := r.2.1 }

-- `size_t` subtraction, and the conversions between `size_t` and `int` that
-- `remaining_payload_length` goes through.
def sizeSub (a b : Nat) : Nat := (a + (2 ^ 64 - b % 2 ^ 64)) % 2 ^ 64

def toCInt (x : Nat) : Int :=
  if x % 2 ^ 32 < 2 ^ 31 then (x % 2 ^ 32 : Nat) else (x % 2 ^ 32 : Nat) - (2 ^ 32 : Int)

def toSizeT (i : Int) : Nat := (i % 2 ^ 64).toNat

-- The DEPTH_OK prologue of `read_data_callback`: the looked-ahead window becomes current,
-- a window is fetched when there is no current one, and a final look-ahead result is latched.
def takeStreamData (o : Outgoing) : Outgoing :=
  let o := match o.stream.nextStreamData with
    | some w => { o with stream.currStreamData := some w,
                         stream.currStreamDataIter := some (qdMessageStreamDataIterator w),
                         stream.currStreamDataResult := o.stream.nextStreamDataResult,
                         stream.nextStreamData := none }
    | none => o
  let o := match o.stream.currStreamData with
    | none =>
      let r := qdMessageNextStreamData o.message
      { o with message := r.2.2, stream.currStreamDataResult := r.1, stream.currStreamData := r.2.1,
               stream.currStreamDataIter := match r.2.1 with
                 | some w => some (qdMessageStreamDataIterator w)
                 | none => o.stream.currStreamDataIter }
    | some _ => o
  if o.stream.nextStreamData = none ∧ (o.stream.nextStreamDataResult = .NoMore ∨
      o.stream.nextStreamDataResult = .Aborted ∨ o.stream.nextStreamDataResult = .Invalid) then
    { o with stream.currStreamDataResult := o.stream.nextStreamDataResult }
  else o

-- A current body section of length zero: look ahead one section and return 0.
def readEmptyBody (o : Outgoing) : Outgoing × ReadReturn :=
  let o := o.lookAhead
  match o.stream.nextStreamDataResult with
  | .NoMore =>
    let o := if o.stream.outMsgHasFooter then o else o.dropCurr
    let o := { o with stream.outMsgDataFlagEof := true, stream.outMsgBodySent := true,
                      stream.fullPayloadHandled := true }
    ({ o.dropNext with stream.outDlvLocalDisposition := PN_ACCEPTED }, .Length 0 true false)
  | .FooterOk => ({ o with stream.fullPayloadHandled := true }, .Length 0 false false)
  | _ => (o.dropCurr, .Length 0 false false)

-- A current body section of `payloadLength > 0` bytes: hand out at most 16 KiB of what is left,
-- looking ahead one section when the rest fits.
def readBody (length payloadLength : Nat) (o : Outgoing) : Outgoing × ReadReturn :=
  let remaining := toCInt (sizeSub payloadLength o.stream.payloadHandled)
  let r : Outgoing × Nat × Bool :=
    if remaining ≤ QD_ADAPTOR_MAX_BUFFER_SIZE then
      if length < toSizeT remaining then ({ o with stream.fullPayloadHandled := false }, length, false)
      else
        let o := { o with stream.fullPayloadHandled := true }.lookAhead
        match o.stream.nextStreamDataResult with
        | .NoMore =>
          ({ o with stream.outMsgDataFlagEof := true, stream.outMsgBodySent := true,
                    stream.outDlvLocalDisposition := PN_ACCEPTED }, toSizeT remaining, true)
        | .FooterOk =>
          ({ o with stream.outMsgHasFooter := true, stream.outMsgBodySent := true },
            toSizeT remaining, false)
        | _ => (o, toSizeT remaining, false)
    else ({ o with stream.fullPayloadHandled := false }, min length QD_ADAPTOR_MAX_BUFFER_SIZE, false)
  ({ r.1 with stream.bytesOut := r.1.stream.bytesOut + r.2.1 }, .Length r.2.1 r.2.2 false)

-- The FOOTER_OK case: the first time, look ahead past the footer; an invalid or aborted rest
-- drops the footer.
def readFooter (o : Outgoing) : Outgoing :=
  let o := if o.stream.outMsgHasFooter then o
    else { o with stream.outMsgHasFooter := true }.lookAhead
  if o.stream.nextStreamDataResult = .Invalid ∨ o.stream.nextStreamDataResult = .Aborted then
    { o.dropNext with stream.outMsgHasFooter := false }
  else o

-- The switch on `curr_stream_data_result` in the DEPTH_OK case.
def readStreamData (r : CodecRead) (o : Outgoing) : Outcome (Outgoing × ReadReturn) :=
  match o.stream.currStreamDataResult with
  | .BodyOk =>
    if r.capacity = 0 then .done ({ o with stream.outDlvLocalDisposition := 0 }, .Deferred)
    else match o.stream.currStreamData with
      | none => .fault .AbsentWindow
      | some w =>
        if qdMessageStreamDataPayloadLength w = 0 then .done (readEmptyBody o)
        else .done (readBody r.length (qdMessageStreamDataPayloadLength w) o)
  | .FooterOk => .done (readFooter o, .Length 0 false false)
  | .Incomplete => .done ({ o with stream.outDlvLocalDisposition := 0 }, .Deferred)
  | .NoMore =>
    if r.capacity = 0 then .done ({ o with stream.outDlvLocalDisposition := 0 }, .Deferred)
    else .done ({ o with stream.outMsgDataFlagEof := true, stream.fullPayloadHandled := true,
                         stream.outMsgBodySent := true, stream.outDlvLocalDisposition := PN_ACCEPTED },
                .Length 0 true o.stream.outMsgHasFooter)
  | .Invalid | .Aborted =>
    let o := { o with stream.outMsgDataFlagEof := true }
    let o := if o.stream.currStreamData = none then o else o.dropCurr
    .done ({ o with stream.outDlvLocalDisposition := PN_REJECTED }, .Length 0 true false)

def readDataCallback (r : CodecRead) (o : Outgoing) : Outcome (Outgoing × ReadReturn) :=
  match o.message.depth with
  | .Ok => readStreamData r (takeStreamData o)
  | .Invalid => .done ({ o with stream.outDlvLocalDisposition := PN_REJECTED }, .Length 0 false false)
  | .Incomplete => .done ({ o with stream.outDlvLocalDisposition := 0 }, .Deferred)

-- The copy loop of `send_data_callback`: a pass copies
-- `MIN (MIN (tail_buff_capacity, bytes_to_write), octets_remaining)` bytes of the iterator and
-- moves to a fresh buffer when the tail is full. A pass that copies nothing changes nothing, so
-- the loop repeats it forever; every other pass lowers `bytes_to_write`, which `passes` bounds.
def copyLoop : (passes bytesToWrite tailRoom : Nat) → Bytes → Outcome (Bytes × Bytes)
  | 0, _, _, _ => .running
  | passes + 1, bytesToWrite, tailRoom, it =>
    if bytesToWrite = 0 then .done ([], it)
    else
      let len := min (min tailRoom bytesToWrite) it.length
      if len = 0 then .running
      else do
        let r ← copyLoop passes (bytesToWrite - len)
          (if tailRoom - len = 0 then QD_ADAPTOR_MAX_BUFFER_SIZE else tailRoom - len) (it.drop len)
        .done (it.take len ++ r.1, r.2)

-- The writing half of `send_data_callback`: the frame of `length` bytes copied from the current
-- iterator, or an empty frame when it ends the body; with the number of bytes sent.
def writeDataFrame (length tailRoom : Nat) (endStream : Bool) (o : Outgoing) :
    Outcome (Outgoing × Nat) :=
  if length = 0 then
    .done (if o.stream.outMsgDataFlagEof then o.emit (.Write (.Data [] endStream)) else o, 0)
  else match o.stream.currStreamDataIter with
    | none => .fault .AbsentIterator
    | some it => do
      let c ← copyLoop (length + 1) length
        (if tailRoom = 0 then QD_ADAPTOR_MAX_BUFFER_SIZE else tailRoom) it.rest
      .done (({ o with stream.currStreamDataIter := some { it with rest := c.2 } }).emit
        (.Write (.Data c.1 endStream)), c.1.length)

-- The bookkeeping half: a section handed out in full leaves `curr_stream_data`, a footer to
-- `footer_stream_data` and a body section to `qd_message_stream_data_release`.
def finishDataFrame (sent : Nat) (o : Outgoing) : Outgoing :=
  if o.stream.fullPayloadHandled then
    let o := match o.stream.currStreamData with
      | some w =>
        let o := if o.stream.currStreamDataResult = StreamDataResult.FooterOk then
            { o with stream.footerStreamData := some w,
                     stream.footerStreamDataIter := o.stream.currStreamDataIter }
          else o.release (some w)
        { o with stream.currStreamData := none, stream.currStreamDataIter := none }
      | none => o
    { o with stream.payloadHandled := 0 }
  else { o with stream.payloadHandled := o.stream.payloadHandled + sent }

@[simp] theorem finishDataFrame_message (sent : Nat) (o : Outgoing) :
    (finishDataFrame sent o).message = o.message := by
  unfold finishDataFrame
  split
  · split
    · dsimp only
      split <;> simp
    · rfl
  · rfl

-- `send_data_callback` for a DATA frame of `length` bytes whose header carries END_STREAM when
-- `endStream`.
def sendDataCallback (length tailRoom : Nat) (endStream : Bool) (o : Outgoing) :
    Outcome Outgoing :=
  (writeDataFrame length tailRoom endStream o).bind fun r => .done (finishDataFrame r.2 r.1)

-- The read the codec makes under the stream's flow-control window: it never asks for more than
-- the window lets it send (`nghttp2_session_next_data_read`).
def CodecRead.within : Option Nat → CodecRead → CodecRead
  | none, r => r
  | some w, r => { r with length := min r.length w }

@[simp] theorem CodecRead.within_none (r : CodecRead) : r.within none = r := rfl

/-- Modelled from the spec: `nghttp2_session_send` pulls an active DATA item. It asks the read
callback for a length within the stream's send window, sends the frame through
`send_data_callback` (END_STREAM on the frame whose read set EOF without NO_END_STREAM, as
`nghttp2_submit_data` was given END_STREAM), and goes on until the callback defers or sets EOF,
which leaves the item deferred or ended. A read that sets EOF and NO_END_STREAM and hands out no
data sends no frame: the item ends without `send_data_callback`. Once the window is used up, the
item is deferred for flow control and the send returns with it still queued. `window` is `none`
where flow control does not bind. -/
def pullData : List CodecRead → Outgoing → (window : Option Nat := none) →
    Outcome (Outgoing × DataItem)
  | _, o, some 0 => .done (o, .Stalled)
  | [], _, _ => .running
  | r :: rs, o, w => do
    let (o, ret) ← readDataCallback (r.within w) o
    match ret with
    | .Deferred => .done (o, .Deferred)
    | .Length n eof noEndStream =>
      if n = 0 ∧ eof ∧ noEndStream then .done (o, .Ended)
      else
        let o ← sendDataCallback n r.tailRoom (eof && !noEndStream) o
        if eof then .done (o, .Ended) else pullData rs o (w.map (· - n))

/-- Modelled from the spec: `nghttp2_session_send` writes the frames submitted so far (the
callers log HEADERS frames when they submit them) and pulls the stream's DATA item if it is
active. -/
def nghttp2SessionSend (reads : List CodecRead) (item : DataItem) (o : Outgoing)
    (window : Option Nat := none) : Outcome (Outgoing × DataItem) :=
  if item = .Active then pullData reads o window else .done (o, item)

-- The application-properties loop of `handle_outgoing_http`: every entry except the first
-- flow-id entry becomes a header, written at `index` into `nghttp2_nv hdrs[actual_count]`.
def appPropertiesHeaders : (props : List Field) → (flowIdFound : Bool) → (index actualCount : Nat) →
    Outcome (List Field)
  | [], _, _, _ => .done []
  | f :: fs, flowIdFound, index, actualCount =>
    if !flowIdFound && f.name = QD_AP_FLOW_ID then appPropertiesHeaders fs true index actualCount
    else if index < actualCount then
      (appPropertiesHeaders fs flowIdFound (index + 1) actualCount).bind fun hs => .done (f :: hs)
    else .fault .HeaderArrayOverflow

-- `int actual_count = count - 1`: a map with no entries declares an array of length -1.
def outgoingHeaders (props : List Field) : Outcome (List Field) :=
  if props.length = 0 then .fault .NegativeHeaderArray
  else appPropertiesHeaders props false 0 (props.length - 1)

-- The value of the last header of the given name, else `current`.
def headerValue (name : String) (current : Option String) : List Field → Option String
  | [] => current
  | f :: fs => headerValue name (if f.name = name then some f.value else current) fs

-- The header phase of `handle_outgoing_http` up to `nghttp2_submit_headers`: convert the
-- application properties, fetch the first section, and give the header fields with whether the
-- HEADERS frame ends the stream (an empty body section that ends the message).
def prepareOutgoingHeaders (o : Outgoing) : Outcome (Outgoing × List Field × Bool) := do
  let hdrs ← outgoingHeaders o.message.appProperties
  let r := qdMessageNextStreamData o.message
  let o := { o with message := r.2.2,
                    stream.method := headerValue METHOD o.stream.method hdrs,
                    stream.requestStatus := headerValue STATUS o.stream.requestStatus hdrs,
                    stream.currStreamDataResult := r.1, stream.currStreamData := r.2.1 }
  let (o, endStream) := match r.1, r.2.1 with
    | .BodyOk, some w =>
      if qdMessageStreamDataPayloadLength w = 0 then
        let o := o.lookAhead
        if o.stream.nextStreamDataResult = StreamDataResult.NoMore then
          let o := (o.dropNext.release o.stream.currStreamData)
          ({ o with stream.currStreamData := none, stream.outMsgHasBody := false }, true)
        else (o, false)
      else ({ o with stream.currStreamDataIter := some (qdMessageStreamDataIterator w) }, false)
    | _, _ => (o, false)
  .done (o, hdrs, endStream)

-- The header phase when `nghttp2_submit_headers` accepts the HEADERS frame.
def submitOutgoingHeaders (o : Outgoing) : Outcome Outgoing :=
  (prepareOutgoingHeaders o).bind fun r => .done (r.1.emit (.Write (.Headers r.2.1 r.2.2)))

-- The body phase: the first call submits the DATA item, a later one resumes it.
def sendOutgoingBody (reads : List CodecRead) (item : DataItem) (o : Outgoing)
    (window : Option Nat := none) : Outcome (Outgoing × DataItem) :=
  if o.stream.outMsgHasBody then
    if o.stream.outMsgHeaderSent then
      nghttp2SessionSend reads (if item = .Deferred then .Active else item) o window
    else nghttp2SessionSend reads .Active o window
  else .done (o, item)

-- The footer phase: the trailer fields go out as a HEADERS frame with END_STREAM, and the
-- windows still held are released (`footer_stream_data` is not cleared).
def sendOutgoingFooter (o : Outgoing) : Outcome Outgoing := do
  let fields ← qdParseFooter o.stream.footerStreamDataIter
  let o := (o.emit (.Write (.Headers fields true))).release o.stream.footerStreamData
  let o := if o.stream.currStreamData = none then o else o.dropCurr
  .done o.dropNext

-- Marking the message send-complete, and settling `out_dlv` once the stream is fully closed.
def completeOutgoing (dlv : DlvId) (o : Outgoing) : Outgoing :=
  let o := if !o.stream.outMsgHasBody || o.stream.outMsgBodySent then
      { o with message.sendComplete := true, stream.outMsgSendComplete := true }
    else o
  if o.message.sendComplete then
    let o := { o with stream.status := advanceStreamStatus o.stream.status }
    if !o.stream.dispUpdated && o.stream.status = .FullyClosed then
      let o := o.emit (.RemoteStateUpdated dlv o.stream.outDlvLocalDisposition)
      let s := setStreamDataDeliveryFlags { o.stream with dispUpdated := true } (some dlv)
      { o with stream := { s with outDlv := none } }.emit (.DeliveryDecref dlv)
    else o
  else o

-- The part of `handle_outgoing_http` after the header phase.
def sendOutgoing (reads : List CodecRead) (item : DataItem) (o : Outgoing)
    (window : Option Nat := none) : Outcome (Outgoing × DataItem) := do
  let (o, item) ← sendOutgoingBody reads item o window
  let o := { o with stream.outMsgHeaderSent := true }
  if o.stream.outMsgHasFooter && !(o.stream.outMsgHasBody && !o.stream.outMsgBodySent) then
    (sendOutgoingFooter o).bind fun o => .done (o, item)
  else .done (o, item)

-- `handle_outgoing_http` on a stream whose DATA item in the codec is `item`, under the stream's
-- flow-control window. `submitError` is the error `nghttp2_submit_headers` returns, if it fails:
-- the header phase then submits GOAWAY, closes the raw connection and returns.
def handleOutgoingHttp (rawClosedWrite : Bool) (reads : List CodecRead) (item : DataItem)
    (o : Outgoing) (window : Option Nat := none) (submitError : Option Int := none) :
    Outcome (Outgoing × DataItem) :=
  if rawClosedWrite then .done (o, item)
  else match o.stream.outDlv with
    | none => .done (o, item)
    | some dlv =>
      if o.stream.outMsgSendComplete then .done (o, item)
      else match submitError, o.stream.outMsgHeaderSent with
        | some e, false =>
          (prepareOutgoingHeaders o).bind fun r =>
            .done ((r.1.emit (.SubmitGoAway e)).emit .RawConnectionClose, item)
        | _, _ => do
          let o ← if o.stream.outMsgHeaderSent then .done o else submitOutgoingHeaders o
          let (o, item) ← sendOutgoing reads item o window
          .done (completeOutgoing dlv o, item)

-- A footer-only message, the spec's trailers-only response. The first read takes the FOOTER_OK
-- branch and looks ahead to NO_MORE, and its empty frame leaves the footer window current, since
-- `full_payload_handled` is still clear. The second read latches NO_MORE over the footer's result
-- and sets EOF with NO_END_STREAM: the codec cancels that empty frame, so the footer window never
-- reaches `footer_stream_data`, and the footer phase parses a null `footer_stream_data_iter`.
theorem handleOutgoingHttp_footer_only :
    let o : Outgoing := ⟨{ createQdrHttp2StreamData 1 "flow" with outDlv := some 9 },
      ⟨[⟨QD_AP_FLOW_ID, "flow"⟩, ⟨":status", "200"⟩], [.Footer [⟨"grpc-status", "0"⟩]], true,
        .Ok, 0, false, none⟩, []⟩
    let reads : List CodecRead := [⟨16384, 1, 100⟩, ⟨16384, 1, 100⟩]
    ((submitOutgoingHeaders o).bind (sendOutgoingBody reads .Unsubmitted)).bind
        (fun r => .done (r.1.stream.footerStreamDataIter, r.1.stream.currStreamData, r.1.log, r.2)) =
      .done (none, some ⟨0, .Footer [⟨"grpc-status", "0"⟩]⟩,
        [.Write (.Headers [⟨":status", "200"⟩] false)], .Ended) ∧
    handleOutgoingHttp false reads .Unsubmitted o = .fault .AbsentIterator := by
  decide

-- An empty first body section followed by a second one: the header phase keeps the empty
-- window in `curr_stream_data` and the second in `next_stream_data`, and the first read moves
-- `next_stream_data` over it. The stream completes having released only the second window,
-- and no slot of the record holds the first.
theorem handleOutgoingHttp_empty_first_section :
    let o : Outgoing := ⟨{ createQdrHttp2StreamData 1 "flow" with outDlv := some 9 },
      ⟨[⟨QD_AP_FLOW_ID, "flow"⟩, ⟨":status", "200"⟩], [.Body [], .Body [1, 2, 3]], true,
        .Ok, 0, false, none⟩, []⟩
    (handleOutgoingHttp false [⟨16384, 1, 100⟩] .Unsubmitted o).bind (fun r =>
        .done (r.1.message.cursor, r.1.log, [r.1.stream.currStreamData, r.1.stream.nextStreamData,
          r.1.stream.footerStreamData], r.1.stream.outMsgSendComplete)) =
      .done (2, [.Write (.Headers [⟨":status", "200"⟩] false), .Write (.Data [1, 2, 3] true),
        .StreamDataRelease ⟨1, .Body [1, 2, 3]⟩], [none, none, none], true) := by
  decide

end SkupperRouter.Http2
