import SkupperRouter.Http2.Types

namespace SkupperRouter.Http2

-- The message library (message.c, compose.c, parse.c) is not part of the sources; what the
-- adaptor uses of it is modelled here from message.h and the spec.

-- The AMQP sections of a message the adaptor composes for the router.
inductive AmqpSection where
  | HeaderAndProperties (toAddress subject replyTo groupId : Option String)
  | ApplicationProperties (map : List Field)
  | BodyData (payload : Bytes)
  | Footer (map : List Field)
  deriving DecidableEq, Repr

-- A `qd_composed_field_t` map builder. `held` is false once its buffers were moved out
-- (by `qd_message_extend`, `qd_message_compose_3` or `qd_compose_take_buffers`).
structure Composed where
  map : List Field
  held : Bool
  deriving DecidableEq, Repr

def Composed.insert (c : Composed) (f : Field) : Composed := { c with map := c.map ++ [f] }

-- The buffers a builder still holds, as the entries they encode.
def Composed.buffers (c : Composed) : List Field := if c.held then c.map else []

def QD_QLIMIT_Q2_LOWER : Nat := 32
def QD_QLIMIT_Q2_UPPER : Nat := QD_QLIMIT_Q2_LOWER * 2

-- `qd_buffer_size ()`, the capacity of a `qd_buffer_t` (buffer.c is not among the sources).
def QD_BUFFER_SIZE : Nat := 512

-- The buffers `qd_buffer_list_append` fills with `data`.
def qdBufferListLength (data : Bytes) : Nat := (data.length + QD_BUFFER_SIZE - 1) / QD_BUFFER_SIZE

-- The Q2 state of one incoming message's content: the buffers it holds, `q2_input_holdoff`, and
-- whether its unblocked handler is due to run on the consuming thread.
structure Q2Content where
  buffers : Nat
  q2InputHoldoff : Bool
  unblockDue : Bool
  deriving DecidableEq, Repr

/-- Modelled from the spec: `qd_message_stream_data_append` moves the buffers into the content
and reports `q2_blocked` when this call made the content reach `QD_QLIMIT_Q2_UPPER`. -/
def Q2Content.append (m : Q2Content) (n : Nat) : Q2Content × Bool :=
  if !m.q2InputHoldoff && decide (QD_QLIMIT_Q2_UPPER ≤ m.buffers + n) then
    ({ m with buffers := m.buffers + n, q2InputHoldoff := true }, true)
  else ({ m with buffers := m.buffers + n }, false)

/-- Modelled from the spec: the outgoing side releases buffers; when a held-off content drops
below `QD_QLIMIT_Q2_LOWER` the hold-off ends and the registered unblocked handler is invoked. -/
def Q2Content.consume (m : Q2Content) (k : Nat) : Q2Content :=
  if m.q2InputHoldoff && decide (m.buffers - k < QD_QLIMIT_Q2_LOWER) then
    { m with buffers := m.buffers - k, q2InputHoldoff := false, unblockDue := true }
  else { m with buffers := m.buffers - k }

-- The content of a message the adaptor composes for the router: its sections, whether it is
-- receive-complete, and the buffers its body data holds with their Q2 state.
structure Message where
  sections : List AmqpSection
  receiveComplete : Bool
  content : Q2Content
  deriving DecidableEq, Repr

def Message.empty : Message := ⟨[], false, ⟨0, false, false⟩⟩

/-- Modelled from the spec: `qd_message_compose_3` builds the message content from the
header/properties builder and the application-properties builder, taking their buffers
in order. -/
def qdMessageCompose3 (m : Message) (headerAndProps : AmqpSection) (app : Composed)
    (receiveComplete : Bool) : Message :=
  { m with sections := headerAndProps :: (if app.held then [.ApplicationProperties app.map] else []),
           receiveComplete := receiveComplete }

/-- Modelled from the spec: `qd_message_stream_data_append` moves the buffers into the content
as body data (an empty list gives an empty body-data section) and reports whether this made
Q2 block. -/
def qdMessageStreamDataAppend (m : Message) (data : Bytes) : Message × Bool :=
  let r := m.content.append (qdBufferListLength data)
  ({ m with sections := m.sections ++ [.BodyData data], content := r.1 }, r.2)

/-- Modelled from the spec: `qd_message_extend` appends the buffers of a composed field to a
message that is still receiving; the field no longer holds them. -/
def qdMessageExtend (m : Message) (c : Composed) : Message × Composed :=
  ({ m with sections := m.sections ++ (if c.held then [.Footer c.map] else []) },
   { c with held := false })

/-- Modelled from the spec: `qd_message_stream_data_footer_append` wraps the given buffers in a
footer section appended to the message. -/
def qdMessageStreamDataFooterAppend (m : Message) (buffers : List Field) : Message :=
  { m with sections := m.sections ++ [.Footer buffers] }

def qdMessageSetReceiveComplete (m : Message) : Message := { m with receiveComplete := true }

-- One stream-data section of a message delivered to the adaptor, in body order.
-- `Corrupt` and `Abort` are where `qd_message_next_stream_data` reports INVALID or ABORTED.
inductive StreamItem where
  | Body (payload : Bytes)
  | Footer (map : List Field)
  | Corrupt
  | Abort
  deriving DecidableEq, Repr

-- A `qd_message_stream_data_t` window; `index` is the section's position, its identity.
structure Window where
  index : Nat
  item : StreamItem
  deriving DecidableEq, Repr

def Window.payload (w : Window) : Bytes :=
  match w.item with
  | .Body p => p
  | _ => []

-- `qd_message_stream_data_iterator`: the bytes of the window not yet copied.
structure Iter where
  window : Window
  rest : Bytes
  deriving DecidableEq, Repr

def qdMessageStreamDataIterator (w : Window) : Iter := ⟨w, w.payload⟩

-- The outgoing message as the adaptor sees it through `qdr_delivery_message (out_dlv)`.
-- `items` are the stream-data sections received so far and `cursor` counts those already
-- handed out; `depth` is `qd_message_check_depth (msg, QD_DEPTH_BODY)`.
structure OutMessage where
  appProperties : List Field
  items : List StreamItem
  receiveComplete : Bool
  depth : DepthStatus
  cursor : Nat
  sendComplete : Bool
  replyTo : Option String
  deriving DecidableEq, Repr

/-- Modelled from the spec: `qd_message_next_stream_data` hands out the next complete section,
or reports INCOMPLETE, NO_MORE, INVALID or ABORTED without a window. -/
def qdMessageNextStreamData (m : OutMessage) : StreamDataResult × Option Window × OutMessage :=
  match m.items[m.cursor]? with
  | some (.Body p) => (.BodyOk, some ⟨m.cursor, .Body p⟩, { m with cursor := m.cursor + 1 })
  | some (.Footer f) => (.FooterOk, some ⟨m.cursor, .Footer f⟩, { m with cursor := m.cursor + 1 })
  | some .Corrupt => (.Invalid, none, m)
  | some .Abort => (.Aborted, none, m)
  | none => (if m.receiveComplete then .NoMore else .Incomplete, none, m)

def qdMessageStreamDataPayloadLength (w : Window) : Nat := w.payload.length

/-- Modelled from the spec: parsing the map a footer iterator points to. -/
def qdParseFooter : Option Iter → Outcome (List Field)
  | none => .fault .AbsentIterator
  | some it =>
    match it.window.item with
    | .Footer f => .done f
    | _ => .done []

end SkupperRouter.Http2
