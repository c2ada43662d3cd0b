import SkupperRouter.Http2.Message

namespace SkupperRouter.Http2

-- `qdr_http2_stream_data_t`, the fields the modelled functions read or write.
-- The first group composes the message routed on `in_link`, the second sends the message
-- delivered on `out_link`.
structure StreamData where
  streamId : Int
  status : StreamStatus
  inLink : Option LinkId
  outLink : Option LinkId
  message : Message
  appProperties : Composed
  footerProperties : Option Composed
  bodyBuffers : Bytes
  method : Option String
  requestStatus : Option String
  replyTo : Option String
  entireHeaderArrived : Bool
  headerAndPropsComposed : Bool
  bodyDataAddedToMsg : Bool
  useFooterProperties : Bool
  entireFooterArrived : Bool
  streamForceClosed : Bool
  inDlv : Option DlvId
  inDlvDecrefed : Bool
  inLinkCredit : Int
  bytesIn : Nat
  outDlv : Option DlvId
  outDlvDecrefed : Bool
  outDlvLocalDisposition : Nat
  dispUpdated : Bool
  dispApplied : Bool
  outMsgHeaderSent : Bool
  outMsgBodySent : Bool
  outMsgHasBody : Bool
  outMsgHasFooter : Bool
  outMsgDataFlagEof : Bool
  outMsgSendComplete : Bool
  fullPayloadHandled : Bool
  currStreamData : Option Window
  currStreamDataIter : Option Iter
  currStreamDataResult : StreamDataResult
  nextStreamData : Option Window
  nextStreamDataResult : StreamDataResult
  footerStreamData : Option Window
  footerStreamDataIter : Option Iter
  payloadHandled : Nat
  bytesOut : Nat
  deriving DecidableEq, Repr

-- `create_qdr_http2_stream_data` on a zeroed record: a fresh message, an application-properties
-- map that starts with the flow-id entry, status OPEN and `out_msg_has_body` set.
def createQdrHttp2StreamData (streamId : Int) (flowId : String) : StreamData where
  streamId := streamId
  status := .Open
  inLink := none
  outLink := none
  message := Message.empty
  appProperties := ⟨[⟨QD_AP_FLOW_ID, flowId⟩], true⟩
  footerProperties := none
  bodyBuffers := []
  method := none
  requestStatus := none
  replyTo := none
  entireHeaderArrived := false
  headerAndPropsComposed := false
  bodyDataAddedToMsg := false
  useFooterProperties := false
  entireFooterArrived := false
  streamForceClosed := false
  inDlv := none
  inDlvDecrefed := false
  inLinkCredit := 0
  bytesIn := 0
  outDlv := none
  outDlvDecrefed := false
  outDlvLocalDisposition := 0
  dispUpdated := false
  dispApplied := false
  outMsgHeaderSent := false
  outMsgBodySent := false
  outMsgHasBody := true
  outMsgHasFooter := false
  outMsgDataFlagEof := false
  outMsgSendComplete := false
  fullPayloadHandled := false
  currStreamData := none
  currStreamDataIter := none
  currStreamDataResult := .BodyOk
  nextStreamData := none
  nextStreamDataResult := .BodyOk
  footerStreamData := none
  footerStreamDataIter := none
  payloadHandled := 0
  bytesOut := 0

-- `set_stream_data_delivery_flags`: mark whichever of the stream's deliveries `dlv` is as
-- released by the adaptor (a null `dlv` matches a null delivery).
def setStreamDataDeliveryFlags (s : StreamData) (dlv : Option DlvId) : StreamData :=
  { s with inDlvDecrefed := if s.inDlv = dlv then true else s.inDlvDecrefed,
           outDlvDecrefed := if s.outDlv = dlv then true else s.outDlvDecrefed }

-- An HTTP/2 frame the codec writes for the stream.
inductive Frame where
  | Headers (fields : List Field) (endStream : Bool)
  | Data (payload : Bytes) (endStream : Bool)
  deriving DecidableEq, Repr

-- Side effects of a stream callback on the router core and the connection, in program order.
inductive Effect where
  | LinkDeliver (dlv : DlvId)
  | DeliveryContinue (dlv : DlvId)
  | RemoteStateUpdated (dlv : DlvId) (disp : Nat)
  | Q2Blocked
  | StreamDataRelease (w : Window)
  | DeliveryDecref (dlv : DlvId)
  | Write (f : Frame)
  | SubmitGoAway (errorCode : Int)
  | RawConnectionClose
  deriving DecidableEq, Repr

-- A frame written with END_STREAM closes the writer's side of the stream.
def Effect.endsStream : Effect → Bool
  | .Write (.Headers _ true) => true
  | .Write (.Data _ true) => true
  | _ => false

-- The payload of a DATA frame, which the stream's send window pays for.
def Effect.dataBytes : Effect → Nat
  | .Write (.Data d _) => d.length
  | _ => 0

-- The DATA bytes a log of effects sent.
def dataBytesSent : List Effect → Nat
  | [] => 0
  | e :: es => e.dataBytes + dataBytesSent es

end SkupperRouter.Http2
