import SkupperRouter.Http2.Egress

namespace SkupperRouter.Http2

-- On a message whose depth check is INVALID, `read_data_callback` rejects the delivery and
-- returns 0 without EOF, whatever the codec asks for.
theorem readDataCallback_depth_invalid (r : CodecRead) {o : Outgoing}
    (h : o.message.depth = .Invalid) :
    readDataCallback r o =
      .done ({ o with stream.outDlvLocalDisposition := PN_REJECTED }, .Length 0 false false) := by
  simp [readDataCallback, h]

-- A DATA frame of length zero copies nothing, so it cannot fail, and it leaves the message alone.
theorem sendDataCallback_zero (t : Nat) (e : Bool) (o : Outgoing) :
    ∃ o', sendDataCallback 0 t e o = .done o' ∧ o'.message = o.message := by
  refine ⟨_, rfl, ?_⟩
  simp only [writeDataFrame, if_pos, finishDataFrame_message]
  split <;> rfl

-- `nghttp2_session_send` on the active DATA item of such a message, under any open window: the
-- empty frames use none of it.
theorem nghttp2SessionSend_depth_invalid (reads : List CodecRead) (o : Outgoing)
    (window : Option Nat) (hw : window ≠ some 0) (h : o.message.depth = .Invalid) :
    nghttp2SessionSend reads .Active o window = .running := by
  induction reads generalizing o with
  | nil => simp [nghttp2SessionSend, pullData, hw]
  | cons r rs ih =>
    obtain ⟨o', hs, hm⟩ := sendDataCallback_zero r.tailRoom false
      { o with stream.outDlvLocalDisposition := PN_REJECTED }
    have hw' : window.map (· - 0) = window := by cases window <;> rfl
    simp only [nghttp2SessionSend, if_true, pullData, hw, imp_false, not_false_eq_true,
      readDataCallback_depth_invalid _ h, Outcome.done_bind, Bool.false_eq_true, and_false,
      if_false, Bool.not_false, Bool.and_true, hs, hw'] at ih ⊢
    exact ih o' (by rw [hm]; exact h)

-- The pull loop of one `nghttp2_session_send` on such a message never ends: every read
-- returns 0 without EOF, so the codec asks again, for every schedule of reads.
theorem pullData_depth_invalid (reads : List CodecRead) (o : Outgoing)
    (h : o.message.depth = .Invalid) : pullData reads o = .running :=
  nghttp2SessionSend_depth_invalid reads o none nofun h

theorem pullData_depth_invalid_rejects :
    let o : Outgoing := ⟨{ createQdrHttp2StreamData 1 "flow" with outDlv := some 9 },
      ⟨[⟨QD_AP_FLOW_ID, "flow"⟩], [.Corrupt], true, .Invalid, 0, false, none⟩, []⟩
    o.message.depth = .Invalid ∧ pullData [⟨16384, 1, 100⟩, ⟨1, 0, 0⟩] o = .running :=
  ⟨rfl, pullData_depth_invalid _ _ rfl⟩

-- Once the DATA item has ended without `out_msg_body_sent` (an INVALID or ABORTED section set
-- EOF), `handle_outgoing_http` on the stream changes nothing: the codec pulls nothing more, the
-- footer phase is skipped and the send-complete test fails again.
theorem handleOutgoingHttp_ended_unsent (rcw : Bool) (reads : List CodecRead) (o : Outgoing)
    (hh : o.stream.outMsgHeaderSent = true) (hb : o.stream.outMsgHasBody = true)
    (hs : o.stream.outMsgBodySent = false) (hm : o.message.sendComplete = false) :
    handleOutgoingHttp rcw reads .Ended o = .done (o, .Ended) := by
  unfold handleOutgoingHttp
  split
  · rfl
  · split
    · rfl
    · split
      · rfl
      · simp [hh, sendOutgoing, sendOutgoingBody, hb, nghttp2SessionSend, hs, completeOutgoing, hm]
        -- what is left is the record with the three flags set to the values they have
        obtain ⟨⟨⟩, _, _⟩ := o
        simp_all

-- A body section followed by a corrupt one: the second read takes the INVALID branch, sets EOF
-- and rejects the delivery, and the DATA item ends with END_STREAM. `out_msg_body_sent` stays
-- false, so neither this call nor any later `handle_outgoing_http` marks the message
-- send-complete, and `out_dlv` is never settled from the outbound side.
theorem handleOutgoingHttp_invalid_section_never_completes :
    let o : Outgoing := ⟨{ createQdrHttp2StreamData 1 "flow" with outDlv := some 9 },
      ⟨[⟨QD_AP_FLOW_ID, "flow"⟩, ⟨":status", "200"⟩], [.Body [1, 2], .Corrupt], true, .Ok, 0,
        false, none⟩, []⟩
    ∃ o' : Outgoing,
      handleOutgoingHttp false [⟨16384, 1, 100⟩, ⟨16384, 1, 100⟩] .Unsubmitted o = .done (o', .Ended) ∧
      o'.stream.outMsgDataFlagEof = true ∧ o'.stream.outDlvLocalDisposition = PN_REJECTED ∧
      o'.log.getLast? = some (.Write (.Data [] true)) ∧ o'.stream.outMsgSendComplete = false ∧
      ∀ (rcw : Bool) (reads : List CodecRead), handleOutgoingHttp rcw reads .Ended o' = .done (o', .Ended) :=
  ⟨_, rfl, rfl, rfl, rfl, rfl, fun rcw reads => handleOutgoingHttp_ended_unsent rcw reads _ rfl rfl rfl rfl⟩

end SkupperRouter.Http2
