import SkupperRouter.Http2.Egress

namespace SkupperRouter.Http2

-- One entry written at `index`: the `index < actual_count` check (the array bound), then the
-- entries after it from `index + 1`.
theorem appPropertiesHeaders_write {f : Field} {l : List Field} {i a : Nat} {x : Outcome (List Field)}
    (hx : i < a → x = if i + 1 + l.length ≤ a then .done l else .fault .HeaderArrayOverflow) :
    (if i < a then x.bind (fun hs => .done (f :: hs)) else .fault .HeaderArrayOverflow) =
      if i + (l.length + 1) ≤ a then .done (f :: l) else .fault .HeaderArrayOverflow := by
  by_cases hi : i < a
  · rw [if_pos hi, hx hi]
    by_cases hl : i + 1 + l.length ≤ a
    · rw [if_pos hl, if_pos (by omega)]; rfl
    · rw [if_neg hl, if_neg (by omega)]; rfl
  · rw [if_neg hi, if_neg (by omega)]

-- Once the flow id is found, every remaining entry is written; `index ≤ actual_count` holds at
-- every call.
theorem appPropertiesHeaders_found (fs : List Field) (i a : Nat) (h : i ≤ a) :
    appPropertiesHeaders fs true i a =
      if i + fs.length ≤ a then .done fs else .fault .HeaderArrayOverflow := by
  induction fs generalizing i with
  | nil => simp [appPropertiesHeaders, h]
  | cons f fs ih =>
    simp only [appPropertiesHeaders, Bool.not_true, Bool.false_and, Bool.false_eq_true, if_false,
      List.length_cons]
    exact appPropertiesHeaders_write fun hi => ih (i + 1) hi

-- Before it, the first flow-id entry is skipped and every other entry is written.
theorem appPropertiesHeaders_not_found (fs : List Field) (i a : Nat) (h : i ≤ a) :
    appPropertiesHeaders fs false i a =
      if i + (fs.eraseP fun f => f.name = QD_AP_FLOW_ID).length ≤ a then
        .done (fs.eraseP fun f => f.name = QD_AP_FLOW_ID)
      else .fault .HeaderArrayOverflow := by
  induction fs generalizing i with
  | nil => simp [appPropertiesHeaders, h]
  | cons f fs ih =>
    by_cases hf : f.name = QD_AP_FLOW_ID
    · rw [List.eraseP_cons_of_pos (by simpa using hf)]
      simp only [appPropertiesHeaders, Bool.not_false, decide_eq_true hf, Bool.and_self, if_true]
      exact appPropertiesHeaders_found fs i a h
    · rw [List.eraseP_cons_of_neg (by simpa using hf)]
      simp only [appPropertiesHeaders, Bool.not_false, decide_eq_false hf, Bool.and_false,
        Bool.false_eq_true, if_false, List.length_cons]
      exact appPropertiesHeaders_write fun hi => ih (i + 1) hi

-- Every application-properties map: the headers are the map without its first flow-id entry,
-- in map order, when the map holds a flow id. A map without one overflows the
-- `count - 1` array, and an empty map declares an array of negative length.
theorem outgoingHeaders_eq (props : List Field) :
    outgoingHeaders props =
      if props = [] then .fault .NegativeHeaderArray
      else if props.any (fun f => f.name = QD_AP_FLOW_ID) then
        .done (props.eraseP fun f => f.name = QD_AP_FLOW_ID)
      else .fault .HeaderArrayOverflow := by
  unfold outgoingHeaders
  by_cases he : props = []
  · simp [he]
  · have hl : 0 < props.length := List.length_pos.mpr he
    rw [if_neg (by omega), if_neg he, appPropertiesHeaders_not_found _ 0 _ (Nat.zero_le _),
      List.length_eraseP]
    by_cases ha : props.any (fun f => f.name = QD_AP_FLOW_ID)
    · rw [if_pos ha, if_pos (by omega), if_pos ha]
    · rw [if_neg ha, if_neg (by omega), if_neg ha]

-- A map without the flow id, as another AMQP producer may send, overflows `hdrs`, and an empty
-- map declares it with length -1: `handle_outgoing_http` never reaches `nghttp2_submit_headers`.
theorem handleOutgoingHttp_app_properties_without_flow_id :
    let o : Outgoing := ⟨{ createQdrHttp2StreamData 1 "flow" with outDlv := some 9 },
      ⟨[⟨":status", "200"⟩], [.Body [1]], true, .Ok, 0, false, none⟩, []⟩
    handleOutgoingHttp false [⟨16384, 1, 100⟩] .Unsubmitted o = .fault .HeaderArrayOverflow ∧
      handleOutgoingHttp false [⟨16384, 1, 100⟩] .Unsubmitted { o with message.appProperties := [] } =
        .fault .NegativeHeaderArray := by
  decide

end SkupperRouter.Http2
