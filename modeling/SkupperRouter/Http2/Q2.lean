import SkupperRouter.Http2.Connection.Walks

namespace SkupperRouter.Http2

-- The Q2 part of a connection: the incoming message of each stream, `conn->q2_blocked`, the
-- atomic `q2_restart` and `raw_closed_read`.
structure Q2Conn where
  contents : List Q2Content
  q2Blocked : Bool
  q2Restart : Bool
  rawClosedRead : Bool
  deriving DecidableEq, Repr

def Q2Conn.initial (streams : Nat) : Q2Conn :=
  ⟨List.replicate streams ⟨0, false, false⟩, false, false, false⟩

def Q2Conn.setContent (c : Q2Conn) (i : Nat) (m : Q2Content) : Q2Conn :=
  { c with contents := c.contents.set i m }

@[simp] theorem Q2Conn.setContent_q2Restart (c : Q2Conn) (i : Nat) (m : Q2Content) :
    (c.setContent i m).q2Restart = c.q2Restart := rfl

-- The Q2 half of `on_data_chunk_recv_callback` (and of the body flush in `compose_and_deliver`):
-- `n` buffers are appended to stream `i`'s message and a reported block sets `conn->q2_blocked`.
def Q2Conn.onDataChunk (c : Q2Conn) (chunk : Nat × Nat) : Q2Conn :=
  match c.contents[chunk.1]? with
  | some m =>
    let r := m.append chunk.2
    { c.setContent chunk.1 r.1 with q2Blocked := c.q2Blocked || r.2 }
  | none => c

-- `handle_incoming_http`: the codec is fed the bytes read and calls back with their DATA chunks.
def Q2Conn.handleIncomingHttp (c : Q2Conn) (chunks : List (Nat × Nat)) : Q2Conn :=
  chunks.foldl Q2Conn.onDataChunk c

@[simp] theorem Q2Conn.onDataChunk_q2Restart (c : Q2Conn) (chunk : Nat × Nat) :
    (c.onDataChunk chunk).q2Restart = c.q2Restart := by
  unfold Q2Conn.onDataChunk
  split <;> rfl

@[simp] theorem Q2Conn.handleIncomingHttp_q2Restart (c : Q2Conn) (chunks : List (Nat × Nat)) :
    (c.handleIncomingHttp chunks).q2Restart = c.q2Restart := by
  induction chunks generalizing c with
  | nil => rfl
  | cons ch chs ih => exact (ih _).trans (Q2Conn.onDataChunk_q2Restart c ch)

-- The raw-connection events of `handle_connection_event` that read, with the DATA chunks the
-- bytes read carry; the consuming side releasing buffers of stream `i`'s message; and
-- `qdr_http2_q2_unblocked_handler` running for it on another thread (the connection is alive).
inductive Q2Event where
  | Read (chunks : List (Nat × Nat))
  | Wake (chunks : List (Nat × Nat))
  | ClosedRead (chunks : List (Nat × Nat))
  | Consume (i k : Nat)
  | Unblocked (i : Nat)
  deriving DecidableEq, Repr

def Q2Event.isWake : Q2Event → Bool
  | .Wake _ => true
  | _ => false

def q2Step (c : Q2Conn) : Q2Event → Q2Conn
  | .Read chunks => if c.q2Blocked then c else c.handleIncomingHttp chunks
  | .Wake chunks =>
    if c.q2Restart then { c with q2Restart := false, q2Blocked := false }.handleIncomingHttp chunks
    else c
  | .ClosedRead chunks => { c with q2Blocked := false, rawClosedRead := true }.handleIncomingHttp chunks
  | .Consume i k =>
    match c.contents[i]? with
    | some m => c.setContent i (m.consume k)
    | none => c
  | .Unblocked i =>
    match c.contents[i]? with
    | some m => if m.unblockDue then { c.setContent i { m with unblockDue := false } with q2Restart := true }
      else c
    | none => c

def runQ2 (c : Q2Conn) (evs : List Q2Event) : Q2Conn := evs.foldl q2Step c

-- One message's unblock reopens reading for the whole connection: after stream 0 and stream 1
-- both reach Q2 in one read and stream 1 is drained and unblocked, the WAKE feeds stream 0,
-- whose hold-off never ended.
theorem q2Step_wake_feeds_held_off_message :
    let c : Q2Conn := runQ2 (.initial 2) [.Read [(0, 64), (1, 64)], .Consume 1 64, .Unblocked 1]
    c.q2Blocked = true ∧ c.contents = [⟨64, true, false⟩, ⟨0, false, false⟩] ∧
      (q2Step c (.Wake [(0, 1)])).contents = [⟨65, true, false⟩, ⟨0, false, false⟩] := by
  decide

theorem q2Step_keeps_q2Restart (c : Q2Conn) (e : Q2Event) (h : c.q2Restart = true)
    (he : e.isWake = false) : (q2Step c e).q2Restart = true := by
  cases e with
  | Read chunks => simp only [q2Step]; split <;> simp [h]
  | Wake chunks => cases he
  | ClosedRead chunks => simp [q2Step, h]
  | Consume i k => simp only [q2Step]; split <;> simp [h]
  | Unblocked i => simp only [q2Step]; split <;> (try split) <;> simp [h]

theorem runQ2_keeps_q2Restart (c : Q2Conn) (evs : List Q2Event) (h : c.q2Restart = true)
    (hw : ∀ e ∈ evs, e.isWake = false) : (runQ2 c evs).q2Restart = true := by
  induction evs generalizing c with
  | nil => exact h
  | cons e es ih =>
    exact ih _ (q2Step_keeps_q2Restart c e h (hw e (List.mem_cons_self e es)))
      (fun e' he' => hw e' (List.mem_cons_of_mem e he'))

-- No unblock is lost: once a message's unblocked handler has run, whatever reads, consumption
-- and other handlers follow, the next WAKE clears `q2_blocked` and reads.
theorem q2_unblocked_next_wake_reads (c : Q2Conn) (i : Nat) (m : Q2Content) (evs : List Q2Event)
    (chunks : List (Nat × Nat)) (hm : c.contents[i]? = some m) (hdue : m.unblockDue = true)
    (hw : ∀ e ∈ evs, e.isWake = false) :
    let c' := runQ2 (q2Step c (.Unblocked i)) evs
    q2Step c' (.Wake chunks) = { c' with q2Restart := false, q2Blocked := false }.handleIncomingHttp chunks := by
  intro c'
  have hr : (q2Step c (.Unblocked i)).q2Restart = true := by simp [q2Step, hm, hdue]
  have hc : c'.q2Restart = true := runQ2_keeps_q2Restart _ evs hr hw
  simp only [q2Step, hc, if_true]

theorem q2_unblocked_next_wake_reads_after_drain :
    let c := runQ2 (.initial 1) [.Read [(0, 64)], .Consume 0 64]
    let c' := runQ2 (q2Step c (.Unblocked 0)) [.Read [(0, 8)]]
    c.contents[0]? = some ⟨0, false, true⟩ ∧ (⟨0, false, true⟩ : Q2Content).unblockDue = true ∧
      (∀ e ∈ [Q2Event.Read [(0, 8)]], e.isWake = false) ∧
      q2Step c' (.Wake [(0, 2)]) = { c' with q2Restart := false, q2Blocked := false }.handleIncomingHttp [(0, 2)] :=
  ⟨rfl, rfl, by decide, q2_unblocked_next_wake_reads _ 0 _ [.Read [(0, 8)]] _ rfl rfl (by decide)⟩

end SkupperRouter.Http2
