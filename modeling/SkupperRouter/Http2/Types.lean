import Mathlib.Data.Fintype.Card
import Mathlib.Data.List.Rotate
import Mathlib.Tactic.Common

namespace SkupperRouter.Http2

abbrev Bytes := List UInt8

-- Handles of objects owned by other layers: stream records (the slab addresses of
-- `qdr_http2_stream_data_t`), router-core deliveries and links.
abbrev Handle := Nat
abbrev DlvId := Nat
abbrev LinkId := Nat

-- `QD_STREAM_OPEN`, `QD_STREAM_HALF_CLOSED`, `QD_STREAM_FULLY_CLOSED`
inductive StreamStatus where
  | Open
  | HalfClosed
  | FullyClosed
  deriving DecidableEq, Repr

def advanceStreamStatus : StreamStatus → StreamStatus
  | .Open => .HalfClosed
  | .HalfClosed => .FullyClosed
  | .FullyClosed => .FullyClosed

-- One HTTP/2 header field, or one entry of an AMQP string map.
structure Field where
  name : String
  value : String
  deriving DecidableEq, Repr

/-- Modelled from the spec: `QD_AP_FLOW_ID`, the reserved application-property key
`x-opt-skupper-flow-id` that carries the stream's flow-id reference. -/
def QD_AP_FLOW_ID : String := "x-opt-skupper-flow-id"

def METHOD : String := ":method"
def STATUS : String := ":status"

/-- Modelled from the spec: `QD_ADAPTOR_MAX_BUFFER_SIZE`, the 16 KiB bound on the bytes
copied by one DATA read. -/
def QD_ADAPTOR_MAX_BUFFER_SIZE : Nat := 16384

-- proton outcomes (`PN_ACCEPTED` .. `PN_MODIFIED`); 0 is "no disposition yet".
def PN_ACCEPTED : Nat := 0x24
def PN_REJECTED : Nat := 0x25
def PN_RELEASED : Nat := 0x26
def PN_MODIFIED : Nat := 0x27

-- `qd_message_stream_data_result_t`; a zeroed record holds `BodyOk` (enum value 0).
inductive StreamDataResult where
  | BodyOk
  | FooterOk
  | Incomplete
  | NoMore
  | Invalid
  | Aborted
  deriving DecidableEq, Repr

-- `qd_message_depth_status_t` of `qd_message_check_depth (msg, QD_DEPTH_BODY)`.
inductive DepthStatus where
  | Invalid
  | Ok
  | Incomplete
  deriving DecidableEq, Repr

-- Undefined behaviour the C code runs into, by the kind of invalid access.
inductive Fault where
  | AbsentStreamRecord
  | AbsentFooterBuilder
  | AbsentIterator
  | AbsentWindow
  | FreedStreamRecord
  | HeaderArrayOverflow
  | NegativeHeaderArray
  deriving DecidableEq, Repr

-- How a call into the adaptor ends: it returns, it runs into undefined behaviour, or it has
-- not returned: a loop that copies nothing repeats forever, or the codec is still pulling
-- when the reads the environment supplied run out.
inductive Outcome (α : Type) where
  | done (a : α)
  | fault (f : Fault)
  | running
  deriving DecidableEq, Repr

def Outcome.bind {α β : Type} : Outcome α → (α → Outcome β) → Outcome β
  | .done a, f => f a
  | .fault e, _ => .fault e
  | .running, _ => .running

instance : Monad Outcome where
  pure := .done
  bind := Outcome.bind

@[simp] theorem Outcome.done_bind {α β : Type} (a : α) (f : α → Outcome β) :
    (Outcome.done a >>= f) = f a := rfl

@[simp] theorem Outcome.fault_bind {α β : Type} (e : Fault) (f : α → Outcome β) :
    (Outcome.fault e >>= f) = .fault e := rfl

@[simp] theorem Outcome.running_bind {α β : Type} (f : α → Outcome β) :
    (Outcome.running >>= f) = .running := rfl

@[simp] theorem Outcome.pure_eq {α : Type} (a : α) : (pure a : Outcome α) = .done a := rfl

theorem Outcome.bind_eq_done {α β : Type} {x : Outcome α} {f : α → Outcome β} {b : β} :
    x.bind f = .done b ↔ ∃ a, x = .done a ∧ f a = .done b := by
  cases x <;> simp [Outcome.bind]

-- Two continuations that agree on every result the first computation can return.
theorem Outcome.bind_congr {α β : Type} {x : Outcome α} {f g : α → Outcome β}
    (h : ∀ a, x = .done a → f a = g a) : x.bind f = x.bind g := by
  cases x <;> simp [Outcome.bind, h]

end SkupperRouter.Http2
