import SkupperRouter.Http2.Types

namespace SkupperRouter.Http2

-- `conn->activate_scheduled`, whether `conn->activate_timer` is pending, and how many calls
-- stand between their two atomic steps: `schedule_activation` calls that won the test-and-set,
-- `cancel_activation` calls that cancelled the timer, and timer firings whose
-- `egress_conn_timer_handler` has not cleared the flag yet. Threads in the same phase are
-- interchangeable, so the counts stand for any number of concurrent callers.
structure Activation where
  activateScheduled : Bool
  timerPending : Bool
  scheduling : Nat
  cancelling : Nat
  firing : Nat
  deriving DecidableEq, Repr

def Activation.initial : Activation := ⟨false, false, 0, 0, 0⟩

def Activation.Quiescent (a : Activation) : Prop :=
  a.scheduling = 0 ∧ a.cancelling = 0 ∧ a.firing = 0

-- The atomic steps of the three operations.
inductive ActivationStep where
  | TestAndSet
  | Schedule
  | Cancel
  | Clear
  | Fire
  | Enter
  deriving DecidableEq, Repr

-- One step, `none` when no thread can take it. `schedule_activation` is `SET_ATOMIC_FLAG`, then
-- `qd_timer_schedule` only if the flag was clear; `cancel_activation` is `qd_timer_cancel`, then
-- `CLEAR_ATOMIC_FLAG`; a pending timer fires and its handler clears the flag on entry. A
-- `qd_timer_cancel` that waits for a running handler only removes interleavings.
def activationStep (a : Activation) : ActivationStep → Option Activation
  | .TestAndSet =>
    if a.activateScheduled then some a
    else some { a with activateScheduled := true, scheduling := a.scheduling + 1 }
  | .Schedule =>
    if 0 < a.scheduling then some { a with timerPending := true, scheduling := a.scheduling - 1 }
    else none
  | .Cancel => some { a with timerPending := false, cancelling := a.cancelling + 1 }
  | .Clear =>
    if 0 < a.cancelling then some { a with activateScheduled := false, cancelling := a.cancelling - 1 }
    else none
  | .Fire =>
    if a.timerPending then some { a with timerPending := false, firing := a.firing + 1 } else none
  | .Enter =>
    if 0 < a.firing then some { a with activateScheduled := false, firing := a.firing - 1 } else none

def runActivation (a : Activation) : List ActivationStep → Option Activation
  | [] => some a
  | s :: ss => (activationStep a s).bind fun a => runActivation a ss

-- A set flag has a pending timer, or a call between its steps that will schedule the timer
-- or clear the flag.
def ActivationInvariant (a : Activation) : Prop :=
  a.activateScheduled = true → a.timerPending = true ∨ 0 < a.scheduling + a.cancelling + a.firing

theorem activationStep_invariant {a a' : Activation} {s : ActivationStep}
    (h : activationStep a s = some a') (hi : ActivationInvariant a) : ActivationInvariant a' := by
  intro hs
  cases s with
  | TestAndSet =>
    simp only [activationStep] at h
    split at h <;> cases h
    · exact hi hs
    · exact .inr (by dsimp only; omega)
  | Schedule =>
    simp only [activationStep] at h
    split at h <;> cases h
    exact .inl rfl
  | Cancel => cases h; exact .inr (by dsimp only; omega)
  | Clear =>
    simp only [activationStep] at h
    split at h <;> cases h
    cases hs
  | Fire =>
    simp only [activationStep] at h
    split at h <;> cases h
    exact .inr (by dsimp only; omega)
  | Enter =>
    simp only [activationStep] at h
    split at h <;> cases h
    cases hs

theorem runActivation_invariant {a a' : Activation} {ss : List ActivationStep}
    (h : runActivation a ss = some a') (hi : ActivationInvariant a) : ActivationInvariant a' := by
  induction ss generalizing a with
  | nil => cases h; exact hi
  | cons s ss ih =>
    obtain ⟨b, hb, hrun⟩ := Option.bind_eq_some.mp h
    exact ih hrun (activationStep_invariant hb hi)

-- In every reachable state where no call is between its two steps, a set `activate_scheduled`
-- has its timer pending; that timer fires, the handler clears the flag, and the next
-- `schedule_activation` wins the test-and-set.
theorem activation_scheduled_timer_pending (ss : List ActivationStep) (a : Activation)
    (hrun : runActivation .initial ss = some a) (hq : a.Quiescent) :
    (a.activateScheduled = true → a.timerPending = true) ∧
      (a.activateScheduled = true → ∃ a', runActivation a [.Fire, .Enter, .TestAndSet] = some a' ∧
        a'.activateScheduled = true ∧ a'.scheduling = 1) := by
  have hinv := runActivation_invariant hrun (by simp [ActivationInvariant, Activation.initial])
  obtain ⟨h1, h2, h3⟩ := hq
  have hp : a.activateScheduled = true → a.timerPending = true := fun hs => by
    rcases hinv hs with hp | hp
    · exact hp
    · omega
  refine ⟨hp, fun hs => ?_⟩
  simp [runActivation, activationStep, hp hs, h1]

theorem activation_scheduled_timer_pending_after_schedule :
    runActivation .initial [.TestAndSet, .Schedule] = some ⟨true, true, 0, 0, 0⟩ ∧
      (⟨true, true, 0, 0, 0⟩ : Activation).Quiescent ∧
      ((true = true → true = true) ∧ (true = true → ∃ a', runActivation ⟨true, true, 0, 0, 0⟩
        [.Fire, .Enter, .TestAndSet] = some a' ∧ a'.activateScheduled = true ∧ a'.scheduling = 1)) :=
  ⟨rfl, ⟨rfl, rfl, rfl⟩,
    activation_scheduled_timer_pending [.TestAndSet, .Schedule] _ rfl ⟨rfl, rfl, rfl⟩⟩

end SkupperRouter.Http2
