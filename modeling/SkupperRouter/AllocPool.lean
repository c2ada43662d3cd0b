import Mathlib.Data.Fintype.Card
import Mathlib.Data.List.Rotate
import Mathlib.Tactic.Common

namespace SkupperRouter.AllocPool

-- `qd_alloc_safe_ptr_t`: an object's address (0 is null) and the `uint32_t` sequence its slot
-- had when the pointer was taken.
structure QdAllocSafePtr where
  ptr : Nat
  seq : UInt32
  deriving DecidableEq, Repr

-- `qd_alloc_set_safe_ptr` and `QD_SAFE_PTR_INIT`, under the allocator's `qd_alloc_sequence`.
def qdAllocSetSafePtr (qdAllocSequence : Nat → UInt32) (p : Nat) : QdAllocSafePtr :=
  ⟨p, qdAllocSequence p⟩

-- `qd_alloc_deref_safe_ptr`: `sp->seq == qd_alloc_sequence (sp->ptr) ? sp->ptr : 0`.
def qdAllocDerefSafePtr (qdAllocSequence : Nat → UInt32) (sp : QdAllocSafePtr) : Nat :=
  if sp.seq = qdAllocSequence sp.ptr then sp.ptr else 0

theorem qdAllocDerefSafePtr_set (qdAllocSequence : Nat → UInt32) (p : Nat) :
    qdAllocDerefSafePtr qdAllocSequence (qdAllocSetSafePtr qdAllocSequence p) = p := by
  simp [qdAllocDerefSafePtr, qdAllocSetSafePtr]

theorem qdAllocDerefSafePtr_eq_zero_iff (qdAllocSequence : Nat → UInt32) (sp : QdAllocSafePtr)
    (hp : sp.ptr ≠ 0) : qdAllocDerefSafePtr qdAllocSequence sp = 0 ↔ qdAllocSequence sp.ptr ≠ sp.seq := by
  unfold qdAllocDerefSafePtr
  split <;> simp_all [eq_comm]

-- Pigeonhole over the 2^32 values of a `uint32_t`: however a slot's sequence changes from cycle
-- to cycle, two of the sequences it has at cycles 0 .. 2^32 are equal.
theorem exists_cycles_same_sequence (seqAt : Nat → UInt32) :
    ∃ i k, 0 < k ∧ i + k ≤ 2 ^ 32 ∧ seqAt (i + k) = seqAt i := by
  let f : Fin (2 ^ 32 + 1) → Fin (2 ^ 32) := fun t => ⟨(seqAt t).toNat, (seqAt t).toBitVec.isLt⟩
  obtain ⟨x, y, hne, hxy⟩ := Fintype.exists_ne_map_eq_of_card_lt f
    (by simp only [Fintype.card_fin]; exact Nat.lt_succ_self _)
  have heq : ∀ a b : Fin (2 ^ 32 + 1), f a = f b → seqAt b = seqAt a := fun a b h =>
    UInt32.eq_of_toBitVec_eq (BitVec.eq_of_toNat_eq (congrArg Fin.val h).symm)
  have hx := x.isLt
  have hy := y.isLt
  rcases Nat.lt_or_gt_of_ne (Fin.val_ne_of_ne hne) with hlt | hlt
  · exact ⟨x, y - x, by omega, by omega, by rw [Nat.add_sub_cancel' hlt.le]; exact heq x y hxy⟩
  · exact ⟨y, x - y, by omega, by omega, by rw [Nat.add_sub_cancel' hlt.le]; exact heq y x hxy.symm⟩

-- A sequence that steps by one at each cycle has advanced by `n` modulo 2^32 after `n` cycles.
theorem toNat_seq_add_of_step (seq : Nat → UInt32) (h : ∀ j, seq (j + 1) = seq j + 1) (i : Nat) :
    ∀ n, (seq (i + n)).toNat = ((seq i).toNat + n) % 2 ^ 32
  | 0 => (Nat.mod_eq_of_lt (seq i).toNat_lt_size).symm
  | n + 1 => by
    have hs : (seq (i + n) + 1).toNat = ((seq (i + n)).toNat + 1) % 2 ^ 32 := rfl
    rw [← Nat.add_assoc, h, hs, toNat_seq_add_of_step seq h i n]
    omega

theorem seq_wrap_of_step (seq : Nat → UInt32) (h : ∀ j, seq (j + 1) = seq j + 1) (i : Nat) :
    seq (i + 2 ^ 32) = seq i := by
  apply UInt32.toNat.inj
  rw [toNat_seq_add_of_step seq h i]
  have := (seq i).toNat_lt_size
  simp only [UInt32.size] at this
  omega

-- A safe pointer taken on `p` before `k` free-and-reallocate cycles of its slot, where `seqAt j`
-- is `qd_alloc_sequence` after `j` cycles: with no cycle it gives `p` back; after `k` cycles it
-- gives null exactly when the sequence differs from the one it recorded; since the sequence is
-- a `uint32_t`, whatever a cycle does to it, within every run of 2^32 cycles some safe pointer
-- taken in the run validates again at a later cycle of the run; and where each cycle steps the
-- sequence by one, every safe pointer validates again exactly 2^32 cycles after it was taken.
theorem qdAllocDerefSafePtr_cycles (seqAt : Nat → Nat → UInt32) (p : Nat) (hp : p ≠ 0) :
    qdAllocDerefSafePtr (seqAt 0) (qdAllocSetSafePtr (seqAt 0) p) = p ∧
      (∀ k, qdAllocDerefSafePtr (seqAt k) (qdAllocSetSafePtr (seqAt 0) p) = 0 ↔ seqAt k p ≠ seqAt 0 p) ∧
      (∀ s, ∃ i k, s ≤ i ∧ 0 < k ∧ i + k ≤ s + 2 ^ 32 ∧
        qdAllocDerefSafePtr (seqAt (i + k)) (qdAllocSetSafePtr (seqAt i) p) = p) ∧
      ((∀ j, seqAt (j + 1) p = seqAt j p + 1) →
        ∀ i, qdAllocDerefSafePtr (seqAt (i + 2 ^ 32)) (qdAllocSetSafePtr (seqAt i) p) = p) := by
  refine ⟨qdAllocDerefSafePtr_set _ p, fun k => qdAllocDerefSafePtr_eq_zero_iff _ _ hp,
    fun s => ?_, fun h i => ?_⟩
  · obtain ⟨i, k, hk, hk', hs⟩ := exists_cycles_same_sequence fun j => seqAt (s + j) p
    refine ⟨s + i, k, Nat.le_add_right s i, hk, by omega, ?_⟩
    simp only [← Nat.add_assoc] at hs
    simp [qdAllocDerefSafePtr, qdAllocSetSafePtr, hs]
  · show (if seqAt i p = seqAt (i + 2 ^ 32) p then p else 0) = p
    rw [seq_wrap_of_step (fun j => seqAt j p) h i, if_pos rfl]

theorem qdAllocDerefSafePtr_cycles_step_by_one :
    (7 : Nat) ≠ 0 ∧
      (qdAllocDerefSafePtr (fun _ => UInt32.ofNat 0) (qdAllocSetSafePtr (fun _ => UInt32.ofNat 0) 7) = 7 ∧
        (∀ k, qdAllocDerefSafePtr (fun _ => UInt32.ofNat k)
            (qdAllocSetSafePtr (fun _ => UInt32.ofNat 0) 7) = 0 ↔ UInt32.ofNat k ≠ UInt32.ofNat 0) ∧
        (∀ s, ∃ i k, s ≤ i ∧ 0 < k ∧ i + k ≤ s + 2 ^ 32 ∧ qdAllocDerefSafePtr
          (fun _ => UInt32.ofNat (i + k)) (qdAllocSetSafePtr (fun _ => UInt32.ofNat i) 7) = 7) ∧
        ((∀ j, UInt32.ofNat (j + 1) = UInt32.ofNat j + 1) →
          ∀ i, qdAllocDerefSafePtr (fun _ => UInt32.ofNat (i + 2 ^ 32))
            (qdAllocSetSafePtr (fun _ => UInt32.ofNat i) 7) = 7)) :=
  ⟨by decide, qdAllocDerefSafePtr_cycles (fun j _ => UInt32.ofNat j) 7 (by decide)⟩

-- A slot whose sequence steps by one at each cycle, so that every cycle changes it: after 2^32
-- cycles the sequence is back to the one the safe pointer recorded, and the stale pointer
-- dereferences to the object's address.
theorem qdAllocDerefSafePtr_after_wrap :
    (∀ j : Nat, UInt32.ofNat (j + 1) ≠ UInt32.ofNat j) ∧
      qdAllocDerefSafePtr (fun _ => UInt32.ofNat (2 ^ 32)) (qdAllocSetSafePtr (fun _ => UInt32.ofNat 0) 7) = 7 := by
  refine ⟨fun j h => ?_, by decide⟩
  have := congrArg UInt32.toNat h
  simp only [UInt32.toNat, UInt32.ofNat, BitVec.toNat_ofNat] at this
  omega

end SkupperRouter.AllocPool
