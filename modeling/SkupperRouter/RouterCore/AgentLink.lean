import Mathlib.Data.Fintype.Card
import Mathlib.Data.List.Rotate
import Mathlib.Tactic.Common

namespace SkupperRouter.RouterCore

-- What a link query of `qdr_query_t` carries from call to call: the rows written so far (one
-- per `qdr_agent_write_link_CT`, named by its link), `next_offset` and `more`.
structure LinkQuery (α : Type) where
  rows : List α
  nextOffset : Nat
  more : Bool
  deriving DecidableEq, Repr

variable {α : Type}

-- `qdr_manage_advance_link_CT` for the link at position `pos` of `core->open_links`.
def qdrManageAdvanceLinkCT (links : List α) (q : LinkQuery α) (pos : Nat) : LinkQuery α :=
  { q with nextOffset := q.nextOffset + 1, more := links[pos + 1]?.isSome }

def qdraLinkGetFirstCT (links : List α) (q : LinkQuery α) (offset : Nat) : LinkQuery α :=
  if offset ≥ links.length then { q with more := false }
  else match links[offset]? with
    | some link => qdrManageAdvanceLinkCT links { q with rows := q.rows ++ [link], nextOffset := offset } offset
    | none => { q with more := false }

def qdraLinkGetNextCT (links : List α) (q : LinkQuery α) : LinkQuery α :=
  match if q.nextOffset < links.length then links[q.nextOffset]? else none with
  | some link => qdrManageAdvanceLinkCT links { q with rows := q.rows ++ [link] } q.nextOffset
  | none => { q with more := false }

/-- Modelled from the spec: the agent calls `qdra_link_get_next_CT` for as long as `more` is set,
here at most `fuel` times. -/
def linkQueryNext (links : List α) : Nat → LinkQuery α → LinkQuery α
  | 0, q => q
  | fuel + 1, q => if q.more then linkQueryNext links fuel (qdraLinkGetNextCT links q) else q

def linkQuery (links : List α) (offset fuel : Nat) : LinkQuery α :=
  linkQueryNext links fuel (qdraLinkGetFirstCT links ⟨[], 0, false⟩ offset)

theorem getElem?_isSome_eq_decide (l : List α) (i : Nat) :
    l[i]?.isSome = decide (i < l.length) := by
  by_cases h : i < l.length
  · simp [List.getElem?_eq_getElem h, h]
  · simp [List.getElem?_eq_none (Nat.le_of_not_lt h), h]

-- The link at `next_offset` is written and the cursor moves past it.
theorem qdraLinkGetNextCT_of_lt (links : List α) (q : LinkQuery α)
    (h : q.nextOffset < links.length) :
    qdraLinkGetNextCT links q = ⟨q.rows ++ [links[q.nextOffset]], q.nextOffset + 1,
      decide (q.nextOffset + 1 < links.length)⟩ := by
  simp [qdraLinkGetNextCT, qdrManageAdvanceLinkCT, h, List.getElem?_eq_getElem h,
    getElem?_isSome_eq_decide]

-- The loop from a query whose `more` says whether `next_offset` is a link: it writes the rows
-- from `next_offset` to the end and stops with `more` clear, after `n - next_offset` calls.
theorem linkQueryNext_rows (links : List α) (fuel : Nat) (q : LinkQuery α)
    (hm : q.more = decide (q.nextOffset < links.length)) (hf : links.length - q.nextOffset ≤ fuel) :
    linkQueryNext links fuel q =
      ⟨q.rows ++ links.drop q.nextOffset, max q.nextOffset links.length, false⟩ := by
  induction fuel generalizing q with
  | zero =>
    have hge : links.length ≤ q.nextOffset := by omega
    obtain ⟨rows, off, more⟩ := q
    simp_all [linkQueryNext, List.drop_eq_nil_of_le hge, Nat.max_eq_left hge]
  | succ fuel ih =>
    by_cases hlt : q.nextOffset < links.length
    · rw [linkQueryNext, hm, decide_eq_true hlt, if_pos rfl, qdraLinkGetNextCT_of_lt links q hlt,
        ih _ rfl (by simp only; omega), List.drop_eq_getElem_cons hlt, Nat.max_eq_right hlt,
        Nat.max_eq_right (Nat.le_of_lt hlt)]
      simp
    · obtain ⟨rows, off, more⟩ := q
      have hge : links.length ≤ off := Nat.le_of_not_lt hlt
      simp_all [linkQueryNext, List.drop_eq_nil_of_le hge, Nat.max_eq_left hge]

-- For every list of `n` open links and every offset `k`, `qdra_link_get_first_CT` followed by
-- `qdra_link_get_next_CT` for as long as `more` is set writes the rows of links `k`, ..,
-- `n - 1` in list order and ends with `more` clear; it makes `n - (k + 1)` calls of
-- `qdra_link_get_next_CT`, and any allowance of calls at least that large gives this result.
theorem linkQuery_rows (links : List α) (k fuel : Nat) (hf : links.length - (k + 1) ≤ fuel) :
    (linkQuery links k fuel).rows = links.drop k ∧ (linkQuery links k fuel).more = false := by
  unfold linkQuery
  by_cases hk : links.length ≤ k
  · cases fuel <;> simp [qdraLinkGetFirstCT, hk, linkQueryNext, List.drop_eq_nil_of_le hk]
  · have hlt : k < links.length := Nat.lt_of_not_le hk
    have hfirst : qdraLinkGetFirstCT links ⟨[], 0, false⟩ k =
        ⟨[links[k]], k + 1, decide (k + 1 < links.length)⟩ := by
      simp [qdraLinkGetFirstCT, hk, List.getElem?_eq_getElem hlt, qdrManageAdvanceLinkCT,
        getElem?_isSome_eq_decide]
    rw [hfirst, linkQueryNext_rows _ _ _ rfl (by simp only; omega)]
    simp [← List.drop_eq_getElem_cons hlt]

theorem linkQuery_rows_from_second :
    ([10, 20, 30].length - (1 + 1) ≤ 1) ∧
      (linkQuery [10, 20, 30] 1 1).rows = [10, 20, 30].drop 1 ∧
      (linkQuery [10, 20, 30] 1 1).more = false :=
  ⟨by decide, linkQuery_rows [10, 20, 30] 1 1 (by decide)⟩

end SkupperRouter.RouterCore
