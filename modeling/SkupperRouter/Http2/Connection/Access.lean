import SkupperRouter.Http2.Connection.Records

namespace SkupperRouter.Http2

-- Every fault the computation can end in satisfies `p`.
def Outcome.FaultsIn {α : Type} (p : Fault → Prop) (x : Outcome α) : Prop :=
  ∀ f, x = .fault f → p f

section FaultsIn

variable {α β : Type} {p : Fault → Prop}

theorem Outcome.FaultsIn.done (a : α) : (Outcome.done a).FaultsIn p := fun _ h => nomatch h

theorem Outcome.FaultsIn.running : (Outcome.running : Outcome α).FaultsIn p := fun _ h => nomatch h

theorem Outcome.FaultsIn.fault {f : Fault} (h : p f) : (Outcome.fault f : Outcome α).FaultsIn p :=
  fun _ he => by cases he; exact h

theorem Outcome.FaultsIn.bind {x : Outcome α} {g : α → Outcome β} (hx : x.FaultsIn p)
    (hg : ∀ a, x = .done a → (g a).FaultsIn p) : (x.bind g).FaultsIn p := by
  intro f h
  cases x with
  | done a => exact hg a rfl f h
  | fault e => cases h; exact hx _ rfl
  | running => cases h

end FaultsIn

section Sending

-- `handle_outgoing_http` and the codec callbacks it drives know nothing of the record table: what
-- they can fault on is a window, an iterator or the header array.

end Sending

section Walks

variable {c : Conn} {h : Handle} {o : Outgoing}

theorem Conn.freeHttp2StreamData_linkContext (ho : c.records.lookup h = some o) {c' : Conn}
    (hd : c.freeHttp2StreamData h = .done c') :
    c'.linkContext = c.linkContext.filter fun p => some p.1 ≠ o.stream.inLink ∧ some p.1 ≠ o.stream.outLink := by
  simp only [Conn.freeHttp2StreamData, Conn.record_of_lookup ho, Outcome.bind, Outcome.done.injEq] at hd
  subst hd
  split <;> simp

-- `free_all_connection_streams` on the list of distinct live records frees each of them once, in
-- list order, and with each the link contexts of its two links.
theorem Conn.freeAllConnectionStreams_spec : ∀ (hs : List Handle) (c : Conn), c.streams = hs →
    hs.Nodup → (∀ k ∈ hs, (c.records.lookup k).isSome) →
      ∃ c', c.freeAllConnectionStreams hs = .done c' ∧ c'.streams = [] ∧ c'.freed = c.freed ++ hs ∧
        (∀ k, c'.records.lookup k = if k ∈ hs then none else c.records.lookup k) ∧
        ∀ p ∈ c'.linkContext, p ∈ c.linkContext ∧
          ∀ k ∈ hs, ∀ o, c.records.lookup k = some o → ¬o.hasLink p.1
  | [], c, hs, _, _ => ⟨c, rfl, hs, by simp, fun _ => by simp, fun p hp => ⟨hp, by simp⟩⟩
  | h :: hs, c, hc, hnd, hlive => by
    obtain ⟨o, ho⟩ := Option.isSome_iff_exists.mp (hlive h (List.mem_cons_self _ _))
    obtain ⟨hh, hnd'⟩ := List.nodup_cons.mp hnd
    obtain ⟨c₁, h₁, hs₁, hr₁, hf₁⟩ := Conn.freeHttp2StreamData_spec ho
    have hl₁ := Conn.freeHttp2StreamData_linkContext ho h₁
    have hrec : ∀ k ≠ h, c₁.records.lookup k = c.records.lookup k := fun k hk => by
      rw [hr₁, assocErase_lookup_of_ne _ hk]
    obtain ⟨c', h', hs', hf', hr', hl'⟩ := Conn.freeAllConnectionStreams_spec hs c₁
      (by rw [hs₁, hc, List.erase_cons_head]) hnd' fun k hk => by
        rw [hrec k (fun e => hh (e ▸ hk))]; exact hlive k (List.mem_cons_of_mem h hk)
    refine ⟨c', by simp only [Conn.freeAllConnectionStreams, h₁, Outcome.bind, h'], hs',
      by rw [hf', hf₁, List.append_assoc, List.singleton_append], fun k => ?_, fun p hp => ?_⟩
    · rw [hr']
      by_cases hk : k = h
      · subst hk
        rw [if_neg hh, if_pos (List.mem_cons_self _ _), hr₁, assocErase_lookup_self]
      · simp only [List.mem_cons, hk, false_or]
        split
        · rfl
        · exact hrec k hk
    · obtain ⟨hp₁, hp₂⟩ := hl' p hp
      rw [hl₁, List.mem_filter] at hp₁
      refine ⟨hp₁.1, fun k hk o' hk' => ?_⟩
      rcases List.mem_cons.mp hk with rfl | hk
      · rw [ho] at hk'
        cases hk'
        have hne := of_decide_eq_true hp₁.2
        exact fun hl => hl.elim (fun e => hne.1 e.symm) fun e => hne.2 e.symm
      · exact hp₂ k hk o' (by rw [hrec k (fun e => hh (e ▸ hk))]; exact hk')

-- On a connection whose table is sound and whose stream dispatcher is gone, freeing the list
-- frees every record, and no link context is left.
theorem ConnInvariant.freeAllConnectionStreams_frees_all (hi : ConnInvariant c)
    (hd : c.dispatcher = none) :
    ∃ c', c.freeAllConnectionStreams c.streams = .done c' ∧ c'.freed = c.freed ++ c.streams ∧
      (∀ k, c'.records.lookup k = none) ∧ c'.streams = [] ∧ c'.linkContext = [] := by
  obtain ⟨c', h', hs', hf', hr', hl'⟩ := Conn.freeAllConnectionStreams_spec c.streams c rfl
    (List.nodup_append.mp hi.nodup).1 fun k hk => (hi.live k).mpr hk
  refine ⟨c', h', hf', fun k => ?_, hs', ?_⟩
  · rw [hr']
    split
    · rfl
    · rename_i hk
      exact Option.not_isSome_iff_eq_none.mp fun hs => hk ((hi.live k).mp hs)
  · refine List.eq_nil_iff_forall_not_mem.mpr fun p hp => ?_
    obtain ⟨hp₁, hp₂⟩ := hl' p hp
    rcases hi.links p hp₁ with hd' | ⟨o, ho, hl⟩
    · rw [hd] at hd'
      cases hd'
    · exact hp₂ p.2 ((hi.live p.2).mp (by simp [ho])) o ho hl

-- `handle_disconnected` drops the stream dispatcher, then frees the list.
theorem ConnInvariant.handleDisconnected_spec (hi : ConnInvariant c) :
    ∃ c', c.handleDisconnected = .done c' ∧ c'.freed = c.freed ++ c.streams ∧
      (∀ k, c'.records.lookup k = none) ∧ c'.streams = [] ∧ c'.linkContext = [] := by
  have hi₀ := hi.dropDispatcher
  unfold Conn.handleDisconnected
  cases hd : c.dispatcher <;> simp only [hd] at hi₀ ⊢
  all_goals
    obtain ⟨c', h', hf, hr, hs, hl⟩ := hi₀.freeAllConnectionStreams_frees_all (by simp [hd])
    exact ⟨{ c' with codec := [] }, by rw [h']; rfl, hf, hr, hs, hl⟩

end Walks

-- However its streams, links and deliveries were interleaved, a connection that is told its raw
-- connection is gone frees every stream record it holds, each exactly once: `handle_disconnected`
-- returns, no record is left and no link context designates a freed one.
theorem runConn_disconnect_frees_every_record (cfg : Config) (evs : List ConnEvent) (c : Conn)
    (h : runConn (.initial cfg) evs = .done c) :
    ∃ c', connStep c .Disconnected = .done c' ∧ c'.freed = c.freed ++ c.streams ∧
      (∀ k, c'.records.lookup k = none) ∧ c'.streams = [] ∧ c'.linkContext = [] :=
  ((ConnInvariant.initial cfg).run h).handleDisconnected_spec

-- Two requests on an ingress connection, the first one routed, the second reset.
theorem runConn_disconnect_frees_every_record_two_requests :
    ∃ c, runConn (.initial ⟨true, some "addr", none⟩)
        [.BeginHeaders 1 true, .BeginHeaders 3 true, .Header 1 ⟨":method", "GET"⟩,
         .HeadersFrame 1 true true, .SecondAttach 2 "reply", .Flow 1 1, .RstStream 3] = .done c ∧
      ∃ c', connStep c .Disconnected = .done c' ∧ c'.freed = c.freed ++ c.streams ∧
        (∀ k, c'.records.lookup k = none) ∧ c'.streams = [] ∧ c'.linkContext = [] :=
  ⟨_, rfl, runConn_disconnect_frees_every_record ⟨true, some "addr", none⟩
    [.BeginHeaders 1 true, .BeginHeaders 3 true, .Header 1 ⟨":method", "GET"⟩,
     .HeadersFrame 1 true true, .SecondAttach 2 "reply", .Flow 1 1, .RstStream 3] _ rfl⟩

section StreamCallbacks

variable {c : Conn}

end StreamCallbacks

end SkupperRouter.Http2
