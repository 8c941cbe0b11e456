import EdgeNode.Output.Loop

/-!
# The adapter's record and the order of the rows

If the adapter's record of its publications is the client's own, unacknowledged packets first and
queued requests after them (`tracked`), then the first entry without an identifier is the request
written next, and the entry of a PUBACK is the packet it acknowledges. A packet that carries the
oldest row may follow any packets whose rows are in order and not after a stored one (`Ordered`).
-/

namespace EdgeNode

/-! ## The record of publications -/

section Record

variable {unacked : List (ℕ × Packet)} {packets : List Packet} {packet : Packet} {pkid : ℕ}

def tracked (unacked : List (ℕ × Packet)) (packets : List Packet) : List Pending :=
  (unacked.map fun u => ⟨u.2.publication, some u.1⟩) ++ packets.map fun p => ⟨p.publication, none⟩

theorem assignPkid_tracked : assignPkid pkid (tracked unacked (packet :: packets))
    = tracked (unacked ++ [(pkid, packet)]) packets := by
  induction unacked with
  | nil => rfl
  | cons u us ih =>
    simp only [tracked, List.map_cons, List.cons_append, assignPkid] at ih ⊢
    simpa using ih

theorem filter_of_notMem (h : pkid ∉ unacked.map Prod.fst) :
    unacked.filter (fun u => u.1 != pkid) = unacked :=
  List.filter_eq_self.2 fun _ hu =>
    bne_iff_ne.2 fun he => h (he ▸ List.mem_map_of_mem (f := Prod.fst) hu)

theorem takePkid_tracked (h : (pkid, packet) ∈ unacked) (hnd : (unacked.map Prod.fst).Nodup) :
    takePkid pkid (tracked unacked packets)
      = some (packet.publication, tracked (unacked.filter fun u => u.1 != pkid) packets) := by
  induction unacked with
  | nil => simp at h
  | cons u us ih =>
    rw [List.map_cons, List.nodup_cons] at hnd
    simp only [tracked, List.map_cons, List.cons_append, takePkid, Option.some.injEq]
    rcases List.mem_cons.1 h with rfl | h
    · simp [filter_of_notMem hnd.1]
    · have hne : u.1 ≠ pkid := fun he => hnd.1 (he ▸ List.mem_map_of_mem h)
      have := ih h hnd.2
      rw [tracked] at this
      simp [hne, this, tracked]

theorem unacked_perm (h : (pkid, packet) ∈ unacked) (hnd : (unacked.map Prod.fst).Nodup) :
    unacked.Perm ((pkid, packet) :: unacked.filter fun u => u.1 != pkid) := by
  induction unacked with
  | nil => simp at h
  | cons u us ih =>
    rw [List.map_cons, List.nodup_cons] at hnd
    rcases List.mem_cons.1 h with rfl | h
    · simp [filter_of_notMem hnd.1]
    · have hne : u.1 ≠ pkid := fun he => hnd.1 (he ▸ List.mem_map_of_mem h)
      rw [List.filter_cons_of_pos (by simpa using hne)]
      exact ((ih h hnd.2).cons u).trans (List.Perm.swap ..)

theorem assignPkid_publication {pending : List Pending} {q : Pending}
    (h : q ∈ assignPkid pkid pending) : ∃ q' ∈ pending, q'.publication = q.publication := by
  induction pending with
  | nil => simp [assignPkid] at h
  | cons r rs ih =>
    unfold assignPkid at h
    split_ifs at h
    · rcases List.mem_cons.1 h with rfl | h
      · exact ⟨r, List.mem_cons_self, rfl⟩
      · exact ⟨q, List.mem_cons_of_mem _ h, rfl⟩
    · rcases List.mem_cons.1 h with rfl | h
      · exact ⟨q, List.mem_cons_self, rfl⟩
      · obtain ⟨q', hq', he⟩ := ih h
        exact ⟨q', List.mem_cons_of_mem _ hq', he⟩

theorem takePkid_mem {pending rest : List Pending} {publication : Publication}
    (h : takePkid pkid pending = some (publication, rest)) :
    (∃ q ∈ pending, q.publication = publication) ∧ ∀ q ∈ rest, q ∈ pending := by
  induction pending generalizing rest with
  | nil => simp [takePkid] at h
  | cons r rs ih =>
    unfold takePkid at h
    split_ifs at h
    · simp only [Option.some.injEq, Prod.mk.injEq] at h
      obtain ⟨rfl, rfl⟩ := h
      exact ⟨⟨r, List.mem_cons_self, rfl⟩, fun q hq => List.mem_cons_of_mem _ hq⟩
    · obtain ⟨⟨pub, rest'⟩, hr, he⟩ := Option.map_eq_some_iff.1 h
      simp only [Prod.mk.injEq] at he
      obtain ⟨rfl, rfl⟩ := he
      obtain ⟨⟨q, hq, hpub⟩, hsub⟩ := ih hr
      refine ⟨⟨q, List.mem_cons_of_mem _ hq, hpub⟩, fun q' hq' => ?_⟩
      rcases List.mem_cons.1 hq' with rfl | hq'
      · exact List.mem_cons_self
      · exact List.mem_cons_of_mem _ (hsub q' hq')

end Record

/-! ## The order of the rows -/

section Order

variable {packets : List Packet} {t t' : AutoTable OutboxRow} {r : OutboxRow} {p : Packet}

/-- The packets the Broker received or will: their rows in order, none after a row still stored. -/
structure Ordered (packets : List Packet) (t : AutoTable OutboxRow) : Prop where
  sorted : (packets.filterMap Packet.row).Pairwise (· ≤ ·)
  below : ∀ seq ∈ packets.filterMap Packet.row, seq ≤ t.lastId ∧ ∀ x ∈ t.rows, seq ≤ x.1
  genuine : ∀ p ∈ packets, ∀ seq, p.row = some seq → ∃ row, (seq, row) ∈ t.ever ∧ p = rowPacket seq row

def CarriesOldest (t : AutoTable OutboxRow) (p : Packet) : Prop :=
  ∀ seq, p.row = some seq → ∃ row, t.rows.head? = some (seq, row) ∧ p = rowPacket seq row

theorem CarriesOldest.insert (h : CarriesOldest t p) (ht : t.insert r = some t') :
    CarriesOldest t' p := by
  intro seq hseq
  obtain ⟨row, hrow, rfl⟩ := h seq hseq
  exact ⟨row, AutoTable.head_insert ht hrow, rfl⟩

theorem Ordered.insert (h : Ordered packets t) (ht : t.insert r = some t') :
    Ordered packets t' := by
  obtain ⟨hrows, hlast, hever, -⟩ := AutoTable.insert_eq_some ht
  refine ⟨h.sorted, fun seq hseq => ?_, fun p hp seq hseq => ?_⟩
  · obtain ⟨hle, hlow⟩ := h.below seq hseq
    refine ⟨by omega, fun x hx => ?_⟩
    rw [hrows, List.mem_append, List.mem_singleton] at hx
    rcases hx with hx | rfl
    · exact hlow x hx
    · exact hle.trans (Nat.le_succ _)
  · obtain ⟨row, hrow, hp'⟩ := h.genuine p hp seq hseq
    exact ⟨row, by rw [hever]; exact List.mem_append_left _ hrow, hp'⟩

theorem Ordered.delete (h : Ordered packets t) (seq : ℕ) : Ordered packets (t.delete seq) where
  sorted := h.sorted
  below i hi := ⟨(h.below i hi).1, fun x hx => (h.below i hi).2 x (List.mem_of_mem_filter hx)⟩
  genuine := h.genuine

theorem Ordered.written (h : Ordered packets t) (hp : CarriesOldest t p) :
    Ordered (packets ++ [p]) t := by
  rcases hr : p.row with _ | seq
  · refine ⟨?_, ?_, fun q hq seq hseq => ?_⟩
    · simpa [List.filterMap_append, hr] using h.sorted
    · simpa [List.filterMap_append, hr] using h.below
    · rcases List.mem_append.1 hq with hq | hq
      · exact h.genuine q hq seq hseq
      · rw [List.mem_singleton.1 hq, hr] at hseq
        cases hseq
  · obtain ⟨row, hrow, rfl⟩ := hp seq hr
    have hmem : (seq, row) ∈ t.rows := List.mem_of_mem_head? hrow
    have hever := t.live.subset hmem
    refine ⟨?_, fun i hi => ?_, fun q hq i hi => ?_⟩
    · rw [List.filterMap_append, List.pairwise_append]
      refine ⟨h.sorted, by simp [hr], fun a ha b hb => ?_⟩
      obtain rfl : b = seq := by simpa [hr] using hb
      exact (h.below a ha).2 _ hmem
    · rw [List.filterMap_append, List.mem_append] at hi
      rcases hi with hi | hi
      · exact h.below i hi
      · obtain rfl : i = seq := by simpa [hr] using hi
        exact ⟨AutoTable.key_le_lastId hever, fun x hx => AutoTable.head_le hrow hx⟩
    · rcases List.mem_append.1 hq with hq | hq
      · exact h.genuine q hq i hi
      · rw [List.mem_singleton.1 hq] at hi ⊢
        obtain rfl : seq = i := Option.some.inj (hr.symm.trans hi)
        exact ⟨row, hever, rfl⟩

theorem Ordered.sublist {packets' : List Packet} (h : Ordered packets t)
    (hs : packets'.Sublist packets) : Ordered packets' t where
  sorted := h.sorted.sublist (hs.filterMap _)
  below i hi := h.below i ((hs.filterMap _).subset hi)
  genuine p hp := h.genuine p (hs.subset hp)

end Order

end EdgeNode
