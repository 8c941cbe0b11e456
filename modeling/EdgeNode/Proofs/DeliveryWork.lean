import EdgeNode.Proofs.DeliveryRecord

/-!
# What the pieces of an arm keep

A packet that carries an outbox row carries the oldest one, from the moment the row is read until its
PUBACK is worked off, for only the adapter deletes rows (`DeliveryInv.carries`). While connected the
record is the client's (`DeliveryInv.record`); past the loop it holds statuses only
(`DeliveryInv.resting`).
-/

namespace EdgeNode

/-! ## The invariant -/

def Task.packet : Task → Option Packet
  | .handOver packet => some packet
  | _ => none

namespace OutputState

def outstanding (s : OutputState) : List Packet :=
  s.client.unacked.map Prod.snd ++ s.client.requests.filterMap Request.packet
    ++ s.todo.filterMap Task.packet

def rowsInFlight (s : OutputState) : List ℕ := s.outstanding.filterMap Packet.row

def Live (s : OutputState) : Prop := s.phase = .running ∧ s.session.connected = true

/-- The row in flight as the adapter knows it; one that is being deleted has come back. -/
def slot (s : OutputState) : List ℕ :=
  match s.todo with
  | .deleteRow _ :: _ => []
  | _ => s.session.inflight.toList

end OutputState

structure DeliveryInv (s : OutputState) : Prop where
  carries : ∀ p ∈ s.outstanding, CarriesOldest s.db.outbox p
  single : s.rowsInFlight.length ≤ 1
  slot : s.Live → s.rowsInFlight.Perm s.slot
  deleting : ∀ seq rest, s.todo = .deleteRow seq :: rest → s.session.inflight = some seq
    ∧ ∃ row, s.db.outbox.rows.head? = some (seq, row) ∧ rowPacket seq row ∈ s.acked
  later : ∀ t ∈ s.todo.tail, t = .publishNextOutboxRow ∨ t = .checkOfflineAcked
  looping : s.phase = .running → Task.checkOfflineAcked ∉ s.todo ∧ Task.disconnect ∉ s.todo
  resting : ¬ s.Live → Task.publishNextOutboxRow ∉ s.todo ∧ (∀ seq, Task.deleteRow seq ∉ s.todo)
    ∧ (∀ p, Task.handOver p ∈ s.todo → p.row = none)
    ∧ ∀ q ∈ s.session.pending, q.publication = .status
  pkids : (s.client.unacked.map Prod.fst).Nodup
  record : s.Live → s.session.pending
    = tracked s.client.unacked (s.client.requests.filterMap Request.packet)
  ordered : Ordered (s.received ++ s.wire) s.db.outbox

/-! ## The pieces of an arm -/

section Work

variable {edgeNodeId : EdgeNodeId} {s s' : OutputState} {failed : Bool} {now : InputTime}
  {task : Task} {rest : List Task}

theorem DeliveryInv.live_of_mem (h : DeliveryInv s)
    (hmem : Task.publishNextOutboxRow ∈ s.todo ∨ ∃ seq, Task.deleteRow seq ∈ s.todo) : s.Live := by
  by_contra hl
  rcases hmem with hmem | ⟨seq, hmem⟩
  · exact (h.resting hl).1 hmem
  · exact (h.resting hl).2.1 seq hmem

theorem DeliveryInv.rest_plain (h : DeliveryInv s) (htodo : s.todo = task :: rest) :
    rest.filterMap Task.packet = [] ∧ ∀ seq, Task.deleteRow seq ∉ rest := by
  have hlater := h.later
  rw [htodo, List.tail_cons] at hlater
  refine ⟨List.filterMap_eq_nil_iff.2 fun t ht => ?_, fun seq hseq => ?_⟩
  · rcases hlater t ht with rfl | rfl <;> rfl
  · rcases hlater _ hseq with he | he <;> cases he

theorem DeliveryInv.retask (h : DeliveryInv s) (todo : List Task)
    (hold : ∀ seq rest, s.todo ≠ .deleteRow seq :: rest) (hnew : ∀ seq, Task.deleteRow seq ∉ todo)
    (hrows : (todo.filterMap Task.packet).filterMap Packet.row
      = (s.todo.filterMap Task.packet).filterMap Packet.row)
    (hpackets : ∀ p ∈ todo.filterMap Task.packet, p ∈ s.todo.filterMap Task.packet ∨ p.row = none)
    (hlater : ∀ t ∈ todo.tail, t = .publishNextOutboxRow ∨ t = .checkOfflineAcked)
    (hlooping : s.phase = .running → Task.checkOfflineAcked ∉ todo ∧ Task.disconnect ∉ todo)
    (hresting : ¬ s.Live → Task.publishNextOutboxRow ∉ todo
      ∧ ∀ p, Task.handOver p ∈ todo → p.row = none) :
    DeliveryInv { s with todo := todo } := by
  have hflight : ({ s with todo := todo } : OutputState).rowsInFlight = s.rowsInFlight := by
    simp only [OutputState.rowsInFlight, OutputState.outstanding, List.filterMap_append, hrows]
  have hslot : ({ s with todo := todo } : OutputState).slot = s.slot := by
    have h1 : s.slot = s.session.inflight.toList := by
      unfold OutputState.slot
      split
      · rename_i heq
        exact absurd heq (hold _ _)
      · rfl
    rw [h1]
    unfold OutputState.slot
    split
    · rename_i heq
      exact absurd (heq ▸ List.mem_cons_self) (hnew _)
    · rfl
  refine ⟨fun p hp => ?_, hflight ▸ h.single, fun hl => ?_, fun seq rest he => ?_, hlater, hlooping,
    fun hl => ?_, h.pkids, h.record, h.ordered⟩
  · rcases List.mem_append.1 hp with hp | hp
    · exact h.carries p (List.mem_append_left _ hp)
    · rcases hpackets p hp with hp | hnone
      · exact h.carries p (List.mem_append_right _ hp)
      · intro seq hseq
        rw [hnone] at hseq
        cases hseq
  · rw [hflight, hslot]
    exact h.slot hl
  · exact absurd ((show todo = _ from he) ▸ List.mem_cons_self) (hnew seq)
  · exact ⟨(hresting hl).1, hnew, (hresting hl).2, (h.resting hl).2.2.2⟩

theorem DeliveryInv.next (h : DeliveryInv s) (htodo : s.todo = task :: rest)
    (hdelete : ∀ seq, task ≠ .deleteRow seq) (hrow : task.packet.bind Packet.row = none) :
    DeliveryInv { s with todo := rest } := by
  obtain ⟨hpackets, hrest⟩ := h.rest_plain htodo
  refine h.retask rest ?_ hrest ?_ (by simp [hpackets]) ?_ (fun hp => ?_) fun hl => ?_
  · rintro seq rest' he
    exact hdelete seq (List.cons.inj (htodo.symm.trans he)).1
  · rw [htodo, hpackets]
    rcases ht : task.packet with _ | p <;> rw [ht] at hrow <;>
      simp_all
  · have hlater := h.later
    rw [htodo, List.tail_cons] at hlater
    exact fun t ht => hlater t (List.mem_of_mem_tail ht)
  · have hlooping := h.looping hp
    rw [htodo] at hlooping
    exact ⟨fun hm => hlooping.1 (List.mem_cons_of_mem _ hm),
      fun hm => hlooping.2 (List.mem_cons_of_mem _ hm)⟩
  · have hresting := h.resting hl
    rw [htodo] at hresting
    exact ⟨fun hm => hresting.1 (List.mem_cons_of_mem _ hm),
      fun p hm => hresting.2.2.1 p (List.mem_cons_of_mem _ hm)⟩

theorem DeliveryInv.takeUp (h : DeliveryInv s) (htodo : s.todo = .publishNextOutboxRow :: rest)
    (hnone : s.session.inflight = none) {seq : ℕ} {row : OutboxRow}
    (hrow : s.db.outbox.rows.head? = some (seq, row)) :
    DeliveryInv { s with
      session := { s.session with inflight := some seq }
      todo := .handOver (rowPacket seq row) :: rest } := by
  have hl : s.Live := h.live_of_mem (.inl (htodo ▸ List.mem_cons_self))
  obtain ⟨hpackets, hrest⟩ := h.rest_plain htodo
  have hflight : s.rowsInFlight = [] := by
    have := h.slot hl
    rw [OutputState.slot, htodo, hnone] at this
    exact this.eq_nil
  have hnow : ({ s with
      session := { s.session with inflight := some seq }
      todo := .handOver (rowPacket seq row) :: rest } : OutputState).rowsInFlight = [seq] := by
    rw [OutputState.rowsInFlight, OutputState.outstanding, htodo] at hflight
    simp only [OutputState.rowsInFlight, OutputState.outstanding, List.filterMap_cons, Task.packet,
      hpackets, List.filterMap_append, List.append_eq_nil_iff] at hflight ⊢
    simp [hflight.1, rowPacket, Packet.row]
  refine ⟨fun p hp => ?_, by simp [hnow], fun _ => by rw [hnow]; exact List.Perm.refl _,
    fun _ _ he => (nomatch he), fun t ht => ?_, fun hp => ?_, fun hl' => absurd hl hl', h.pkids,
    fun _ => h.record hl, h.ordered⟩
  · rcases List.mem_append.1 hp with hp | hp
    · exact h.carries p (List.mem_append_left _ hp)
    · simp only [List.filterMap_cons, Task.packet, hpackets, List.mem_singleton] at hp
      subst hp
      intro i hi
      obtain rfl : seq = i := Option.some.inj hi
      exact ⟨row, hrow, rfl⟩
  · have hlater := h.later
    rw [htodo] at hlater
    exact hlater t ht
  · have hlooping := h.looping hp
    rw [htodo] at hlooping
    simp only [List.mem_cons, reduceCtorEq, false_or] at hlooping ⊢
    exact hlooping

theorem DeliveryInv.refused (h : DeliveryInv s) {packet : Packet}
    (htodo : s.todo = .handOver packet :: rest) :
    DeliveryInv { s with session := s.session.publishFailed packet.publication, todo := rest } := by
  rcases hp : packet.publication with _ | seq
  · exact h.next htodo (fun _ he => (nomatch he)) (by simp [Task.packet, Packet.row, hp])
  obtain ⟨hpackets, hrest⟩ := h.rest_plain htodo
  have hrow : packet.row = some seq := by rw [Packet.row, hp]
  have hl : s.Live := by
    by_contra hl
    have := (h.resting hl).2.2.1 packet (htodo ▸ List.mem_cons_self)
    rw [hrow] at this
    cases this
  have hflight : ({ s with
      session := { s.session with inflight := none }
      todo := rest } : OutputState).rowsInFlight = [] := by
    have h1 := h.single
    rw [OutputState.rowsInFlight, OutputState.outstanding, htodo] at h1
    simp only [List.filterMap_cons, Task.packet, hpackets, List.filterMap_append,
      List.length_append, hrow, List.filterMap_nil, List.length_singleton] at h1
    rw [← List.length_eq_zero_iff]
    simp only [OutputState.rowsInFlight, OutputState.outstanding, hpackets, List.filterMap_append,
      List.filterMap_nil, List.length_append, List.length_nil]
    omega
  have hslot : ({ s with
      session := { s.session with inflight := none }
      todo := rest } : OutputState).slot = [] := by
    unfold OutputState.slot
    split <;> rfl
  refine ⟨fun p hp => ?_, by simp [Session.publishFailed, hflight], fun _ => ?_, fun i rest' he => ?_,
    fun t ht => ?_, fun hp => ?_, fun hl' => absurd hl hl', h.pkids, fun _ => h.record hl, h.ordered⟩
  · refine h.carries p ?_
    rw [OutputState.outstanding] at hp ⊢
    simp only [hpackets, List.append_nil] at hp
    exact List.mem_append_left _ hp
  · simp only [Session.publishFailed, hflight, hslot, List.Perm.refl]
  · exact absurd ((show rest = _ from he) ▸ List.mem_cons_self) (hrest i)
  · have hlater := h.later
    rw [htodo] at hlater
    exact hlater t (List.mem_of_mem_tail ht)
  · have hlooping := h.looping hp
    rw [htodo] at hlooping
    exact ⟨fun hm => hlooping.1 (List.mem_cons_of_mem _ hm),
      fun hm => hlooping.2 (List.mem_cons_of_mem _ hm)⟩

theorem DeliveryInv.handedOver (h : DeliveryInv s) {packet : Packet}
    (htodo : s.todo = .handOver packet :: rest) :
    DeliveryInv { s with
      session := s.session.handedOver packet.publication
      client := { s.client with requests := s.client.requests ++ [.publish packet] }
      todo := rest } := by
  obtain ⟨hpackets, hrest⟩ := h.rest_plain htodo
  have hout : ({ s with
      session := s.session.handedOver packet.publication
      client := { s.client with requests := s.client.requests ++ [.publish packet] }
      todo := rest } : OutputState).outstanding = s.outstanding := by
    simp [OutputState.outstanding, htodo, hpackets, List.filterMap_append, Request.packet,
      Task.packet]
  have hflight := congrArg (List.filterMap Packet.row) hout
  have hlater := h.later
  have hlooping := h.looping
  have hresting := h.resting
  rw [htodo] at hlater
  simp only [htodo, List.mem_cons, reduceCtorEq, false_or, Task.handOver.injEq]
    at hlooping hresting
  refine ⟨hout ▸ h.carries, ?_, fun hl => ?_, fun i rest' he => ?_,
    fun t ht => hlater t (List.mem_of_mem_tail ht), hlooping, fun hl => ?_, h.pkids, fun hl => ?_,
    h.ordered⟩
  · rw [OutputState.rowsInFlight, hflight]
    exact h.single
  · rw [OutputState.rowsInFlight, hflight]
    have := h.slot hl
    rw [OutputState.slot, htodo] at this
    unfold OutputState.slot
    split
    · rename_i heq
      exact absurd ((show rest = _ from heq) ▸ List.mem_cons_self) (hrest _)
    · exact this
  · exact absurd ((show rest = _ from he) ▸ List.mem_cons_self) (hrest i)
  · obtain ⟨h1, h2, h3, h4⟩ := hresting hl
    refine ⟨h1, h2, fun p hp => h3 p (.inr hp), fun q hq => ?_⟩
    rcases List.mem_append.1 hq with hq | hq
    · exact h4 q hq
    · have hrow := h3 packet (.inl rfl)
      rw [List.mem_singleton.1 hq]
      rcases hp : packet.publication with _ | seq
      · rfl
      · simp [Packet.row, hp] at hrow
  · have := h.record hl
    simp only [Session.handedOver, this, tracked, List.filterMap_append, List.append_assoc]
    simp [Request.packet]

theorem DeliveryInv.deletedRow (h : DeliveryInv s) {seq : ℕ}
    (htodo : s.todo = .deleteRow seq :: rest) (db : PipelineDb)
    (hdb : db.outbox = s.db.outbox ∨ db.outbox = s.db.outbox.delete seq) :
    DeliveryInv { s with session := s.session.rowDone seq, db := db, todo := rest } := by
  have hl : s.Live := h.live_of_mem (.inr ⟨seq, htodo ▸ List.mem_cons_self⟩)
  obtain ⟨hpackets, hrest⟩ := h.rest_plain htodo
  have hdone : s.session.rowDone seq = { s.session with inflight := none } := by
    rw [Session.rowDone, if_pos (h.deleting seq rest htodo).1]
  rw [hdone]
  have hout : ({ s with
      session := { s.session with inflight := none }
      db := db
      todo := rest } : OutputState).outstanding = s.outstanding := by
    have hnone : (Task.deleteRow seq).packet = none := rfl
    simp only [OutputState.outstanding, htodo, List.filterMap_cons, hnone]
  have hflight : s.rowsInFlight = [] := by
    have := h.slot hl
    rw [OutputState.slot, htodo] at this
    exact this.eq_nil
  have hlater := h.later
  have hlooping := h.looping
  rw [htodo] at hlater
  simp only [htodo, List.mem_cons, reduceCtorEq, false_or] at hlooping
  refine ⟨fun p hp i hi => ?_, ?_, fun hl => ?_, fun i rest' he => ?_,
    fun t ht => hlater t (List.mem_of_mem_tail ht), hlooping, fun hl' => absurd hl hl', h.pkids,
    fun _ => h.record hl, ?_⟩
  · rw [hout] at hp
    have : i ∈ s.rowsInFlight := List.mem_filterMap.2 ⟨p, hp, hi⟩
    rw [hflight] at this
    cases this
  · rw [OutputState.rowsInFlight, hout]
    exact h.single
  · rw [OutputState.rowsInFlight, hout]
    change s.rowsInFlight.Perm _
    rw [hflight]
    unfold OutputState.slot
    split <;> exact List.Perm.refl _
  · exact absurd ((show rest = _ from he) ▸ List.mem_cons_self) (hrest i)
  · rcases hdb with hdb | hdb
    · simpa only [hdb] using h.ordered
    · simpa only [hdb] using h.ordered.delete seq

theorem DeliveryInv.of_resting (h : DeliveryInv s) (hdb : s'.db = s.db)
    (hout : s'.outstanding.Sublist s.outstanding) (hlive : ¬ s'.Live)
    (hpackets : (s'.received ++ s'.wire).Sublist (s.received ++ s.wire))
    (hunacked : s'.client.unacked.Sublist s.client.unacked) (hone : s'.todo.length ≤ 1)
    (htodo : ∀ t ∈ s'.todo, t ≠ .publishNextOutboxRow ∧ (∀ seq, t ≠ .deleteRow seq)
      ∧ t.packet = none)
    (hlooping : s'.phase = .running → Task.checkOfflineAcked ∉ s'.todo ∧ Task.disconnect ∉ s'.todo)
    (hpending : ∀ q ∈ s'.session.pending, q.publication = .status) : DeliveryInv s' where
  carries p hp := hdb ▸ h.carries p (hout.subset hp)
  single := (hout.filterMap _).length_le.trans h.single
  slot hl := absurd hl hlive
  deleting seq rest he := absurd rfl ((htodo _ (he ▸ List.mem_cons_self)).2.1 seq)
  later t ht := by
    rcases hs : s'.todo with _ | ⟨t', ts⟩ <;> rw [hs] at ht hone
    · cases ht
    · simp only [List.length_cons] at hone
      obtain rfl : ts = [] := List.length_eq_zero_iff.1 (by omega)
      cases ht
  looping := hlooping
  resting _ := ⟨fun hm => (htodo _ hm).1 rfl, fun seq hm => (htodo _ hm).2.1 seq rfl,
    fun p hm => (nomatch (htodo _ hm).2.2), hpending⟩
  pkids := h.pkids.sublist (hunacked.map _)
  record hl := absurd hl hlive
  ordered := hdb ▸ h.ordered.sublist hpackets

theorem outstanding_sublist {client : Client} {todo : List Task} {s'' : OutputState}
    (hc : s''.client = client) (ht : s''.todo = todo) (htodo : todo.filterMap Task.packet = [])
    (hu : client.unacked.Sublist s.client.unacked)
    (hr : (client.requests.filterMap Request.packet).Sublist
      (s.client.requests.filterMap Request.packet)) : s''.outstanding.Sublist s.outstanding := by
  rw [OutputState.outstanding, OutputState.outstanding, hc, ht, htodo, List.append_nil]
  exact ((hu.map _).append hr).trans (List.sublist_append_left _ _)

theorem oldest_eq (db : PipelineDb) (failed : Bool) :
    (Outbox.oldest { db := db, faults := [failed] }).1
      = if failed then .error .sqlite else .ok db.outbox.rows.head? := by
  cases failed <;> rfl

theorem delete_eq (db : PipelineDb) (failed : Bool) (seq : ℕ) :
    (Outbox.delete seq { db := db, faults := [failed] }).2.db
      = if failed then db else { db with outbox := db.outbox.delete seq } := by
  cases failed <;> rfl

theorem DeliveryInv.perform (h : DeliveryInv s) (htodo : s.todo = task :: rest)
    (hs : s.perform edgeNodeId failed now rest task = some s') : DeliveryInv s' := by
  obtain ⟨hpackets, hrest⟩ := h.rest_plain htodo
  have hmem : task ∈ s.todo := htodo ▸ List.mem_cons_self
  cases task with
  | publishStatus value =>
    simp only [OutputState.perform, Option.some.injEq] at hs
    subst hs
    have hlater := h.later
    have hlooping := h.looping
    have hresting := h.resting
    simp only [htodo, List.tail_cons, List.mem_cons, reduceCtorEq, false_or]
      at hlater hlooping hresting
    refine h.retask _ (fun _ _ he => nomatch htodo.symm.trans he) (by simpa using hrest) ?_ ?_ hlater
      (by simpa using hlooping) fun hl => ⟨by simpa using (hresting hl).1, ?_⟩
    · simp [htodo, hpackets, List.filterMap_cons, Task.packet, statusPacket, Packet.row]
    · simp [hpackets, Task.packet, statusPacket, Packet.row]
    · rintro p hp
      rcases List.mem_cons.1 hp with he | hp
      · rw [Task.handOver.inj he]
        rfl
      · exact (hresting hl).2.2.1 p hp
  | publishNextOutboxRow =>
    have hnext := h.next htodo (fun _ he => (nomatch he)) rfl
    rw [OutputState.perform, oldest_eq] at hs
    split at hs
    · exact Option.some.inj hs ▸ hnext
    · rename_i hi
      cases failed with
      | true => exact Option.some.inj hs ▸ hnext
      | false =>
        rcases hr : s.db.outbox.rows.head? with _ | ⟨seq, row⟩ <;>
          simp only [hr, Bool.false_eq_true, if_false, Option.some.injEq] at hs
        · exact hs ▸ hnext
        · exact hs ▸ h.takeUp htodo (by simpa using hi) hr
  | handOver packet =>
    simp only [OutputState.perform] at hs
    split_ifs at hs <;> simp only [Option.some.injEq] at hs <;> subst hs
    · exact h.refused htodo
    · exact h.handedOver htodo
  | deleteRow seq =>
    simp only [OutputState.perform, Option.some.injEq, delete_eq] at hs
    subst hs
    exact h.deletedRow htodo _ (by cases failed <;> simp)
  | reconnectDelay =>
    simp only [OutputState.perform, Option.some.injEq] at hs
    exact hs ▸ h.next htodo (fun _ he => (nomatch he)) rfl
  | checkOfflineAcked =>
    have hphase : s.phase ≠ .running := fun hp => (h.looping hp).1 hmem
    have hnl : ¬ s.Live := fun hl => hphase hl.1
    simp only [OutputState.perform] at hs
    split_ifs at hs <;> simp only [Option.some.injEq] at hs <;> subst hs
    · exact h.of_resting rfl (outstanding_sublist rfl rfl rfl (List.Sublist.refl _)
        (List.Sublist.refl _)) (fun hl => nomatch hl.1) (List.Sublist.refl _) (List.Sublist.refl _)
        le_rfl (by simp [Task.packet]) (fun hp => nomatch hp) (h.resting hnl).2.2.2
    · exact h.next htodo (fun _ he => (nomatch he)) rfl
  | disconnect =>
    have hphase : s.phase ≠ .running := fun hp => (h.looping hp).2 hmem
    have hnl : ¬ s.Live := fun hl => hphase hl.1
    have hnext := h.next htodo (fun _ he => (nomatch he)) rfl
    simp only [OutputState.perform] at hs
    split_ifs at hs <;> simp only [Option.some.injEq] at hs <;> subst hs
    · exact h.of_resting rfl (outstanding_sublist rfl rfl rfl (List.Sublist.refl _)
        (List.Sublist.refl _)) (fun hl => nomatch hl.1) (List.Sublist.refl _) (List.Sublist.refl _)
        (Nat.zero_le _) (by simp) (fun hp => nomatch hp) (h.resting hnl).2.2.2
    · have hout : ({ s with
          client := { s.client with requests := s.client.requests ++ [.disconnect] }
          todo := rest } : OutputState).outstanding
          = ({ s with todo := rest } : OutputState).outstanding := by
        simp [OutputState.outstanding, Request.packet]
      have hsingle := hnext.single
      rw [OutputState.rowsInFlight, ← hout] at hsingle
      exact ⟨hout ▸ hnext.carries, hsingle, fun hl => absurd hl hnl, hnext.deleting,
        hnext.later, hnext.looping, hnext.resting, hnext.pkids, fun hl => absurd hl hnl,
        hnext.ordered⟩

end Work

end EdgeNode
