import EdgeNode.Proofs.Local
import EdgeNode.Proofs.StorageFault

/-!
# What the counters of discarded inputs count

Nothing the collector does depends on the counters (`Oblivious`), so a request adds to them the inputs
it makes the pipelines discard, however it ends. The counters are right as long as what is not
committed discards nothing.
-/

namespace EdgeNode

open Tx

namespace Collector

variable {ρ α β ε : Type} {c : Components ρ}

section Counters

variable (discards : AList fun _ : PipelineId => FaultRecord)

theorem discardedBy_note (id id' : PipelineId) (error : EngineError) (now : ℤ) :
    discardedBy (FaultRecord.note discards id error now) id'
      = discardedBy discards id' + if id' = id then 1 else 0 := by
  unfold discardedBy FaultRecord.note
  by_cases h : id' = id
  · subst h
    rw [AList.lookup_insert, if_pos rfl]
    cases discards.lookup id' with
    | none => rfl
    | some r => rfl
  · rw [AList.lookup_insert_ne h, if_neg h, Nat.add_zero]

theorem discardedBy_outcomes (outcomes : List EdgeNode.PipelineDelivery) (now : ℤ) (id : PipelineId) :
    discardedBy (outcomes.foldl (fun discards o => match o.2 with
        | .error e => FaultRecord.note discards o.1 e now
        | .ok _ => discards) discards) id
      = discardedBy discards id + outcomes.countP fun o => o.1 = id ∧ o.2.toOption.isNone := by
  induction outcomes generalizing discards with
  | nil => rfl
  | cons o outcomes ih =>
    obtain ⟨id', e | outcome⟩ := o
    · rw [List.foldl_cons, ih, discardedBy_note, List.countP_cons]
      by_cases h : id' = id
      · simp only [h, Except.toOption, if_true, Option.isNone_none, and_self, decide_true]
        omega
      · simp [h, Ne.symm h]
    · rw [List.foldl_cons, ih, List.countP_cons]
      simp [Except.toOption]

end Counters

structure Counted (base : PipelineId → ℕ) (w w' : Work ρ) : Prop where
  db : w'.db = w.db
  cache : w'.cache = w.cache
  signals : w'.signals = w.signals
  counters : ∀ id, discardedBy w'.discards id = discardedBy w.discards id + base id

variable {base : PipelineId → ℕ}

def Oblivious (base : PipelineId → ℕ) (m : Tx (Work ρ) ε α) : Prop :=
  ∀ w w' n, Counted base w w' → sim Eq m m (fun _ => Counted base) (fun _ => Counted base) w w' n

namespace Oblivious

theorem pure (a : α) : Oblivious base (Pure.pure a : Tx (Work ρ) ε α) := fun _ _ _ h => sim_pure h

theorem fail (e : ε) : Oblivious base (Tx.fail e : Tx (Work ρ) ε α) := fun _ _ _ h => sim_fail h

theorem ofExcept (r : Except ε α) : Oblivious base (Tx.ofExcept r : Tx (Work ρ) ε α) :=
  fun _ _ _ h => sim_ofExcept (fun _ _ => h) fun _ _ => h

theorem bind {m : Tx (Work ρ) ε α} {f : α → Tx (Work ρ) ε β} (hm : Oblivious base m)
    (hf : ∀ a, Oblivious base (f a)) : Oblivious base (m >>= f) :=
  fun w w' n h => sim_bind (sim_imp (hm w w' n h) fun a x y hxy n => hf a x y n hxy)

theorem mapError {ε' : Type} {g : ε → ε'} {m : Tx (Work ρ) ε α} (hm : Oblivious base m) :
    Oblivious base (m.mapError g) :=
  fun w w' n h => sim_mapError (hm w w' n h)

theorem traverse {f : β → Tx (Work ρ) ε α} (hf : ∀ b, Oblivious base (f b)) (bs : List β) :
    Oblivious base (Tx.traverse f bs) :=
  fun _ _ _ h => sim_traverse (fun b x y n hxy => hf b x y n hxy) h

theorem forEach {f : β → Tx (Work ρ) ε Unit} (hf : ∀ b, Oblivious base (f b)) (bs : List β) :
    Oblivious base (Tx.forEach f bs) :=
  fun _ _ _ h => sim_forEach (fun b x y n hxy => hf b x y n hxy) h

theorem modify {f : Work ρ → Work ρ} (hf : ∀ w w', Counted base w w' → Counted base (f w) (f w')) :
    Oblivious base (Tx.modify f : Tx (Work ρ) ε Unit) :=
  fun w w' _ h => sim_modify (hf w w' h)

theorem draw : Oblivious base (Tx.draw : Tx (Work ρ) ε ℕ) := fun _ _ _ h => sim_draw h

theorem onCache {f : Work ρ → Tx (Work ρ) ε α} (hf : ∀ w w', w'.cache = w.cache → f w' = f w)
    (h : ∀ w, Oblivious base (f w)) : Oblivious base (Tx.contents >>= f) := by
  intro w w' n hb
  refine sim_contents ?_
  rw [hf w w' hb.cache]
  exact h w w w' n hb

theorem onNode (m : Tx (NodeDb ρ) StorageCause α) : Oblivious base (Collector.onNode m) :=
  fun _ _ _ h => (local_eq m).on_eq h.db (fun _ _ => ⟨rfl, h.cache, h.signals, h.counters⟩)
    fun _ _ => ⟨rfl, h.cache, h.signals, h.counters⟩

end Oblivious

theorem emitIntrusion_oblivious {principal : IngestPrincipal} {kind : IntrusionKind} :
    Oblivious base (emitIntrusion c principal kind) := by
  refine .modify fun w w' h => ?_
  split_ifs
  · exact ⟨h.db, h.cache, by simp only [h.signals], h.counters⟩
  · exact h

theorem lookupHardware_oblivious {hardwareId : String} :
    Oblivious (ρ := ρ) base (lookupHardware hardwareId) := by
  refine .onCache (fun w w' h => by rw [h]) fun w => ?_
  split
  · exact .pure _
  · refine .bind (.onNode _) fun found => ?_
    split
    · refine .bind (.modify fun w w' h => ⟨h.db, ?_, h.signals, h.counters⟩) fun _ => .pure _
      simp only [h.cache]
    · exact .pure _

theorem resolveSubject_oblivious {context : ItemContext} {item : ReadingItem} :
    Oblivious (ρ := ρ) base (resolveSubject context item) := by
  unfold resolveSubject
  split
  · exact .bind lookupHardware_oblivious fun _ => .pure _
  · split
    · exact .bind (.onNode _) fun _ => .pure _
    · exact .pure _

theorem resolveSeries_oblivious {systemId : SystemId} {key variant : String} {channel : ℤ}
    {quarantine : Option QuarantineReason} :
    Oblivious base (resolveSeries c systemId key channel variant quarantine) := by
  refine .onCache (fun w w' h => by rw [h]) fun w => ?_
  split
  · exact .pure _
  · refine .bind (.onNode _) fun id => .bind (.modify fun w w' h => ?_) fun _ => .pure _
    exact ⟨h.db, by simp only [h.cache], h.signals, h.counters⟩

section Items

variable {context : ItemContext} {item : ReadingItem}

theorem deliver_oblivious {pipelines : PipelineDelivery} :
    Oblivious base (deliver c context pipelines item) := by
  refine .bind .draw fun draw => ?_
  dsimp only
  split
  · exact .pure _
  · refine .bind (.onNode _) fun outcomes => .modify fun w w' h => ⟨h.db, h.cache, h.signals, ?_⟩
    intro id
    calc _ = _ := discardedBy_outcomes w'.discards outcomes (c.host.uptimeMs draw) id
      _ = discardedBy w.discards id
          + (outcomes.countP fun o => o.1 = id ∧ o.2.toOption.isNone) + base id := by
        rw [h.counters]
        omega
      _ = _ := congrArg (· + base id)
        (discardedBy_outcomes w.discards outcomes (c.host.uptimeMs draw) id).symm

theorem storeReading_oblivious {seriesId : ℕ} {reason : Option QuarantineReason} :
    Oblivious base (storeReading c context item seriesId reason) := by
  refine .bind (.onNode _) fun seq => ?_
  cases reason with
  | some reason => exact .pure _
  | none =>
    have hdeliver : Oblivious base (deliverDurable c context item) := by
      unfold deliverDurable
      split
      · exact deliver_oblivious
      · exact .pure _
    refine .bind hdeliver fun _ => .bind (.bind (.onNode _) fun admitted => ?_) fun _ => .pure _
    split_ifs
    · exact .bind (.onNode _) fun _ => .pure _
    · exact .pure _

theorem processItem_oblivious {itemIndex : ℕ} :
    Oblivious base (processItem c context item itemIndex) := by
  refine .bind resolveSubject_oblivious fun resolved => ?_
  cases resolved with
  | none => exact .pure _
  | some resolved =>
    dsimp only
    split_ifs
    · exact .bind emitIntrusion_oblivious fun _ => .pure _
    · split
      · exact .pure _
      · cases resolved with
        | none => exact .pure _
        | some device =>
          refine .bind (.onNode _) fun verdict => ?_
          cases verdict with
          | rejectItem reasonCode message => exact .pure _
          | accept resolvedKey channel quarantine =>
            exact .bind resolveSeries_oblivious fun _ => storeReading_oblivious

end Items

theorem stagePending_oblivious {principalId : String} {receivedAt : ℤ}
    {pending : List StagedSighting} :
    Oblivious base (stagePending c principalId receivedAt pending) := by
  unfold stagePending
  split_ifs
  · exact .pure _
  · refine .bind (.onNode _) fun bounded => .bind (.forEach (fun _ => .onNode _) _) fun _ => ?_
    split_ifs
    · exact .onNode _
    · exact .pure _

theorem processItems_oblivious {principal : IngestPrincipal} {clock : FreshnessSnapshot}
    {items : List ReadingItem} : Oblivious base (processItems c principal clock items) :=
  .bind (.onNode _) fun _ => .bind (.traverse (fun _ => processItem_oblivious) _) fun _ =>
    .bind stagePending_oblivious fun _ => .pure _

section Envelope

variable {clock : Except String FreshnessSnapshot} {request : IngestRequest} {commit : Bool}

theorem admittedEnvelope_oblivious {snapshot : FreshnessSnapshot} :
    Oblivious base (admittedEnvelope c snapshot request commit) := by
  unfold admittedEnvelope
  split_ifs
  · exact .fail _
  · refine .bind (.mapError (.onNode _)) fun generation => .bind (.modify fun w w' h => ?_) fun _ => ?_
    · unfold syncCache
      rw [h.cache]
      split_ifs
      · exact h
      · exact ⟨h.db, rfl, h.signals, h.counters⟩
    · have hclaim : Oblivious (ρ := ρ) base (claimEnvelope request snapshot.receivedAtMs commit) := by
        unfold claimEnvelope
        split_ifs
        · exact .onNode _
        · exact .pure _
      refine .bind (.mapError hclaim) fun claimed => ?_
      split_ifs
      · refine .bind (.mapError processItems_oblivious) fun _ => .bind ?_ fun _ => .pure _
        unfold concludeEnvelope
        split_ifs
        · exact .pure _
        · refine .bind (.modify fun w w' h => ⟨h.db, ?_, h.signals, h.counters⟩) fun _ => .pure _
          simp only [h.cache]
      · exact .pure _

theorem envelopeBody_oblivious : Oblivious base (envelopeBody c clock request commit) := by
  refine .bind (.mapError (.onNode _)) fun current => ?_
  split_ifs
  · split
    · have hnote : Oblivious base (noteRejection c request) := by
        unfold noteRejection
        split_ifs
        · exact emitIntrusion_oblivious
        · exact .pure _
      exact .bind (.mapError hnote) fun _ => .pure _
    · exact .bind (.ofExcept _) fun _ => admittedEnvelope_oblivious
  · exact .fail _

theorem processEnvelopeMode_oblivious :
    Oblivious base (processEnvelopeMode c clock request commit) := by
  refine .bind (fun w w' n h => ?_) fun _ => .pure _
  -- undoing the transaction puts the same tables back on both sides
  have hundo : ∀ {x y : Work ρ}, Counted base x y → Counted base { x with db := w.db }
      { y with db := w'.db } := fun hxy => ⟨h.db, hxy.cache, hxy.signals, hxy.counters⟩
  refine sim_transaction stepwise_eq h fun n => sim_mono (envelopeBody_oblivious w w' n h)
    (fun r x y hxy => ?_) fun _ _ _ hxy => hundo hxy
  obtain ⟨_ | _ | _, status⟩ := r
  · exact hundo hxy
  · exact ⟨hxy, hundo hxy⟩
  · exact ⟨hundo hxy, hundo hxy⟩

end Envelope

theorem accept_discards (s : State ρ) (o : Circumstances) (request : IngestRequest) (commit : Bool) :
    (accept c s o request commit).2.discards
      = (processEnvelopeMode c o.clock request commit
          ⟨s.toWork, o.faults, s.draws⟩).2.db.discards := by
  unfold accept
  rcases processEnvelopeMode c o.clock request commit ⟨s.toWork, o.faults, s.draws⟩ with
    ⟨(_ | _ | _) | _, _⟩ <;> rfl

namespace Intake

variable {delivery : PipelineDelivery} {describe : StorageCause → String} {s s' : Intake ρ}

theorem accept_discardedBy (s : State ρ) (o : Circumstances) (request : IngestRequest)
    (commit : Bool) (id : PipelineId) :
    discardedBy (accept c s o request commit).2.discards id
      = discardedIn c s o request commit id + discardedBy s.discards id := by
  have hstart : Counted (discardedBy s.discards) { s.toWork with discards := ∅ } s.toWork :=
    ⟨rfl, rfl, rfl, fun id => (Nat.zero_add _).symm⟩
  have hsame : Oblivious (discardedBy s.discards) (processEnvelopeMode c o.clock request commit) :=
    processEnvelopeMode_oblivious
  obtain ⟨after, hafter, hrest⟩ :=
    hsame { s.toWork with discards := ∅ } s.toWork s.draws hstart o.faults
  obtain ⟨faults, hfaults, hrun⟩ := hrest _ rfl
  subst hfaults
  unfold discardedIn
  rw [accept_discards, accept_discards, hrun]
  split at hafter
  · next heq =>
    rw [heq]
    exact hafter.counters id
  · next heq =>
    rw [heq]
    exact hafter.counters id

def discardsNothing (c : Components ρ) (s : State ρ) (o : Circumstances) (request : IngestRequest)
    (commit : Bool) : Bool :=
  (accept c { s with discards := ∅ } o request commit).2.discards.entries.isEmpty

theorem discardedIn_of_nothing {s : State ρ} {o : Circumstances} {request : IngestRequest}
    {commit : Bool} (h : discardsNothing c s o request commit) (id : PipelineId) :
    discardedIn c s o request commit id = 0 := by
  unfold discardsNothing at h
  unfold discardedIn discardedBy AList.lookup
  rw [List.isEmpty_iff.1 h]
  rfl

/-- A request that is not committed makes no pipeline discard an input. -/
def NoStrayDiscard (c : Components ρ) (delivery : PipelineDelivery) (s : Intake ρ) : Event ρ → Prop
  | .submit o request _ => accepted (outcome (c.withPipelines delivery) s.toState o request true)
      ∨ discardsNothing (c.withPipelines delivery) s.toState o request true
  | .validate o request _ => discardsNothing (c.withPipelines delivery) s.toState o request false
  | _ => True

instance (s : Intake ρ) : ∀ e, Decidable (NoStrayDiscard c delivery s e)
  | .submit _ _ _ => inferInstanceAs (Decidable (_ ∨ _))
  | .validate _ _ _ => inferInstanceAs (Decidable (_ = true))
  | .clear _ | .elsewhere _ => isTrue trivial

def CountsCommitted (s : Intake ρ) : Prop :=
  ∀ id, discardedBy s.discards id = s.committedDiscards id

theorem CountsCommitted.step {e : Event ρ} (hstray : NoStrayDiscard c delivery s e)
    (h : CountsCommitted s) (hs : step c delivery describe s e = some s') : CountsCommitted s' := by
  intro id
  cases e with
  | submit o request ho =>
    obtain rfl := Option.some.inj hs
    unfold submitted
    dsimp only
    rw [accept_discardedBy, h id]
    split_ifs with haccepted
    · omega
    · rw [discardedIn_of_nothing (hstray.resolve_left haccepted)]
      omega
  | validate o request ho =>
    obtain rfl := Option.some.inj hs
    dsimp only
    rw [accept_discardedBy, discardedIn_of_nothing hstray, h id, Nat.zero_add]
  | clear id' =>
    obtain rfl := Option.some.inj hs
    dsimp only
    by_cases hid : id = id'
    · subst hid
      rw [Function.update_self]
      unfold discardedBy
      rw [AList.lookup_erase]
      rfl
    · rw [Function.update_of_ne hid, ← h id]
      unfold discardedBy
      rw [AList.lookup_erase_ne hid]
  | elsewhere change =>
    obtain rfl := Option.some.inj hs
    exact h id

/-! ## A pipeline that discards what it is asked to validate -/

open Ingest (benchComponents benchRequest)

def secondValue : PipelineDefinition where
  id := ⟨"second", by decide⟩
  kind := .measurement
  input := { adapter := "bench", measurementKey := "temperature", valueIndex := 1 }
  unit := some "K"

def secondDelivery : PipelineDelivery := ⟨benchDelivery.engine, AList.singleton "bench" "bench"⟩

def secondIntake : Intake Unit :=
  { benchIntake with
    db := { benchIntake.db with
      pipelines := (PipelineEngine.create benchComponents.host.toOutside secondDelivery.engine
        secondValue ⟨0, none⟩ ⟨PipelineDb.empty, [], 0⟩).2.db } }

end Intake

end Collector

end EdgeNode
