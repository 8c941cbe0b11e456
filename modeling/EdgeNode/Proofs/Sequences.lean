import EdgeNode.Proofs.Calls
import EdgeNode.Proofs.Series

/-!
# Sequences along every run of the engine

The invariant of `EdgeNode.Proofs.Series` is closed under the writes of the engine, and an import
keeps it, so it holds along every run (`engineInv_run`). Read off it: the sequences of a series,
and what its values say about them.
-/

namespace EdgeNode

open Tx PipelineEngine

section Keeps

variable {env : Outside} {engine : PipelineEngine} {db : PipelineDb} {n : ℕ} {now : InputTime}

theorem engineInv_closed (huuid : Function.Injective env.uuid) :
    EngineClosed env engine (EngineInv env engine) where
  ids h := h.ids
  renamed _ h := ⟨h.ids, h.states, h.series, h.apart, h.fresh⟩
  defined _ h _ hkind := h.defined hkind
  deleted h _ ho := (h.erased _).cleared rfl ho
  started h hd hs := by
    obtain ⟨row, hrow, hk⟩ := hd.kind
    exact h.started huuid hrow hk hs
  advanced h hd hst hv ha := by
    obtain ⟨row, hrow, hk⟩ := hd.kind
    exact h.advanced hrow hk hst hv ha

theorem importDefinitions_keeps_series (huuid : Function.Injective env.uuid)
    {definitions : List PipelineDefinition} (h : EngineInv env engine db n) :
    wp (importDefinitions env engine definitions now) (Again (EngineInv env engine) n)
      (AgainUnlessStorage (EngineInv env engine) n) db n := 
  (engineInv_closed huuid).importDefinitions_keeps (fun id h' => h'.erased id)
    (fun h' ho => h'.cleared rfl ho) h

theorem perform_keeps_series (huuid : Function.Injective env.uuid) (call : EngineCall)
    (h : EngineInv env engine db n) :
    wp (call.perform env engine) (Again (EngineInv env engine) n)
      (AgainUnlessStorage (EngineInv env engine) n) db n :=
  (engineInv_closed huuid).perform_keeps call h fun _ _ _ => importDefinitions_keeps_series huuid h

end Keeps

/-! ## Every run -/

theorem EngineRun.along_true (env : Outside) (engine : PipelineEngine) :
    ∀ (steps : List EngineStep) (s : EngineRun), Along env engine (fun _ _ => True) s steps
  | [], _ => trivial
  | _ :: as, _ => ⟨trivial, along_true env engine as _⟩

theorem engineInv_run (env : Outside) (engine : PipelineEngine)
    (huuid : Function.Injective env.uuid) (steps : List EngineStep) :
    EngineInv env engine (EngineRun.run env engine steps).db
      (EngineRun.run env engine steps).draws := by
  refine EngineRun.invariant (P := fun _ _ => True) (fun _ _ _ hn h => h.mono hn)
    (fun _ _ seq h => h.delivered seq) (fun s c faults h => ?_)
    (fun _ c _ _ h => perform_keeps_series huuid c h) steps EngineRun.init
    (EngineRun.along_true env engine steps _) EngineInv.init
  -- a rolled back call has drawn at most further identifiers
  have hw := perform_keeps_series huuid c h faults
  rcases hr : c.perform env engine ⟨s.db, faults, s.draws⟩ with ⟨e | _, c'⟩ <;> rw [hr] at hw <;>
    exact h.mono hw.1

def gate : PipelineEngine := ⟨⟨"gate", by decide⟩⟩

/-- Identifiers `""`, `"a"`, `"aa"`, .. and the text itself as its digest. -/
def unary : Outside where
  sha256 := id
  uuid n := String.ofList (List.replicate n 'a')

theorem unary_injective : Function.Injective unary.uuid := fun i j h => by
  have := congrArg (·.toList.length) h
  simpa [unary] using this

def door : PipelineDefinition where
  id := ⟨"door", by decide⟩
  kind := .accumulatedCount
  input := { adapter := "bravepi", measurementKey := "contact" }
  trigger := some .onTransition
  detector := some ⟨.highActive, .finite 1 0, .finite 1 0, 0, 0⟩

def contact (level uptimeMs : ℤ) : AcceptedReading where
  adapter := "bravepi"
  subject := none
  measurementKey := "contact"
  channelIndex := none
  values := [.finite level 0]
  receivedAt := ⟨uptimeMs, none⟩

def opened (definition : PipelineDefinition) : List EngineStep :=
  [.call (.create definition ⟨0, none⟩) [] true, .call (.deliver (contact 0 1)) [] true,
    .call (.deliver (contact 1 2)) [] true]

/-- The rows of one series carry the sequences 1, 2, .. in outbox order, on one topic, and the
state that holds the series goes on with the next one. -/
theorem run_sequences_contiguous (env : Outside) (engine : PipelineEngine)
    (huuid : Function.Injective env.uuid) (steps : List EngineStep) (seriesId : String) :
    let db := (EngineRun.run env engine steps).db
    let rows := publishedRows db.outbox.ever seriesId
    rows.map (·.2.sequence) = List.range' 1 rows.length
      ∧ (∃ topic, ∀ r ∈ rows, r.1 = topic)
      ∧ ∀ id row, db.states.lookup id = some row → row.seriesId = seriesId →
          (PipelineStore.stateOfRow row).nextSequence = rows.length + 1 := by
  have h := engineInv_run env engine huuid steps
  refine ⟨?_, ?_, fun id row hrow hs => ?_⟩
  · rcases h.series seriesId with hnil | ⟨id, kind, hser⟩
    · rw [PipelineDb.rowsOf] at hnil
      simp [hnil]
    · exact hser.sequences
  · rcases h.series seriesId with hnil | ⟨id, kind, hser⟩
    · rw [PipelineDb.rowsOf] at hnil
      exact ⟨"", by simp [hnil]⟩
    · exact ⟨_, hser.topics⟩
  · subst hs
    obtain ⟨_, _, _, hcont⟩ := h.states id row hrow
    exact hcont.next

theorem opened_sequences :
    (publishedRows (EngineRun.run unary gate (opened door)).db.outbox.ever "").length = 2
      ∧ (publishedRows (EngineRun.run unary gate (opened door)).db.outbox.ever "").map
          (·.2.sequence) = [1, 2] := by
  have hlen : (publishedRows (EngineRun.run unary gate (opened door)).db.outbox.ever "").length
      = 2 := by decide +kernel
  have h := (run_sequences_contiguous unary gate unary_injective (opened door) "").1
  rw [hlen] at h
  exact ⟨hlen, h⟩

theorem topic_ending (s : String) (kind : PipelineKind) :
    (s ++ kind.key).toList.reverse.take 3 = kind.key.toList.reverse.take 3 := by
  have h3 : 3 ≤ kind.key.toList.reverse.length := by cases kind <;> decide
  rw [String.toList_append, List.reverse_append]
  exact List.take_append_of_le_length h3

theorem observationTopic_kind {e e' : EdgeNodeId} {i i' : PipelineId} {k k' : PipelineKind}
    (h : observationTopic e i k = observationTopic e' i' k') : k = k' := by
  have h3 : k.key.toList.reverse.take 3 = k'.key.toList.reverse.take 3 :=
    (topic_ending _ k).symm.trans
      ((congrArg (fun s : String => s.toList.reverse.take 3) h).trans (topic_ending _ k'))
  cases k <;> cases k' <;> first | rfl | exact absurd h3 (by decide)

/-- A count publishes its sequence less one and its state holds the last count; a state
alternates, and the stored one is the last published. -/
theorem run_values_follow_sequence (env : Outside) (engine : PipelineEngine)
    (huuid : Function.Injective env.uuid) (steps : List EngineStep) :
    let db := (EngineRun.run env engine steps).db
    (∀ seriesId id, ∀ r ∈ publishedRows db.outbox.ever seriesId,
        r.1 = observationTopic engine.edgeNodeId id .accumulatedCount →
        r.2.value = .int ((r.2.sequence : ℤ) - 1))
      ∧ (∀ seriesId id, (∃ r ∈ publishedRows db.outbox.ever seriesId,
          r.1 = observationTopic engine.edgeNodeId id .state) →
          ∃ bs : List Bool, (publishedRows db.outbox.ever seriesId).map (·.2.value)
            = bs.map Json.bool ∧ bs.IsChain (· ≠ ·))
      ∧ ∀ id drow row, db.definitions.lookup id = some drow → db.states.lookup id = some row →
          (drow.definition.kind = .accumulatedCount →
            ((PipelineStore.stateOfRow row).nextSequence : ℤ) = row.evaluation.counter + 2
              ∧ 0 ≤ row.evaluation.counter ∧ row.evaluation.counter ≤ 2 ^ 53 - 1)
          ∧ (drow.definition.kind = .state →
              ∀ r, (publishedRows db.outbox.ever row.seriesId).getLast? = some r →
                r.2.value = .bool row.evaluation.active) := by
  have h := engineInv_run env engine huuid steps
  have hkind : ∀ {s id kind r}, r ∈ publishedRows (EngineRun.run env engine steps).db.outbox.ever s →
      r.1 = observationTopic engine.edgeNodeId id kind →
      ∃ topic, SeriesRows topic kind
        (publishedRows (EngineRun.run env engine steps).db.outbox.ever s) := by
    intro s id kind r hr htopic
    rcases h.series s with hnil | ⟨id', kind', hser⟩
    · rw [PipelineDb.rowsOf] at hnil
      simp [hnil] at hr
    · rw [hser.topics r hr] at htopic
      rw [← observationTopic_kind htopic]
      exact ⟨_, hser⟩
  refine ⟨fun s id r hr htopic => ?_, fun s id hstate => ?_, fun id drow row hd hrow => ?_⟩
  · obtain ⟨_, hser⟩ := hkind hr htopic
    exact hser.counts rfl r hr
  · obtain ⟨r, hr, htopic⟩ := hstate
    obtain ⟨_, hser⟩ := hkind hr htopic
    exact hser.alternates rfl
  · obtain ⟨drow', hd', -, hcont⟩ := h.states id row hrow
    obtain rfl : drow = drow' := by simpa [hd] using hd'
    refine ⟨fun hk => ?_, fun hk r hr => ?_⟩
    · obtain ⟨hlen, hpos, hmax⟩ := hcont.counts hk
      refine ⟨?_, hpos, hmax⟩
      rw [hcont.next]
      push_cast
      rw [hlen]
      exact add_assoc _ 1 1
    · have hst := hcont.states hk
      change (publishedRows _ row.seriesId).getLast? = some r at hr
      split_ifs at hst with hi
      · rw [List.getLast?_map, PipelineDb.rowsOf, hr] at hst
        exact Option.some.inj hst
      · rw [PipelineDb.rowsOf] at hst
        simp [hst] at hr

theorem opened_counts :
    ((EngineRun.run unary gate (opened door)).db.states.lookup door.id).map
        (fun row => ((PipelineStore.stateOfRow row).nextSequence, row.evaluation.counter))
        = some (3, 1)
      ∧ ∀ r ∈ publishedRows (EngineRun.run unary gate (opened door)).db.outbox.ever "",
          r.1 = observationTopic gate.edgeNodeId door.id .accumulatedCount →
          r.2.value = .int ((r.2.sequence : ℤ) - 1) :=
  ⟨by decide +kernel,
    (run_values_follow_sequence unary gate unary_injective (opened door)).1 "" door.id⟩

end EdgeNode
