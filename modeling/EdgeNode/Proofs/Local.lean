import EdgeNode.Collector.Requests
import EdgeNode.Lib.Sim

/-!
# The calls of an envelope take their faults one by one

Every function an envelope calls is made of statements, each of which meets its own fault, so that
two runs of it that meet corresponding faults do the same.
-/

namespace EdgeNode

open Tx

variable {F : List Bool → List Bool → Prop}

/-! ## Pipelines -/

namespace PipelineEngine

variable {env : Outside} {engine : PipelineEngine} {definition : PipelineDefinition}

theorem publish_local (hF : Stepwise F) (state : PipelineState) (value : ObservationValue)
    (time : InputTime) : Local F (publish engine definition state value time) :=
  local_bind (local_mapError _ (local_stmt hF _ _)) fun _ => local_pure _

theorem startSeries_local (hF : Stepwise F) (now : InputTime) :
    Local F (startSeries env engine definition now) := by
  refine local_bind local_draw fun draw => ?_
  dsimp only
  split_ifs
  · exact local_bind (publish_local hF _ _ _) fun _ =>
      local_bind (local_mapError _ (local_stmt hF _ _)) fun _ => local_pure _
  · exact local_bind (local_mapError _ (local_stmt hF _ _)) fun _ => local_pure _

theorem getState_local (hF : Stepwise F) :
    Local F (stored (PipelineStore.getState definition.id)) :=
  local_mapError _ (local_query hF _ _)

theorem restartedState_local (hF : Stepwise F) (receivedAt : InputTime) : Local F (do
    let _ ← startSeries env engine definition receivedAt
    match ← stored (PipelineStore.getState definition.id) with
    | some state => pure state
    | none => Tx.fail (.notFound definition.id.value)) := by
  refine local_bind (startSeries_local hF _) fun _ => local_bind (getState_local hF) fun state => ?_
  cases state with
  | some state => exact local_pure _
  | none => exact local_fail _

theorem usableState_local (hF : Stepwise F) (receivedAt : InputTime) :
    Local F (usableState env engine definition receivedAt) := by
  refine local_bind (getState_local hF) fun state => ?_
  cases state with
  | none => exact restartedState_local hF receivedAt
  | some state =>
    dsimp only
    split_ifs
    · exact local_pure _
    · exact restartedState_local hF receivedAt

theorem advance_local (hF : Stepwise F) (state : PipelineState) (input : F64)
    (receivedAt : InputTime) : Local F (advance engine definition state input receivedAt) := by
  refine local_bind (local_ofExcept _) fun evaluated => ?_
  dsimp only
  split
  · exact local_bind (local_mapError _ (local_stmt hF _ _)) fun _ => local_pure _
  · exact local_bind (publish_local hF _ _ _) fun _ =>
      local_bind (local_mapError _ (local_stmt hF _ _)) fun _ => local_pure _

theorem deliverTo_local (hF : Stepwise F) (reading : AcceptedReading)
    (definition : PipelineDefinition) : Local F (deliverTo env engine reading definition) := by
  refine local_bind (local_attempt ?_) fun outcome => ?_
  · split
    · exact local_fail _
    · exact local_bind (usableState_local hF _) fun _ => advance_local hF _ _ _
  · cases outcome with
    | error e =>
      dsimp only
      split_ifs
      · exact local_fail _
      · exact local_pure _
    | ok o => exact local_pure _

theorem deliver_local (hF : Stepwise F) (reading : AcceptedReading) :
    Local F (deliver env engine reading) :=
  local_bind (local_mapError _ (local_query hF _ _)) fun _ =>
    local_traverse (deliverTo_local hF reading) _

end PipelineEngine

namespace Ledger

variable {host : Host}

theorem recordEvent_local (hF : Stepwise F) (kind : String) (systemId : Option SystemId)
    (detail : String) : Local F (recordEvent host kind systemId detail) :=
  local_bind local_draw fun _ => local_stmt hF _ _

theorem ensureSeries_local (hF : Stepwise F) (systemId : SystemId) (measurementKey : String)
    (channelIndex : ℤ) (variant : String) (quarantined : Bool) (reason : Option String) :
    Local F (ensureSeries host systemId measurementKey channelIndex variant quarantined reason) := by
  refine local_bind (local_query hF _ _) fun found => ?_
  cases found with
  | some found => exact local_pure _
  | none => exact local_bind local_draw fun _ => local_stmt hF _ _

theorem ledgerEpoch_local (hF : Stepwise F) : Local F (ledgerEpoch host) := by
  refine local_bind (local_query hF _ _) fun epoch => ?_
  cases epoch with
  | some epoch => exact local_pure _
  | none => exact local_bind local_draw fun _ => local_bind (local_exec hF _ _) fun _ => local_pure _

theorem recordSighting_local (hF : Stepwise F) (hardwareId source : String) :
    Local F (recordSighting host hardwareId source) :=
  local_bind local_draw fun _ => local_exec hF _ _

end Ledger

/-! ## The registry -/

namespace Registry

variable {host : Host} {systemId : SystemId} {item : ReadingItem} {α : Type}

theorem onEntries_local {m : Tx RegistryDb RegistryError α} (h : Local F m) :
    Local F (onEntries m) := local_on h

theorem onLedger_local {m : Tx LedgerDb LedgerError α} (h : Local F m) : Local F (onLedger m) :=
  local_on (local_mapError _ h)

theorem findResolution_local (hF : Stepwise F) (key : String) : Local F (findResolution key) := by
  refine local_bind (local_query hF _ _) fun entry => ?_
  cases entry with
  | some entry => exact local_pure _
  | none =>
    refine local_bind (local_query hF _ _) fun row => ?_
    cases row with
    | none => exact local_pure _
    | some row =>
      refine local_bind (local_query hF _ _) fun canonical => ?_
      cases canonical with
      | some canonical => exact local_pure _
      | none => exact local_fail _

theorem enableEntry_local (hF : Stepwise F) (entry : CatalogEntry) (version trigger : String) :
    Local F (enableEntry host entry version trigger) := by
  have hget : Local F (onEntries (getEntry entry.key)) := onEntries_local (local_query hF _ _)
  refine local_bind hget fun existing => ?_
  cases existing with
  | some existing => exact local_pure _
  | none =>
    refine local_bind (onEntries_local (local_query hF _ _)) fun collides => ?_
    split_ifs
    · exact local_fail _
    · refine local_bind local_draw fun draw => ?_
      refine local_bind (onEntries_local (local_stmt hF _ _)) fun _ => ?_
      refine local_bind (onLedger_local (Ledger.recordEvent_local hF _ _ _)) fun _ => ?_
      refine local_bind hget fun row => ?_
      cases row with
      | some row => exact local_pure _
      | none => exact local_fail _

theorem resolveKey_local (hF : Stepwise F) : Local F (resolveKey host systemId item) := by
  refine local_bind (onEntries_local (findResolution_local hF _)) fun resolution => ?_
  rcases resolution with _ | entry | ⟨canonical, kind⟩
  · dsimp only
    split
    · exact local_bind (enableEntry_local hF _ _ _) fun _ => local_pure _
    · exact local_pure _
  · exact local_pure _
  · refine local_bind (onLedger_local (local_query hF _ _)) fun materialized => ?_
    split_ifs
    · exact local_pure _
    · exact local_pure _

theorem resolveChannel_local (hF : Stepwise F) (entry : EntryRow) (resolvedKey : String) :
    Local F (resolveChannel host systemId item entry resolvedKey) := by
  have hsingle : Local F (singleChannel host systemId item resolvedKey) := by
    refine local_bind (onLedger_local (local_query hF _ _)) fun na => ?_
    refine local_bind (onLedger_local (local_query hF _ _)) fun zero => ?_
    split_ifs
    · exact local_bind (onLedger_local (Ledger.recordEvent_local hF _ _ _)) fun _ => local_pure _
    · exact local_pure _
    · exact local_pure _
    · exact local_pure _
  unfold resolveChannel
  split
  · split_ifs
    · exact local_bind hsingle fun _ => local_pure _
    · exact local_pure _
  · exact local_pure _
  · exact local_pure _

theorem evaluateItem_local (hF : Stepwise F) : Local F (evaluateItem host systemId item) := by
  refine local_bind (resolveKey_local hF) fun resolved => ?_
  cases resolved with
  | none => exact local_pure _
  | some resolved =>
    dsimp only
    split
    · exact local_pure _
    · refine local_bind (resolveChannel_local hF _ _) fun channel => ?_
      split_ifs
      · exact local_pure _
      · refine local_bind (onLedger_local (local_query hF _ _)) fun series => ?_
        split_ifs
        · exact local_pure _
        · exact local_pure _

end Registry

namespace Staging

variable {limits : StagingBounds}

theorem checkPinCapacity_local (hF : Stepwise F) (message principalId : String)
    (addedRows addedBytes : ℤ) :
    Local F (checkPinCapacity message principalId addedRows addedBytes limits) := by
  refine local_bind (local_query hF _ _) fun all => local_bind (local_query hF _ _) fun totals => ?_
  dsimp only
  split_ifs
  · exact local_fail _
  · exact local_pure _

theorem evict_local (hF : Stepwise F) (principalId : String) (stagedRows stagedBytes : ℤ)
    (protectedSubjects removed : List StagingSubject) :
    Local F (evict principalId stagedRows stagedBytes protectedSubjects limits removed) := by
  refine local_bind (local_query hF _ _) fun all => local_bind (local_query hF _ _) fun totals => ?_
  dsimp only
  by_cases hroom : ¬ (limits.principalRows < I64.saturatingAdd totals.1 stagedRows
      ∨ limits.principalBytes < I64.saturatingAdd totals.2 stagedBytes)
    ∧ ¬ (limits.globalRows < I64.saturatingAdd all.rows stagedRows
      ∨ limits.globalBytes < I64.saturatingAdd all.bytes stagedBytes)
  · rw [if_pos hroom]
    exact local_pure _
  · rw [if_neg hroom]
    refine local_bind (local_query hF _ _) fun victim => ?_
    cases victim with
    | none => exact local_fail _
    | some victim => exact local_bind (local_exec hF _ _) fun _ => local_pure _

theorem deleteSightingIfUnstaged_local (hF : Stepwise F) (subject : StagingSubject) :
    Local F (deleteSightingIfUnstaged subject) := by
  unfold deleteSightingIfUnstaged
  split_ifs
  · exact local_pure _
  · exact local_exec hF _ _

theorem stageSightingsAt_local (hF : Stepwise F) (principalId : String) (receivedAtMs : ℤ)
    (sightings : List StagedSighting) :
    Local F (stageSightingsAt principalId receivedAtMs sightings limits) := by
  refine local_bind (local_ofExcept _) fun stagedBytes => ?_
  split_ifs
  · exact local_fail _
  · exact local_pure _
  · refine local_bind (local_traverse (fun _ => local_query hF _ _) _) fun subjectPins => ?_
    have hinherited : ∀ rows bytes,
        Local F (validateInheritedPinCapacity principalId rows bytes limits) := by
      intro rows bytes
      unfold validateInheritedPinCapacity
      split_ifs
      · exact local_pure _
      · exact checkPinCapacity_local hF _ _ _ _
    refine local_bind (hinherited _ _) fun _ => local_bind (local_query hF _ _) fun expired => ?_
    refine local_bind (local_exec hF _ _) fun _ => local_bind local_contents fun db => ?_
    refine local_bind (local_repeatUntil (fun _ => evict_local hF _ _ _ _ _) _ _ _) fun removed => ?_
    refine local_bind (local_forEach (fun _ => local_stmt hF _ _) _) fun _ => ?_
    exact local_bind (local_forEach (deleteSightingIfUnstaged_local hF) _) fun _ => local_pure _

end Staging

namespace Dedup

variable {bounds : DedupBounds}

theorem evict_local (hF : Stepwise F) (senderId : String) : Local F (evict bounds senderId) := by
  refine local_bind (local_query hF _ _) fun ofPrincipal =>
    local_bind (local_query hF _ _) fun all => ?_
  split_ifs
  · exact local_pure _
  · exact local_bind (local_exec hF _ _) fun _ => local_pure _
  · exact local_bind (local_exec hF _ _) fun _ => local_pure _

theorem tryClaimEnvelopeBoundedAt_local (hF : Stepwise F) (principalId envelopeId : String)
    (nowMs : ℤ) : Local F (tryClaimEnvelopeBoundedAt principalId envelopeId nowMs bounds) := by
  refine local_bind (local_query hF _ _) fun claimed => ?_
  split_ifs
  · exact local_pure _
  · refine local_bind (local_stmt hF _ _) fun refreshed => ?_
    split_ifs
    · exact local_pure _
    · refine local_bind local_contents fun rows => ?_
      refine local_bind (local_repeatUntil (fun _ => evict_local hF _) _ _ _) fun _ => ?_
      exact local_bind (local_stmt hF _ _) fun _ => local_pure _

end Dedup

end EdgeNode
