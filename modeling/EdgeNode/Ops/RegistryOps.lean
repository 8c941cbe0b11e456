import EdgeNode.Ops.TokenOps
import EdgeNode.Registry.Define

/-!
# The operation on unknown keys

`registry.resolve_unknown_key` leads a key without a definition to one: to an entry that exists, or
to a custom entry that the same operation defines under a key of its own. Either way the key itself
becomes an alias.
-/

namespace EdgeNode

def OpError.ofRegistry : RegistryError → OpError
  | .targetNotFound _ => .notFound
  | .namespaceCollision name => .preconditionFailed (RegistryError.namespaceCollision name).toText
  | .aliasExists name => .preconditionFailed (RegistryError.aliasExists name).toText
  | .invalidKey text => .validation (RegistryError.invalidKey text).toText
  | .ledger e => .ofLedger e
  | .sqlite => .storage

namespace Ops

variable {α : Type}

def onRegistry (m : Tx (LedgerDb × RegistryDb) RegistryError α) :
    Tx (Work RegistryDb) OpError α :=
  onNode ((m.mapError .ofRegistry).on (fun db => (db.ledger, db.registry))
    fun db p => { db with ledger := p.1, registry := p.2 })

def ofRegistryResult (r : Except RegistryError α) : Except OpError α := r.mapError .ofRegistry

/-! ## Parameters -/

def requiredObject (params : Json) (key : String) : Except OpError (List (String × Json)) :=
  match (params.get? key).bind Json.asObject? with
  | some fields => .ok fields
  | none => .error (.validation (key ++ " must be an object"))

def rejectUndeclared (fields : List (String × Json)) (allowed : List String) :
    Except OpError Unit :=
  if fields.any fun f => !allowed.contains f.1 then
    .error (.validation "undeclared operation parameter")
  else .ok ()

def requiredField (custom : List (String × Json)) (key : String) : Except OpError String :=
  match (custom.lookup key).bind Json.asStr? with
  | some text => .ok text
  | none => .error (.validation ("custom." ++ key ++ " must be a string"))

def optionalString (custom : List (String × Json)) (key : String) :
    Except OpError (Option String) :=
  match custom.lookup key with
  | none => .ok none
  | some _ => (requiredField custom key).map some

def optionalStringArray (custom : List (String × Json)) (key : String) :
    Except OpError (List String) :=
  match custom.lookup key with
  | none | some .null => .ok []
  | some (.arr values) =>
    match values.mapM Json.asStr? with
    | some texts => .ok texts
    | none => .error (.validation ("custom." ++ key ++ " entries must be strings"))
  | some _ => .error (.validation ("custom." ++ key ++ " must be an array"))

def optionalF64 (custom : List (String × Json)) (key : String) : Except OpError (Option F64) :=
  match custom.lookup key with
  | none | some .null => .ok none
  | some value =>
    match value.asF64? with
    | some x => .ok (some x)
    | none => .error (.validation ("custom." ++ key ++ " must be a number"))

def parseValueType (text : String) : Except OpError ValueType :=
  match text with
  | "float" => .ok .float
  | "int" => .ok .int
  | "bool" => .ok .bool
  | "record" => .ok .record
  | other => .error (.validation ("unknown value_type: " ++ other))

def parseChannelMode (text : String) : Except OpError ChannelMode :=
  match text with
  | "single" => .ok .single
  | "generic" => .ok .generic
  | "fixed" => .ok .fixed
  | other => .error (.validation ("unknown channel_mode: " ++ other))

def customFields : List String :=
  ["measurement_key", "unit_ucum", "unit_display", "value_type", "semantic_class", "channel_mode",
    "channel_roles", "physical_min", "physical_max"]

def customSpec (custom : List (String × Json)) : Except OpError CustomEntrySpec := do
  rejectUndeclared custom customFields
  let valueType ← parseValueType (← requiredField custom "value_type")
  let channelMode ← parseChannelMode (← requiredField custom "channel_mode")
  let measurementKey ← requiredField custom "measurement_key"
  let unitUcum ← optionalString custom "unit_ucum"
  let unitDisplay ← optionalString custom "unit_display"
  let semanticClass ← requiredField custom "semantic_class"
  let channelRoles ← optionalStringArray custom "channel_roles"
  let physicalMin ← optionalF64 custom "physical_min"
  let physicalMax ← optionalF64 custom "physical_max"
  .ok ⟨measurementKey, unitUcum, unitDisplay, valueType, semanticClass, channelMode, channelRoles,
    physicalMin, physicalMax⟩

inductive ResolutionSpec where
  | aliasTo (target : String)
  | custom (spec : CustomEntrySpec)
  deriving DecidableEq, Repr

def resolution (params : Json) : Except OpError ResolutionSpec := do
  let fields ← requiredObject params "resolution"
  rejectUndeclared fields ["alias_to", "custom"]
  match fields.lookup "alias_to", fields.lookup "custom" with
  | some (.str target), none => .ok (.aliasTo target)
  | some _, none => .error (.validation "resolution.alias_to must be a string")
  | none, some (.obj custom) => (customSpec custom).map .custom
  | none, some _ => .error (.validation "resolution.custom must be an object")
  | _, _ => .error (.validation "resolution must contain exactly one of alias_to or custom")

/-! ## The operation -/

def resolveAlias (target : String) : Tx (Work RegistryDb) OpError Unit := do
  Tx.ofExcept (ofRegistryResult (Registry.validateMeasurementKey target))
  match ← onRegistry (Registry.onEntries (Registry.getEntry target)) with
  | some _ => pure ()
  | none => Tx.fail .notFound

/-- The key of a custom entry is neither an entry nor an alias. -/
def resolveCustom (spec : CustomEntrySpec) : Tx (Work RegistryDb) OpError Unit := do
  Tx.ofExcept (ofRegistryResult (Registry.validateCustomEntrySpec spec))
  match ← onRegistry (Registry.onEntries (Registry.getEntry spec.measurementKey)) with
  | some _ => Tx.fail (.preconditionFailed ("custom entry collides: " ++ spec.measurementKey))
  | none =>
    if ← onRegistry (Registry.onEntries (Registry.aliasExists spec.measurementKey)) then
      Tx.fail (.preconditionFailed ("custom entry collides: " ++ spec.measurementKey))
    else pure ()

def resolvePreconditions (context : OpContext) : Tx (Work RegistryDb) OpError Unit := do
  let key ← Tx.ofExcept (requiredStr context.params "key")
  Tx.ofExcept (ofRegistryResult (Registry.validateMeasurementKey key))
  match ← onRegistry (Registry.onEntries (Registry.findResolution key)) with
  | some _ => Tx.fail (.preconditionFailed ("key already resolved: " ++ key))
  | none =>
    match ← Tx.ofExcept (resolution context.params) with
    | .aliasTo target => resolveAlias target
    | .custom spec => resolveCustom spec

def resolveDryRun (context : OpContext) : Except OpError Json := do
  let key ← requiredStr context.params "key"
  match ← resolution context.params with
  | .aliasTo target => .ok (.object [("would", .str "define_alias"), ("key", .str key),
      ("target", .str target)])
  | .custom spec => .ok (.object [("would", .str "define_custom_entry_and_alias"),
      ("key", .str key), ("measurement_key", .str spec.measurementKey)])

variable (host : Host)

def defineResolution (key : String) : ResolutionSpec →
    Tx (LedgerDb × RegistryDb) RegistryError Json
  | .aliasTo target => do
    Registry.defineAlias host key target .locationMapping
    pure (.object [("alias", .str key), ("target", .str target)])
  | .custom spec => do
    let entry ← Registry.defineCustomEntry host spec
    Registry.defineAlias host key entry.measurementKey .locationMapping
    pure (.object [("alias", .str key), ("target", .str entry.measurementKey),
      ("origin", .str entry.origin.asDb)])

def resolveExecute (context : OpContext) : Tx (Work RegistryDb) OpError Json := do
  let key ← Tx.ofExcept (requiredStr context.params "key")
  let spec ← Tx.ofExcept (resolution context.params)
  onRegistry (defineResolution host key spec)

theorem onRegistry_reads {m : Tx RegistryDb RegistryError α} {w : Work RegistryDb} {n : ℕ}
    (h : ∀ g n, Tx.wp m (fun _ g' _ => g' = g) (fun _ g' _ => g' = g) g n) :
    Tx.wp (onRegistry (Registry.onEntries m)) (fun _ w' _ => w' = w) (fun _ w' _ => w' = w) w n := by
  unfold onRegistry onNode Registry.onEntries
  refine Tx.wp_on (Tx.wp_on (Tx.wp_mapError (Tx.wp_on (Tx.wp_mono (h _ _) ?_ ?_))))
  · rintro _ _ _ rfl
    rfl
  · rintro _ _ _ rfl
    rfl

theorem findResolution_reads (key : String) (g : RegistryDb) (n : ℕ) :
    Tx.wp (Registry.findResolution key) (fun _ g' _ => g' = g) (fun _ g' _ => g' = g) g n := by
  refine Tx.wp_bind (Tx.wp_query rfl ?_)
  split
  · exact Tx.wp_pure rfl
  · refine Tx.wp_bind (Tx.wp_query rfl ?_)
    split
    · exact Tx.wp_pure rfl
    · refine Tx.wp_bind (Tx.wp_query rfl ?_)
      split
      · exact Tx.wp_pure rfl
      · exact Tx.wp_fail rfl

theorem resolvePreconditions_read (context : OpContext) (w : Work RegistryDb) (n : ℕ) :
    Tx.wp (resolvePreconditions context) (fun _ w' _ => w' = w) (fun _ w' _ => w' = w) w n := by
  have hread : ∀ {β : Type} (e : RegistryError) (f : RegistryDb → β) (g : RegistryDb) (n : ℕ),
      Tx.wp (Tx.query e f) (fun _ g' _ => g' = g) (fun _ g' _ => g' = g) g n :=
    fun _ _ _ _ => Tx.wp_query rfl rfl
  refine Tx.wp_bind (Tx.wp_ofExcept (fun key _ => ?_) fun _ _ => rfl)
  refine Tx.wp_bind (Tx.wp_ofExcept (fun _ _ => ?_) fun _ _ => rfl)
  refine Tx.wp_bind (Tx.wp_imp (onRegistry_reads (findResolution_reads key)) ?_)
  rintro found _ n₁ rfl
  cases found with
  | some found => exact Tx.wp_fail rfl
  | none =>
    refine Tx.wp_bind (Tx.wp_ofExcept (fun spec _ => ?_) fun _ _ => rfl)
    cases spec with
    | aliasTo target =>
      refine Tx.wp_bind (Tx.wp_ofExcept (fun _ _ => ?_) fun _ _ => rfl)
      refine Tx.wp_bind (Tx.wp_imp (onRegistry_reads (hread _ _)) ?_)
      rintro entry _ n₂ rfl
      cases entry with
      | some entry => exact Tx.wp_pure rfl
      | none => exact Tx.wp_fail rfl
    | custom spec =>
      refine Tx.wp_bind (Tx.wp_ofExcept (fun _ _ => ?_) fun _ _ => rfl)
      refine Tx.wp_bind (Tx.wp_imp (onRegistry_reads (hread _ _)) ?_)
      rintro entry _ n₂ rfl
      cases entry with
      | some entry => exact Tx.wp_fail rfl
      | none =>
        refine Tx.wp_bind (Tx.wp_imp (onRegistry_reads (hread _ _)) ?_)
        rintro exists_ _ n₃ rfl
        split_ifs
        · exact Tx.wp_fail rfl
        · exact Tx.wp_pure rfl

def resolveUnknownKeyOp : String := "registry.resolve_unknown_key"

def resolveUnknownKeyDescriptor : OpDescriptor RegistryDb where
  name := resolveUnknownKeyOp
  tier := .daily
  bulkEscalates := false
  changesState := true
  paramsSchema := .object [("required", .arr [.str "key", .str "resolution"])]
  targets params := ((params.get? "key").bind Json.asStr?).toList
  preconditions := resolvePreconditions
  dryRun context := Tx.ofExcept (resolveDryRun context)
  execute := resolveExecute host
  secretExecute := none
  preconditions_read := resolvePreconditions_read

end Ops

end EdgeNode
