import EdgeNode.Collector.Principal
import EdgeNode.Registry.Store

/-!
# The registry's verdict on an item

The key an item declares is resolved to an entry of the site, the target of an alias, or an entry of
the catalogue, which is enabled by this first observation. A key without a definition, an undeclared
channel and a value out of range are accepted into quarantine; what a definition cannot interpret is
rejected.
-/

namespace EdgeNode

namespace Registry

variable (host : Host) (systemId : SystemId) (item : ReadingItem)

def rawChannel : ℤ := item.channelIndex.elim channelNa fun c => (c : ℤ)

/-- The definition of the declared key and the key its series go under; `none` when there is no
definition. A key that is already materialized keeps its own series under an alias. -/
def resolveKey : Tx (LedgerDb × RegistryDb) RegistryError (Option (EntryRow × String)) := do
  match ← onEntries (findResolution item.measurementKey) with
  | some (.entry entry) => pure (some (entry, item.measurementKey))
  | some (.aliased canonical _) =>
    if ← onLedger (Ledger.seriesExistsForKey systemId item.measurementKey) then
      pure (some (canonical, item.measurementKey))
    else pure (some (canonical, canonical.measurementKey))
  | none =>
    match standardCatalog.find item.measurementKey with
    | some entry =>
      let row ← enableEntry host entry standardCatalog.catalogVersion "auto"
      pure (some (row, item.measurementKey))
    | none => pure none

/-- The single value of an item, or why the definition cannot interpret what it carries. -/
def interpretValue (entry : EntryRow) : Except String F64 :=
  if entry.valueType = .record then
    .error ("'" ++ entry.measurementKey ++ "' is a record type: wire representation is reserved for "
      ++ "a future contract addendum (D6)")
  else
    match item.values with
    | [value] =>
      if !value.isFinite then
        .error ("non-finite value " ++ host.displayFloat value ++ " is structurally uninterpretable")
      else if entry.valueType = .bool ∧ !value.eq (.ofInt 0) ∧ !value.eq (.ofInt 1) then
        .error ("bool measurement expects 0 or 1, got " ++ host.displayFloat value)
      else if entry.valueType = .int ∧ !value.isIntegral then
        .error ("int measurement expects an integral value, got " ++ host.displayFloat value)
      else .ok value
    | values =>
      .error ("scalar measurement expects exactly 1 value, got " ++ toString values.length
        ++ " (multi-channel data must be split into per-channel items)")

def itemVariant : String := item.seriesVariant.getD defaultVariant

def conflictDetail (resolvedKey variant : String) : String :=
  String.ofList <| (Json.object [("measurement_key", .str resolvedKey), ("variant", .str variant),
    ("preferred_channel", .int channelNa), ("legacy_channel", .int 0)]).compact host.showFloat

/-- The channel of a single-channel measurement that names none or 0: the form its series already
has, the form without a channel otherwise. Both forms side by side are noted. -/
def singleChannel (resolvedKey : String) : Tx (LedgerDb × RegistryDb) RegistryError ℤ := do
  let na ← onLedger (Ledger.findSeriesMeta systemId resolvedKey channelNa (itemVariant item))
  let zero ← onLedger (Ledger.findSeriesMeta systemId resolvedKey 0 (itemVariant item))
  if na.isSome then
    if zero.isSome then
      onLedger (Ledger.recordEvent host "channel_form_conflict" (some systemId)
        (conflictDetail host resolvedKey (itemVariant item)))
      pure channelNa
    else pure channelNa
  else if zero.isSome then pure 0
  else pure channelNa

/-- The channel an item goes under, and whether the definition does not declare it. -/
def resolveChannel (entry : EntryRow) (resolvedKey : String) :
    Tx (LedgerDb × RegistryDb) RegistryError (ℤ × Bool) :=
  match entry.channelMode with
  | .single =>
    if item.channelIndex = none ∨ item.channelIndex = some 0 then do
      let channel ← singleChannel host systemId item resolvedKey
      pure (channel, false)
    else pure (rawChannel item, true)
  | .fixed =>
    pure (rawChannel item, !item.channelIndex.any fun c => decide (c < entry.channelRoles.length))
  | .generic => pure (rawChannel item, false)

/-- Each bound on its own: of the series, of the site, of the catalogue. -/
def outOfRange (entry : EntryRow) (series : Option SeriesRow) (value : F64) : Bool :=
  let min := ((series.bind SeriesRow.rangeMin).or entry.localMin).or entry.physicalMin
  let max := ((series.bind SeriesRow.rangeMax).or entry.localMax).or entry.physicalMax
  min.any (fun lo => value.lt lo) || max.any fun hi => hi.lt value

def evaluateItem : Tx (LedgerDb × RegistryDb) RegistryError RegistryVerdict := do
  match ← resolveKey host systemId item with
  | none => pure (.accept item.measurementKey (rawChannel item) (some .unknownKey))
  | some (entry, resolvedKey) =>
    match interpretValue host item entry with
    | .error message => pure (.rejectItem .valueTypeMismatch message)
    | .ok value =>
      let (channel, undeclared) ← resolveChannel host systemId item entry resolvedKey
      if undeclared then pure (.accept resolvedKey channel (some .undeclaredChannel))
      else
        let series ← onLedger
          (Ledger.findSeriesMeta systemId resolvedKey channel (itemVariant item))
        if outOfRange entry series value then pure (.accept resolvedKey channel (some .outOfRange))
        else pure (.accept resolvedKey channel none)

end Registry

/-- The policy of a node: all its state is in the database. -/
def sqliteRegistry (host : Host) : RegistryPolicy RegistryDb where
  evaluate systemId item := (Registry.evaluateItem host systemId item).mapError RegistryError.toText

end EdgeNode
