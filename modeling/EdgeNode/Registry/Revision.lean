import EdgeNode.Registry.Define

/-!
# What a catalogue has to meet

The checks a catalogue passes before any of its entries is enabled. An operator's own entry passes
nearly the same ones, one field at a time, when it is defined. The digest of an entry is taken of the
text all its fields are joined in.
-/

namespace EdgeNode

inductive CatalogError where
  | parse (message : String)
  | invalid (message : String)
  deriving DecidableEq, Repr

def validateCatalogEntry (seen : List String) (m : CatalogEntry) : Except CatalogError Unit :=
  match validateMeasurementKey m.key with
  | .error e => .error (.invalid ("key '" ++ m.key ++ "': " ++ e.toText))
  | .ok () =>
    if m.key ∈ seen then .error (.invalid ("duplicate key '" ++ m.key ++ "'"))
    else if m.channelMode = .fixed ∧ m.channelRoles.isEmpty then
      .error (.invalid ("key '" ++ m.key ++ "': fixed channel_mode requires channel_roles"))
    else if m.channelMode ≠ .fixed ∧ !m.channelRoles.isEmpty then
      .error (.invalid ("key '" ++ m.key ++ "': channel_roles only allowed for fixed mode"))
    else if m.physicalRange.any fun r => !r.min.lt r.max then
      .error (.invalid ("key '" ++ m.key ++ "': physical_range min must be < max"))
    else if m.valueType = .record ∧ m.physicalRange.isSome then
      .error (.invalid ("key '" ++ m.key ++ "': record type cannot carry a physical_range"))
    else .ok ()

def validateMeasurements : List String → List CatalogEntry → Except CatalogError Unit
  | _, [] => .ok ()
  | seen, m :: measurements =>
    match validateCatalogEntry seen m with
    | .error e => .error e
    | .ok () => validateMeasurements (m.key :: seen) measurements

/-- A catalogue from its text; reading the text itself is the work of `fromText`. -/
def parseCatalog (fromText : String → Except String Catalog) (text : String) :
    Except CatalogError Catalog :=
  match fromText text with
  | .error e => .error (.parse e)
  | .ok catalog =>
    match validateMeasurements [] catalog.measurements with
    | .error e => .error e
    | .ok () => .ok catalog

end EdgeNode
