import EdgeNode.Ledger.Store

/-!
# The standard catalogue

The measurements the node knows without being told, and the digest that identifies the definition of
an entry.
-/

namespace EdgeNode

inductive ValueType where
  | float
  | int
  | bool
  | record
  deriving DecidableEq, Repr

def ValueType.asDb : ValueType → String
  | .float => "float"
  | .int => "int"
  | .bool => "bool"
  | .record => "record"

/-- Which channels of a measurement are canonical: none or 0, every one, or those with a role. -/
inductive ChannelMode where
  | single
  | generic
  | fixed
  deriving DecidableEq, Repr

def ChannelMode.asDb : ChannelMode → String
  | .single => "single"
  | .generic => "generic"
  | .fixed => "fixed"

structure Range where
  min : F64
  max : F64
  deriving DecidableEq, Repr

structure CatalogEntry where
  key : String
  unitUcum : Option String := none
  unitDisplay : Option String := none
  valueType : ValueType
  semanticClass : String
  channelMode : ChannelMode
  channelRoles : List String := []
  physicalRange : Option Range := none
  deriving DecidableEq, Repr

structure Catalog where
  catalogVersion : String
  measurements : List CatalogEntry

def Catalog.find (catalog : Catalog) (key : String) : Option CatalogEntry :=
  catalog.measurements.find? fun m => m.key == key

/-- The text an entry's revision is the digest of. -/
def CatalogEntry.canonical (displayFloat : F64 → String) (entry : CatalogEntry) : String :=
  "\x1f".intercalate
    [entry.key, entry.unitUcum.getD "", entry.unitDisplay.getD "", entry.valueType.asDb,
      entry.semanticClass, entry.channelMode.asDb, ",".intercalate entry.channelRoles,
      entry.physicalRange.elim "" fun r => displayFloat r.min ++ ".." ++ displayFloat r.max]

def CatalogEntry.revision (host : Host) (entry : CatalogEntry) : String :=
  host.sha256 (entry.canonical host.displayFloat)

def standardCatalog : Catalog where
  catalogVersion := "1.0.0"
  measurements :=
    [{ key := "contact_state", unitUcum := some "1", valueType := .bool,
        semanticClass := "sensor", channelMode := .generic },
      { key := "contact_output_state", unitUcum := some "1", valueType := .bool,
        semanticClass := "actuator_state", channelMode := .generic },
      { key := "voltage_mv", unitUcum := some "mV", unitDisplay := some "mV", valueType := .float,
        semanticClass := "sensor", channelMode := .generic },
      { key := "distance_mm", unitUcum := some "mm", unitDisplay := some "mm", valueType := .float,
        semanticClass := "sensor", channelMode := .single,
        physicalRange := some ⟨.ofInt 0, .ofInt 4000⟩ },
      { key := "temperature_c", unitUcum := some "Cel", unitDisplay := some "℃",
        valueType := .float, semanticClass := "sensor", channelMode := .single,
        physicalRange := some ⟨.ofInt (-200), .ofInt 1372⟩ },
      { key := "acceleration_mg", unitUcum := some "m[G]", unitDisplay := some "mG",
        valueType := .float, semanticClass := "sensor", channelMode := .fixed,
        channelRoles := ["x", "y", "z"], physicalRange := some ⟨.ofInt (-16000), .ofInt 16000⟩ },
      { key := "differential_pressure_pa", unitUcum := some "Pa", unitDisplay := some "Pa",
        valueType := .float, semanticClass := "sensor", channelMode := .single,
        physicalRange := some ⟨.ofInt (-500), .ofInt 500⟩ },
      { key := "illuminance_lux", unitUcum := some "lx", unitDisplay := some "lx",
        valueType := .float, semanticClass := "sensor", channelMode := .single,
        physicalRange := some ⟨.ofInt 0, .ofInt 88000⟩ },
      { key := "current_ma", unitUcum := some "mA", unitDisplay := some "mA", valueType := .float,
        semanticClass := "sensor", channelMode := .generic,
        physicalRange := some ⟨.ofInt 0, .ofInt 25⟩ },
      { key := "vibration_spectrum", valueType := .record, semanticClass := "sensor",
        channelMode := .single }]

end EdgeNode
