import EdgeNode.Proofs.Registry
import EdgeNode.Proofs.SeriesKeys
import EdgeNode.Registry.Revision

/-!
# What the revision of an entry tells apart

The fields of an entry are joined with a separator that the free texts among them may contain, roles
with commas that a role may contain, and an absent unit is written like an empty one. So two entries
have one text exactly when they have the same key, the same range and the same pieces between the
separators.
-/

namespace EdgeNode

namespace Registry

/-! ## Entries that are accepted -/

inductive Accepted (e : CatalogEntry) : Prop
  | catalog (fromText : String → Except String Catalog) (text : String) (catalog : Catalog)
      (h : parseCatalog fromText text = .ok catalog) (hmem : e ∈ catalog.measurements)
  | custom (spec : CustomEntrySpec) (range : Option Range)
      (h : validateCustomEntrySpec spec = .ok ()) (hrange : customPhysicalRange spec = .ok range)
      (heq : e = CustomEntrySpec.entry spec range)

structure Sound (e : CatalogEntry) : Prop where
  key : EdgeNode.validateMeasurementKey e.key = .ok ()
  roles : e.channelMode = .fixed ↔ e.channelRoles ≠ []
  range : ∀ r ∈ e.physicalRange, r.min.lt r.max = true

theorem sound_of_validateCatalogEntry {seen : List String} {e : CatalogEntry}
    (h : validateCatalogEntry seen e = .ok ()) : Sound e := by
  unfold validateCatalogEntry at h
  split at h
  · exact nomatch h
  · rename_i hkey
    split_ifs at h with hseen hfixed hother hrange hrecord
    simp only [List.isEmpty_iff, not_and, Bool.not_eq_true', List.isEmpty_eq_false_iff,
      ne_eq, not_not] at hfixed hother
    refine ⟨hkey, ⟨hfixed, fun hroles => ?_⟩, fun r hr => ?_⟩
    · by_contra hmode
      exact hroles (hother hmode)
    · rw [Option.mem_def.1 hr] at hrange
      simpa using hrange

theorem sound_of_validateMeasurements :
    ∀ {seen : List String} {measurements : List CatalogEntry},
      validateMeasurements seen measurements = .ok () → ∀ e ∈ measurements, Sound e
  | _, [], _, _, he => nomatch he
  | seen, m :: measurements, h, e, he => by
    rw [validateMeasurements] at h
    split at h
    · exact nomatch h
    · rename_i hm
      rcases List.mem_cons.1 he with rfl | he
      · exact sound_of_validateCatalogEntry hm
      · exact sound_of_validateMeasurements h e he

theorem customPhysicalRange_ok {spec : CustomEntrySpec} {range : Option Range}
    (h : customPhysicalRange spec = .ok range) : ∀ r ∈ range, r.min.lt r.max = true := by
  unfold customPhysicalRange at h
  simp only at h
  intro r hr
  split at h
  · rename_i min max _ _
    split_ifs at h with hlt
    obtain rfl := Except.ok.inj h
    obtain rfl := Option.some.inj (Option.mem_def.1 hr)
    exact hlt
  · split_ifs at h
    obtain rfl := Except.ok.inj h
    exact nomatch hr
  · exact nomatch h

theorem sound_of_validateCustomEntrySpec {spec : CustomEntrySpec} {range : Option Range}
    (h : validateCustomEntrySpec spec = .ok ()) (hrange : customPhysicalRange spec = .ok range) :
    Sound (CustomEntrySpec.entry spec range) := by
  have hkey := validateCustomEntrySpec_key h
  have hok : validateMeasurementKey spec.measurementKey = .ok () := by
    rw [validateMeasurementKey, hkey]
    rfl
  unfold validateCustomEntrySpec at h
  rw [hok] at h
  split_ifs at h with hcustom hfixed hother
  · exact nomatch h
  · exact nomatch h
  · simp only [List.isEmpty_iff, not_and, Bool.not_eq_true', List.isEmpty_eq_false_iff,
      ne_eq, not_not] at hfixed hother
    refine ⟨hkey, ⟨hfixed, fun hroles => ?_⟩, customPhysicalRange_ok hrange⟩
    by_contra hmode
    exact hroles (hother hmode)

theorem Accepted.sound {e : CatalogEntry} (h : Accepted e) : Sound e := by
  cases h with
  | catalog fromText text catalog h hmem =>
    unfold parseCatalog at h
    split at h
    · exact nomatch h
    · split at h
      · exact nomatch h
      · rename_i hvalid
        obtain rfl := Except.ok.inj h
        exact sound_of_validateMeasurements hvalid e hmem
  | custom spec range h hrange heq =>
    rw [heq]
    exact sound_of_validateCustomEntrySpec h hrange

/-! ## The pieces of a text -/

def cut (text : String) : List (List Char) := text.toList.splitOn '\x1f'

theorem splitOn_intercalate_flatMap {sep : Char} :
    ∀ {ls : List (List Char)}, ls ≠ [] →
      ([sep].intercalate ls).splitOn sep = ls.flatMap (List.splitOn sep)
  | [], h => absurd rfl h
  | [l], _ => by simp
  | l :: l' :: ls, _ => by
    rw [List.intercalate_cons_cons, List.append_assoc, List.singleton_append,
      List.splitOn_append_cons_self, splitOn_intercalate_flatMap (List.cons_ne_nil l' ls)]
    rfl

def between (e : CatalogEntry) : List (List Char) :=
  cut (e.unitUcum.getD "") ++ cut (e.unitDisplay.getD "") ++ cut e.valueType.asDb
    ++ cut e.semanticClass ++ cut e.channelMode.asDb ++ cut (",".intercalate e.channelRoles)

def rangeText (displayFloat : F64 → String) (range : Option Range) : String :=
  range.elim "" fun r => displayFloat r.min ++ ".." ++ displayFloat r.max

/-! ## Numbers in texts -/

/-- What is used of the writing of numbers: it tells them apart, does not contain the separator, and
has something else than another point behind a point. -/
structure Displays (displayFloat : F64 → String) : Prop where
  same : ∀ x y, x ≠ .nan → y ≠ .nan →
    (displayFloat x = displayFloat y ↔ x.lt y = false ∧ y.lt x = false)
  separator : ∀ x, '\x1f' ∉ (displayFloat x).toList
  point : ∀ x before after, (displayFloat x).toList = before ++ '.' :: after →
    ∃ c rest, after = c :: rest ∧ c ≠ '.'

def SameRange : Option Range → Option Range → Prop
  | none, none => True
  | some r, some r' => (r.min.lt r'.min = false ∧ r'.min.lt r.min = false)
      ∧ r.max.lt r'.max = false ∧ r'.max.lt r.max = false
  | _, _ => False

/-! ## Two entries -/

structure SameDefinition (e e' : CatalogEntry) : Prop where
  key : e.key = e'.key
  unitUcum : e.unitUcum = e'.unitUcum
  unitDisplay : e.unitDisplay = e'.unitDisplay
  valueType : e.valueType = e'.valueType
  semanticClass : e.semanticClass = e'.semanticClass
  channelMode : e.channelMode = e'.channelMode
  channelRoles : e.channelRoles = e'.channelRoles
  range : SameRange e.physicalRange e'.physicalRange

/-- Entries that differ in nothing but where their texts are cut. -/
structure Confused (e e' : CatalogEntry) : Prop where
  key : e.key = e'.key
  pieces : between e = between e'
  range : SameRange e.physicalRange e'.physicalRange
  differ : ¬ SameDefinition e e'

/-- No unit is empty, no text contains the separator and no role a comma. -/
structure Plain (e : CatalogEntry) : Prop where
  unitUcum : ∀ text ∈ e.unitUcum, text ≠ "" ∧ '\x1f' ∉ text.toList
  unitDisplay : ∀ text ∈ e.unitDisplay, text ≠ "" ∧ '\x1f' ∉ text.toList
  semanticClass : '\x1f' ∉ e.semanticClass.toList
  channelRoles : ∀ role ∈ e.channelRoles, '\x1f' ∉ role.toList ∧ ',' ∉ role.toList

/-! ## One role or two -/

def twoRoles : CustomEntrySpec where
  measurementKey := "custom.tilt"
  unitUcum := some "deg"
  unitDisplay := none
  valueType := .float
  semanticClass := "sensor"
  channelMode := .fixed
  channelRoles := ["x", "y"]
  physicalMin := none
  physicalMax := none

def oneRole : CustomEntrySpec := { twoRoles with channelRoles := ["x,y"] }

def ratio (significand exponent : ℤ) : ℚ := significand * 2 ^ exponent

def strokes : F64 → ℕ
  | .nan => 0
  | .inf false => 1
  | .inf true => 2
  | .finite m e => Encodable.encode (ratio m e) + 3

def tally (x : F64) : String := String.ofList (List.replicate (strokes x) '1')

end Registry

end EdgeNode
