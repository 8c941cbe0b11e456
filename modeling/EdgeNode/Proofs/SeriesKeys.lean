import EdgeNode.Collector.Contract
import EdgeNode.Ledger.SeriesKey

/-!
# Series keys

The first three parts of a series key have no colon, so the key splits into them and the parts of the
variant (`splitOn_seriesKeyOf`). A reader expects four parts and finds the series again exactly when
its variant has no colon either.
-/

namespace EdgeNode

open Tx

/-! ## Numbers and identifiers -/

theorem splitOn_append_cons {xs rest : List Char} {sep : Char} (h : sep ∉ xs) :
    (xs ++ sep :: rest).splitOn sep = xs :: rest.splitOn sep := by
  refine List.splitOnP_append_cons_of_forall_mem (fun x hx => ?_) sep (by simp) rest
  rw [beq_eq_false_iff_ne]
  rintro rfl
  exact h hx

theorem splitOn_of_notMem {xs : List Char} {sep : Char} (h : sep ∉ xs) : xs.splitOn sep = [xs] := by
  refine List.splitOnP_eq_singleton fun x hx => ?_
  rw [beq_eq_false_iff_ne]
  rintro rfl
  exact h hx

theorem splitOn_length (sep : Char) (xs : List Char) :
    (xs.splitOn sep).length = xs.count sep + 1 := by
  induction xs with
  | nil => rfl
  | cons x xs ih =>
    unfold List.splitOn at ih ⊢
    rw [List.splitOnP_cons_eq_if_modifyHead]
    split_ifs with hx <;> simp_all

namespace SystemId

theorem toText_splitOn (systemId : SystemId) :
    let digits := hexDigits 32 systemId.bytes.toNat
    systemId.toText.toList.splitOn '-' = [digits.take 8, (digits.drop 8).take 4,
      (digits.drop 12).take 4, (digits.drop 16).take 4, digits.drop 20] := by
  intro digits
  have hdigits : ∀ c ∈ digits, c ≠ '-' := fun c hc => (mem_hexDigits hc).1
  have hfirst : '-' ∉ digits.take 8 := fun h => hdigits _ (List.mem_of_mem_take h) rfl
  have htake : ∀ i k, '-' ∉ (digits.drop i).take k :=
    fun i k h => hdigits _ (List.mem_of_mem_drop (List.mem_of_mem_take h)) rfl
  unfold toText
  rw [String.toList_ofList, splitOn_append_cons hfirst, splitOn_append_cons (htake 8 4),
    splitOn_append_cons (htake 12 4), splitOn_append_cons (htake 16 4),
    splitOn_of_notMem fun h => hdigits _ (List.mem_of_mem_drop h) rfl]

theorem toText_length (systemId : SystemId) : systemId.toText.toList.length = 36 := by
  simp [toText, hexDigits_length]

theorem colon_notMem_toText (systemId : SystemId) : ':' ∉ systemId.toText.toList := by
  have hdigits : ':' ∉ hexDigits 32 systemId.bytes.toNat := fun h => (mem_hexDigits h).2 rfl
  have htake : ∀ i k, ':' ∉ ((hexDigits 32 systemId.bytes.toNat).drop i).take k :=
    fun i k h => hdigits (List.mem_of_mem_drop (List.mem_of_mem_take h))
  unfold toText
  simp only [String.toList_ofList, List.mem_append, List.mem_cons, not_or]
  exact ⟨htake 0 8, by decide, htake 8 4, by decide, htake 12 4, by decide, htake 16 4, by decide,
    fun h => hdigits (List.mem_of_mem_drop h)⟩

theorem fromText_toText (systemId : SystemId) : fromText systemId.toText = .ok systemId := by
  have hlength := systemId.toText_length
  have hsplit := systemId.toText_splitOn
  have hflat : ∀ digits : List Char, [digits.take 8, (digits.drop 8).take 4,
      (digits.drop 12).take 4, (digits.drop 16).take 4, digits.drop 20].flatten = digits := by
    intro digits
    have h16 := List.take_append_drop 4 (digits.drop 16)
    have h12 := List.take_append_drop 4 (digits.drop 12)
    have h8 := List.take_append_drop 4 (digits.drop 8)
    have h0 := List.take_append_drop 8 digits
    rw [List.drop_drop] at h16 h12 h8
    simp only [List.flatten_cons, List.flatten_nil, List.append_nil]
    rw [h16, h12, h8, h0]
  have hsimple : parseSimple (hexDigits 32 systemId.bytes.toNat) = some systemId := by
    unfold parseSimple
    rw [if_pos (hexDigits_length _ _), hexNumber_hexDigits]
    have hlt : systemId.bytes.toNat < 16 ^ 32 := systemId.bytes.isLt
    rw [Nat.mod_eq_of_lt hlt]
    simp
  have hparse : parseHyphenated systemId.toText.toList = some systemId := by
    unfold parseHyphenated
    rw [hsplit]
    dsimp only
    rw [if_pos (by simp [hexDigits_length]), hflat, hsimple]
  unfold fromText
  simp [hlength, hparse]

end SystemId

theorem parseI32_natCast {n : ℕ} (h : n < 2 ^ 31) : parseI32 (toString (n : ℤ)) = some (n : ℤ) := by
  have htext : (toString (n : ℤ)).toList = Nat.toDigits 10 n := Nat.toList_repr
  have hdigit : ∀ c ∈ Nat.toDigits 10 n, c.isDigit = true :=
    fun c hc => Nat.isDigit_of_mem_toDigits (by omega) (by omega) hc
  have hvalue : Nat.ofDigitChars 10 (Nat.toDigits 10 n) 0 = n :=
    Nat.ofDigitChars_toDigits (by omega) (by omega)
  have hne : Nat.toDigits 10 n ≠ [] := Nat.toDigits_ne_nil
  unfold parseI32
  rw [htext]
  split
  · rename_i digits heq
    exact absurd (hdigit '-' (by rw [heq]; simp)) (by decide)
  · rename_i digits heq
    exact absurd (hdigit '+' (by rw [heq]; simp)) (by decide)
  · dsimp only
    rw [hvalue]
    simp only [List.isEmpty_eq_false_iff.2 hne, List.all_eq_true.2 hdigit]
    simp
    omega

/-! ## Keys of series -/

def IsChannel (channelIndex : ℤ) : Prop :=
  channelIndex = channelNa ∨ ∃ n : ℕ, n < 2 ^ 16 ∧ channelIndex = n

theorem colon_notMem_channelText {channelIndex : ℤ} (h : IsChannel channelIndex) :
    ':' ∉ (channelText channelIndex).toList := by
  unfold channelText
  rcases h with rfl | ⟨n, -, rfl⟩
  · decide
  · rw [if_neg (by unfold channelNa; omega)]
    intro hmem
    have hdigits : ':' ∈ Nat.toDigits 10 n := by
      rwa [show (toString (n : ℤ)).toList = Nat.toDigits 10 n from Nat.toList_repr] at hmem
    exact absurd (Nat.isDigit_of_mem_toDigits (by omega) (by omega) hdigits) (by decide)

theorem mem_intercalate {c sep : Char} {ls : List (List Char)} (h : c ∈ [sep].intercalate ls) :
    c = sep ∨ ∃ l ∈ ls, c ∈ l := by
  induction ls with
  | nil => simp at h
  | cons l ls ih =>
    cases ls with
    | nil => exact .inr ⟨l, by simp, by simpa using h⟩
    | cons l' ls =>
      rw [List.intercalate_cons_cons] at h
      simp only [List.mem_append, List.mem_singleton] at h
      rcases h with (h | h) | h
      · exact .inr ⟨l, by simp, h⟩
      · exact .inl h
      · rcases ih h with h | ⟨m, hm, hc⟩
        · exact .inl h
        · exact .inr ⟨m, List.mem_cons_of_mem _ hm, hc⟩

theorem isKeyChar_of_validSegment {segment : List Char} {c : Char} (h : validSegment segment = true)
    (hc : c ∈ segment) : isKeyChar c = true := by
  cases segment with
  | nil => simp at hc
  | cons first rest =>
    unfold validSegment at h
    rw [Bool.and_eq_true, List.all_eq_true] at h
    rcases List.mem_cons.1 hc with rfl | hc
    · simp [isKeyChar, h.1]
    · exact h.2 c hc

theorem isKeyChar_of_valid {key : String} {c : Char} (h : validateMeasurementKey key = .ok ())
    (hmem : c ∈ key.toList) : c = '.' ∨ isKeyChar c = true := by
  unfold validateMeasurementKey at h
  split_ifs at h
  split at h
  · simp at h
  rename_i hnone
  rw [List.find?_eq_none] at hnone
  have hjoin : ['.'].intercalate (key.toList.splitOn '.') = key.toList :=
    List.intercalate_splitOn '.'
  rw [← hjoin] at hmem
  rcases mem_intercalate hmem with hdot | ⟨segment, hsegment, hc⟩
  · exact .inl hdot
  · have hvalid : validSegment segment = true := by simpa using hnone segment hsegment
    exact .inr (isKeyChar_of_validSegment hvalid hc)

theorem colon_notMem_of_valid {key : String} (h : validateMeasurementKey key = .ok ()) :
    ':' ∉ key.toList := fun hmem => absurd (isKeyChar_of_valid h hmem) (by decide)

namespace Ledger

variable {systemId : SystemId} {measurementKey variant : String} {channelIndex : ℤ}

theorem splitOn_seriesKeyOf (hkey : validateMeasurementKey measurementKey = .ok ())
    (hchannel : IsChannel channelIndex) :
    (seriesKeyOf systemId measurementKey channelIndex variant).toList.splitOn ':'
      = systemId.toText.toList :: measurementKey.toList :: (channelText channelIndex).toList
        :: variant.toList.splitOn ':' := by
  have htext : (seriesKeyOf systemId measurementKey channelIndex variant).toList
      = systemId.toText.toList ++ ':' :: (measurementKey.toList
        ++ ':' :: ((channelText channelIndex).toList ++ ':' :: variant.toList)) := by
    simp [seriesKeyOf, String.toList_append]
  rw [htext, splitOn_append_cons systemId.colon_notMem_toText,
    splitOn_append_cons (colon_notMem_of_valid hkey),
    splitOn_append_cons (colon_notMem_channelText hchannel)]

theorem parse_channelText (h : IsChannel channelIndex) :
    channelText channelIndex = "na" ∧ channelIndex = channelNa
      ∨ channelText channelIndex ≠ "na" ∧ parseI32 (channelText channelIndex) = some channelIndex := by
  unfold channelText
  rcases h with rfl | ⟨n, hn, rfl⟩
  · exact .inl ⟨rfl, rfl⟩
  · rw [if_neg (by unfold channelNa; omega)]
    refine .inr ⟨fun hna => ?_, parseI32_natCast (by omega)⟩
    have hparse := parseI32_natCast (n := n) (by omega)
    have hnone : parseI32 "na" = none := by decide
    rw [hna, hnone] at hparse
    simp at hparse

/-- A key is read back when the variant has no colon, and is refused otherwise. -/
theorem parseSeriesKey_seriesKeyOf (hkey : validateMeasurementKey measurementKey = .ok ())
    (hchannel : IsChannel channelIndex) :
    parseSeriesKey (seriesKeyOf systemId measurementKey channelIndex variant)
      = if ':' ∈ variant.toList then .error (.invalidId ("series_key must have 4 colon-separated parts: "
          ++ seriesKeyOf systemId measurementKey channelIndex variant))
        else .ok ⟨systemId, measurementKey, channelIndex, variant⟩ := by
  unfold parseSeriesKey
  rw [splitOn_seriesKeyOf hkey hchannel]
  by_cases hcolon : ':' ∈ variant.toList
  · rw [if_pos hcolon]
    have hlength := splitOn_length ':' variant.toList
    have hpos := List.count_pos_iff.2 hcolon
    split
    · rename_i hparts
      have := congrArg List.length hparts
      simp at this
      omega
    · rfl
  · rw [if_neg hcolon, splitOn_of_notMem hcolon]
    simp only [List.map_cons, List.map_nil, String.ofList_toList, SystemId.fromText_toText]
    rcases parse_channelText hchannel with ⟨hna, rfl⟩ | ⟨hna, hparse⟩
    · rw [hna]
      rfl
    · simp only [hparse, if_neg hna]
      rfl

theorem seriesKeyOf_injective {systemId' : SystemId} {measurementKey' variant' : String}
    {channelIndex' : ℤ} (hkey : validateMeasurementKey measurementKey = .ok ())
    (hchannel : IsChannel channelIndex) (hkey' : validateMeasurementKey measurementKey' = .ok ())
    (hchannel' : IsChannel channelIndex')
    (h : seriesKeyOf systemId measurementKey channelIndex variant
      = seriesKeyOf systemId' measurementKey' channelIndex' variant') :
    systemId = systemId' ∧ measurementKey = measurementKey' ∧ channelIndex = channelIndex'
      ∧ variant = variant' := by
  have hsplit := congrArg (fun key => key.toList.splitOn ':') h
  rw [splitOn_seriesKeyOf hkey hchannel, splitOn_seriesKeyOf hkey' hchannel'] at hsplit
  simp only [List.cons.injEq, String.toList_inj] at hsplit
  obtain ⟨hdevice, hmeasurement, htext, hparts⟩ := hsplit
  refine ⟨?_, hmeasurement, ?_, ?_⟩
  · have hread := systemId.fromText_toText
    rw [hdevice, systemId'.fromText_toText] at hread
    exact (Except.ok.inj hread).symm
  · rcases parse_channelText hchannel with ⟨hna, hc⟩ | ⟨hna, hc⟩ <;>
      rcases parse_channelText hchannel' with ⟨hna', hc'⟩ | ⟨hna', hc'⟩
    · rw [hc, hc']
    · exact absurd (htext ▸ hna) hna'
    · exact absurd (htext ▸ hna') hna
    · rw [htext, hc'] at hc
      exact (Option.some.inj hc).symm
  · have hjoin : [':'].intercalate (variant.toList.splitOn ':') = variant.toList :=
      List.intercalate_splitOn ':'
    rw [hparts, List.intercalate_splitOn] at hjoin
    exact String.toList_inj.1 hjoin.symm

end Ledger

/-! ## Finding a series by its key -/

/-- A series the collector can create: of any device and variant, under a grammatical key, with a
channel a reading can have. -/
structure SeriesRow.Regular (row : SeriesRow) : Prop where
  key : validateMeasurementKey row.measurementKey = .ok ()
  channel : IsChannel row.channelIndex

def SeriesRow.columns (row : SeriesRow) : SystemId × String × ℤ × String :=
  (row.systemId, row.measurementKey, row.channelIndex, row.variant)

theorem SeriesRow.hasKey_iff {row : SeriesRow} {systemId : SystemId} {key variant : String}
    {channel : ℤ} :
    row.hasKey systemId key channel variant = true
      ↔ row.columns = (systemId, key, channel, variant) := by
  simp [SeriesRow.hasKey, SeriesRow.columns, and_assoc]

def LedgerDb.UniqueSeries (l : LedgerDb) : Prop :=
  ∀ r ∈ l.series.rows, ∀ r' ∈ l.series.rows, r.2.columns = r'.2.columns → r = r'

namespace Ledger

variable {l : LedgerDb} {r : ℕ × SeriesRow}

theorem findSeries_eq_some {systemId : SystemId} {key variant : String} {channel : ℤ}
    (h : findSeries l systemId key channel variant = some r) :
    r ∈ l.series.rows ∧ r.2.columns = (systemId, key, channel, variant) := by
  have hkey := List.find?_some h
  exact ⟨List.mem_of_find?_eq_some h, SeriesRow.hasKey_iff.1 hkey⟩

theorem findSeries_of_unique (hunique : l.UniqueSeries) (hr : r ∈ l.series.rows) :
    findSeries l r.2.systemId r.2.measurementKey r.2.channelIndex r.2.variant = some r := by
  cases hfound : findSeries l r.2.systemId r.2.measurementKey r.2.channelIndex r.2.variant with
  | none =>
    have hnot := List.find?_eq_none.1 hfound r hr
    simp [SeriesRow.hasKey] at hnot
  | some r' =>
    obtain ⟨hr', hkey⟩ := findSeries_eq_some hfound
    rw [hunique r' hr' r hr hkey]

theorem findSeriesByKey_eq (key : String) :
    findSeriesByKey key = match parseSeriesKey key with
      | .ok parsed => Tx.query .sqlite fun db => (findSeries db parsed.systemId
          parsed.measurementKey parsed.channelIndex parsed.variant).map Prod.fst
      | .error e => Tx.fail e := by
  unfold findSeriesByKey
  cases parseSeriesKey key <;> rfl

/-- A listed series is found under the key it is listed under exactly when its variant has no colon;
no other series is listed under that key. -/
theorem listed_series_found_iff_no_colon (l : LedgerDb) (hunique : l.UniqueSeries)
    (hregular : ∀ r ∈ l.series.rows, r.2.Regular) (r : ℕ × SeriesRow) (hr : r ∈ l.series.rows)
    (faults : List Bool) (n : ℕ) (hfaults : faults.head? ≠ some true) :
    ((findSeriesByKey (listRow l r).seriesKey ⟨l, faults, n⟩).1 = .ok (some (listRow l r).seriesId)
      ↔ ':' ∉ r.2.variant.toList)
    ∧ ∀ r' ∈ l.series.rows, (listRow l r').seriesKey = (listRow l r).seriesKey → r' = r := by
  obtain ⟨hkey, hchannel⟩ := hregular r hr
  refine ⟨?_, fun r' hr' hsame => ?_⟩
  · unfold listRow
    rw [findSeriesByKey_eq, parseSeriesKey_seriesKeyOf hkey hchannel]
    by_cases hcolon : ':' ∈ r.2.variant.toList
    · rw [if_pos hcolon]
      simp [Tx.fail, hcolon]
    · rw [if_neg hcolon]
      dsimp only
      rw [query_succeeds (c := ⟨l, faults, n⟩) hfaults]
      simp [findSeries_of_unique hunique hr, hcolon]
  · obtain ⟨hkey', hchannel'⟩ := hregular r' hr'
    obtain ⟨hdevice, hmeasurement, hchan, hvariant⟩ :=
      seriesKeyOf_injective hkey' hchannel' hkey hchannel hsame
    refine hunique r' hr' r hr ?_
    simp [SeriesRow.columns, hdevice, hmeasurement, hchan, hvariant]

/-! ## A series whose variant has a colon -/

def doorRow (variant : String) : SeriesRow where
  systemId := ⟨1⟩
  measurementKey := "contact_state"
  channelIndex := 0
  variant := variant
  quarantined := false
  quarantineReason := none
  createdAt := 0

def doorLedger (variant : String) : LedgerDb :=
  { LedgerDb.empty with
    series := (AutoTable.empty.insert (doorRow variant)).getD AutoTable.empty }

theorem doorLedger_rows (variant : String) :
    (doorLedger variant).series.rows = [(1, doorRow variant)] := rfl

theorem doorLedger_regular (variant : String) :
    ∀ r ∈ (doorLedger variant).series.rows, r.2.Regular := by
  have hkey : validateMeasurementKey "contact_state" = .ok () := by decide +kernel
  intro r hr
  rw [doorLedger_rows, List.mem_singleton] at hr
  subst hr
  exact ⟨hkey, .inr ⟨0, by decide, rfl⟩⟩

theorem doorLedger_unique (variant : String) : (doorLedger variant).UniqueSeries := by
  intro r hr r' hr' _
  rw [doorLedger_rows, List.mem_singleton] at hr hr'
  rw [hr, hr']

theorem primary_series_is_found :
    (findSeriesByKey (listRow (doorLedger "primary") (1, doorRow "primary")).seriesKey
      ⟨doorLedger "primary", [], 0⟩).1 = .ok (some 1) :=
  (listed_series_found_iff_no_colon (doorLedger "primary") (doorLedger_unique _)
    (doorLedger_regular _) (1, doorRow "primary") (by simp [doorLedger_rows]) [] 0 (by simp)).1.2
    (by decide)

end Ledger

end EdgeNode
