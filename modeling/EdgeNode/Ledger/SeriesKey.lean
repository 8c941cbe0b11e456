import EdgeNode.Lib.Hex
import EdgeNode.Ledger.Store

/-!
# The text a series is listed under

A series is listed by the text of its key columns, joined with colons, and found again by splitting
that text. A channel is written in decimal and no channel as `na`; a device as its UUID, in lower case
with hyphens.
-/

namespace EdgeNode

/-! ## Numbers and identifiers in texts -/

/-- A whole number of 32 bits, with an optional sign. -/
def parseI32 (text : String) : Option ℤ :=
  let number (negative : Bool) (digits : List Char) : Option ℤ :=
    if digits.isEmpty || !digits.all Char.isDigit then none
    else
      let n : ℤ := Nat.ofDigitChars 10 digits 0
      let i := if negative then -n else n
      if -2 ^ 31 ≤ i ∧ i < 2 ^ 31 then some i else none
  match text.toList with
  | '-' :: digits => number true digits
  | '+' :: digits => number false digits
  | digits => number false digits

namespace SystemId

def toText (systemId : SystemId) : String :=
  let digits := hexDigits 32 systemId.bytes.toNat
  String.ofList (digits.take 8 ++ '-' :: ((digits.drop 8).take 4 ++ '-' :: ((digits.drop 12).take 4
    ++ '-' :: ((digits.drop 16).take 4 ++ '-' :: digits.drop 20))))

def parseSimple (digits : List Char) : Option SystemId :=
  if digits.length = 32 then (hexNumber digits).map fun n => ⟨BitVec.ofNat 128 n⟩ else none

def parseHyphenated (text : List Char) : Option SystemId :=
  let groups := text.splitOn '-'
  if groups.map List.length = [8, 4, 4, 4, 12] then parseSimple groups.flatten else none

/-- A UUID without hyphens, with them, in braces or as a URN. -/
def fromText (text : String) : Except LedgerError SystemId :=
  let chars := text.toList
  let found :=
    if chars.length = 32 then parseSimple chars
    else if chars.length = 38 ∧ chars.head? = some '\x7b' ∧ chars.getLast? = some '\x7d' then
      parseHyphenated chars.tail.dropLast
    else if chars.length = 45 ∧ "urn:uuid:".toList.isPrefixOf chars then
      parseHyphenated (chars.drop 9)
    else parseHyphenated chars
  match found with
  | some systemId => .ok systemId
  | none => .error (.invalidId text)

end SystemId

/-! ## Series keys -/

def channelText (channelIndex : ℤ) : String :=
  if channelIndex = channelNa then "na" else toString channelIndex

structure ParsedSeriesKey where
  systemId : SystemId
  measurementKey : String
  channelIndex : ℤ
  variant : String
  deriving DecidableEq, Repr

structure SeriesListRow where
  seriesId : ℕ
  seriesKey : String
  systemId : String
  userLabel : Option String
  deriving DecidableEq, Repr

namespace Ledger

def seriesKeyOf (systemId : SystemId) (measurementKey : String) (channelIndex : ℤ)
    (variant : String) : String :=
  systemId.toText ++ ":" ++ measurementKey ++ ":" ++ channelText channelIndex ++ ":" ++ variant

def parseSeriesKey (key : String) : Except LedgerError ParsedSeriesKey :=
  match (key.toList.splitOn ':').map String.ofList with
  | [device, measurementKey, channel, variant] => do
    let systemId ← SystemId.fromText device
    if channel = "na" then .ok ⟨systemId, measurementKey, channelNa, variant⟩
    else
      match parseI32 channel with
      | some channelIndex => .ok ⟨systemId, measurementKey, channelIndex, variant⟩
      | none => .error (.invalidId ("invalid series channel: " ++ key))
  | _ => .error (.invalidId ("series_key must have 4 colon-separated parts: " ++ key))

def findSeriesByKey (key : String) : Tx LedgerDb LedgerError (Option ℕ) := do
  let parsed ← Tx.ofExcept (parseSeriesKey key)
  Tx.query .sqlite fun db => (findSeries db parsed.systemId parsed.measurementKey
    parsed.channelIndex parsed.variant).map Prod.fst

def listRow (db : LedgerDb) (r : ℕ × SeriesRow) : SeriesListRow where
  seriesId := r.1
  seriesKey := seriesKeyOf r.2.systemId r.2.measurementKey r.2.channelIndex r.2.variant
  systemId := r.2.systemId.toText
  userLabel := (db.devices.lookup r.2.systemId).bind DeviceRow.userLabel

def listSeries : Tx LedgerDb LedgerError (List SeriesListRow) :=
  Tx.query .sqlite fun db => db.series.rows.map (listRow db)

end Ledger

end EdgeNode
