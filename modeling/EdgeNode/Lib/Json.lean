import EdgeNode.Lib.Float64

/-!
# JSON values and their compact text

The values a JSON document can hold, with the fields of an object in key order. The text has no
white space, escapes only what JSON requires, and takes the rendering of a fractional number as a
parameter.
-/

namespace EdgeNode

inductive Json where
  | null
  | bool (b : Bool)
  | int (i : ℤ)
  | float (x : F64)
  | str (s : String)
  | arr (items : List Json)
  | obj (fields : List (String × Json))

namespace Json

def get? (key : String) : Json → Option Json
  | obj fields => fields.lookup key
  | _ => none

def asStr? : Json → Option String
  | str s => some s
  | _ => none

def asArray? : Json → Option (List Json)
  | arr items => some items
  | _ => none

def asObject? : Json → Option (List (String × Json))
  | obj fields => some fields
  | _ => none

def asF64? : Json → Option F64
  | int i => some (.ofInt i)
  | float x => some x
  | _ => none

/-- An object with its fields put in key order. -/
def object (fields : List (String × Json)) : Json :=
  obj (fields.insertionSort fun a b => a.1 ≤ b.1)

mutual

def strings : Json → List String
  | str s => [s]
  | arr items => stringsOfItems items
  | obj fields => stringsOfFields fields
  | _ => []

def stringsOfItems : List Json → List String
  | [] => []
  | item :: items => strings item ++ stringsOfItems items

def stringsOfFields : List (String × Json) → List String
  | [] => []
  | (key, value) :: fields => key :: strings value ++ stringsOfFields fields

end

theorem mem_stringsOfItems {s : String} {items : List Json} :
    s ∈ stringsOfItems items ↔ ∃ item ∈ items, s ∈ item.strings := by
  induction items with
  | nil => simp [stringsOfItems]
  | cons item items ih => simp [stringsOfItems, ih]

theorem mem_stringsOfFields {s : String} {fields : List (String × Json)} :
    s ∈ stringsOfFields fields ↔ ∃ f ∈ fields, s = f.1 ∨ s ∈ f.2.strings := by
  induction fields with
  | nil => simp [stringsOfFields]
  | cons f fields ih =>
    obtain ⟨key, value⟩ := f
    simp [stringsOfFields, ih, or_assoc]

theorem mem_strings_object {s : String} {fields : List (String × Json)} :
    s ∈ (object fields).strings ↔ ∃ f ∈ fields, s = f.1 ∨ s ∈ f.2.strings := by
  simp [object, strings, mem_stringsOfFields, List.mem_insertionSort]

def hexDigit (n : ℕ) : Char := if n < 10 then Char.ofNat (48 + n) else Char.ofNat (87 + n)

def escapeChar (c : Char) : List Char :=
  match c.toNat with
  | 34 => ['\\', '"']
  | 92 => ['\\', '\\']
  | 8 => ['\\', 'b']
  | 9 => ['\\', 't']
  | 10 => ['\\', 'n']
  | 12 => ['\\', 'f']
  | 13 => ['\\', 'r']
  | n => if n < 32 then ['\\', 'u', '0', '0', hexDigit (n / 16), hexDigit (n % 16)] else [c]

def quote (s : String) : List Char := '"' :: s.toList.flatMap escapeChar ++ ['"']

mutual

def compact (showFloat : F64 → List Char) : Json → List Char
  | null => "null".toList
  | bool b => (if b then "true" else "false").toList
  | int i => (toString i).toList
  | float x => showFloat x
  | str s => quote s
  | arr items => '[' :: compactItems showFloat items ++ [']']
  | obj fields => '\x7b' :: compactFields showFloat fields ++ ['\x7d']

def compactItems (showFloat : F64 → List Char) : List Json → List Char
  | [] => []
  | [j] => compact showFloat j
  | j :: js => compact showFloat j ++ ',' :: compactItems showFloat js

def compactFields (showFloat : F64 → List Char) : List (String × Json) → List Char
  | [] => []
  | [(k, j)] => quote k ++ ':' :: compact showFloat j
  | (k, j) :: fs => quote k ++ ':' :: compact showFloat j ++ ',' :: compactFields showFloat fs

end

end Json

example : String.ofList ((Json.object [("b", .int 1), ("a", .str "x\n")]).compact fun _ => []) =
    "\x7b\"a\":\"x\\n\",\"b\":1\x7d" := by decide +kernel

end EdgeNode
