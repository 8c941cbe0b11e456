import Mathlib.Data.Nat.Notation

/-!
# Model identifiers

The check a model identifier passes before a positional device is bound to it and before a
descriptor names it. It reads the bytes of the text once, from left to right, and remembers only
whether the last one was a separator.
-/

namespace EdgeNode.Ledger

def maxModelIdBytes : ℕ := 64

def isAsciiLowercase (byte : UInt8) : Bool := 97 ≤ byte && byte ≤ 122

def isAsciiDigit (byte : UInt8) : Bool := 48 ≤ byte && byte ≤ 57

def isSeparator (byte : UInt8) : Bool := byte == 45 || byte == 95 || byte == 46

def scanModelId : (afterSeparator : Bool) → List UInt8 → Bool
  | afterSeparator, [] => !afterSeparator
  | afterSeparator, byte :: bytes =>
    if isAsciiLowercase byte || isAsciiDigit byte then scanModelId false bytes
    else if isSeparator byte && !afterSeparator then scanModelId true bytes
    else false

def isValidModelId (value : String) : Bool :=
  match value.toUTF8.data.toList with
  | [] => false
  | first :: rest =>
    if maxModelIdBytes < (first :: rest).length || !isAsciiLowercase first then false
    else scanModelId false rest

end EdgeNode.Ledger
