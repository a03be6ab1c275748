import StackProfiler.Json.Strings
/-!
# Writing

Texts of values without any white space between their parts.
-/

namespace StackProfiler

namespace Json

/-- A natural number in decimal digits. -/
def writeNat (n : Nat) : List Char := Nat.toDigits 10 n

/-- An integer in decimal digits, with a minus in front where it is negative. -/
def writeInt (n : Int) : List Char :=
  if n < 0 then '-' :: writeNat n.natAbs else writeNat n.natAbs

/-- A boolean. -/
def writeBool (b : Bool) : List Char :=
  if b then ['t', 'r', 'u', 'e'] else ['f', 'a', 'l', 's', 'e']

/-- Texts with commas between them. -/
def joinCommas : List (List Char) → List Char
  | [] => []
  | [text] => text
  | text :: texts => text ++ ',' :: joinCommas texts

/-- An array of values that `write` writes. -/
def writeList {α : Type} (write : α → List Char) (values : List α) : List Char :=
  '[' :: joinCommas (values.map write) ++ [']']

/-- An object of members whose values are written already. -/
def writeObject (members : List (String × List Char)) : List Char :=
  '\x7b' :: joinCommas (members.map fun (key, value) => writeString key ++ ':' :: value) ++ ['\x7d']

end Json

end StackProfiler
