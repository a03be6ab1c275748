import StackProfiler.Decimal.Shortest
import StackProfiler.Text.Quoted
/-!
# Why a text cannot be read

Reading a JSON text goes through it once, from left to right, and the first problem decides. It is one
of three: the text ends within a value, something is not JSON, or the JSON is not of the wanted shape.
Only the third has details.
-/

namespace StackProfiler

namespace Json

/-- What stands in the text where something else was wanted. -/
inductive Found
  | integer (value : Int)
  /-- A number that is not an integer of 64 bits, by the bits of its floating point value. -/
  | float (bits : UInt64)
  | boolean (value : Bool)
  | str (text : String)
  | null
  | sequence
  | map
  deriving DecidableEq

/-- Numbers from `1e-5` up to below `1e16` are written without an exponent. -/
def numberLayout : Decimal.Layout := ⟨-5, 15⟩

/-- What was found, in words. -/
def Found.text : Found → String
  | .integer value => s!"integer `{value}`"
  | .float bits => s!"floating point `{Decimal.textOfBits bits numberLayout}`"
  | .boolean value => s!"boolean `{value}`"
  | .str text => s!"string {Text.quoted text}"
  | .null => "null"
  | .sequence => "sequence"
  | .map => "map"

/-- How a value can miss the wanted shape. -/
inductive Mismatch
  | wrongType (found : Found) (expected : String)
  /-- An integer that the wanted type does not have. -/
  | outOfRange (value : Int) (expected : String)
  /-- An array with too few elements for the fields it stands for. -/
  | wrongLength (length : Nat) (record : String) (fields : Nat)
  | missingField (field : String)
  | duplicateField (field : String)
  | unknownVariant (variant : String) (known : List String)
  deriving DecidableEq

/-- The known variants in words: two are joined by `or`, more are listed. -/
def alternatives (known : List String) : String :=
  match known.map fun name => s!"`{name}`" with
  | [a, b] => s!"{a} or {b}"
  | names => "one of " ++ ", ".intercalate names

/-- The wording of a mismatch. -/
def Mismatch.message : Mismatch → String
  | .wrongType found expected => s!"invalid type: {found.text}, expected {expected}"
  | .outOfRange value expected => s!"invalid value: integer `{value}`, expected {expected}"
  | .wrongLength length record fields =>
    s!"invalid length {length}, expected struct {record} with {fields} elements"
  | .missingField field => s!"missing field `{field}`"
  | .duplicateField field => s!"duplicate field `{field}`"
  | .unknownVariant variant known =>
    s!"unknown variant `{variant}`, expected {alternatives known}"

/-- Why reading stops. -/
inductive Fault
  /-- The text ends within a value, or there is none. -/
  | ended
  /-- Not JSON at this place. -/
  | malformed
  /-- JSON so far, but not of the wanted shape. -/
  | mismatch (cause : Mismatch)
  deriving DecidableEq

/-- The details of a fault, which only a mismatch has. -/
def Fault.message? : Fault → Option String
  | .ended | .malformed => none
  | .mismatch cause => some cause.message

end Json

end StackProfiler
