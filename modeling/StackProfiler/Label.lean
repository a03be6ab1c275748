import StackProfiler.Sample.Error
/-!
# Labels

Labels tell apart samples that have the same stack. In the labels of one sample every key is present
once and none is empty (`Label.check`).
-/

namespace StackProfiler

/-- What a label says: a text or a number. -/
inductive LabelValue
  | str (text : String)
  | num (number : Int64)
  deriving DecidableEq, Hashable, Inhabited

/-- A named property of a sample. -/
structure Label where
  key : String
  value : LabelValue
  deriving DecidableEq, Hashable, Inhabited

namespace LabelValue

/-- Texts come before numbers; texts compare by code points. -/
def le : LabelValue → LabelValue → Bool
  | .str a, .str b => a ≤ b
  | .str _, .num _ => true
  | .num _, .str _ => false
  | .num a, .num b => a ≤ b

end LabelValue

namespace Label

/-- A label that carries a text. -/
def str (key text : String) : Label := ⟨key, .str text⟩

/-- A label that carries a number. -/
def num (key : String) (number : Int64) : Label := ⟨key, .num number⟩

/-- Labels are ordered by key, by code points, and then by value. -/
def le (a b : Label) : Bool :=
  a.key < b.key || (a.key = b.key && a.value.le b.value)

/-- The labels in order. -/
def sort (labels : List Label) : List Label :=
  labels.mergeSort le

/-- Goes through the labels after those with the keys `seen`, up to the first at fault: its key is empty
or has been seen. -/
def checkAfter (seen : List String) : List Label → Except SampleError Unit
  | [] => .ok ()
  | label :: labels =>
    if label.key = "" then .error .emptyLabelKey
    else if label.key ∈ seen then .error (.duplicateLabelKey label.key)
    else checkAfter (label.key :: seen) labels

/-- Whether the labels may stand on one sample. -/
def check (labels : List Label) : Except SampleError Unit :=
  checkAfter [] labels

/-- The label set of given texts and numbers, the texts first. -/
def ofPairs (texts : List (String × String)) (numbers : List (String × Int64)) :
    Except SampleError (List Label) := do
  let labels := texts.map (fun pair => str pair.1 pair.2) ++
    numbers.map (fun pair => num pair.1 pair.2)
  check labels
  return labels

end Label

end StackProfiler
