import TreeTool.Options.Bundle

/-!
# Reading a bundle from an option text

The items are split off first, so a structural defect anywhere wins over an unknown key or a bad
value. Then each item replaces one option of the default bundle, from the left.
-/

namespace TreeTool

open Options (Item Refusal)

namespace Options

def boolValue (i : Item) : Except Refusal Bool :=
  if i.value = "yes" then .ok true
  else if i.value = "no" then .ok false
  else .error (.notBool i.key i.value)

def tokenValue {α : Type} (label : String) (i : Item) (read : String → Except Fault α) :
    Except Refusal α :=
  match read i.value with
  | .ok v => .ok v
  | .error _ => .error (.unknownToken label i.value)

end Options

open Options

namespace InclusionOptions

def set (o : InclusionOptions) (i : Item) : Except Refusal InclusionOptions :=
  if i.key = "dir" then
    (tokenValue "direction" i (Coded.ofToken Direction)).map fun d => { o with direction := d }
  else if i.key = "order" then
    (tokenValue "order" i (Coded.ofToken Order)).map fun r => { o with order := r }
  else if i.key = "alg" then
    (tokenValue "algorithm" i (Coded.ofToken Algorithm)).map fun a => { o with algorithm := a }
  else if i.key = "sim" then (boolValue i).map fun b => { o with simulation := b }
  else if i.key = "optC" then (boolValue i).map fun b => { o with cacheOptimization := b }
  else if i.key = "rec" then (boolValue i).map fun b => { o with recursion := b }
  else if i.key = "timeS" then (boolValue i).map fun b => { o with simulationTime := b }
  else .error (.unknownKey i.key BundleKind.inclusion.name)

end InclusionOptions

namespace Bundle

def set (e : Encoding) (b : Bundle) (i : Item) : Except Refusal Bundle :=
  match b with
  | inclusion o => (o.set i).map inclusion
  | direction _ =>
    if i.key = "dir" then
      (tokenValue "direction" i (Direction.ofTokenFor e)).map direction
    else .error (.unknownKey i.key BundleKind.direction.name)
  | equivalence _ =>
    if i.key = "order" then
      (tokenValue "order" i (Coded.ofToken Order)).map equivalence
    else .error (.unknownKey i.key BundleKind.equivalence.name)

def setAll (e : Encoding) : Bundle → List Item → Except Refusal Bundle
  | b, [] => .ok b
  | b, i :: is =>
    match b.set e i with
    | .error r => .error r
    | .ok b' => setAll e b' is

def readKind (k : BundleKind) (e : Encoding) (text : String) : Except Refusal Bundle :=
  match Item.split text with
  | .error r => .error r
  | .ok is => (default k).setAll e is

def readAs (k : BundleKind) (e : Encoding) (text : String) : Except Fault Bundle :=
  (readKind k e text).mapError fun r => .malformedOptions text r.text

/-- Reads the bundle that `op` takes under `e`; an operation without options refuses every text. -/
def read (op : Operation) (e : Encoding) (text : String) : Except Fault Bundle :=
  match op.bundleKind with
  | none => .error (.optionsMismatch (Coded.token op) "no" "parsed")
  | some k =>
    match readKind k e text with
    | .ok b => .ok b
    | .error r => .error (.malformedOptions text r.text)

end Bundle

end TreeTool
