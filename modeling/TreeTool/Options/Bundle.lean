import TreeTool.Vocabulary
import TreeTool.Options.Item

/-!
# Option bundles

A bundle is the set of options an operation takes: seven for inclusion, a direction for simulation
and reduction, an order for equivalence. `Bundle.items` lists the options a bundle writes, and
`Bundle.text` renders them for an encoding. Inclusion always uses the down and up tokens.
-/

namespace TreeTool

open Options (Item)

structure InclusionOptions where
  direction : Direction := .down
  algorithm : Algorithm := .antichains
  simulation : Bool := false
  order : Order := .depth
  cacheOptimization : Bool := false
  recursion : Bool := false
  simulationTime : Bool := true
  deriving DecidableEq, Repr, Inhabited

namespace InclusionOptions

/-- Decodes the codes in the order direction, algorithm, order and reports the first bad one. -/
def ofCodes (direction algorithm : Int) (simulation : Bool) (order : Int)
    (cacheOptimization recursion simulationTime : Bool) : Except Fault InclusionOptions := do
  let d ← Coded.ofCode Direction direction
  let a ← Coded.ofCode Algorithm algorithm
  let o ← Coded.ofCode Order order
  return ⟨d, a, simulation, o, cacheOptimization, recursion, simulationTime⟩

def items (o : InclusionOptions) : List Item :=
  [⟨"dir", Coded.token o.direction⟩,
    ⟨"order", Coded.token o.order⟩,
    ⟨"alg", Coded.token o.algorithm⟩,
    ⟨"sim", boolToken o.simulation⟩,
    ⟨"optC", boolToken o.cacheOptimization⟩,
    ⟨"rec", boolToken o.recursion⟩,
    ⟨"timeS", boolToken o.simulationTime⟩]

end InclusionOptions

inductive Bundle
  | inclusion (options : InclusionOptions)
  | direction (direction : Direction)
  | equivalence (order : Order)
  deriving DecidableEq, Repr

namespace Bundle

def kind : Bundle → BundleKind
  | inclusion _ => .inclusion
  | direction _ => .direction
  | equivalence _ => .equivalence

def default : BundleKind → Bundle
  | .inclusion => .inclusion {}
  | .direction => .direction .down
  | .equivalence => .equivalence .depth

def items (e : Encoding) : Bundle → List Item
  | inclusion o => o.items
  | direction d => [⟨"dir", d.tokenFor e⟩]
  | equivalence o => [⟨"order", Coded.token o⟩]

def text (e : Encoding) (b : Bundle) : String := Item.joined (b.items e)

def directionOfCode (c : Int) : Except Fault Bundle :=
  (Coded.ofCode Direction c).map direction

def equivalenceOfCode (c : Int) : Except Fault Bundle :=
  (Coded.ofCode Order c).map equivalence

end Bundle

end TreeTool
