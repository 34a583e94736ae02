import TreeTool.Coded

/-!
# The tool's vocabulary

Encodings of an automaton, directions, search orders, algorithms and operations, with their codes
and tokens. A direction has a second pair of tokens, forward and backward, which the tool uses
for finite automata; `Direction.tokenFor` and `Direction.ofTokenFor` select the pair by encoding.
-/

namespace TreeTool

inductive Encoding
  | explicit | bddTopDown | bddBottomUp | explicitFa
  deriving DecidableEq, Repr, Inhabited

instance : Coded Encoding where
  label := "encoding"
  least := 0
  greatest := 3
  values := [.explicit, .bddTopDown, .bddBottomUp, .explicitFa]
  code
    | .explicit => 0
    | .bddTopDown => 1
    | .bddBottomUp => 2
    | .explicitFa => 3
  token
    | .explicit => "expl"
    | .bddTopDown => "bdd-td"
    | .bddBottomUp => "bdd-bu"
    | .explicitFa => "expl_fa"

inductive Direction
  | down | up
  deriving DecidableEq, Repr, Inhabited

instance : Coded Direction where
  label := "direction"
  least := 0
  greatest := 1
  values := [.down, .up]
  code
    | .down => 0
    | .up => 1
  token
    | .down => "down"
    | .up => "up"

inductive Order
  | breadth | depth
  deriving DecidableEq, Repr

instance : Inhabited Order := ⟨.depth⟩

instance : Coded Order where
  label := "order"
  least := 0
  greatest := 1
  values := [.breadth, .depth]
  code
    | .breadth => 0
    | .depth => 1
  token
    | .breadth => "breadth"
    | .depth => "depth"

inductive Algorithm
  | antichains | congruence
  deriving DecidableEq, Repr, Inhabited

instance : Coded Algorithm where
  label := "algorithm"
  least := 0
  greatest := 1
  values := [.antichains, .congruence]
  code
    | .antichains => 0
    | .congruence => 1
  token
    | .antichains => "antichains"
    | .congruence => "congr"

inductive Operation
  | load | witness | complement | union | intersection
  | simulation | reduction | equivalence | inclusion | help
  deriving DecidableEq, Repr

instance : Coded Operation where
  label := "operation"
  least := 0
  greatest := 9
  values := [.load, .witness, .complement, .union, .intersection,
    .simulation, .reduction, .equivalence, .inclusion, .help]
  code
    | .load => 0
    | .witness => 1
    | .complement => 2
    | .union => 3
    | .intersection => 4
    | .simulation => 5
    | .reduction => 6
    | .equivalence => 7
    | .inclusion => 8
    | .help => 9
  token
    | .load => "load"
    | .witness => "witness"
    | .complement => "cmpl"
    | .union => "union"
    | .intersection => "isect"
    | .simulation => "sim"
    | .reduction => "red"
    | .equivalence => "equiv"
    | .inclusion => "incl"
    | .help => "help"

namespace Direction

def faToken : Direction → String
  | down => "fwd"
  | up => "bwd"

def tokenFor (e : Encoding) (d : Direction) : String :=
  match e with
  | .explicitFa => d.faToken
  | _ => Coded.token d

def ofTokenFor (e : Encoding) (t : String) : Except Fault Direction :=
  match e with
  | .explicitFa =>
    if t = "fwd" then .ok .down
    else if t = "bwd" then .ok .up
    else .error (.unknownToken (Coded.label Direction) t)
  | _ => Coded.ofToken Direction t

end Direction

namespace Encoding

def read (t : String) : Except Fault Encoding := Coded.ofToken Encoding t

end Encoding

namespace Direction

/-- Where no encoding is at hand both pairs of tokens are accepted. -/
def read (t : String) : Except Fault Direction :=
  match Coded.ofToken Direction t with
  | .ok d => .ok d
  | .error _ => ofTokenFor .explicitFa t

end Direction

namespace Order

def read (t : String) : Except Fault Order := Coded.ofToken Order t

end Order

namespace Algorithm

def read (t : String) : Except Fault Algorithm := Coded.ofToken Algorithm t

end Algorithm

inductive BundleKind
  | inclusion | direction | equivalence
  deriving DecidableEq, Repr

namespace BundleKind

def name : BundleKind → String
  | inclusion => "inclusion"
  | direction => "direction"
  | equivalence => "equivalence"

end BundleKind

namespace Operation

def read (t : String) : Except Fault Operation := Coded.ofToken Operation t

def arity : Operation → Nat
  | help => 0
  | load | witness | complement | simulation | reduction => 1
  | union | intersection | equivalence | inclusion => 2

def bundleKind : Operation → Option BundleKind
  | inclusion => some .inclusion
  | simulation | reduction => some .direction
  | equivalence => some .equivalence
  | _ => none

end Operation

end TreeTool
