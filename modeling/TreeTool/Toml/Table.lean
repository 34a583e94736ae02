/-!
# Tables of a TOML document

A document is a table of named nodes in the order in which they came. A table remembers how it
came about, written out under a header of its own, implied by a longer header, or made by a dotted
key, because that decides which later lines may still add to it. `rootOf` puts the blocks of a
document into its root table one after the other.
-/

namespace TreeTool.Toml

inductive Float
  | decimal (negative : Bool) (mantissa : Nat) (exponent : Int)
  | infinite (negative : Bool)
  | notANumber
  deriving DecidableEq, Repr

inductive Origin
  | written | implied | dotted
  deriving DecidableEq, Repr

inductive Node
  | text (s : String)
  | integer (n : Int)
  | float (x : Float)
  | boolean (b : Bool)
  | date
  | array (items : List Node)
  | inlineTable (origin : Origin) (members : List (String × Node))
  | table (origin : Origin) (members : List (String × Node))
  | tables (earlier : List (List (String × Node))) (last : List (String × Node))
  deriving Repr, Inhabited

abbrev Members := List (String × Node)

structure Key where
  above : List String
  last : String
  deriving DecidableEq, Repr

abbrev Pair := Key × Node

namespace Members

def get? (ms : Members) (name : String) : Option Node := ms.lookup name

def put (name : String) (n : Node) : Members → Members
  | [] => [(name, n)]
  | (k, m) :: ms => if k = name then (name, n) :: ms else (k, m) :: put name n ms

def remove (ms : Members) (name : String) : Members := ms.filter (·.1 ≠ name)

def add (ms : Members) (name : String) (n : Node) : Option Members :=
  match ms.get? name with
  | none => some (ms ++ [(name, n)])
  | some _ => none

def addInline (last : String) (v : Node) : List String → Members → Option Members
  | [], ms => ms.add last v
  | k :: ks, ms =>
    match ms.get? k with
    | none => (addInline last v ks []).map fun inner => ms.put k (.inlineTable .dotted inner)
    | some (.inlineTable .dotted inner) =>
      (addInline last v ks inner).map fun inner => ms.put k (.inlineTable .dotted inner)
    | some _ => none

/-- Adds a value below a table of the given origin. No table on the way may be written out, and
the one that takes the value has to be made by dotted keys. -/
def addBelow (last : String) (v : Node) : List String → Origin → Members → Option Members
  | [], o, ms => if o = .dotted then ms.add last v else none
  | k :: ks, _, ms =>
    match ms.get? k with
    | none => (addBelow last v ks .dotted []).map fun inner => ms.put k (.table .dotted inner)
    | some (.table .written _) => none
    | some (.table o inner) =>
      (addBelow last v ks o inner).map fun inner => ms.put k (.table o inner)
    | some (.tables earlier inner) =>
      (addBelow last v ks .written inner).map fun inner => ms.put k (.tables earlier inner)
    | some _ => none

def addPair (ms : Members) : Pair → Option Members
  | (⟨[], last⟩, v) => ms.add last v
  | (⟨k :: ks, last⟩, v) => addBelow last v (k :: ks) .written ms

def addAll (ms : Members) (ps : List Pair) : Option Members := ps.foldlM addPair ms

/-- Changes the table that the names of a header lead to. Tables missing on the way are implied;
of an array of tables the last one is meant. -/
def within (f : Members → Option Members) : List String → Members → Option Members
  | [], ms => f ms
  | k :: ks, ms =>
    match ms.get? k with
    | none => (within f ks []).map fun inner => ms.put k (.table .implied inner)
    | some (.table o inner) => (within f ks inner).map fun inner => ms.put k (.table o inner)
    | some (.tables earlier inner) =>
      (within f ks inner).map fun inner => ms.put k (.tables earlier inner)
    | some _ => none

end Members

def inlineTableOf (ps : List Pair) : Option Node :=
  (ps.foldlM (fun ms (p : Pair) => Members.addInline p.1.last p.2 p.1.above ms) []).map
    (.inlineTable .written)

inductive Header
  | table (key : Key)
  | arrayTable (key : Key)
  deriving DecidableEq, Repr

structure Block where
  header : Header
  pairs : List Pair
  deriving Repr

namespace Block

/-- Puts a block into the root table. A header may take over an implied table, which then moves
to the end of the table it stands in; it may name no other table twice. -/
def place (root : Members) (b : Block) : Option Members :=
  match b.header with
  | .table key =>
    Members.within (fun parent =>
      match parent.get? key.last with
      | none => (Members.addAll [] b.pairs).map fun ms => parent.put key.last (.table .written ms)
      | some (.table .implied inner) =>
        (Members.addAll inner b.pairs).map fun ms =>
          (parent.remove key.last).put key.last (.table .written ms)
      | some _ => none) key.above root
  | .arrayTable key =>
    Members.within (fun parent =>
      match parent.get? key.last with
      | none => (Members.addAll [] b.pairs).map fun ms => parent.put key.last (.tables [] ms)
      | some (.tables earlier last) =>
        (Members.addAll [] b.pairs).map fun ms =>
          parent.put key.last (.tables (earlier ++ [last]) ms)
      | some _ => none) key.above root

end Block

structure Document where
  pairs : List Pair
  blocks : List Block
  deriving Repr

def rootOf (d : Document) : Option Members := do
  d.blocks.foldlM Block.place (← Members.addAll [] d.pairs)

end TreeTool.Toml
