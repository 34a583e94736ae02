import TreeTool.Options.Reading
import TreeTool.Flags

/-!
# Commands

A command is a request the tool accepts: as many operands as the operation works on, and an
option bundle only of the kind the operation takes. Both are part of the type. `Command.make`
checks a request and says which of the two it breaks, the operand count first.
-/

namespace TreeTool

structure Command where
  encoding : Encoding
  operation : Operation
  operands : List String
  bundle : Option Bundle
  flags : Flags := {}
  operands_length : operands.length = operation.arity
  bundle_kind : ∀ b, bundle = some b → operation.bundleKind = some b.kind
  deriving DecidableEq

namespace Command

def Fits (op : Operation) (bundle : Option Bundle) : Prop :=
  ∀ b, bundle = some b → op.bundleKind = some b.kind

instance (op : Operation) : (bundle : Option Bundle) → Decidable (Fits op bundle)
  | none => .isTrue fun _ h => nomatch h
  | some b =>
    if h : op.bundleKind = some b.kind then
      .isTrue fun _ h' => by cases h'; exact h
    else .isFalse fun f => h (f b rfl)

def mismatch (op : Operation) (bundle : Option Bundle) : Fault :=
  .optionsMismatch (Coded.token op)
    (match op.bundleKind with
      | some k => k.name
      | none => "no")
    (match bundle with
      | some b => b.kind.name
      | none => "no")

def make (e : Encoding) (op : Operation) (operands : List String) (bundle : Option Bundle) :
    Except Fault Command :=
  if hn : operands.length = op.arity then
    if hb : Fits op bundle then
      .ok { encoding := e, operation := op, operands := operands, bundle := bundle,
            operands_length := hn, bundle_kind := hb }
    else .error (mismatch op bundle)
  else .error (.operandCount (Coded.token op) op.arity operands.length)

def withFlags (c : Command) (f : Flags) : Command := { c with flags := f }

/-- The same operands and bundle under another encoding and operation, with default flags. -/
def move (c : Command) (e : Encoding) (op : Operation) : Except Fault Command :=
  make e op c.operands c.bundle

/-! One constructor for each operation; their arguments leave nothing to check. -/

def load (e : Encoding) (aut : String) : Command where
  encoding := e
  operation := .load
  operands := [aut]
  bundle := none
  operands_length := rfl
  bundle_kind := nofun

def witness (e : Encoding) (aut : String) : Command where
  encoding := e
  operation := .witness
  operands := [aut]
  bundle := none
  operands_length := rfl
  bundle_kind := nofun

def complement (e : Encoding) (aut : String) : Command where
  encoding := e
  operation := .complement
  operands := [aut]
  bundle := none
  operands_length := rfl
  bundle_kind := nofun

def union (e : Encoding) (lhs rhs : String) : Command where
  encoding := e
  operation := .union
  operands := [lhs, rhs]
  bundle := none
  operands_length := rfl
  bundle_kind := nofun

def intersection (e : Encoding) (lhs rhs : String) : Command where
  encoding := e
  operation := .intersection
  operands := [lhs, rhs]
  bundle := none
  operands_length := rfl
  bundle_kind := nofun

def simulation (e : Encoding) (aut : String) (d : Option Direction) : Command where
  encoding := e
  operation := .simulation
  operands := [aut]
  bundle := d.map .direction
  operands_length := rfl
  bundle_kind b h := by cases d <;> simp at h; subst h; rfl

def reduction (e : Encoding) (aut : String) (d : Option Direction) : Command where
  encoding := e
  operation := .reduction
  operands := [aut]
  bundle := d.map .direction
  operands_length := rfl
  bundle_kind b h := by cases d <;> simp at h; subst h; rfl

def equivalence (e : Encoding) (lhs rhs : String) (o : Option Order) : Command where
  encoding := e
  operation := .equivalence
  operands := [lhs, rhs]
  bundle := o.map .equivalence
  operands_length := rfl
  bundle_kind b h := by cases o <;> simp at h; subst h; rfl

def inclusion (e : Encoding) (lhs rhs : String) (o : Option InclusionOptions) : Command where
  encoding := e
  operation := .inclusion
  operands := [lhs, rhs]
  bundle := o.map .inclusion
  operands_length := rfl
  bundle_kind b h := by cases o <;> simp at h; subst h; rfl

def help (e : Encoding) : Command where
  encoding := e
  operation := .help
  operands := []
  bundle := none
  operands_length := rfl
  bundle_kind := nofun

end Command

end TreeTool
