import TreeTool.Tool.Executor

/-!
# A handle on the tool

A handle holds an executor together with an encoding and flags. Each helper builds the command of
one operation under them and asks for one run of it; `Handle.call` runs a command as it is.
-/

namespace TreeTool

structure Handle where
  executor : Executor := {}
  encoding : Encoding := .explicit
  flags : Flags := {}
  deriving DecidableEq, Repr, Inhabited

namespace Handle

def call (h : Handle) (c : Command) : Call := h.executor.callOf c

def prepared (h : Handle) (c : Command) : Call := h.call (c.withFlags h.flags)

def load (h : Handle) (aut : String) : Call := h.prepared (.load h.encoding aut)

def witness (h : Handle) (aut : String) : Call := h.prepared (.witness h.encoding aut)

def complement (h : Handle) (aut : String) : Call := h.prepared (.complement h.encoding aut)

def union (h : Handle) (lhs rhs : String) : Call := h.prepared (.union h.encoding lhs rhs)

def intersection (h : Handle) (lhs rhs : String) : Call :=
  h.prepared (.intersection h.encoding lhs rhs)

def simulation (h : Handle) (aut : String) (d : Option Direction) : Call :=
  h.prepared (.simulation h.encoding aut d)

def reduction (h : Handle) (aut : String) (d : Option Direction) : Call :=
  h.prepared (.reduction h.encoding aut d)

def equivalence (h : Handle) (lhs rhs : String) (o : Option Order) : Call :=
  h.prepared (.equivalence h.encoding lhs rhs o)

def inclusion (h : Handle) (lhs rhs : String) (o : Option InclusionOptions) : Call :=
  h.prepared (.inclusion h.encoding lhs rhs o)

def help (h : Handle) : Call := h.prepared (.help h.encoding)

end Handle

end TreeTool
