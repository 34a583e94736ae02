import TreeTool.Fault
import TreeTool.RequestId
import TreeTool.Text.Quoted

/-!
# Journal events

Every operation writes a start event and one closing event, an end or an error. An event has a
level, the module it comes from and named fields; `op` and `event` are fields like the others
until the event is captured.
-/

namespace TreeTool.Journal

inductive Level
  | error | info | debug
  deriving DecidableEq, Repr

namespace Level

def name : Level → String
  | error => "ERROR"
  | info => "INFO"
  | debug => "DEBUG"

/-- How much detail a level asks for; a filter lets events up to its own detail pass. -/
def detail : Level → Nat
  | error => 1
  | info => 3
  | debug => 4

end Level

inductive FieldValue
  | text (s : String)
  | number (n : Nat)
  deriving DecidableEq, Repr

def FieldValue.rendered : FieldValue → String
  | text s => s
  | number n => toString n

abbrev Fields := List (String × FieldValue)

structure Event where
  level : Level
  target : String
  fields : Fields
  deriving DecidableEq, Repr

def statusText : Option Int → String
  | none => "None"
  | some n => "Some(" ++ toString n ++ ")"

namespace Event

def started (component op : String) (more : Fields) : Event where
  level := .info
  target := component
  fields := [("component", .text component), ("op", .text op), ("event", .text "start")] ++ more

def ended (component op : String) (millis : Nat) (more : Fields) : Event where
  level := .info
  target := component
  fields := [("component", .text component), ("op", .text op), ("event", .text "end"),
    ("duration_ms", .number millis)] ++ more

def failed (component op : String) (r : Report) (millis : Nat) (more : Fields) : Event where
  level := .error
  target := component
  fields := [("component", .text component), ("op", .text op), ("event", .text "end_error"),
    ("duration_ms", .number millis), ("err.kind", .text r.kind.name),
    ("err.code", .text r.code)] ++ more

def remark (component message : String) (more : Fields) : Event where
  level := .debug
  target := component
  fields := ("message", .text message) :: more

def field? (e : Event) (name : String) : Option String :=
  (e.fields.lookup name).map FieldValue.rendered

end Event

/-- An event as a capture keeps it: `op` and `event` stand apart from the other fields. -/
structure Captured where
  level : Level
  op : Option String
  event : Option String
  fields : List (String × String)
  deriving DecidableEq, Repr

namespace Captured

def ofEvent (e : Event) : Captured where
  level := e.level
  op := e.field? "op"
  event := e.field? "event"
  fields := (e.fields.filter fun (n, _) => n ≠ "op" && n ≠ "event").map
    fun (n, v) => (n, v.rendered)

def field? (c : Captured) (name : String) : Option String := c.fields.lookup name

def isOf (c : Captured) (op event : String) : Bool :=
  c.op == some op && c.event == some event

end Captured

def matching (op event : String) (cs : List Captured) : List Captured :=
  cs.filter (·.isOf op event)

end TreeTool.Journal
