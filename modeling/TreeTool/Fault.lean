/-!
# Faults and reports

A `Fault` is a cause: what went wrong, with the data that belongs to it, and its one wording.
A `Report` is what callers see of any fault: a kind with a stable code, the activity that failed,
the tool operation concerned if there is one, and a message. `Fault.report` fixes how each cause is
reported, and `Report.text` how a report reads on a terminal.
-/

namespace TreeTool

inductive Fault
  | invalidCode (enumeration : String) (code least greatest : Int)
  | unknownToken (enumeration token : String)
  | optionsMismatch (operation expected found : String)
  | operandCount (operation : String) (expected found : Nat)
  | malformedOptions (input reason : String)
  | settings (reason : String)
  | spawn (program reason : String)
  | timeout (millis : Nat)
  | transfer (activity message : String)
  | serialization (message : String)
  | internal (message : String)
  deriving DecidableEq, Repr

namespace Fault

def text : Fault → String
  | invalidCode e c lo hi =>
    "Unknown " ++ e ++ " code " ++ toString c ++
      " (expected " ++ toString lo ++ "..=" ++ toString hi ++ ")"
  | unknownToken e t => "Unknown " ++ e ++ " token: '" ++ t ++ "'"
  | optionsMismatch op expected found =>
    "Operation '" ++ op ++ "' takes " ++ expected ++ " options, got " ++ found
  | operandCount op expected found =>
    "Operation '" ++ op ++ "' takes " ++ toString expected ++
      " operand(s), got " ++ toString found
  | malformedOptions input reason => "Malformed options '" ++ input ++ "': " ++ reason
  | settings reason => "Invalid configuration: " ++ reason
  | spawn program reason => "Failed to start '" ++ program ++ "': " ++ reason
  | timeout millis => "vata did not finish within " ++ toString millis ++ " ms"
  | transfer activity message => "I/O error during " ++ activity ++ ": " ++ message
  | serialization message => "Serialization error: " ++ message
  | internal message => "Internal error: " ++ message

end Fault

/-- The kinds of report, in the order in which their codes are documented. -/
inductive Kind
  | invalidInput | invalidCode | optionsMismatch | operandCount | malformedOptions
  | settings | transfer | spawn | timeout | serialization | internal
  deriving DecidableEq, Repr

namespace Kind

def all : List Kind :=
  [invalidInput, invalidCode, optionsMismatch, operandCount, malformedOptions,
    settings, transfer, spawn, timeout, serialization, internal]

def code : Kind → String
  | invalidInput => "ERR_INVALID_INPUT"
  | invalidCode => "ERR_INVALID_CODE"
  | optionsMismatch => "ERR_OPTIONS_MISMATCH"
  | operandCount => "ERR_OPERAND_COUNT"
  | malformedOptions => "ERR_MALFORMED_OPTIONS"
  | settings => "ERR_CONFIG"
  | transfer => "ERR_IO"
  | spawn => "ERR_SPAWN"
  | timeout => "ERR_TIMEOUT"
  | serialization => "ERR_SERIALIZATION"
  | internal => "ERR_INTERNAL"

def name : Kind → String
  | invalidInput => "InvalidInput"
  | invalidCode => "InvalidCode"
  | optionsMismatch => "OptionsMismatch"
  | operandCount => "OperandCount"
  | malformedOptions => "MalformedOptions"
  | settings => "Config"
  | transfer => "Io"
  | spawn => "Spawn"
  | timeout => "Timeout"
  | serialization => "Serialization"
  | internal => "Internal"

/-- A validation report blames the request and not the surroundings: nothing was started. -/
def isValidation : Kind → Bool
  | invalidInput | invalidCode | optionsMismatch | operandCount | malformedOptions => true
  | _ => false

end Kind

structure Report where
  kind : Kind
  activity : Option String := none
  operation : Option String := none
  message : String := ""
  deriving DecidableEq, Repr

namespace Report

def code (r : Report) : String := r.kind.code

def withActivity (r : Report) (activity : String) : Report :=
  { r with activity := some activity }

def withOperation (r : Report) (operation : String) : Report :=
  { r with operation := some operation }

def withMessage (r : Report) (message : String) : Report :=
  { r with message := message }

def ofTransfer (activity message : String) : Report :=
  { kind := .transfer, activity := some activity,
    message := (Fault.transfer activity message).text }

def text (r : Report) : String :=
  "[" ++ r.code ++ "]" ++
    (match r.activity with
      | some a => " in operation '" ++ a ++ "'"
      | none => "") ++
    (if r.message.isEmpty then "" else ": " ++ r.message) ++
    (match r.operation with
      | some o => " (vata command: " ++ o ++ ")"
      | none => "")

end Report

namespace Fault

def kind : Fault → Kind
  | invalidCode .. => .invalidCode
  | unknownToken .. => .invalidInput
  | optionsMismatch .. => .optionsMismatch
  | operandCount .. => .operandCount
  | malformedOptions .. => .malformedOptions
  | settings .. => .settings
  | spawn .. => .spawn
  | timeout .. => .timeout
  | transfer .. => .transfer
  | serialization .. => .serialization
  | internal .. => .internal

def activity : Fault → Option String
  | invalidCode .. => some "validate_code"
  | unknownToken .. => some "parse_token"
  | optionsMismatch .. | operandCount .. => some "command_new"
  | malformedOptions .. => some "parse_options"
  | settings .. => some "load_config"
  | spawn .. | timeout .. => some "execute"
  | transfer a _ => some a
  | serialization .. | internal .. => none

/-- Only a refused command names the tool operation it was meant for. -/
def operation : Fault → Option String
  | optionsMismatch op .. | operandCount op .. => some op
  | _ => none

def report (f : Fault) : Report :=
  { kind := f.kind, activity := f.activity, operation := f.operation, message := f.text }

end Fault

end TreeTool
