import TreeTool.Command.Arguments

/-!
# A workbench of named commands

A workbench holds commands under names. A step asks for a new command, built from parts, from an
existing command with other flags, or from an existing command's operands and bundle; the command
it yields is stored under a name. A step that fails leaves the workbench as it was.
-/

namespace TreeTool

/-- What a command can be asked for by: its parts, or the arguments of one constructor. -/
inductive Recipe
  | parts (e : Encoding) (op : Operation) (operands : List String) (bundle : Option Bundle)
  | load (e : Encoding) (aut : String)
  | witness (e : Encoding) (aut : String)
  | complement (e : Encoding) (aut : String)
  | union (e : Encoding) (lhs rhs : String)
  | intersection (e : Encoding) (lhs rhs : String)
  | simulation (e : Encoding) (aut : String) (d : Option Direction)
  | reduction (e : Encoding) (aut : String) (d : Option Direction)
  | equivalence (e : Encoding) (lhs rhs : String) (o : Option Order)
  | inclusion (e : Encoding) (lhs rhs : String) (o : Option InclusionOptions)
  | help (e : Encoding)

namespace Recipe

def command : Recipe → Except Fault Command
  | parts e op operands bundle => Command.make e op operands bundle
  | load e a => .ok (.load e a)
  | witness e a => .ok (.witness e a)
  | complement e a => .ok (.complement e a)
  | union e a b => .ok (.union e a b)
  | intersection e a b => .ok (.intersection e a b)
  | simulation e a d => .ok (.simulation e a d)
  | reduction e a d => .ok (.reduction e a d)
  | equivalence e a b o => .ok (.equivalence e a b o)
  | inclusion e a b o => .ok (.inclusion e a b o)
  | help e => .ok (.help e)

end Recipe

abbrev Workbench := List (String × Command)

namespace Workbench

inductive Step
  | build (name : String) (recipe : Recipe) (flags : Option Flags)
  | reflag (source target : String) (flags : Flags)
  | move (source target : String) (e : Option Encoding) (op : Option Operation)

inductive Failure
  | unknownName (name : String)
  | fault (f : Fault)
  deriving Repr

def get? (w : Workbench) (name : String) : Option Command := w.lookup name

def put (w : Workbench) (name : String) (c : Command) : Workbench :=
  (name, c) :: w.filter (·.1 ≠ name)

def named (w : Workbench) (name : String) : Except Failure Command :=
  match w.get? name with
  | some c => .ok c
  | none => .error (.unknownName name)

def Step.command (w : Workbench) : Step → Except Failure Command
  | .build _ r flags =>
    match r.command with
    | .error f => .error (.fault f)
    | .ok c => .ok (match flags with
      | some f => c.withFlags f
      | none => c)
  | .reflag source _ f => (w.named source).map (·.withFlags f)
  | .move source _ e op =>
    match w.named source with
    | .error x => .error x
    | .ok c =>
      match c.move (e.getD c.encoding) (op.getD c.operation) with
      | .ok c' => .ok c'
      | .error f => .error (.fault f)

def Step.target : Step → String
  | .build name _ _ => name
  | .reflag _ target _ => target
  | .move _ target _ _ => target

def run (w : Workbench) (s : Step) : Workbench × Except Failure Command :=
  match s.command w with
  | .ok c => (w.put s.target c, .ok c)
  | .error x => (w, .error x)

def runAll (w : Workbench) : List Step → Workbench
  | [] => w
  | s :: ss => (w.run s).1.runAll ss

def distinct (w : Workbench) : Nat := (w.map (·.2)).eraseDups.length

end Workbench

end TreeTool
