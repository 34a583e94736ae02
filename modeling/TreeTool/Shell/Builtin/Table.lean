import TreeTool.Shell.Builtin.Control
import TreeTool.Shell.Builtin.Jobs
import TreeTool.Shell.Builtin.Printing
import TreeTool.Shell.Builtin.Variables

/-!
# The table of built-in commands
-/

namespace TreeTool.Shell

def builtIn (e : Evaluator) (m : Manner) (name : String) (as : List String) : Step Nat :=
  match name with
  | ":" | "true" => return 0
  | "false" => return 1
  | "." => Builtin.source e as
  | "break" => Builtin.leaveLoops .breaks as
  | "continue" => Builtin.leaveLoops .continues as
  | "eval" => Builtin.eval e m as
  | "exec" => Builtin.exec e as
  | "exit" => Builtin.exit as
  | "export" => Builtin.export as
  | "readonly" => Builtin.readonly as
  | "local" => Builtin.makeAllLocal as
  | "return" => Builtin.return as
  | "set" => Builtin.set as
  | "shift" => Builtin.shift as
  | "times" => Builtin.times
  | "trap" => Builtin.trap as
  | "unset" => Builtin.unset as
  | "alias" => Builtin.makeAlias as
  | "bg" | "fg" => Builtin.foreground as
  | "cd" | "chdir" => Builtin.cd as
  | "command" => Builtin.command as
  | "echo" => Builtin.echo as
  | "getopts" => Builtin.getopts as
  | "hash" => Builtin.hash as
  | "jobs" => Builtin.jobs as
  | "kill" => Builtin.kill as
  | "printf" => Builtin.printf as
  | "pwd" => Builtin.pwd as
  | "read" => Builtin.read as
  | "test" => Builtin.test as
  | "[" => Builtin.bracketed as
  | "type" => Builtin.describeAll 0 as
  | "ulimit" => Builtin.ulimit as
  | "umask" => Builtin.umask as
  | "unalias" => Builtin.unalias as
  | "wait" => Builtin.wait as
  | _ => return 127

end TreeTool.Shell
