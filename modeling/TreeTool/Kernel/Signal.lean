/-!
# Signals

A signal has a number and a name. What it does to a process that has not said otherwise is its
`effect`; `description` is what is reported of a process that it has ended.
-/

namespace TreeTool.Kernel.Signal

def names : List (Nat × String) :=
  [(1, "HUP"), (2, "INT"), (3, "QUIT"), (4, "ILL"), (5, "TRAP"), (6, "ABRT"), (7, "BUS"),
    (8, "FPE"), (9, "KILL"), (10, "USR1"), (11, "SEGV"), (12, "USR2"), (13, "PIPE"), (14, "ALRM"),
    (15, "TERM"), (16, "STKFLT"), (17, "CHLD"), (18, "CONT"), (19, "STOP"), (20, "TSTP"),
    (21, "TTIN"), (22, "TTOU"), (23, "URG"), (24, "XCPU"), (25, "XFSZ"), (26, "VTALRM"),
    (27, "PROF"), (28, "WINCH"), (29, "IO"), (30, "PWR"), (31, "SYS"), (32, "32"), (33, "33"),
    (34, "RTMIN")] ++
  ((List.range 15).map fun i => (i + 35, "RTMIN+" ++ toString (i + 1))) ++
  ((List.range 14).map fun i => (i + 50, "RTMAX-" ++ toString (14 - i))) ++ [(64, "RTMAX")]

def count : Nat := 65

def name? (n : Nat) : Option String := names.lookup n

inductive Effect
  | ends
  | stops
  | resumes
  | nothing
  deriving DecidableEq, Repr

def effect (n : Nat) : Effect :=
  if n = 17 || n = 23 || n = 28 then .nothing
  else if n = 18 then .resumes
  else if 19 ≤ n && n ≤ 22 then .stops
  else .ends

def isFinal (n : Nat) : Bool := n = 9 || n = 19

def descriptions : List (Nat × String) :=
  [(1, "Hangup"), (2, "Interrupt"), (3, "Quit"), (4, "Illegal instruction"),
    (5, "Trace/breakpoint trap"), (6, "Aborted"), (7, "Bus error"),
    (8, "Floating point exception"), (9, "Killed"), (10, "User defined signal 1"),
    (11, "Segmentation fault"), (12, "User defined signal 2"), (13, "Broken pipe"),
    (14, "Alarm clock"), (15, "Terminated"), (16, "Stack fault"), (17, "Child exited"),
    (18, "Continued"), (19, "Stopped (signal)"), (20, "Stopped"), (21, "Stopped (tty input)"),
    (22, "Stopped (tty output)"), (23, "Urgent I/O condition"), (24, "CPU time limit exceeded"),
    (25, "File size limit exceeded"), (26, "Virtual timer expired"),
    (27, "Profiling timer expired"), (28, "Window changed"), (29, "I/O possible"),
    (30, "Power failure"), (31, "Bad system call")]

def description (n : Nat) : String :=
  match descriptions.lookup n with
  | some s => s
  | none =>
    if 34 ≤ n && n < count then "Real-time signal " ++ toString (n - 34)
    else "Unknown signal " ++ toString n

end TreeTool.Kernel.Signal
