import TreeTool.Proofs.CommandLine.ExitStatus
import TreeTool.Proofs.Files.Opening
import TreeTool.Proofs.Outcome.Documents
import TreeTool.Proofs.Outcome.Saving

/-!
# Forwarding an outcome

An outcome is forwarded in two texts. The main text is the document with a newline, or else the
standard output of the tool; it goes where the command line says, to standard output or to what a
path leads to. The side text, if there is any, goes to standard error. A path can lead to a device
that is a stream of the process itself, and the main text goes to that stream then.
-/

namespace TreeTool.CommandLine

open Files (Device Entry Place Tree)
open Text (Bytes)

namespace Invocation

variable {i : Invocation} {out : Outlets} {m : Machine} {o : Outcome} {text path : String}
  {q : Place}

def stored (i : Invocation) (out : Outlets) (m : Machine) (text : String) (path : String) :
    Tree × Option Report :=
  let (files, failure) :=
    Outcome.store m.files m.here path (bytes text) (out.file? (bytes text))
  (files, failure.map (.ofTransfer i.activity))

/-! ## The two texts -/

end Invocation

end TreeTool.CommandLine
