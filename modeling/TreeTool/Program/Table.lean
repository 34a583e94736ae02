import TreeTool.Program.Utility.Characters
import TreeTool.Program.Utility.Copying
import TreeTool.Program.Utility.Editing
import TreeTool.Program.Utility.Finding
import TreeTool.Program.Utility.Inspecting
import TreeTool.Program.Utility.Listing
import TreeTool.Program.Utility.Numbers
import TreeTool.Program.Utility.Ordering
import TreeTool.Program.Utility.Running
import TreeTool.Program.Utility.Saying
import TreeTool.Program.Utility.Searching

/-!
# The utilities of a machine
-/

namespace TreeTool.Program

def utilities (start : Start) : List (String × Work Unit) :=
  [("[", bracketedTest), ("base64", base64), ("basename", basename), ("cat", cat), ("chmod", chmod),
    ("cmp", cmp), ("comm", comm),
    ("cp", cp), ("cut", cut), ("diff", diff), ("dirname", dirname), ("echo", echo), ("egrep", grep), ("env", env start),
    ("expr", expr), ("false", answer 1), ("fgrep", grep), ("find", find_ start), ("fold", fold), ("grep", grep),
    ("head", head), ("id", userIdentity), ("ln", ln), ("ls", ls), ("mkdir", mkdir),
    ("mktemp", mktemp), ("mv", mv),
    ("nice", nice start), ("nl", nl), ("nohup", nohup start), ("od", od), ("paste", paste),
    ("printenv", printenv), ("printf", printf), ("pwd", pwd), ("readlink", readlink),
    ("realpath", realpath), ("rev", rev), ("rm", rm), ("rmdir", rmdir), ("sed", Editing.editor), ("seq", seq),
    ("setsid", setsid start), ("sleep", sleep), ("sort", sort), ("stdbuf", stdbuf start),
    ("sync", answer 0), ("tac", tac), ("tail", tail), ("tee", tee), ("test", test),
    ("timeout", timeout start), ("touch", touch), ("tr", tr), ("true", answer 0), ("tty", tty),
    ("uname", uname), ("uniq", uniq), ("unlink", unlink), ("wc", wc), ("which", which),
    ("whoami", whoami), ("xargs", xargs start), ("yes", yes)]

def utility? (start : Start) (name : String) : Option (Work Unit) := (utilities start).lookup name

end TreeTool.Program
