import TreeTool.Settings.Basic
import TreeTool.Toml.Reader

/-!
# Settings in a TOML document

The members of the root table replace the defaults in the order of the document, and the first
one that does not fit is reported. A report names the mismatch where there is one of the usual
sorts, and otherwise says only that the text was refused.
-/

namespace TreeTool.Settings

open Document (Mismatch Named)
open Toml (Node Members)

inductive Refusal
  | malformed
  | mismatch (m : Mismatch)
  deriving DecidableEq, Repr

namespace Refusal

def heading : String := "TOML parse error"

def text : Refusal → String
  | malformed => heading ++ "\n"
  | mismatch m => heading ++ "\n" ++ m.text ++ "\n"

end Refusal

def floatText : Toml.Float → String
  | .infinite negative => if negative then "-inf" else "inf"
  | .notANumber => "NaN"
  | .decimal negative m e =>
    let digits := match Number.Binary64.ofDecimal m e with
      | some b => Number.positional b.shortest.1 b.shortest.2
      | none => "inf"
    if negative then "-" ++ digits else digits

def found : Node → String
  | .text s => "string " ++ Text.quoted s
  | .integer n => "integer " ++ Document.ticked (toString n)
  | .float x => "floating point " ++ Document.ticked (floatText x)
  | .boolean b => "boolean " ++ Document.ticked (toString b)
  | .date => "map"
  | .array _ => "sequence"
  | .inlineTable _ _ => "map"
  | .table _ _ => "map"
  | .tables _ _ => "sequence"

def wrongType (n : Node) (expected : String) : Refusal :=
  .mismatch (.wrongType (found n) expected)

def pathOf : Node → Except Refusal String
  | .text s => .ok s
  | n => .error (wrongType n "path string")

def wordOf : Node → Except Refusal Nat
  | .integer n =>
    if 0 ≤ n then .ok n.toNat
    else .error (.mismatch (.wrongValue (found (.integer n)) "u64"))
  | n => .error (wrongType n "u64")

def namedBy {α : Type} [Named α] (name : String) : Except Refusal α :=
  match Named.read name with
  | .ok a => .ok a
  | .error m => .error (.mismatch m)

def isVoid : Node → Bool
  | .array [] | .inlineTable _ [] | .table _ [] => true
  | _ => false

def variantOf {α : Type} [Named α] : Node → Except Refusal α
  | .text s => namedBy s
  | .inlineTable _ [(name, n)] | .table _ [(name, n)] =>
    match namedBy name with
    | .error r => .error r
    | .ok a => if isVoid n then .ok a else .error .malformed
  | _ => .error .malformed

def setMember (s : Settings) (name : String) (n : Node) : Except Refusal Settings :=
  if name = "binary" then (pathOf n).map fun b => { s with binary := b }
  else if name = "timeout_ms" then (wordOf n).map fun t => { s with timeoutMillis := some t }
  else if name = "encoding" then (variantOf n).map fun e => { s with encoding := e }
  else if name = "stderr" then (variantOf n).map fun m => { s with stderr := m }
  else .error (.mismatch (.unknownField name fieldNames))

def ofMembers (ms : Members) : Except Refusal Settings :=
  ms.foldlM (fun s (m : String × Node) => setMember s m.1 m.2) {}

def readToml (text : String) : Except Refusal Settings :=
  match Toml.read text with
  | none => .error .malformed
  | some ms => ofMembers ms

def ofToml (text : String) : Except Fault Settings :=
  match readToml text with
  | .ok s => .ok s
  | .error r => .error (.settings r.text)

def ofFile (files : Files.Tree) (here : Files.Place) (path : String) : Except Fault Settings :=
  match files.readText here path with
  | .error p => .error (.settings ("cannot read " ++ path ++ ": " ++ p.text))
  | .ok text => ofToml text

/-- The settings of a file, or the defaults without one, with the environment on top. -/
def load (files : Files.Tree) (here : Files.Place) (lookup : String → Option String) :
    Option String → Except Fault Settings
  | none => withOverrides {} lookup
  | some path =>
    match ofFile files here path with
    | .error f => .error f
    | .ok s => s.withOverrides lookup

/-! ## Reports in one line -/

def mismatchWords : List String :=
  ["unknown field", "unknown variant", "invalid type", "invalid value"]

def linesOf (cs : List Char) : List (List Char) :=
  (Text.pieces '\n' cs).dropLast.map trimReturn ++ (Text.pieces '\n' cs).getLast?.toList
where
  trimReturn (line : List Char) : List Char :=
    if line.getLast? = some '\r' then line.dropLast else line

def namesMismatch (line : List Char) : Bool :=
  mismatchWords.any fun w => w.toList.isPrefixOf line

def cutAt (word : List Char) : List Char → Option (List Char × List Char)
  | [] => none
  | c :: cs =>
    if word.isPrefixOf (c :: cs) then some ([], (c :: cs).drop word.length)
    else (cutAt word cs).map fun (before, rest) => (c :: before, rest)

/-- Replaces a report from its heading on by the heading and the first line that names a mismatch. -/
def abridged (text : String) : String :=
  match cutAt Refusal.heading.toList text.toList with
  | none => text
  | some (before, report) =>
    String.ofList before ++ Refusal.heading ++
      match (linesOf report).find? namesMismatch with
      | none => ""
      | some line => ": " ++ String.ofList line

end TreeTool.Settings
