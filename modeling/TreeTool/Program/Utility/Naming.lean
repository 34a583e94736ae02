import TreeTool.Program.Options

/-!
# Utilities about paths
-/

namespace TreeTool.Program

open Files (Entry Place Problem Tree)
open Work

/-! ## Parts of paths -/

def withoutSlashes (cs : List Char) : List Char := (cs.reverse.dropWhile (· = '/')).reverse

def lastName (path : String) : String :=
  let cs := path.toList
  let body := withoutSlashes cs
  if body.isEmpty then (if cs.isEmpty then "" else "/")
  else String.ofList (body.reverse.takeWhile (· ≠ '/')).reverse

def directoryPart (path : String) : String :=
  let cs := path.toList
  let body := withoutSlashes cs
  let above := withoutSlashes (body.reverse.dropWhile (· ≠ '/')).reverse
  if !above.isEmpty then String.ofList above
  else if cs.head? = some '/' then "/"
  else "."

def withoutSuffix (suffix name : String) : String :=
  if name ≠ suffix && suffix.toList.isSuffixOf name.toList then
    String.ofList (name.toList.take (name.length - suffix.length))
  else name

def lineEnd (g : Given) : String := if g.has 'z' then "\x00" else "\n"

def basename : Work Unit := do
  let g ← given [⟨'a', "multiple", .nothing⟩, ⟨'s', "suffix", .argument⟩, ⟨'z', "zero", .nothing⟩]
    1 false
  let ps ← operands g
  let show_ := fun (suffix : String) (p : String) =>
    put (withoutSuffix suffix (lastName p) ++ lineEnd g)
  if g.has 'a' || g.has 's' then ps.forM (show_ ((g.value? 's').getD ""))
  else match ps with
    | [p] => show_ "" p
    | [p, suffix] => show_ suffix p
    | _ :: _ :: extra :: _ => misuse ("extra operand " ++ quoted extra)
    | [] => return

def dirname : Work Unit := do
  let g ← given [⟨'z', "zero", .nothing⟩] 1 false
  (← operands g).forM fun p => put (directoryPart p ++ lineEnd g)

/-! ## Places -/

def placeText (p : Place) : String := Text.Raw.ofText ("/" ++ "/".intercalate p)

def pwd : Work Unit := do
  let g ← given [⟨'L', "logical", .nothing⟩, ⟨'P', "physical", .nothing⟩]
  if !g.operands.isEmpty then complain "ignoring non-option arguments"
  putLine (placeText (← look fun w me => w.here me))

inductive Existing
  | nothing | above | all
  deriving DecidableEq, Repr

def lexical (place : Place) : List String → Place
  | [] => place
  | n :: ns =>
    if n = "." then lexical place ns
    else if n = ".." then lexical place.dropLast ns
    else lexical (place ++ [n]) ns

def resolved (t : Tree) (here : Place) (existing : Existing) (path : String) :
    Except Problem Place := do
  let p ← Tree.checked (Text.Raw.toText path)
  match t.find here (Text.Raw.toText path), existing with
  | .ok (place, _), _ => return place
  | .error _, .nothing => return lexical (p.start here) p.names
  | .error .missing, .above =>
    match p.names.getLast? with
    | none => .error .missing
    | some n =>
      let above ← t.walk Files.greatestLinks (p.start here) p.names.dropLast
      match t.get? above, t.get? (above ++ [n]) with
      | some .directory, none => return above ++ [n]
      | some .directory, some (.link target) =>
        let q := Files.Path.ofString target
        return lexical (q.start above) q.names
      | some _, _ => .error .notDirectory
      | none, _ => .error .missing
  | .error e, _ => .error e

def existingOf (g : Given) (usual : Existing) : Existing :=
  match g.last? ['e', 'm', 'f'] with
  | some 'e' => .all
  | some 'm' => .nothing
  | some _ => .above
  | none => usual

def realpath : Work Unit := do
  let g ← given [⟨'e', "canonicalize-existing", .nothing⟩,
    ⟨'m', "canonicalize-missing", .nothing⟩, ⟨'q', "quiet", .nothing⟩,
    ⟨'s', "no-symlinks", .nothing⟩, ⟨'z', "zero", .nothing⟩, ⟨'L', "logical", .nothing⟩,
    ⟨'P', "physical", .nothing⟩]
  (← operands g).forM fun p => do
    match ← look fun w me => resolved w.files (w.here me) (existingOf g .above) p with
    | .ok place => put (placeText place ++ lineEnd g)
    | .error e => do
      if !g.has 'q' then complain (p ++ ": " ++ e.words)
      setStatus 1

def readlink : Work Unit := do
  let g ← given [⟨'f', "canonicalize", .nothing⟩, ⟨'e', "canonicalize-existing", .nothing⟩,
    ⟨'m', "canonicalize-missing", .nothing⟩, ⟨'n', "no-newline", .nothing⟩,
    ⟨'q', "quiet", .nothing⟩, ⟨'s', "silent", .nothing⟩, ⟨'v', "verbose", .nothing⟩,
    ⟨'z', "zero", .nothing⟩]
  let ps ← operands g
  let last := if g.has 'n' && ps.length = 1 then "" else lineEnd g
  let refuse := fun (p : String) (e : Problem) => do
    if g.has 'v' then complain (p ++ ": " ++ e.words)
    setStatus 1
  ps.forM fun p => do
    if (g.last? ['e', 'm', 'f']).isSome then
      match ← look fun w me => resolved w.files (w.here me) (existingOf g .above) p with
      | .ok place => put (placeText place ++ last)
      | .error e => refuse p e
    else
      match ← findItself p with
      | .ok (_, .link target) => put (Text.Raw.ofText target ++ last)
      | .ok _ => refuse p .invalid
      | .error e => refuse p e

/-! ## Programs -/

def isProgram : Entry → Bool
  | .file _ x => x
  | .utility _ => true
  | _ => false

def programPaths (t : Tree) (here : Place) (path name : String) : List String :=
  let candidates := if name.contains '/' then [name]
    else (directories path).map fun d => below (if d.isEmpty then "." else d) name
  candidates.filter fun p =>
    match t.find here (Text.Raw.toText p) with
    | .ok (_, e) => isProgram e
    | .error _ => false

def which : Work Unit := do
  let as ← arguments
  let all := as.head? = some "-a"
  let names := if all then as.tail else as
  let path := ((← get).environment.get? "PATH").getD ""
  if names.isEmpty then setStatus 1
  names.forM fun name => do
    let found ← look fun w me => programPaths w.files (w.here me) path name
    if found.isEmpty then setStatus 1
    putLines (if all then found else found.take 1)

end TreeTool.Program
