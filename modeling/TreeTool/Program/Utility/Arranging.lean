import TreeTool.Program.Utility.Naming

/-!
# Utilities that make, move and remove files
-/

namespace TreeTool.Program

open Files (Entry Place Problem Tree)
open Work

def report (message : String) : Work Unit := do
  complain message
  setStatus 1

def isWithin (outer p : Place) : Bool := outer.isPrefixOf p

def entriesWithin (t : Tree) (outer : Place) : List (Place × Entry) :=
  t.entries.filter fun (p, _) => isWithin outer p

def removeWithin (t : Tree) (outer : Place) : Tree :=
  ⟨t.entries.filter fun (p, _) => !isWithin outer p⟩

def newPlace (t : Tree) (here : Place) (path : String) : Except Problem Place := do
  let p ← Tree.checked (Text.Raw.toText path)
  match p.names.getLast? with
  | none => .error .exists
  | some n =>
    let above ← t.walk Files.greatestLinks (p.start here) p.names.dropLast
    match t.get? above with
    | some .directory =>
      if n = "." || n = ".." then .error .exists
      else if !Files.nameFits n then .error .nameTooLong
      else match t.get? (above ++ [n]) with
        | some _ => .error .exists
        | none => .ok (above ++ [n])
    | some _ => .error .notDirectory
    | none => .error .missing

/-! ## Making and removing directories -/

def makeDirectory (path : String) : Work (Option Problem) := do
  match ← look fun w me => newPlace w.files (w.here me) path with
  | .error e => return some e
  | .ok place => do
    changeFiles (·.put place .directory)
    return none

def leadingPaths (path : String) : List String :=
  let cs := path.toList
  let isEnd := fun (i : Nat) =>
    (cs.getD i '/') = '/' && i ≠ 0 && cs.getD (i - 1) '/' ≠ '/'
  ((List.range cs.length).filter isEnd).map (fun i => String.ofList (cs.take i)) ++
    (if cs.getLast? = some '/' then [] else [path])

def makeLeading (g : Given) (path : String) : List String → Work Unit
  | [] => return
  | p :: ps => do
    match ← makeDirectory p with
    | none => do
      if g.has 'v' then putLine ((← get).image.name ++ ": created directory " ++ quoted p)
      makeLeading g path ps
    | some .exists => do
      match ← find p with
      | .ok (_, .directory) => makeLeading g path ps
      | _ => report ("cannot create directory " ++ quoted p ++ ": " ++
          (if ps.isEmpty then Problem.exists.words else Problem.notDirectory.words))
    | some e => report ("cannot create directory " ++ quoted p ++ ": " ++ e.words)

def mkdir : Work Unit := do
  let g ← given [⟨'p', "parents", .nothing⟩, ⟨'v', "verbose", .nothing⟩, ⟨'m', "mode", .argument⟩]
  (← operands g).forM fun p => do
    if g.has 'p' && !p.isEmpty then makeLeading g p (leadingPaths p)
    else match ← makeDirectory p with
      | none => if g.has 'v' then
          putLine ((← get).image.name ++ ": created directory " ++ quoted p)
      | some e => report ("cannot create directory " ++ quoted p ++ ": " ++ e.words)

def removeDirectory (path : String) : Work (Option Problem) := do
  match ← findItself path with
  | .error e => return some e
  | .ok (place, .directory) => do
    if lastName path = "." then return some .invalid
    let t ← look fun w _ => w.files
    if !(t.names place).isEmpty then return some .notEmpty
    changeFiles (·.remove place)
    return none
  | .ok _ => return some .notDirectory

def removeUpwards (g : Given) (p : String) : List String → Work Unit
  | [] => return
  | d :: ds => do
    if g.has 'v' then putLine ((← get).image.name ++ ": removing directory, " ++ quoted d)
    match ← removeDirectory d with
    | none => removeUpwards g p ds
    | some e =>
      report ("failed to remove " ++ (if d = p then "" else "directory ") ++ quoted d ++ ": " ++
        e.words)

def rmdir : Work Unit := do
  let g ← given [⟨'p', "parents", .nothing⟩, ⟨'v', "verbose", .nothing⟩,
    ⟨'i', "ignore-fail-on-non-empty", .nothing⟩]
  (← operands g).forM fun p =>
    removeUpwards g p (if g.has 'p' then (leadingPaths p).reverse else [p])

/-! ## Removing files -/

def removeTree (g : Given) (t : Tree) (path : String) (place : Place) : Nat → Work Unit
  | 0 => return
  | n + 1 => do
    (t.names place).forM fun name =>
      removeTree g t (path ++ "/" ++ Text.Raw.ofText name) (place ++ [name]) n
    changeFiles (·.remove place)
    if g.has 'v' then
      let isDirectory := t.get? place == some .directory
      putLine ("removed " ++ (if isDirectory then "directory " else "") ++ quoted path)

def rm : Work Unit := do
  let g ← given [⟨'r', "recursive", .nothing⟩, ⟨'R', "", .nothing⟩, ⟨'f', "force", .nothing⟩,
    ⟨'i', "", .nothing⟩, ⟨'I', "", .nothing⟩, ⟨'d', "dir", .nothing⟩, ⟨'v', "verbose", .nothing⟩]
  let recursive := g.has 'r' || g.has 'R'
  if g.operands.isEmpty && !g.has 'f' then misuse "missing operand"
  g.operands.forM fun p => do
    let refuse := fun (e : Problem) => report ("cannot remove " ++ quoted p ++ ": " ++ e.words)
    match ← findItself p with
    | .error e =>
      if g.has 'f' && (e = .missing || e = .notDirectory) then return
      else refuse e
    | .ok (place, .directory) => do
      let name := lastName p
      if recursive && (name = "." || name = "..") then
        report ("refusing to remove '.' or '..' directory: skipping " ++ quoted p)
      else if recursive && place = [] then
        complain "it is dangerous to operate recursively on '/'"
        report "use --no-preserve-root to override this failsafe"
      else if recursive then
        removeTree g (← look fun w _ => w.files) p place 1000
      else if g.has 'd' then
        match ← removeDirectory p with
        | none => if g.has 'v' then putLine ("removed directory " ++ quoted p)
        | some e => refuse e
      else refuse .isDirectory
    | .ok (place, _) => do
      changeFiles (·.remove place)
      if g.has 'v' then putLine ("removed " ++ quoted p)

def unlink : Work Unit := do
  let g ← given []
  match ← operands g with
  | [p] =>
    match ← findItself p with
    | .error e => fail ("cannot unlink " ++ quoted p ++ ": " ++ e.words)
    | .ok (_, .directory) => fail ("cannot unlink " ++ quoted p ++ ": Is a directory")
    | .ok (place, _) => changeFiles (·.remove place)
  | _ :: extra :: _ => misuse ("extra operand " ++ quoted extra)
  | [] => return

/-! ## Touching and modes -/

def touch : Work Unit := do
  let g ← given [⟨'c', "no-create", .nothing⟩, ⟨'a', "", .nothing⟩, ⟨'m', "", .nothing⟩,
    ⟨'d', "date", .argument⟩, ⟨'t', "", .argument⟩, ⟨'r', "reference", .argument⟩,
    ⟨'f', "", .nothing⟩, ⟨'h', "no-dereference", .nothing⟩]
  if g.operands.isEmpty then misuse "missing file operand"
  g.operands.forM fun p => do
    match ← find p with
    | .ok _ => return
    | .error e =>
      if p.toList.getLast? = some '/' then
        report ("setting times of " ++ quoted p ++ ": " ++ e.words)
      else if g.has 'c' then return
      else match ← openPath .append p with
        | .ok d => close d
        | .error e => report ("cannot touch " ++ quoted p ++ ": " ++ e.words)

def startableBy (mode : String) : Option (Bool → Bool) :=
  let cs := mode.toList
  if !cs.isEmpty && cs.all (Number.isDigitOf 8) then
    let n := Number.ofDigits 8 cs
    if n < 0o10000 then some fun _ => n &&& 0o111 ≠ 0 else none
  else
    (Text.pieces ',' cs).foldl (fun f clause => do
      let f ← f
      let g ← ofClause clause
      return g ∘ f) (some fun x => x)
where
  ofClause (cs : List Char) : Option (Bool → Bool) :=
    let who := cs.takeWhile ("ugoa".contains ·)
    match cs.drop who.length with
    | op :: rest =>
      if !"+-=".contains op || !rest.all ("rwxXst".contains ·) then none
      else
        let everybody := who.isEmpty || 'a' ∈ who || (['u', 'g', 'o'].all (· ∈ who))
        let names := 'x' ∈ rest
        match op with
        | '+' => some fun x => x || names
        | '-' => some fun x => x && !(names && everybody)
        | _ => some fun x => names || (x && !everybody)
    | [] => none

def setStartable (f : Bool → Bool) (place : Place) (t : Tree) : Tree :=
  match t.get? place with
  | some (.file content x) => t.put place (.file content (f x))
  | _ => t

def chmod : Work Unit := do
  let as ← arguments
  let isMode := fun (a : String) =>
    match a.toList with
    | '-' :: c :: _ => "rwxXst".contains c
    | _ => false
  let as := as.flatMap fun a => if isMode a then ["--", a] else [a]
  modify fun r => { r with image := { r.image with arguments := as } }
  let g ← given [⟨'R', "recursive", .nothing⟩, ⟨'f', "silent", .nothing⟩, ⟨'f', "quiet", .nothing⟩,
    ⟨'v', "verbose", .nothing⟩, ⟨'c', "changes", .nothing⟩]
  match g.operands with
  | [] => misuse "missing operand"
  | [mode] => misuse ("missing operand after " ++ quoted mode)
  | mode :: ps =>
    match startableBy mode with
    | none => misuse ("invalid mode: " ++ quoted mode)
    | some f => ps.forM fun p => do
      match ← find p with
      | .error e => do
        if !g.has 'f' then complain ("cannot access " ++ quoted p ++ ": " ++ e.words)
        setStatus 1
      | .ok (place, _) =>
        changeFiles fun t =>
          if g.has 'R' then
            (entriesWithin t place).foldl (fun t (p, _) => setStartable f p t) t
          else setStartable f place t

/-! ## Copying, moving and linking -/

def sourcesOf (g : Given) : Work (List String × String) := do
  match g.value? 't', g.operands with
  | some d, ps =>
    if ps.isEmpty then misuse "missing file operand"
    return (ps, d)
  | none, [] => misuse "missing file operand"
  | none, [p] => misuse ("missing destination file operand after " ++ quoted p)
  | none, ps => return (ps.dropLast, ps.getLast?.getD "")

def targetsOf (g : Given) : Work (List (String × String)) := do
  let (sources, target) ← sourcesOf g
  let inside := fun (p : String) =>
    target ++ (if target.toList.getLast? = some '/' then "" else "/") ++ lastName p
  match ← find target with
  | .ok (_, .directory) =>
    return sources.map fun p => (p, if g.has 'T' then target else inside p)
  | r =>
    if 1 < sources.length || g.has 't' then
      let e := match r with
        | .error e => e
        | .ok _ => .notDirectory
      fail ("target " ++ quoted target ++ ": " ++ e.words)
    return sources.map fun p => (p, target)

def copyFile (p target : String) : Work Bool := do
  let isNew ← look fun w me => (w.files.find (w.here me) (raw target)).toOption.isNone
  let startable := match ← find p with
    | .ok (_, .file _ x) => x
    | .ok (_, .utility _) => true
    | _ => false
  match ← openPath .read p with
  | .error e => do
    report ("cannot open " ++ quoted p ++ " for reading: " ++ e.words)
    return false
  | .ok d => do
    let text ← readAll d
    close d
    let slashed := target.toList.getLast? = some '/'
    match ← openPath .create target with
    | .error e => do
      let e := if slashed && e = .isDirectory then Problem.notDirectory else e
      report ("cannot create regular file " ++ quoted target ++ ": " ++ e.words)
      return false
    | .ok d => do
      match text with
      | .error e => report ("error reading " ++ quoted p ++ ": " ++ e.words)
      | .ok text =>
        match ← writeTo d text with
        | none => pure ()
        | some e => report ("error writing " ++ quoted target ++ ": " ++ e.words)
      close d
      if isNew then
        match ← find target with
        | .ok (place, _) => changeFiles (setStartable (fun _ => startable) place)
        | .error _ => pure ()
      return true

def copyTree (g : Given) (t : Tree) (place : Place) (p target : String) : Nat → Work Unit
  | 0 => return
  | n + 1 => do
    let say : Work Unit := do
      if g.has 'v' then putLine (quoted p ++ " -> " ++ quoted target)
    match t.get? place with
    | some .directory => do
      match ← find target with
      | .ok (_, .directory) => pure ()
      | .ok _ => report ("cannot overwrite non-directory " ++ quoted target ++ " with directory " ++
          quoted p)
      | .error _ =>
        match ← makeDirectory target with
        | none => say
        | some e => report ("cannot create directory " ++ quoted target ++ ": " ++ e.words)
      match ← find target with
      | .ok (_, .directory) =>
        (t.names place).forM fun name =>
          let name' := "/" ++ Text.Raw.ofText name
          copyTree g t (place ++ [name]) (p ++ name') (target ++ name') n
      | _ => return
    | some (.link target) => do
      match ← look fun w me => newPlace w.files (w.here me) target with
      | .ok there => do
        changeFiles (·.put there (.link target))
        say
      | .error e => report ("cannot create symbolic link " ++ quoted target ++ ": " ++ e.words)
    | _ => if ← copyFile p target then say

def cp : Work Unit := do
  let g ← given [⟨'r', "recursive", .nothing⟩, ⟨'R', "", .nothing⟩, ⟨'a', "archive", .nothing⟩,
    ⟨'p', "", .nothing⟩, ⟨'f', "force", .nothing⟩, ⟨'v', "verbose", .nothing⟩,
    ⟨'n', "no-clobber", .nothing⟩, ⟨'T', "no-target-directory", .nothing⟩,
    ⟨'t', "target-directory", .argument⟩, ⟨'L', "dereference", .nothing⟩,
    ⟨'P', "no-dereference", .nothing⟩, ⟨'i', "interactive", .nothing⟩, ⟨'u', "update", .nothing⟩]
  let recursive := g.has 'r' || g.has 'R' || g.has 'a'
  (← targetsOf g).forM fun (p, target) => do
    match ← find p with
    | .error e => report ("cannot stat " ++ quoted p ++ ": " ++ e.words)
    | .ok (place, e) => do
      let there := (← find target).toOption
      let targetPlace := there.map (·.1)
      if e = .directory then
        let inside ← look fun w me =>
          match newPlace w.files (w.here me) target with
          | .ok q => isWithin place q
          | .error _ => targetPlace.any (isWithin place)
        if !recursive then report ("-r not specified; omitting directory " ++ quoted p)
        else if inside then
          report ("cannot copy a directory, " ++ quoted p ++ ", into itself, " ++ quoted target)
        else copyTree g (← look fun w _ => w.files) place p target 1000
      else if targetPlace = some place then
        report (quoted p ++ " and " ++ quoted target ++ " are the same file")
      else if there.any (·.2 = .directory) then
        report ("cannot overwrite directory " ++ quoted target ++ " with non-directory")
      else if g.has 'n' && there.isSome then return
      else if ← copyFile p target then
        if g.has 'v' then putLine (quoted p ++ " -> " ++ quoted target)

def movedTo (t : Tree) (source target : Place) : Tree :=
  let moved := (entriesWithin t source).map fun (p, e) => (target ++ p.drop source.length, e)
  ⟨(removeWithin (removeWithin t target) source).entries ++ moved⟩

def mv : Work Unit := do
  let g ← given [⟨'f', "force", .nothing⟩, ⟨'i', "interactive", .nothing⟩,
    ⟨'n', "no-clobber", .nothing⟩, ⟨'v', "verbose", .nothing⟩, ⟨'u', "update", .nothing⟩,
    ⟨'T', "no-target-directory", .nothing⟩, ⟨'t', "target-directory", .argument⟩]
  (← targetsOf g).forM fun (p, target) => do
    match ← findItself p with
    | .error e => report ("cannot stat " ++ quoted p ++ ": " ++ e.words)
    | .ok (source, e) => do
      let isDirectory := e = .directory
      let refuse := fun (e : Problem) =>
        report ("cannot move " ++ quoted p ++ " to " ++ quoted target ++ ": " ++ e.words)
      let move := fun (place : Place) => do
        if isDirectory && isWithin source place then
          report ("cannot move " ++ quoted p ++ " to a subdirectory of itself, " ++ quoted target)
        else
          changeFiles (movedTo · source place)
          if g.has 'v' then putLine ("renamed " ++ quoted p ++ " -> " ++ quoted target)
      match ← findItself target with
      | .ok (place, .directory) => do
        let t ← look fun w _ => w.files
        if !isDirectory then
          report ("cannot overwrite directory " ++ quoted target ++ " with non-directory")
        else if source = place then
          report ("cannot move " ++ quoted p ++ " to a subdirectory of itself, " ++ quoted target)
        else if !(t.names place).isEmpty then
          report ("cannot overwrite " ++ quoted target ++ ": " ++ Problem.notEmpty.words)
        else move place
      | .ok (place, _) =>
        if g.has 'n' then return
        else if isDirectory then
          report ("cannot overwrite non-directory " ++ quoted target ++ " with directory " ++
            quoted p)
        else if source = place then
          report (quoted p ++ " and " ++ quoted target ++ " are the same file")
        else move place
      | .error .missing => do
        if !isDirectory && target.toList.getLast? = some '/' then refuse .notDirectory
        else match ← look fun w me => newPlace w.files (w.here me) target with
          | .ok place => move place
          | .error e => refuse e
      | .error e => refuse e

def linksOf (g : Given) : Work (List (String × String)) := do
  match g.operands with
  | [] => misuse "missing file operand"
  | [p] => return [(p, "./" ++ lastName p)]
  | _ => targetsOf g

def ln : Work Unit := do
  let g ← given [⟨'s', "symbolic", .nothing⟩, ⟨'f', "force", .nothing⟩, ⟨'n', "", .nothing⟩,
    ⟨'v', "verbose", .nothing⟩, ⟨'T', "no-target-directory", .nothing⟩,
    ⟨'t', "target-directory", .argument⟩, ⟨'r', "relative", .nothing⟩]
  let kind := if g.has 's' then "symbolic link " else "hard link "
  (← linksOf g).forM fun (p, link) => do
    let make := fun (e : Entry) => do
      if g.has 'f' then
        match ← findItself link with
        | .ok (_, .directory) | .error _ => pure ()
        | .ok (place, _) => changeFiles (·.remove place)
      match ← look fun w me => newPlace w.files (w.here me) link with
      | .ok place => do
        changeFiles (·.put place e)
        if g.has 'v' then
          putLine (quoted link ++ (if g.has 's' then " -> " else " => ") ++ quoted p)
      | .error e => report ("failed to create " ++ kind ++ quoted link ++ ": " ++ e.words)
    if g.has 's' then make (.link (raw p))
    else match ← findItself p with
      | .error e => report ("failed to access " ++ quoted p ++ ": " ++ e.words)
      | .ok (_, .directory) => report (quoted p ++ ": hard link not allowed for directory")
      | .ok (_, e) => make e

end TreeTool.Program
