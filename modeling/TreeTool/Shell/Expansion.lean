import TreeTool.Shell.Arithmetic
import TreeTool.Shell.Fields
import TreeTool.Shell.Paths

/-!
# Expansion

The words of a command stand for texts: parameters, the results of arithmetic and the output of
commands take the places of their parts. A word is expanded to pieces first; then it is cut into
fields, or taken as one text, and a field that is a pattern stands for the paths that fit.
-/

namespace TreeTool.Shell

/-! ## Parameters -/

def joint (s : State) (full quoted each : Bool) : String :=
  let unset := (s.binding? "IFS").isNone
  if full && quoted && each then "\x00"
  else if full && !quoted then (if unset then " " else "\x00")
  else match (separators s).toList with
    | c :: _ => c.toString
    | [] => ""

def State.parameter? (s : State) (full quoted : Bool) (x : String) : Option String :=
  match x with
  | "#" => some (toString s.arguments.list.length)
  | "?" => some (toString s.status)
  | "$" => some (toString s.root)
  | "!" => s.lastBackground.map toString
  | "-" => some (String.ofList (optionLetters.reverse.filter fun c => s.has c))
  | "@" | "*" => some ((joint s full quoted (x = "@")).intercalate s.arguments.list)
  | _ =>
    let cs := x.toList
    if !cs.isEmpty && cs.all Char.isDigit then
      let n := Number.ofDigits 10 cs
      if n = 0 then some s.name else s.arguments.list[n - 1]?
    else s.get? x

namespace Expansion

def solid (quoted : Bool) (text : String) : List Piece :=
  text.toList.map fun c => .char ⟨c, quoted⟩ .solid

def open_ (quoted : Bool) (text : String) : List Piece :=
  if quoted then solid true text
  else .stretch false :: text.toList.map fun c => .char ⟨c, false⟩ .open_

def value (s : State) (quoted : Bool) (x text : String) : List Piece :=
  if quoted && x = "@" && !s.arguments.list.isEmpty then
    .stretch true :: text.toList.map fun c => .char ⟨c, true⟩ .apart
  else open_ quoted text

/-! ## Text -/

def users : List (String × String) :=
  [("root", "/root"), ("daemon", "/usr/sbin"), ("bin", "/bin"), ("sys", "/dev"),
    ("sync", "/bin"), ("games", "/usr/games"), ("man", "/var/cache/man"),
    ("lp", "/var/spool/lpd"), ("mail", "/var/mail"), ("news", "/var/spool/news"),
    ("uucp", "/var/spool/uucp"), ("proxy", "/bin"), ("www-data", "/var/www"),
    ("backup", "/var/backups"), ("list", "/var/list"), ("irc", "/run/ircd"),
    ("nobody", "/nonexistent")]

def home? (s : State) (name : String) : Option String :=
  (if name.isEmpty then s.get? "HOME" else users.lookup name).filter fun d => !d.isEmpty

def tilde? (s : State) (assigns closed : Bool) (cs : List Char) : Option (String × List Char) :=
  match cs with
  | '~' :: cs =>
    let inName := fun (c : Char) => c ≠ '/' && !(assigns && c = ':')
    let rest := cs.dropWhile inName
    if rest.isEmpty && !closed then none
    else (home? s (String.ofList (cs.takeWhile inName))).map fun d => (d, rest)
  | _ => none

def bare (s : State) (p : Purpose) (closed : Bool) :
    Nat → (fresh equals : Bool) → List Char → List Piece
  | 0, _, _, _ => []
  | _, _, _, [] => []
  | n + 1, fresh, equals, c :: cs =>
    match if fresh then tilde? s p.assigns closed (c :: cs) else none with
    | some (d, rest) => solid true d ++ bare s p closed n false equals rest
    | none =>
      let g : Piece := .char ⟨c, false⟩ (if p.standIn then .open_ else .solid)
      let starts := p.assigns && ((c = '=' && !equals) || c = ':')
      g :: bare s p closed n starts (equals || (p.assigns && c = '=')) cs

def text (s : State) (p : Purpose) (fresh closed quoted : Bool) (t : String) : List Piece :=
  if quoted then solid true t
  else
    let ps := bare s p closed (t.length + 1) fresh false t.toList
    if p.standIn then .stretch false :: ps else ps

/-! ## Parts -/

def goesOnQuoted : List Part → Bool
  | .text _ q :: _ | .parameter _ _ q _ :: _ | .arithmetic _ q :: _ | .output _ q :: _ => q
  | _ => false

def missing (orEmpty : Bool) (word : List Part) (message : String) : String :=
  if word.isEmpty then "parameter not set" ++ (if orEmpty then " or null" else "") else message

def unset {α : Type} (x : String) : Step α := fail (x ++ ": parameter not set")

def parameter (e : Evaluator) (p : Purpose) (x : String) (o : Operation) (quoted : Bool)
    (word : List Part) : Step (List Piece) := do
  let s ← get
  let present? := s.parameter? p.full quoted x
  let filled? := fun (orEmpty : Bool) => present?.filter fun v => !(orEmpty && v.isEmpty)
  let standIn := e.pieces { p with standIn := true } word
  match o with
  | .bad => fail "Bad substitution"
  | .value =>
    match present? with
    | some v => return value s quoted x v
    | none => if s.has 'u' then unset x else return []
  | .length =>
    match present? with
    | some v => return open_ quoted (toString v.length)
    | none => if s.has 'u' then unset x else return open_ quoted "0"
  | .default orEmpty =>
    match filled? orEmpty with
    | some v => return value s quoted x v
    | none => standIn
  | .alternative orEmpty =>
    match filled? orEmpty with
    | some _ => standIn
    | none => return []
  | .assign orEmpty =>
    match filled? orEmpty with
    | some v => return value s quoted x v
    | none => do
      assign x (Piece.text (← e.pieces {} word))
      let s ← get
      return value s quoted x ((s.parameter? p.full quoted x).getD "")
  | .required orEmpty =>
    match filled? orEmpty with
    | some v => return value s quoted x v
    | none => fail (x ++ ": " ++ missing orEmpty word (Piece.text (← e.pieces {} word)))
  | .trim fromEnd longest =>
    match present? with
    | some v => do
      let pattern := Pattern.atoms (Piece.chars (← e.pieces {} word))
      return value s quoted x (Pattern.trimmed fromEnd longest pattern v)
    | none => if s.has 'u' then unset x else return []

def arithmetic (e : Evaluator) (ps : List Part) : Step String := do
  let text := Piece.text (← e.pieces {} ps)
  let s ← get
  match Arithmetic.value (fun x => (s.get? x).getD "") text with
  | .ok (n, assigned) =>
    assigned.forM fun (x, n) => assign x (toString n)
    return toString n
  | .error f => fail (f.message text)

def withoutNewlines (s : String) : String :=
  String.ofList (s.toList.reverse.dropWhile (· = '\n')).reverse

def part (e : Evaluator) (output : Option Command → Step String) (p : Purpose)
    (fresh closed : Bool) : Part → Step (List Piece)
  | .mark => return [.mark]
  | .text t q => return text (← get) p fresh closed q t
  | .parameter x o q w => parameter e p x o q w
  | .arithmetic ps q => return open_ q (← arithmetic e ps)
  | .output c q => return open_ q (withoutNewlines (← output c))

def pieces (e : Evaluator) (output : Option Command → Step String) (p : Purpose) :
    (fresh : Bool) → List Part → Step (List Piece)
  | _, [] => return []
  | _, .mark :: ps => do
    let alone := match ps with
      | .parameter "@" .value true _ :: rest => !goesOnQuoted rest
      | _ => false
    let rest ← pieces e output p false ps
    return if alone then rest else .mark :: rest
  | fresh, x :: ps => do
    let a ← part e output p fresh ps.isEmpty x
    return a ++ (← pieces e output p false ps)

/-! ## Words -/

def textOf (e : Evaluator) (w : Word) : Step String := return Piece.text (← e.pieces {} w)

def assignment (e : Evaluator) (w : Word) : Step String :=
  return Piece.text (← e.pieces { assigns := true } w)

def patternOf (e : Evaluator) (w : Word) : Step (List Glyph) :=
  return Piece.chars (← e.pieces {} w)

def fields (e : Evaluator) (w : Word) : Step (List String) := do
  let ps ← e.pieces { full := true } w
  let s ← get
  let cut := (Cutting.fields (separators s) none ps).map Piece.chars
  let isPattern := fun (gs : List Glyph) =>
    gs.any fun g => g.char = '*' || g.char = '?' || g.char = '['
  if s.has 'f' || !cut.any isPattern then return cut.map Paths.textOf
  else
    look fun w me => cut.flatMap fun gs =>
      if isPattern gs then
        match Paths.fitting w.files (w.here me) gs with
        | [] => [Paths.textOf gs]
        | ps => ps
      else [Paths.textOf gs]

def allFields (e : Evaluator) : List Word → Step (List String)
  | [] => return []
  | w :: ws => do
    let a ← fields e w
    return a ++ (← allFields e ws)

end Expansion

end TreeTool.Shell
