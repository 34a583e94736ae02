import TreeTool.Shell.Words

/-!
# The grammar of scripts

Tokens are read off the front of a source, and commands are made of tokens. A script is read one
complete command at a time, each up to the end of its line, so that what stands before a misprint
is carried out. The rules for commands that contain others are given for any `Grammar` that reads
those; `grammar n` reads commands that are nested at most `n` deep.
-/

namespace TreeTool.Shell

open Reader

def reservedWords : List String :=
  ["!", "case", "do", "done", "elif", "else", "esac", "fi", "for", "if", "in", "then", "until",
    "while", "\x7b", "\x7d"]

def specialCommands : List String :=
  [".", ":", "break", "continue", "eval", "exec", "exit", "export", "local", "readonly", "return",
    "set", "shift", "times", "trap", "unset"]

/-! ## Tokens -/

namespace Token

def shown : Token → String
  | eof => "end of file"
  | newline => "newline"
  | semicolon => "\";\""
  | ampersand => "\"&\""
  | andIf => "\"&&\""
  | orIf => "\"||\""
  | bar => "\"|\""
  | «open» => "\"(\""
  | close => "\")\""
  | endCase => "\";;\""
  | redirection .. => "redirection"
  | word .. => "word"
  | keyword k => "\"" ++ k ++ "\""

def endsList : Token → Bool
  | eof | close | endCase => true
  | keyword k => k ∈ ["do", "done", "elif", "else", "esac", "fi", "then", "\x7d"]
  | _ => false

def isKeyword (t : Token) (k : String) : Bool :=
  match t with
  | keyword x => x = k
  | _ => false

end Token

structure Checks where
  newlines : Bool := false
  keywords : Bool := false
  aliases : Bool := false

def Checks.all : Checks := ⟨true, true, true⟩

namespace Token

def unexpected {α : Type} (expected : Option String) : Reader α := do
  let found := (← get).last.shown ++ " unexpected"
  let message := match expected with
    | some e => found ++ " (expecting " ++ e ++ ")"
    | none => found
  Word.misprint (String.ofList (message.toList.take 63))

def skipBlanks : Nat → Reader Unit
  | 0 => return
  | n + 1 => do
    match ← peek with
    | some ' ' | some '\t' =>
      skip
      skipBlanks n
    | some '#' => do
      modify fun s => { s with rest := s.rest.dropWhile (· ≠ '\n') }
      skipBlanks n
    | _ => return

def operator (c : Char) : Reader String := do
  let follows := fun (cs : String) => do
    match ← peek with
    | some d =>
      if cs.contains d then
        skip
        return d.toString
      else return ""
    | none => return ""
  if c = '>' then return ">" ++ (← follows ">|&")
  else
    let second ← follows "<&>"
    if second = "<" then return "<<" ++ (← follows "-") else return "<" ++ second

def scan (nested : Nested) : Reader Token := do
  skipBlanks (← get).bound
  let one := fun (t : Token) => do
    skip
    return t
  let twice := fun (c : Char) (single double : Token) => do
    skip
    if (← peek) = some c then
      skip
      return double
    else return single
  match ← peek with
  | none => return .eof
  | some '\n' => one .newline
  | some '&' => twice '&' .ampersand .andIf
  | some '|' => twice '|' .bar .orIf
  | some ';' => twice ';' .semicolon .endCase
  | some '(' => one .open
  | some ')' => one .close
  | some c => do
    if c = '<' || c = '>' then
      skip
      return .redirection none (← operator c)
    else do
      let before ← get
      let redirected ← (do
        if c.isDigit then
          skip
          match ← peek with
          | some d => return if d = '<' || d = '>' then some d else none
          | none => return none
        else return none)
      match redirected with
      | some d =>
        skip
        return .redirection (some (c.toNat - '0'.toNat)) (← operator d)
      | none =>
        set before
        let w ← Word.read nested
        return .word w (Word.isQuoted w)

def next (nested : Nested) : Reader Token := do
  if (← get).pushed then
    modify fun s => { s with pushed := false }
    return (← get).last
  else do
    let t ← scan nested
    modify fun s => { s with last := t }
    return t

def push : Reader Unit := modify fun s => { s with pushed := true }

end Token

/-! ## Documents -/

namespace Announced

def body (a : Announced) : Nat → Reader String
  | 0 => return ""
  | n + 1 => do
    if a.indented then
      modify fun s => { s with rest := s.rest.dropWhile (· = '\t') }
    let s ← get
    let after := s.rest.drop a.last.length
    if s.rest.isEmpty then return ""
    else if a.last.toList.isPrefixOf s.rest && (after.isEmpty || after.head? = some '\n') then
      modify fun s => { s with rest := after }
      skip
      return ""
    else return (← line n) ++ (← body a n)
where
  line : Nat → Reader String
    | 0 => return ""
    | n + 1 => do
      match ← take with
      | none => return ""
      | some '\n' => return "\n"
      | some c =>
        if c = '\\' && !a.exact then
          match ← take with
          | some d => return String.ofList [c, d] ++ (← line n)
          | none => return "\\"
        else return c.toString ++ (← line n)

def read (nested : Nested) (a : Announced) : Reader Unit := do
  let start := (← get).line
  let text ← a.body (← get).bound
  let w ← (do
    if a.exact then return [Part.text text true]
    else
      let after ← get
      set { after with rest := text.toList, line := start }
      let w ← Word.parts nested after.bound .document
      modify fun s => { s with rest := after.rest, line := after.line }
      return w)
  modify fun s => { s with documents := (a.index, w) :: s.documents }

def readAll (nested : Nested) : Reader Unit := do
  let s ← get
  if !s.announced.isEmpty then
    set { s with announced := [] }
    s.announced.forM (read nested)

end Announced

namespace Token

def read (nested : Nested) (checks : Checks) : Reader Token :=
  repeating () fun _ => do
    let t ← next nested
    match t with
    | .newline =>
      if checks.newlines then
        Announced.readAll nested
        return .inl ()
      else return .inr t
    | .word w _ =>
      match Part.plain? w with
      | none => return .inr t
      | some x =>
        if checks.keywords && x ∈ reservedWords then
          modify fun s => { s with last := .keyword x }
          return .inr (.keyword x)
        else
          let s ← get
          let busy := s.busy.any fun (y, left) => y = x && s.rest.length ≤ left
          match if checks.aliases && !busy then s.aliases.lookup x else none with
          | some value =>
            set { s with rest := value.toList ++ s.rest, bound := s.bound + value.length,
                         busy := (x, s.rest.length) :: s.busy }
            return .inl ()
          | none => return .inr t
    | t => return .inr t

end Token

/-! ## Commands -/

/-- Where a list of commands stands: on a line of its own, inside a command that goes on after it,
or between delimiters, where it may be empty. -/
inductive ListKind
  | line | body | delimited
  deriving DecidableEq, Repr

structure Grammar where
  list : ListKind → Reader (Option Command)
  command : Checks → Reader Command

namespace Grammar

def inside (r : Reader (Option Command)) : Reader (Option Command) := do
  let outer ← get
  set { outer with announced := [], pushed := false, literal := false }
  let c ← r
  modify fun s => { s with announced := outer.announced, pushed := false, literal := outer.literal }
  return c

def nested (g : Grammar) : Nested where
  parenthesized := inside do
    let c ← g.list .delimited
    match (← get).last with
    | .close => return c
    | _ => Token.unexpected (some "\")\"")
  whole text := inside do
    let outer ← get
    set { outer with rest := text.toList, line := 1, bound := 2 * text.length + 16 }
    let c ← g.list .delimited
    modify fun s => { s with rest := outer.rest, line := outer.line, bound := outer.bound }
    return c

def token (g : Grammar) (checks : Checks) : Reader Token := Token.read g.nested checks

def expect (g : Grammar) (checks : Checks) (k : String) : Reader Unit := do
  let t ← g.token checks
  if t.isKeyword k then return else Token.unexpected (some ("\"" ++ k ++ "\""))

def body (g : Grammar) : Reader Command := do
  return (← g.list .body).getD default

def redirection (g : Grammar) (d : Option Nat) (operator : String) : Reader Redirection := do
  let document := operator = "<<" || operator = "<<-"
  modify fun s => { s with literal := document }
  let t ← g.token {}
  modify fun s => { s with literal := false }
  match t with
  | .word w quoted =>
    if document then
      let s ← get
      let a : Announced := ⟨s.serial, Word.literalText w, operator = "<<-", quoted⟩
      set { s with serial := s.serial + 1, announced := s.announced ++ [a] }
      return .document (d.getD 0) s.serial
    else
      let standard := if operator.toList.head? = some '<' then 0 else 1
      let connection : Connection := match operator with
        | ">" => .create
        | ">>" => .append
        | ">|" => .clobber
        | "<" => .read
        | "<>" => .update
        | _ => .duplicate
      return .path (d.getD standard) connection w
  | _ => Token.unexpected none

def redirections (g : Grammar) : Reader (List Redirection) :=
  repeating [] fun (rs : List Redirection) => do
    match ← g.token { keywords := rs.isEmpty, aliases := rs.isEmpty } with
    | .redirection d operator => return .inl (rs ++ [← g.redirection d operator])
    | _ =>
      Token.push
      return .inr rs

structure Simple where
  assignments : List Word := []
  words : List Word := []
  redirections : List Redirection := []

def simple (g : Grammar) : Reader Command := do
  let line := (← get).line
  repeating ({} : Simple) fun x => do
    let finish := do
      Token.push
      return Sum.inr (.simple line x.assignments x.words x.redirections)
    match ← g.token { aliases := x.words.isEmpty } with
    | .word w _ =>
      if x.words.isEmpty && Part.isAssignment w then
        return .inl { x with assignments := x.assignments ++ [w] }
      else return .inl { x with words := x.words ++ [w] }
    | .redirection d operator =>
      return .inl { x with redirections := x.redirections ++ [← g.redirection d operator] }
    | .open =>
      match x.words, x.assignments, x.redirections with
      | [w], [], [] =>
        match ← g.token {} with
        | .close =>
          match Part.plain? w with
          | none => Word.misprint "Bad function name"
          | some name =>
            if !isName name || name ∈ specialCommands then Word.misprint "Bad function name"
            else
              let line := (← get).line
              return .inr (.define line name (← g.command .all))
        | _ => Token.unexpected (some "\")\"")
      | _, _, _ => finish
    | _ => finish

def conditional (g : Grammar) : Reader Command := do
  let test ← g.body
  g.expect {} "then"
  let first ← g.body
  let branches ← repeating [] fun (bs : List (Command × Command)) => do
    let t ← g.token {}
    if t.isKeyword "elif" then
      let test ← g.body
      g.expect {} "then"
      return .inl (bs ++ [(test, ← g.body)])
    else
      Token.push
      return .inr bs
  let t ← g.token {}
  let other ← (do
    if t.isKeyword "else" then return some (← g.body)
    else
      Token.push
      return none)
  return .conditional test first
    (branches.foldr (fun (t, b) o => some (.conditional t b o)) other)

def loop (g : Grammar) (negated : Bool) : Reader Command := do
  let test ← g.body
  g.expect {} "do"
  return .loop negated test (← g.body)

def forWords (g : Grammar) : Reader (List Word) :=
  repeating [] fun (ws : List Word) => do
    match ← g.token {} with
    | .word w _ => return .inl (ws ++ [w])
    | .newline | .semicolon => return .inr ws
    | _ => Token.unexpected none

def each (g : Grammar) (line : Nat) : Reader Command := do
  let name? := match ← g.token {} with
    | .word w _ => (Part.plain? w).filter isName
    | _ => none
  match name? with
  | none => Word.misprint "Bad for loop variable"
  | some name =>
    let t ← g.token .all
    let words ← (do
      if t.isKeyword "in" then return some (← g.forWords)
      else
        match t with
        | .semicolon => return none
        | _ =>
          Token.push
          return none)
    g.expect .all "do"
    return .each line name words (← g.body)

def patterns (g : Grammar) (first : Token) : Reader (List Word) := do
  let wordOf := fun (t : Token) =>
    match t with
    | .word w _ => w
    | .keyword k => [Part.text k false]
    | _ => []
  let ws ← repeating [wordOf first] fun (ws : List Word) => do
    match ← g.token {} with
    | .bar => return .inl (ws ++ [wordOf (← g.token {})])
    | _ => return .inr ws
  match (← get).last with
  | .close => return ws
  | _ => Token.unexpected (some "\")\"")

def choice (g : Grammar) (line : Nat) : Reader Command := do
  match ← g.token {} with
  | .word w _ =>
    g.expect .all "in"
    let checks : Checks := { newlines := true, keywords := true }
    let first ← g.token checks
    let start : List (List Word × Option Command) × Token := ([], first)
    let branches ← repeating start fun (bs, t) => do
      if t.isKeyword "esac" then return .inr bs
      else
        let t ← (match t with
          | .open => g.token {}
          | t => pure t)
        let ws ← g.patterns t
        let c ← g.list .delimited
        let bs := bs ++ [(ws, c)]
        match ← g.token checks with
        | .endCase => return .inl (bs, ← g.token checks)
        | t =>
          if t.isKeyword "esac" then return .inr bs else Token.unexpected (some "\";;\"")
    return .choice line w branches
  | _ => Token.unexpected (some "word")

def redirected (g : Grammar) (line : Nat) (c : Command) : Reader Command := do
  match ← g.redirections with
  | [] => return c
  | rs =>
    match c with
    | .subshell l b _ => return .subshell l b rs
    | c => return .redirected line c rs

def commandOf (g : Grammar) (checks : Checks) : Reader Command := do
  let line := (← get).line
  let closed := fun (c : Command) (k : String) => do
    g.expect {} k
    g.redirected line c
  match ← g.token checks with
  | .keyword "if" => closed (← g.conditional) "fi"
  | .keyword "while" => closed (← g.loop false) "done"
  | .keyword "until" => closed (← g.loop true) "done"
  | .keyword "for" => closed (← g.each line) "done"
  | .keyword "case" => g.redirected line (← g.choice line)
  | .keyword "\x7b" => closed (← g.body) "\x7d"
  | .open => do
    let c ← g.body
    match ← g.token {} with
    | .close => g.redirected line (.subshell line c [])
    | _ => Token.unexpected (some "\")\"")
  | .word .. | .redirection .. => do
    Token.push
    g.simple
  | _ => Token.unexpected none

def pipeline (g : Grammar) (checks : Checks) : Reader Command := do
  let negated := (← g.token checks).isKeyword "!"
  if !negated then Token.push
  let first ← g.command { keywords := true, aliases := true }
  let cs ← repeating [first] fun cs => do
    match ← g.token {} with
    | .bar => return .inl (cs ++ [← g.command .all])
    | _ =>
      Token.push
      return .inr cs
  let c := match cs with
    | [c] => c
    | cs => .pipeline false cs
  return if negated then .negated c else c

def andOr (g : Grammar) : Reader Command := do
  let first ← g.pipeline {}
  repeating first fun c => do
    match ← g.token {} with
    | .andIf => return .inl (.both c (← g.pipeline .all))
    | .orIf => return .inl (.either c (← g.pipeline .all))
    | _ =>
      Token.push
      return .inr c

def inBackground (line : Nat) : Command → Command
  | .pipeline _ cs => .pipeline true cs
  | .redirected l c rs => .background l c rs
  | c => .background line c []

def listOf (g : Grammar) (kind : ListKind) : Reader (Option Command) :=
  repeating none fun (before : Option Command) => do
    let finish := fun (c : Option Command) => do
      Announced.readAll g.nested
      return Sum.inr c
    let t ← g.token { newlines := kind ≠ .line, keywords := true, aliases := true }
    match t with
    | .newline => finish before
    | .eof =>
      Token.push
      finish before
    | t =>
      Token.push
      let mayEnd := kind = .delimited || (kind = .body && before.isSome)
      if mayEnd && t.endsList then return .inr before
      else
        let c ← g.andOr
        let t ← g.token {}
        let line := (← get).line
        let c := match t with
          | .ampersand => inBackground line c
          | _ => c
        let c := match before with
          | some b => .sequence b c
          | none => c
        match t with
        | .eof =>
          Token.push
          finish (some c)
        | .newline =>
          Token.push
          return .inl (some c)
        | .ampersand | .semicolon => return .inl (some c)
        | _ =>
          if kind = .line then Token.unexpected none
          else
            Token.push
            return .inr (some c)

end Grammar

def grammar : Nat → Grammar
  | 0 => ⟨fun _ => Word.misprint "nested too deep", fun _ => Word.misprint "nested too deep"⟩
  | n + 1 => ⟨fun kind => (grammar n).listOf kind, fun checks => (grammar n).commandOf checks⟩

namespace Source

def atEnd (s : Source) : Bool := s.pushed && s.last matches .eof

inductive Line
  | finished
  | command (c : Option Command) (rest : Source)

def nextLine (s : Source) : Except Misprint Line := do
  let s := { s with pushed := false }
  let (c, rest) ← ((grammar s.bound).list .line).run s
  return if rest.atEnd && c.isNone then .finished else .command c rest

end Source

end TreeTool.Shell
