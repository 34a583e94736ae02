import TreeTool.Shell.Expansion

/-!
# Redirections

A redirection makes a descriptor lead somewhere else for a command. What it led to before is kept
under a descriptor beyond those that scripts can name, and comes back after the command.
-/

namespace TreeTool.Shell

open Kernel (Access)
open Files (Problem)

inductive Redirect
  | path (descriptor : Nat) (connection : Connection) (path : String)
  | copy (descriptor : Nat) (source : Option Nat)
  | content (descriptor : Nat) (document : Word)

namespace Redirect

def descriptor : Redirect → Nat
  | path d _ _ | copy d _ | content d _ => d

def expanded (e : Evaluator) : Redirection → Step Redirect
  | .document d i => return .content d (((← get).documents.lookup i).getD [])
  | .path d connection w => do
    let t ← Expansion.textOf e w
    if connection ≠ .duplicate then return .path d connection t
    else if t = "-" then return .copy d none
    else match t.toList with
      | [c] =>
        if c.isDigit then return .copy d (some (c.toNat - '0'.toNat)) else bad
      | _ => bad
where
  bad : Step Redirect := do
    modify fun s => { s with line := s.reading }
    fail "Syntax error: Bad fd number"

def allExpanded (e : Evaluator) : List Redirection → Step (List Redirect)
  | [] => return []
  | r :: rs => do
    let a ← expanded e r
    return a :: (← allExpanded e rs)

/-! ## Opening -/

def reason (missing : String) : Problem → String
  | .missing | .notDirectory => missing
  | p => p.words

def cannotOpen {α : Type} (path : String) (p : Problem) : Step α :=
  fail ("cannot open " ++ path ++ ": " ++ reason "No such file" p)

def cannotCreate {α : Type} (path : String) (p : Problem) : Step α :=
  fail ("cannot create " ++ path ++ ": " ++ reason "Directory nonexistent" p)

def opened (a : Access) (path : String) : Step (Except Problem Nat) :=
  act fun w me =>
    match w.openPath me a path with
    | .error p => (w, .error p)
    | .ok (w, o) =>
      let (w, i) := w.addOpening o
      (w, .ok i)

def isFile (path : String) : Step Bool :=
  look fun w me =>
    match w.files.find (w.here me) (Text.Raw.toText path) with
    | .ok (_, .file ..) | .ok (_, .utility _) => true
    | _ => false

def holding (text : String) : Step Nat :=
  act fun w _ =>
    let (w, r, _) := w.addPipe
    match w.openings[r]? with
    | some ⟨.pipe k, _, _, _, _⟩ =>
      ({ w with pipes := w.pipes.modify k fun p => { p with content := Text.Raw.toArray text } }, r)
    | _ => (w, r)

def opening (e : Evaluator) : Redirect → Step (Option Nat)
  | path _ connection p => do
    let guarded ← (do
      if connection = .create && (← get).has 'C' then isFile p else return false)
    if guarded then cannotCreate p .exists
    else
      let a : Access := match connection with
        | .read => .read
        | .append => .append
        | .update => .update
        | _ => .create
      match ← opened a p with
      | .ok i => return some i
      | .error problem => if a = .read then cannotOpen p problem else cannotCreate p problem
  | copy _ none => return none
  | copy _ (some n) => do
    match ← look fun w me => w.opening? me n with
    | some (i, _) => return some i
    | none => fail (toString n ++ ": Bad file descriptor")
  | content _ w => return some (← holding (← Expansion.textOf e w))

/-! ## Connecting -/

def firstKept : Nat := 10

def keep (d : Nat) : Step Unit := do
  match (← get).redirected with
  | [] => return
  | frame :: frames =>
    if (frame.lookup d).isSome then return
    else
      let kept ← act fun w me =>
        match w.opening? me d with
        | none => (w, none)
        | some (i, _) =>
          let n := Kernel.World.free ((w.descriptors me).map (·.1)) firstKept
          (w.setDescriptor me n i, some n)
      modify fun s => { s with redirected := ((d, kept) :: frame) :: frames }

def connect (d : Nat) : Option Nat → Step Unit
  | some i => change fun w me => w.setDescriptor me d i
  | none => change fun w me => w.close me d

def apply (e : Evaluator) (keeps : Bool) : List Redirect → Step Unit
  | [] => return
  | r :: rs => do
    let i ← opening e r
    if keeps then keep r.descriptor
    connect r.descriptor i
    apply e keeps rs

def restore (drop : Bool) : List (Nat × Option Nat) → Step Unit
  | [] => return
  | (d, kept) :: frame => do
    match kept with
    | none => if !drop then change fun w me => w.close me d
    | some n =>
      change fun w me =>
        let w := match w.opening? me n with
          | some (i, _) => if drop then w else w.setDescriptor me d i
          | none => w
        w.close me n
    restore drop frame

def push : Step Unit := modify fun s => { s with redirected := [] :: s.redirected }

def pop (drop : Bool := false) : Step Unit := do
  match (← get).redirected with
  | [] => return
  | frame :: frames =>
    modify fun s => { s with redirected := frames }
    restore drop frame

def popAll : Step Unit := do
  let frames := (← get).redirected
  modify fun s => { s with redirected := [] }
  frames.forM (restore false)

def applySafely (e : Evaluator) (rs : List Redirect) : Step Bool := do
  match ← Step.attempt (apply e true rs) with
  | .ok _ => return true
  | .error .error => return false
  | .error x => Step.escape x

end Redirect

end TreeTool.Shell
