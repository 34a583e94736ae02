import TreeTool.Shell.Lookup

/-!
# Options of built-in commands

Options are letters after a dash in front of the other arguments. A colon after a letter says that
the option takes an argument.
-/

namespace TreeTool.Shell

def option? (allowed : List Char) (c : Char) : Option Bool :=
  match allowed with
  | [] => none
  | d :: ':' :: rest => if d = c then some true else option? rest c
  | d :: rest => if d = c then some false else option? rest c

def letterOptions (allowed : List Char) (as : List String) :
    List Char → Step (List (Char × String) × List String)
  | [] => return ([], as)
  | c :: cs => do
    match option? allowed c with
    | none => fail ("Illegal option -" ++ c.toString)
    | some false => do
      let (os, as) ← letterOptions allowed as cs
      return ((c, "") :: os, as)
    | some true =>
      match cs, as with
      | [], [] => fail ("No arg for -" ++ c.toString ++ " option")
      | [], a :: as => return ([(c, a)], as)
      | cs, as => return ([(c, String.ofList cs)], as)

def optionsFrom (allowed : List Char) : Nat → List String →
    Step (List (Char × String) × List String)
  | 0, as => return ([], as)
  | _, [] => return ([], [])
  | n + 1, a :: as => do
    match a.toList with
    | ['-', '-'] => return ([], as)
    | '-' :: c :: cs => do
      let (os, as) ← letterOptions allowed as (c :: cs)
      let (more, as) ← optionsFrom allowed n as
      return (os ++ more, as)
    | _ => return ([], a :: as)

def options (allowed : String) (as : List String) : Step (List (Char × String) × List String) :=
  optionsFrom allowed.toList (as.length + 1) as

end TreeTool.Shell
