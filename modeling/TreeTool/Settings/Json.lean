import TreeTool.Json.Reader
import TreeTool.Settings.Basic

/-!
# Settings in a JSON document

An object names its settings; an array lists them in order and may end early. Either way what is
missing keeps its default, and a name that is unknown or comes twice is refused where it stands.
-/

namespace TreeTool.Settings

open Json (Reader Rest)

def valueOf (s : Settings) (name : String) : Reader Settings := fun cs =>
  if name = "binary" then (Json.text cs).map fun (b, r) => ({ s with binary := b }, r)
  else if name = "timeout_ms" then
    (Json.optional Json.word cs).map fun (t, r) => ({ s with timeoutMillis := t }, r)
  else if name = "encoding" then
    (Json.named cs).map fun (e, r) => ({ s with encoding := e }, r)
  else if name = "stderr" then
    (Json.named cs).map fun (m, r) => ({ s with stderr := m }, r)
  else .error (.unknownName (.unknownField name fieldNames))

def listed (s : Settings) : List String → Bool → Reader Settings
  | [], _, cs =>
    match Json.skipBlank cs with
    | [] => .error .cutShort
    | ']' :: r => .ok (s, r)
    | _ => .error .malformed
  | name :: names, first, cs =>
    match Json.skipBlank cs with
    | [] => .error .cutShort
    | ']' :: r => .ok (s, r)
    | c :: r =>
      if first then
        match valueOf s name (c :: r) with
        | .error f => .error f
        | .ok (s, r) => listed s names false r
      else if c = ',' then
        match Json.skipBlank r with
        | [] => .error .cutShort
        | ']' :: _ => .error .malformed
        | r =>
          match valueOf s name r with
          | .error f => .error f
          | .ok (s, r) => listed s names false r
      else .error .malformed

def member (s : Settings) (seen : List String) (name : String) : Reader Settings := fun cs =>
  if name ∉ fieldNames then .error (.unknownName (.unknownField name fieldNames))
  else if name ∈ seen then .error .mistyped
  else
    match Json.colon cs with
    | .error f => .error f
    | .ok r => valueOf s name r

def members (s : Settings) (seen : List String) : Nat → Reader Settings
  | 0, _ => .error .malformed
  | n + 1, cs =>
    let cs := Json.skipBlank cs
    let start : Except Json.Fault (Option Rest) :=
      match cs with
      | [] => .error .cutShort
      | '\x7d' :: r => .ok (some r)
      | _ => .ok none
    match start with
    | .error f => .error f
    | .ok (some r) => .ok (s, r)
    | .ok none =>
      let next : Except Json.Fault Rest :=
        if seen.isEmpty then .ok cs
        else match cs with
          | ',' :: r =>
            match Json.skipBlank r with
            | [] => .error .cutShort
            | '\x7d' :: _ => .error .malformed
            | r => .ok r
          | _ => .error .malformed
      match next with
      | .error f => .error f
      | .ok cs =>
        match cs with
        | '"' :: r =>
          match Json.stringRest r with
          | .error f => .error f
          | .ok (name, r) =>
            match member s seen name r with
            | .error f => .error f
            | .ok (s, r) => members s (name :: seen) n r
        | _ => .error .malformed

def reader : Reader Settings := fun cs =>
  match Json.skipBlank cs with
  | '[' :: r => listed {} fieldNames true r
  | '\x7b' :: r => members {} [] (r.length + 1) r
  | r => .error (Json.unwanted r)

def ofJson (text : String) : Except Json.Fault Settings := Json.whole reader text

/-- Reads settings with faults as callers see them; `words` says how a fault of JSON is worded. -/
def decode (words : Json.Fault → String) (text : String) : Except Fault Settings :=
  match ofJson text with
  | .ok s => .ok s
  | .error f => .error (.serialization (words f))

end TreeTool.Settings
