import TreeTool.Text.Utf8

/-!
# Raw texts

Programs pass bytes around that need not be the encoding of any text. A raw text is a `String`
that holds each byte as the character with its number, so that it can be cut and compared byte by
byte; `ofText` and `toText` go over to texts and back.
-/

namespace TreeTool.Text.Raw

def ofBytes (bs : Bytes) : String := String.ofList (bs.map fun b => Char.ofNat b.toNat)

def toBytes (s : String) : Bytes := s.toList.map fun c => UInt8.ofNat c.toNat

def ofText (s : String) : String := ofBytes (Utf8.encode s.toList)

def toText (s : String) : String := Utf8.decode (toBytes s)

def ofArray (b : ByteArray) : String := ofBytes b.toList

def pushTo (b : ByteArray) (s : String) : ByteArray :=
  s.foldl (fun b c => b.push (UInt8.ofNat c.toNat)) b

def toArray (s : String) : ByteArray := pushTo .empty s

end TreeTool.Text.Raw
