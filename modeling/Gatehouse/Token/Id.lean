import Gatehouse.Text.Hex

/-! Token ids: random UUIDs of version 4, in lowercase with hyphens. -/
namespace Gatehouse.Token.Id

def bytes (n : Nat) : Bytes :=
  (List.range 16).map fun i => UInt8.ofNat (n >>> (8 * (15 - i)))

def marked (bytes : Bytes) : Bytes :=
  bytes.zipIdx.map fun (byte, i) =>
    if i = 6 then byte &&& 0x0f ||| 0x40
    else if i = 8 then byte &&& 0x3f ||| 0x80
    else byte

def hyphens : List Nat := [4, 6, 8, 10]

/-- The id made from a random number, of which 122 bits count. -/
def ofRandom (n : Nat) : String :=
  String.ofList ((marked (bytes n)).zipIdx.flatMap fun (byte, i) =>
    (if hyphens.contains i then ['-'] else []) ++ Text.hexByte byte)

def isLowerHex (c : Char) : Bool := c.isDigit || ('a' ≤ c && c ≤ 'f')

def isWellFormed (s : String) : Bool :=
  s.length = 36 && s.toList.zipIdx.all fun (c, i) =>
    if [8, 13, 18, 23].contains i then c = '-'
    else if i = 14 then c = '4'
    else if i = 19 then ['8', '9', 'a', 'b'].contains c
    else isLowerHex c

end Gatehouse.Token.Id
