import Gatehouse.Text.Hex

/-! Percent escapes: a percent sign with two hexadecimal digits stands for a byte, and any other
percent sign for itself. In a query a plus sign stands for a blank. -/
namespace Gatehouse.Text

def unescape : List Char → Bytes
  | [] => []
  | '%' :: high :: low :: rest =>
    match hexDigit? high, hexDigit? low with
    | some h, some l => UInt8.ofNat (16 * h + l) :: unescape rest
    | _, _ => toBytes "%" ++ unescape (high :: low :: rest)
  | c :: rest => toBytes (String.ofList [c]) ++ unescape rest
termination_by cs => cs.length

def unescapeText (cs : List Char) : Except Flaw String :=
  match flaw? (unescape cs) with
  | some flaw => .error flaw
  | none => .ok (ofBytesLossy (unescape cs))

def splitFirst (mark : Char) (cs : List Char) : List Char × List Char :=
  (cs.takeWhile (· ≠ mark), (cs.dropWhile (· ≠ mark)).drop 1)

def rawPairs (cs : List Char) : List (List Char × List Char) :=
  ((cs.splitOn '&').filter (· ≠ [])).map (splitFirst '=')

def queryPairs (cs : List Char) : List (String × String) :=
  let decoded (part : List Char) : String :=
    ofBytesLossy (unescape (part.map fun c => if c = '+' then ' ' else c))
  (rawPairs cs).map fun (name, value) => (decoded name, decoded value)

end Gatehouse.Text
