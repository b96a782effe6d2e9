import Gatehouse.Text.Bytes

/-! BLAKE2b without a key: blocks of sixteen 64-bit words are mixed into a state of eight, and the
digest is as many leading bytes of it as are asked for, at most 64. -/
namespace Gatehouse.Digest.Blake2b

def initial : Array UInt64 := #[
  0x6a09e667f3bcc908, 0xbb67ae8584caa73b, 0x3c6ef372fe94f82b, 0xa54ff53a5f1d36f1,
  0x510e527fade682d1, 0x9b05688c2b3e6c1f, 0x1f83d9abfb41bd6b, 0x5be0cd19137e2179]

def permutations : List (List Nat) := [
  [0, 1, 2, 3, 4, 5, 6, 7, 8, 9, 10, 11, 12, 13, 14, 15],
  [14, 10, 4, 8, 9, 15, 13, 6, 1, 12, 0, 2, 11, 7, 5, 3],
  [11, 8, 12, 0, 5, 2, 15, 13, 10, 14, 3, 6, 7, 1, 9, 4],
  [7, 9, 3, 1, 13, 12, 11, 14, 2, 6, 5, 10, 4, 0, 15, 8],
  [9, 0, 5, 7, 2, 4, 10, 15, 14, 1, 11, 12, 6, 8, 3, 13],
  [2, 12, 6, 10, 0, 11, 8, 3, 4, 13, 7, 5, 15, 14, 1, 9],
  [12, 5, 1, 15, 14, 13, 4, 10, 0, 7, 6, 3, 9, 2, 8, 11],
  [13, 11, 7, 14, 12, 1, 3, 9, 5, 0, 15, 4, 8, 6, 2, 10],
  [6, 15, 14, 9, 11, 3, 0, 8, 12, 2, 13, 7, 1, 4, 10, 5],
  [10, 2, 8, 4, 7, 6, 1, 5, 15, 11, 9, 14, 3, 12, 13, 0]]

def rounds : List (List Nat) := permutations ++ permutations.take 2

def rotateRight (x n : UInt64) : UInt64 := (x >>> n) ||| (x <<< (64 - n))

def places : List (Nat × Nat × Nat × Nat) := [
  (0, 4, 8, 12), (1, 5, 9, 13), (2, 6, 10, 14), (3, 7, 11, 15),
  (0, 5, 10, 15), (1, 6, 11, 12), (2, 7, 8, 13), (3, 4, 9, 14)]

def mix (v : Array UInt64) (place : Nat × Nat × Nat × Nat) (x y : UInt64) : Array UInt64 :=
  let (i, j, k, l) := place
  let a := v[i]?.getD 0 + v[j]?.getD 0 + x
  let d := rotateRight (v[l]?.getD 0 ^^^ a) 32
  let c := v[k]?.getD 0 + d
  let b := rotateRight (v[j]?.getD 0 ^^^ c) 24
  let a := a + b + y
  let d := rotateRight (d ^^^ a) 16
  let c := c + d
  let b := rotateRight (b ^^^ c) 63
  (((v.setIfInBounds i a).setIfInBounds j b).setIfInBounds k c).setIfInBounds l d

def pairs (block : Array UInt64) : List Nat → List (UInt64 × UInt64)
  | i :: j :: rest => (block[i]?.getD 0, block[j]?.getD 0) :: pairs block rest
  | _ => []

def round (block : Array UInt64) (v : Array UInt64) (order : List Nat) : Array UInt64 :=
  (places.zip (pairs block order)).foldl (fun v (place, x, y) => mix v place x y) v

/-- Mixes in one block; `counted` is the number of message bytes so far. -/
def compress (h block : Array UInt64) (counted : Nat) (last : Bool) : Array UInt64 :=
  let v := h ++ initial
  let v := v.modify 12 (· ^^^ UInt64.ofNat counted)
  let v := v.modify 13 (· ^^^ UInt64.ofNat (counted >>> 64))
  let v := if last then v.modify 14 (~~~·) else v
  let v := rounds.foldl (round block) v
  Array.ofFn fun i : Fin 8 => h[i.val]?.getD 0 ^^^ v[i.val]?.getD 0 ^^^ v[i.val + 8]?.getD 0

def littleEndianWord (bytes : Bytes) : UInt64 :=
  bytes.foldr (fun byte word => word <<< 8 ||| byte.toUInt64) 0

def words : Bytes → List UInt64
  | a :: b :: c :: d :: e :: f :: g :: h :: rest =>
    littleEndianWord [a, b, c, d, e, f, g, h] :: words rest
  | _ => []

def littleEndian (count n : Nat) : Bytes :=
  (List.range count).map fun i => UInt8.ofNat (n >>> (8 * i))

/-- Mixes in the rest of a message block by block, with fuel for their number; the last block is
filled with zeros. -/
def absorb : Nat → Array UInt64 → Nat → Bytes → Array UInt64
  | 0, h, _, _ => h
  | fuel + 1, h, counted, message =>
    let block := message.take 128
    let padded := (words (block ++ List.replicate (128 - block.length) 0)).toArray
    let counted := counted + block.length
    let rest := message.drop 128
    if rest.isEmpty then compress h padded counted true
    else absorb fuel (compress h padded counted false) counted rest

def digest (size : Nat) (message : Bytes) : Bytes :=
  let h := initial.modify 0 (· ^^^ UInt64.ofNat (0x01010000 + size))
  let final := absorb (message.length / 128 + 1) h 0 message
  (final.toList.flatMap fun word => littleEndian 8 word.toNat).take size

end Gatehouse.Digest.Blake2b
