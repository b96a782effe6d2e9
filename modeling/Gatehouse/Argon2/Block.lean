import Gatehouse.Digest.Blake2b

/-! The memory blocks of Argon2: 128 words of 64 bits in eight rows of sixteen, and the compression
that mixes two blocks into one, first along the rows and then along the columns. -/
namespace Gatehouse.Argon2

structure Row where
  (w0 w1 w2 w3 w4 w5 w6 w7 w8 w9 w10 w11 w12 w13 w14 w15 : UInt64)

namespace Row

def zero : Row := ⟨0, 0, 0, 0, 0, 0, 0, 0, 0, 0, 0, 0, 0, 0, 0, 0⟩

def xor (x y : Row) : Row :=
  ⟨x.w0 ^^^ y.w0, x.w1 ^^^ y.w1, x.w2 ^^^ y.w2, x.w3 ^^^ y.w3,
    x.w4 ^^^ y.w4, x.w5 ^^^ y.w5, x.w6 ^^^ y.w6, x.w7 ^^^ y.w7,
    x.w8 ^^^ y.w8, x.w9 ^^^ y.w9, x.w10 ^^^ y.w10, x.w11 ^^^ y.w11,
    x.w12 ^^^ y.w12, x.w13 ^^^ y.w13, x.w14 ^^^ y.w14, x.w15 ^^^ y.w15⟩

def toList (r : Row) : List UInt64 :=
  [r.w0, r.w1, r.w2, r.w3, r.w4, r.w5, r.w6, r.w7,
    r.w8, r.w9, r.w10, r.w11, r.w12, r.w13, r.w14, r.w15]

def ofFn (f : Nat → UInt64) : Row :=
  ⟨f 0, f 1, f 2, f 3, f 4, f 5, f 6, f 7, f 8, f 9, f 10, f 11, f 12, f 13, f 14, f 15⟩

end Row

structure Quad where
  (a b c d : UInt64)

@[inline] def addMul (x y : UInt64) : UInt64 :=
  x + y + 2 * ((x &&& 0xFFFFFFFF) * (y &&& 0xFFFFFFFF))

@[inline] def rotateRight (x n : UInt64) : UInt64 := (x >>> n) ||| (x <<< (64 - n))

@[inline] def mix (a b c d : UInt64) : Quad :=
  let a := addMul a b
  let d := rotateRight (d ^^^ a) 32
  let c := addMul c d
  let b := rotateRight (b ^^^ c) 24
  let a := addMul a b
  let d := rotateRight (d ^^^ a) 16
  let c := addMul c d
  let b := rotateRight (b ^^^ c) 63
  ⟨a, b, c, d⟩

/-- The permutation of sixteen words: the columns of a four by four square, then its diagonals. -/
def permute (r : Row) : Row :=
  let ⟨a0, b0, c0, d0⟩ := mix r.w0 r.w4 r.w8 r.w12
  let ⟨a1, b1, c1, d1⟩ := mix r.w1 r.w5 r.w9 r.w13
  let ⟨a2, b2, c2, d2⟩ := mix r.w2 r.w6 r.w10 r.w14
  let ⟨a3, b3, c3, d3⟩ := mix r.w3 r.w7 r.w11 r.w15
  let ⟨a0, b1, c2, d3⟩ := mix a0 b1 c2 d3
  let ⟨a1, b2, c3, d0⟩ := mix a1 b2 c3 d0
  let ⟨a2, b3, c0, d1⟩ := mix a2 b3 c0 d1
  let ⟨a3, b0, c1, d2⟩ := mix a3 b0 c1 d2
  ⟨a0, a1, a2, a3, b0, b1, b2, b3, c0, c1, c2, c3, d0, d1, d2, d3⟩

structure Block where
  (r0 r1 r2 r3 r4 r5 r6 r7 : Row)

namespace Block

def zero : Block :=
  ⟨.zero, .zero, .zero, .zero, .zero, .zero, .zero, .zero⟩

def xor (x y : Block) : Block :=
  ⟨x.r0.xor y.r0, x.r1.xor y.r1, x.r2.xor y.r2, x.r3.xor y.r3,
    x.r4.xor y.r4, x.r5.xor y.r5, x.r6.xor y.r6, x.r7.xor y.r7⟩

def permuteRows (x : Block) : Block :=
  ⟨permute x.r0, permute x.r1, permute x.r2, permute x.r3,
    permute x.r4, permute x.r5, permute x.r6, permute x.r7⟩

/-- The block whose row `i` holds the words `2i` and `2i + 1` of every row; done twice, it gives the
block back. -/
def transpose (x : Block) : Block :=
  let ⟨r0, r1, r2, r3, r4, r5, r6, r7⟩ := x
  ⟨⟨r0.w0, r0.w1, r1.w0, r1.w1, r2.w0, r2.w1, r3.w0, r3.w1,
      r4.w0, r4.w1, r5.w0, r5.w1, r6.w0, r6.w1, r7.w0, r7.w1⟩,
    ⟨r0.w2, r0.w3, r1.w2, r1.w3, r2.w2, r2.w3, r3.w2, r3.w3,
      r4.w2, r4.w3, r5.w2, r5.w3, r6.w2, r6.w3, r7.w2, r7.w3⟩,
    ⟨r0.w4, r0.w5, r1.w4, r1.w5, r2.w4, r2.w5, r3.w4, r3.w5,
      r4.w4, r4.w5, r5.w4, r5.w5, r6.w4, r6.w5, r7.w4, r7.w5⟩,
    ⟨r0.w6, r0.w7, r1.w6, r1.w7, r2.w6, r2.w7, r3.w6, r3.w7,
      r4.w6, r4.w7, r5.w6, r5.w7, r6.w6, r6.w7, r7.w6, r7.w7⟩,
    ⟨r0.w8, r0.w9, r1.w8, r1.w9, r2.w8, r2.w9, r3.w8, r3.w9,
      r4.w8, r4.w9, r5.w8, r5.w9, r6.w8, r6.w9, r7.w8, r7.w9⟩,
    ⟨r0.w10, r0.w11, r1.w10, r1.w11, r2.w10, r2.w11, r3.w10, r3.w11,
      r4.w10, r4.w11, r5.w10, r5.w11, r6.w10, r6.w11, r7.w10, r7.w11⟩,
    ⟨r0.w12, r0.w13, r1.w12, r1.w13, r2.w12, r2.w13, r3.w12, r3.w13,
      r4.w12, r4.w13, r5.w12, r5.w13, r6.w12, r6.w13, r7.w12, r7.w13⟩,
    ⟨r0.w14, r0.w15, r1.w14, r1.w15, r2.w14, r2.w15, r3.w14, r3.w15,
      r4.w14, r4.w15, r5.w14, r5.w15, r6.w14, r6.w15, r7.w14, r7.w15⟩⟩

def compress (x y : Block) : Block :=
  let mixed := x.xor y
  mixed.permuteRows.transpose.permuteRows.transpose.xor mixed

def words (x : Block) : List UInt64 :=
  [x.r0, x.r1, x.r2, x.r3, x.r4, x.r5, x.r6, x.r7].flatMap Row.toList

def ofWords (words : Array UInt64) : Block :=
  let row (i : Nat) : Row := .ofFn fun j => words[16 * i + j]?.getD 0
  ⟨row 0, row 1, row 2, row 3, row 4, row 5, row 6, row 7⟩

def ofBytes (bytes : Bytes) : Block := ofWords (Digest.Blake2b.words bytes).toArray

def toBytes (x : Block) : Bytes :=
  x.words.flatMap fun word => Digest.Blake2b.littleEndian 8 word.toNat

def ofNumbers (numbers : List Nat) : Block := ofWords (numbers.map UInt64.ofNat).toArray

end Block

end Gatehouse.Argon2
