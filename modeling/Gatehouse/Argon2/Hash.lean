import Gatehouse.Argon2.Block

/-! The Argon2 password hash. A matrix of blocks, one row to a lane, is filled slice by slice, each
block from the one before it and one chosen among those already filled; the last column gives the
tag. -/
namespace Gatehouse.Argon2

open Digest (Blake2b.digest Blake2b.littleEndian)

inductive Variant where
  | d
  | i
  | id
deriving DecidableEq

namespace Variant

def name : Variant → String
  | d => "argon2d"
  | i => "argon2i"
  | id => "argon2id"

def ofName? (s : String) : Option Variant :=
  if s = "argon2d" then some d
  else if s = "argon2i" then some i
  else if s = "argon2id" then some id
  else none

def number : Variant → Nat
  | d => 0
  | i => 1
  | id => 2

end Variant

/-- In the older version a block is overwritten in later passes, in the newer one it is mixed in. -/
inductive Version where
  | older
  | newer
deriving DecidableEq

namespace Version

def number : Version → Nat
  | older => 0x10
  | newer => 0x13

def ofNumber? (n : Nat) : Option Version :=
  if n = 0x10 then some older else if n = 0x13 then some newer else none

end Version

structure Params where
  variant : Variant
  version : Version
  /-- Memory in blocks. -/
  memory : Nat
  passes : Nat
  lanes : Nat
  associated : Bytes
  tagLength : Nat

namespace Params

def isValid (p : Params) : Bool :=
  8 ≤ p.memory && 8 * p.lanes ≤ p.memory && 1 ≤ p.passes && 1 ≤ p.lanes && p.lanes < 0x1000000

def segmentLength (p : Params) : Nat := p.memory / (4 * p.lanes)

def laneLength (p : Params) : Nat := 4 * p.segmentLength

def blockCount (p : Params) : Nat := p.laneLength * p.lanes

end Params

def littleEndian32 (n : Nat) : Bytes := Blake2b.littleEndian 4 n

def counted (bytes : Bytes) : Bytes := littleEndian32 bytes.length ++ bytes

/-- The first 32 bytes of each digest of a chain of `count` digests, and the last digest. -/
def chain : Nat → Bytes → Bytes × Bytes
  | 0, digest => ([], digest)
  | count + 1, digest =>
    let (front, last) := chain count (Blake2b.digest 64 digest)
    (digest.take 32 ++ front, last)

def longHash (length : Nat) (message : Bytes) : Bytes :=
  let message := littleEndian32 length ++ message
  if length ≤ 64 then Blake2b.digest length message
  else
    let count := (length + 31) / 32 - 2
    let (front, last) := chain (count - 1) (Blake2b.digest 64 message)
    front ++ last.take 32 ++ Blake2b.digest (length - 32 * count) last

def seed (p : Params) (password salt : Bytes) : Bytes :=
  Blake2b.digest 64 (
    littleEndian32 p.lanes ++ littleEndian32 p.tagLength ++ littleEndian32 p.memory ++
    littleEndian32 p.passes ++ littleEndian32 p.version.number ++ littleEndian32 p.variant.number ++
    counted password ++ counted salt ++ counted [] ++ counted p.associated)

abbrev Memory := Array Block

def Memory.block (m : Memory) (i : Nat) : Block := m[i]?.getD .zero

def start (p : Params) (seed : Bytes) : Memory :=
  (List.range p.lanes).foldl (fun memory lane =>
    [0, 1].foldl (fun memory column =>
      memory.setIfInBounds (lane * p.laneLength + column)
        (.ofBytes (longHash 1024 (seed ++ littleEndian32 column ++ littleEndian32 lane)))) memory)
    (Array.replicate p.blockCount .zero)

/-- A lane's quarter of one pass. -/
structure Segment where
  pass : Nat
  slice : Nat
  lane : Nat

/-- Whether a segment chooses its blocks by numbers that do not depend on the password. -/
def Segment.isIndependent (s : Segment) : Variant → Bool
  | .d => false
  | .i => true
  | .id => s.pass = 0 && s.slice < 2

def choices (p : Params) (s : Segment) (group : Nat) : Array UInt64 :=
  let numbers := Block.ofNumbers
    [s.pass, s.lane, s.slice, p.blockCount, p.passes, p.variant.number, group + 1]
  ((Block.zero.compress (Block.zero.compress numbers)).words).toArray

/-- The place in the matrix that a choice names, for the block at `index` of a segment. -/
def reference (p : Params) (s : Segment) (index : Nat) (choice : UInt64) : Nat :=
  let lane :=
    if s.pass = 0 ∧ s.slice = 0 then s.lane else (choice >>> 32).toNat % p.lanes
  let before := if s.pass = 0 then s.slice * p.segmentLength else p.laneLength - p.segmentLength
  let area :=
    if lane = s.lane then before + index - 1 else if index = 0 then before - 1 else before
  let x := (choice &&& 0xFFFFFFFF).toNat
  let back := (area * ((x * x) >>> 32)) >>> 32
  let first := if s.pass = 0 ∨ s.slice = 3 then 0 else (s.slice + 1) * p.segmentLength
  lane * p.laneLength + (first + (area - 1 - back)) % p.laneLength

def fillBlock (p : Params) (s : Segment) (memory : Memory) (index : Nat) (choice : UInt64) :
    Memory :=
  let column := s.slice * p.segmentLength + index
  let here := s.lane * p.laneLength + column
  let previous := if column = 0 then here + p.laneLength - 1 else here - 1
  let chosen := memory.block (reference p s index choice)
  let block := (memory.block previous).compress chosen
  let block :=
    if s.pass = 0 ∨ p.version = .older then block else block.xor (memory.block here)
  memory.setIfInBounds here block

/-- Fills a segment; the first two blocks of a lane are given. -/
def fillSegment (p : Params) (memory : Memory) (s : Segment) : Memory :=
  let first := if s.pass = 0 ∧ s.slice = 0 then 2 else 0
  if s.isIndependent p.variant then
    (List.range (p.segmentLength / 128 + 1)).foldl (fun memory group =>
      let numbers := choices p s group
      (List.range 128).foldl (fun memory i =>
        let index := 128 * group + i
        if first ≤ index ∧ index < p.segmentLength then
          fillBlock p s memory index (numbers[i]?.getD 0)
        else memory) memory) memory
  else
    (List.range p.segmentLength).foldl (fun memory index =>
      if first ≤ index then
        let column := s.slice * p.segmentLength + index
        let here := s.lane * p.laneLength + column
        let previous := if column = 0 then here + p.laneLength - 1 else here - 1
        fillBlock p s memory index (memory.block previous).r0.w0
      else memory) memory

def segments (p : Params) : List Segment :=
  (List.range p.passes).flatMap fun pass =>
    (List.range 4).flatMap fun slice => (List.range p.lanes).map fun lane => ⟨pass, slice, lane⟩

def lastColumn (p : Params) (memory : Memory) : Block :=
  (List.range p.lanes).foldl
    (fun block lane => block.xor (memory.block ((lane + 1) * p.laneLength - 1))) .zero

def hash (p : Params) (password salt : Bytes) : Bytes :=
  let memory := (segments p).foldl (fillSegment p) (start p (seed p password salt))
  longHash p.tagLength (lastColumn p memory).toBytes

end Gatehouse.Argon2
