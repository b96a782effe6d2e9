import Gatehouse.Argon2.Encoded
import Gatehouse.Proofs.Json.Record
import Gatehouse.Proofs.Text.Base64
import Gatehouse.Proofs.Text.Digits

/-! An encoded hash is read as what it was written from: its fields hold no dollar sign, and those
of its parameters neither a comma nor a second equals sign. -/
namespace Gatehouse.Argon2

/-! ## Lengths of digests -/

theorem size_compress (h block : Array UInt64) (counted : Nat) (last : Bool) :
    (Digest.Blake2b.compress h block counted last).size = 8 := Array.size_ofFn

theorem size_absorb {h : Array UInt64} (hsize : h.size = 8) (fuel counted : Nat) (message : Bytes) :
    (Digest.Blake2b.absorb fuel h counted message).size = 8 := by
  induction fuel generalizing h counted message with
  | zero => exact hsize
  | succ fuel ih =>
    rw [Digest.Blake2b.absorb]
    split
    · exact size_compress _ _ _ _
    · exact ih (size_compress _ _ _ _) _ _

/-- A digest has the length that is asked for. -/
theorem length_digest {size : Nat} (h : size ≤ 64) (message : Bytes) :
    (Digest.Blake2b.digest size message).length = size := by
  unfold Digest.Blake2b.digest
  dsimp only
  have hsize := size_absorb (h := Digest.Blake2b.initial.modify 0
    (· ^^^ UInt64.ofNat (0x01010000 + size))) (by simp [Digest.Blake2b.initial])
    (message.length / 128 + 1) 0 message
  generalize Digest.Blake2b.absorb _ _ 0 message = final at hsize ⊢
  have hlength : (final.toList.flatMap fun word =>
      Digest.Blake2b.littleEndian 8 word.toNat).length = 64 := by
    simp [List.length_flatMap, Digest.Blake2b.littleEndian, List.map_const', hsize]
  rw [List.length_take, hlength]
  omega

theorem length_hash {p : Params} (h : p.tagLength ≤ 64) (password salt : Bytes) :
    (hash p password salt).length = p.tagLength := by
  unfold hash longHash
  dsimp only
  rw [if_pos h, length_digest h]

/-! ## Fields -/

namespace Encoded

theorem decimal?_toDigits {n : Nat} (h : n < UInt32.size) :
    decimal? (Nat.toDigits 10 n) = some n := by
  have hvalid : n < UInt32.size ∧
      ((Nat.toDigits 10 n).head? = some '0' → Nat.toDigits 10 n = ['0']) :=
    ⟨h, Json.head?_toDigits⟩
  rw [decimal?, Text.digits?_toDigits, Option.bind_eq_bind, Option.bind_some, guard, if_pos hvalid]
  rfl

theorem notMem_toDigits {c : Char} (hc : c.isDigit = false) (n : Nat) : c ∉ Nat.toDigits 10 n := by
  intro hmem
  rw [Json.isDigit_toDigits hmem] at hc
  contradiction

/-- The hashes that are written: numbers of 32 bits, no associated data, and salt and tag of
lengths that may be read. -/
structure IsWritable (e : Encoded) : Prop where
  valid : e.params.isValid = true
  memory : e.params.memory < UInt32.size
  passes : e.params.passes < UInt32.size
  lanes : e.params.lanes < UInt32.size
  associated : e.params.associated = []
  tagLength : e.params.tagLength = e.tag.length
  salt : 8 ≤ e.salt.length ∧ e.salt.length ≤ 48
  tag : 10 ≤ e.tag.length ∧ e.tag.length ≤ 64

/-- The three parameters as they are written. -/
def parameterPairs (p : Params) : List (List Char × List Char) :=
  [(['m'], Nat.toDigits 10 p.memory), (['t'], Nat.toDigits 10 p.passes),
    (['p'], Nat.toDigits 10 p.lanes)]

/-- What stands between the dollar signs. -/
def fields (e : Encoded) : List (List Char) :=
  [[], e.params.variant.name.toList, 'v' :: '=' :: Nat.toDigits 10 e.params.version.number,
    [','].intercalate ((parameterPairs e.params).map fun pair => pair.1 ++ '=' :: pair.2),
    Text.Base64.standard.encode e.salt, Text.Base64.standard.encode e.tag]

theorem toList_render (e : Encoded) : e.render.toList = ['$'].intercalate e.fields := by
  have htext (s : String) : toString s = s := rfl
  simp [render, header, base64, fields, parameterPairs, List.intercalate, htext, Nat.toList_repr]

theorem splitOn_render (e : Encoded) : e.render.toList.splitOn '$' = e.fields := by
  have hname : '$' ∉ e.params.variant.name.toList := by
    cases e.params.variant <;> decide
  have hdigits := fun n => notMem_toDigits (c := '$') rfl n
  have hbase64 := Text.Base64.dollar_notMem_encode
  rw [toList_render, List.splitOn_intercalate]
  · simp [fields, parameterPairs, List.intercalate, hname, hdigits, hbase64]
  · simp [fields]

theorem takeVersion_cons (v : Version) (fields : List (List Char)) :
    takeVersion (('v' :: '=' :: Nat.toDigits 10 v.number) :: fields) = some (v, fields) := by
  cases v <;> rfl

theorem pair_mem_parameterPairs {e : Encoded} (h : e.IsWritable) {pair : List Char × List Char}
    (hpair : pair ∈ parameterPairs e.params) :
    ∃ c n, pair = ([c], Nat.toDigits 10 n) ∧ c.isLower = true ∧ n < UInt32.size := by
  simp only [parameterPairs, List.mem_cons, List.not_mem_nil, or_false] at hpair
  rcases hpair with rfl | rfl | rfl
  · exact ⟨_, _, rfl, rfl, h.memory⟩
  · exact ⟨_, _, rfl, rfl, h.passes⟩
  · exact ⟨_, _, rfl, rfl, h.lanes⟩

theorem length_toDigits_le {n : Nat} (h : n < UInt32.size) : (Nat.toDigits 10 n).length ≤ 10 := by
  have hn : n < 10 ^ 10 := Nat.lt_trans h (by decide)
  exact (Nat.length_toDigits_le_iff (by decide) (by decide)).mpr hn

/-- A parameter is split at its equals sign. -/
theorem splitOn_parameter {c : Char} (hc : c.isLower = true) (n : Nat) :
    ([c] ++ '=' :: Nat.toDigits 10 n).splitOn '=' = [[c], Nat.toDigits 10 n] := by
  have hname : '=' ≠ c := by
    rintro rfl
    contradiction
  have hsplit : (['='].intercalate [[c], Nat.toDigits 10 n]).splitOn '=' =
      [[c], Nat.toDigits 10 n] :=
    List.splitOn_intercalate '=' (by simp [hname, notMem_toDigits]) (by simp)
  simpa [List.intercalate] using hsplit

theorem pairs?_parameterPairs {e : Encoded} (h : e.IsWritable) :
    pairs? ([','].intercalate ((parameterPairs e.params).map fun pair => pair.1 ++ '=' :: pair.2)) =
      some (parameterPairs e.params) := by
  have hlength : ([','].intercalate ((parameterPairs e.params).map fun pair =>
      pair.1 ++ '=' :: pair.2)).length ≤ 127 := by
    have hmemory := length_toDigits_le h.memory
    have hpasses := length_toDigits_le h.passes
    have hlanes := length_toDigits_le h.lanes
    simp [parameterPairs, List.intercalate]
    omega
  have hsplit : ([','].intercalate ((parameterPairs e.params).map fun pair =>
      pair.1 ++ '=' :: pair.2)).splitOn ',' =
        (parameterPairs e.params).map fun pair => pair.1 ++ '=' :: pair.2 := by
    rw [List.splitOn_intercalate]
    · simp [parameterPairs, notMem_toDigits]
    · simp [parameterPairs]
  rw [pairs?, guard, if_pos hlength, hsplit]
  refine (Json.mapM_map_eq_some fun pair hpair => ?_).trans (congrArg some (List.map_id _))
  obtain ⟨c, n, rfl, hc, hn⟩ := pair_mem_parameterPairs h hpair
  have hvalue : (Nat.toDigits 10 n).all isValueChar = true := by
    rw [List.all_eq_true]
    intro d hd
    simp [isValueChar, Char.isAlphanum, Json.isDigit_toDigits hd]
  have hdigits := length_toDigits_le hn
  simp only [splitOn_parameter hc]
  rw [if_pos ⟨by simp, by simp, by simp [isNameChar, hc], by omega, hvalue⟩]
  rfl

theorem foldlM_setParam {e : Encoded} (h : e.IsWritable) (memory passes lanes : Nat) :
    (parameterPairs e.params).foldlM setParam
      ⟨e.params.variant, e.params.version, memory, passes, lanes, [], e.tag.length⟩ =
        some e.params := by
  have hm (p : Params) (n : Nat) (hn : n < UInt32.size) :
      setParam p (['m'], Nat.toDigits 10 n) = some { p with memory := n } := by
    simp [setParam, decimal?_toDigits hn]
  have ht (p : Params) (n : Nat) (hn : n < UInt32.size) :
      setParam p (['t'], Nat.toDigits 10 n) = some { p with passes := n } := by
    simp [setParam, decimal?_toDigits hn]
  have hp (p : Params) (n : Nat) (hn : n < UInt32.size) :
      setParam p (['p'], Nat.toDigits 10 n) = some { p with lanes := n } := by
    simp [setParam, decimal?_toDigits hn]
  simp only [parameterPairs, List.foldlM_cons, List.foldlM_nil, hm _ _ h.memory, ht _ _ h.passes,
    hp _ _ h.lanes, Option.bind_eq_bind, Option.bind_some, ← h.associated, ← h.tagLength]
  rfl

theorem salt?_encode {bytes : Bytes} (h : 8 ≤ bytes.length ∧ bytes.length ≤ 48) :
    salt? (Text.Base64.standard.encode bytes) = some bytes := by
  have hlength := Text.Base64.length_encode .standard bytes
  rw [salt?, guard, if_pos (by omega), Text.Base64.isLawful_standard.decode?_encode]
  simp [guard, h.1]

theorem tag?_encode {bytes : Bytes} (h : 10 ≤ bytes.length ∧ bytes.length ≤ 64) :
    tag? (Text.Base64.standard.encode bytes) = some bytes := by
  rw [tag?, Text.Base64.isLawful_standard.decode?_encode]
  simp [guard, h]

theorem parse?_render {e : Encoded} (h : e.IsWritable) : parse? e.render = some e := by
  have hvariant : Variant.ofName? (String.ofList e.params.variant.name.toList) =
      some e.params.variant := by
    rw [String.ofList_toList]
    cases e.params.variant <;> rfl
  have hequals : ([','].intercalate ((parameterPairs e.params).map fun pair =>
      pair.1 ++ '=' :: pair.2)).contains '=' = true := by
    simp [parameterPairs, List.intercalate]
  rw [parse?, splitOn_render, fields]
  simp only [hvariant, takeVersion_cons, takePairs, hequals, if_true, pairs?_parameterPairs h,
    Option.map_some, Option.bind_eq_bind, Option.bind_some, salt?_encode h.salt, tag?_encode h.tag,
    foldlM_setParam h]
  simp [guard, h.valid]

end Encoded

end Gatehouse.Argon2
