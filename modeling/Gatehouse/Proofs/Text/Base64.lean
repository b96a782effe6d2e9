import Gatehouse.Text.Base64

/-! What base64 writes, it reads back, in either alphabet. Neither a dot nor a dollar sign is among
the digits, so these can stand between such texts. -/
namespace Gatehouse.Text.Base64

/-- Every digit has the value that it stands for. -/
def IsLawful (b : Base64) : Prop := ∀ n < 64, b.value? (b.digit n) = some n

theorem isLawful_urlSafe : urlSafe.IsLawful := by
  unfold IsLawful
  decide

theorem isLawful_standard : standard.IsLawful := by
  unfold IsLawful
  decide

theorem digit_ne_dot : ∀ n < 64, urlSafe.digit n ≠ '.' := by
  decide

private theorem join_quartet (p q r s : Nat) (rest : List Nat) (bytes : Bytes)
    (h : join rest = some bytes) :
    join (p :: q :: r :: s :: rest) = some (UInt8.ofNat (4 * p + q / 16) ::
      UInt8.ofNat (q % 16 * 16 + r / 4) :: UInt8.ofNat (r % 4 * 64 + s) :: bytes) := by
  simp [join, h]

/-- The digit values that encoding writes down. -/
def sextets : Bytes → List Nat
  | [] => []
  | [x] => [x.toNat / 4, x.toNat % 4 * 16]
  | [x, y] => [x.toNat / 4, x.toNat % 4 * 16 + y.toNat / 16, y.toNat % 16 * 4]
  | x :: y :: z :: rest =>
    x.toNat / 4 :: (x.toNat % 4 * 16 + y.toNat / 16) :: (y.toNat % 16 * 4 + z.toNat / 64) ::
      z.toNat % 64 :: sextets rest

theorem encode_eq_map (b : Base64) (bytes : Bytes) :
    b.encode bytes = (sextets bytes).map b.digit := by
  fun_induction sextets bytes with
  | case1 => rfl
  | case2 x => rfl
  | case3 x y => rfl
  | case4 x y z rest ih => simp [encode, ih]

theorem sextets_lt (bytes : Bytes) : ∀ n ∈ sextets bytes, n < 64 := by
  fun_induction sextets bytes with
  | case1 => simp
  | case2 x =>
    have hx := x.toNat_lt
    simp only [List.mem_cons, List.not_mem_nil, or_false]
    omega
  | case3 x y =>
    have hx := x.toNat_lt
    have hy := y.toNat_lt
    simp only [List.mem_cons, List.not_mem_nil, or_false]
    omega
  | case4 x y z rest ih =>
    have hx := x.toNat_lt
    have hy := y.toNat_lt
    have hz := z.toNat_lt
    intro n hn
    simp only [List.mem_cons] at hn
    rcases hn with hn | hn | hn | hn | hn
    all_goals first | exact ih n hn | omega

private theorem ofNat_eq_of_toNat {n : Nat} {x : UInt8} (h : n = x.toNat) : UInt8.ofNat n = x := by
  rw [h, UInt8.ofNat_toNat]

theorem join_sextets (bytes : Bytes) : join (sextets bytes) = some bytes := by
  fun_induction sextets bytes with
  | case1 => rfl
  | case2 x =>
    rw [join, if_pos (by omega), ofNat_eq_of_toNat (x := x) (by omega)]
  | case3 x y =>
    have hy := y.toNat_lt
    rw [join, if_pos (by omega), ofNat_eq_of_toNat (x := x) (by omega),
      ofNat_eq_of_toNat (x := y) (by omega)]
  | case4 x y z rest ih =>
    have hy := y.toNat_lt
    have hz := z.toNat_lt
    rw [join_quartet _ _ _ _ _ _ ih, ofNat_eq_of_toNat (x := x) (by omega),
      ofNat_eq_of_toNat (x := y) (by omega), ofNat_eq_of_toNat (x := z) (by omega)]

theorem IsLawful.decode?_encode {b : Base64} (hb : b.IsLawful) (bytes : Bytes) :
    b.decode? (b.encode bytes) = some bytes := by
  have h : ∀ ns : List Nat, (∀ n ∈ ns, n < 64) → (ns.map b.digit).mapM b.value? = some ns := by
    intro ns hns
    induction ns with
    | nil => rfl
    | cons n ns ih =>
      rw [List.map_cons, List.mapM_cons, hb n (hns n (by simp)),
        ih fun m hm => hns m (by simp [hm])]
      rfl
  unfold decode?
  rw [encode_eq_map, h _ (sextets_lt bytes)]
  exact join_sextets bytes

theorem decode?_encode (bytes : Bytes) : urlSafe.decode? (urlSafe.encode bytes) = some bytes :=
  isLawful_urlSafe.decode?_encode bytes

theorem length_sextets (bytes : Bytes) :
    (sextets bytes).length = (4 * bytes.length + 2) / 3 := by
  fun_induction sextets bytes with
  | case1 => rfl
  | case2 x => simp
  | case3 x y => simp
  | case4 x y z rest ih =>
    simp only [List.length_cons, ih]
    omega

theorem length_encode (b : Base64) (bytes : Bytes) :
    (b.encode bytes).length = (4 * bytes.length + 2) / 3 := by
  rw [encode_eq_map, List.length_map, length_sextets]

theorem notMem_encode {b : Base64} {c : Char} (h : ∀ n < 64, b.digit n ≠ c) (bytes : Bytes) :
    c ∉ b.encode bytes := by
  rw [encode_eq_map, List.mem_map]
  rintro ⟨n, hn, hdigit⟩
  exact h n (sextets_lt bytes n hn) hdigit

theorem dot_notMem_encode (bytes : Bytes) : '.' ∉ urlSafe.encode bytes :=
  notMem_encode digit_ne_dot bytes

theorem dollar_notMem_encode (bytes : Bytes) : '$' ∉ standard.encode bytes :=
  notMem_encode (by decide) bytes

end Gatehouse.Text.Base64
