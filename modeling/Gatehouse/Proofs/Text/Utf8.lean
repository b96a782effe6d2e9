import Gatehouse.Text.Bytes

/-! A text read back from its own bytes has the same characters and no hole. -/
namespace Gatehouse.Text

private theorem toList_loop (bytes : ByteArray) (i : Nat) (done : Bytes) :
    ByteArray.toList.loop bytes i done = done.reverse ++ bytes.data.toList.drop i := by
  fun_induction ByteArray.toList.loop bytes i done with
  | case1 i done h ih =>
    have hi : i < bytes.data.toList.length := by simpa using h
    rw [ih, List.drop_eq_getElem_cons hi]
    simp [ByteArray.get!, h]
  | case2 i done h =>
    have hi : bytes.data.toList.length ≤ i := by simpa using h
    rw [List.drop_eq_nil_of_le hi, List.append_nil]

/-- The bytes of a text are those of its characters, one after another. -/
theorem toBytes_ofList (cs : List Char) :
    toBytes (String.ofList cs) = cs.flatMap String.utf8EncodeChar := by
  unfold toBytes
  rw [String.toUTF8_eq_toByteArray, String.toByteArray_ofList, ByteArray.toList, toList_loop]
  simp [List.utf8Encode]

private theorem firstChar?_utf8EncodeChar (c : Char) (rest : Bytes) :
    firstChar? ⟨(String.utf8EncodeChar c ++ rest).toArray⟩ = some c := by
  have h := ByteArray.utf8DecodeChar?_utf8EncodeChar_append (b := rest.toByteArray) (c := c)
  rw [← List.toByteArray_append] at h
  unfold firstChar?
  rw [← h]
  congr 1
  apply ByteArray.ext
  simp

theorem symbols_utf8EncodeChar (c : Char) (rest : Bytes) :
    symbols (String.utf8EncodeChar c ++ rest) = some c :: symbols rest := by
  have hlength : (String.utf8EncodeChar c).length = c.utf8Size := String.length_utf8EncodeChar c
  have hpos := c.utf8Size_pos
  have hfour := c.utf8Size_le_four
  cases h : String.utf8EncodeChar c with
  | nil => simp [h] at hlength; omega
  | cons byte bytes =>
    rw [h, List.length_cons] at hlength
    rw [List.cons_append, symbols]
    -- The window of four bytes holds the whole character and perhaps some of what follows.
    have hwindow : byte :: (bytes ++ rest).take 3 =
        String.utf8EncodeChar c ++ rest.take (3 - bytes.length) := by
      rw [List.take_append, List.take_of_length_le (by omega), h, List.cons_append]
    rw [hwindow, firstChar?_utf8EncodeChar]
    have hdrop : (bytes ++ rest).drop (c.utf8Size - 1) = rest := by
      rw [← hlength, Nat.add_sub_cancel, List.drop_left]
    simp only [hdrop]

theorem symbols_toBytes (s : String) : symbols (toBytes s) = s.toList.map some := by
  have h : ∀ cs : List Char, symbols (cs.flatMap String.utf8EncodeChar) = cs.map some := by
    intro cs
    induction cs with
    | nil => simp [symbols]
    | cons c cs ih => rw [List.flatMap_cons, symbols_utf8EncodeChar, ih, List.map_cons]
  rw [← h, ← toBytes_ofList, String.ofList_toList]

end Gatehouse.Text
