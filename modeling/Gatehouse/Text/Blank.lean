/-! Blanks are the characters with the Unicode property `White_Space`. `trim` takes them off both
ends of a text and touches nothing between. -/
namespace Gatehouse.Text

def isBlank (c : Char) : Bool :=
  (0x9 ≤ c.toNat && c.toNat ≤ 0xD) || (0x2000 ≤ c.toNat && c.toNat ≤ 0x200A) ||
    [0x20, 0x85, 0xA0, 0x1680, 0x2028, 0x2029, 0x202F, 0x205F, 0x3000].contains c.toNat

def trimLeft (cs : List Char) : List Char := cs.dropWhile isBlank

def trimRight (cs : List Char) : List Char := (cs.reverse.dropWhile isBlank).reverse

def trim (s : String) : String := String.ofList (trimRight (trimLeft s.toList))

theorem trimLeft_eq_self {c : Char} {cs : List Char} (h : isBlank c = false) :
    trimLeft (c :: cs) = c :: cs := by
  simp [trimLeft, h]

theorem trimLeft_append {blanks : List Char} (h : ∀ c ∈ blanks, isBlank c = true)
    (cs : List Char) : trimLeft (blanks ++ cs) = trimLeft cs := by
  simp only [trimLeft]
  exact List.dropWhile_append_of_pos h

end Gatehouse.Text
