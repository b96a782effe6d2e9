import Gatehouse.Counter.Key

/-! A key's text tells its purpose and its name: no two keys share a text. -/
namespace Gatehouse.Counter.Key

theorem text_injective {a b : Key} (h : a.text = b.text) : a = b := by
  have hchars : a.opening.toList ++ a.name.toList = b.opening.toList ++ b.name.toList := by
    rw [← String.toList_append, ← String.toList_append]
    exact congrArg String.toList h
  cases a <;> cases b <;> simp_all [opening, name, String.toList_inj]

@[simp] theorem text_inj {a b : Key} : a.text = b.text ↔ a = b :=
  ⟨text_injective, congrArg text⟩

end Gatehouse.Counter.Key
