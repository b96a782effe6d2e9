import Gatehouse.Password
import Gatehouse.Proofs.Argon2.Encoded

/-! A password passes against the hash that was made from it. -/
namespace Gatehouse.Password

open Argon2.Encoded (ofPassword)

/-- The parameters of new hashes. -/
def defaults : Argon2.Params :=
  ⟨.id, .newer, Argon2.Encoded.defaultMemory, Argon2.Encoded.defaultPasses,
    Argon2.Encoded.defaultLanes, [], Argon2.Encoded.defaultTagLength⟩

variable {salt : Bytes} (password : String)

theorem ofPassword_eq (message : Bytes) :
    ofPassword salt message = ⟨defaults, salt, Argon2.hash defaults message salt⟩ := rfl

theorem isWritable_ofPassword (h : salt.length = saltLength) (message : Bytes) :
    (ofPassword salt message).IsWritable := by
  have htag : (Argon2.hash defaults message salt).length = 32 :=
    Argon2.length_hash (by decide) message salt
  have hsalt : salt.length = 16 := h
  rw [ofPassword_eq]
  constructor <;> dsimp only
  case valid => decide
  case memory => decide
  case passes => decide
  case lanes => decide
  case associated => rfl
  case tagLength => exact htag.symm
  case salt => omega
  case tag => omega

theorem parse?_hash (h : salt.length = saltLength) :
    Argon2.Encoded.parse? (hash salt password) =
      some (ofPassword salt (Text.toBytes password)) :=
  Argon2.Encoded.parse?_render (isWritable_ofPassword h _)

theorem verify_hash (h : salt.length = saltLength) :
    verify password (.stored (hash salt password)) = .ok () := by
  have hmatch : isMatch password (hash salt password) = true := by
    unfold isMatch
    rw [parse?_hash password h]
    exact beq_self_eq_true _
  rw [verify, if_pos hmatch]

end Gatehouse.Password
