import Gatehouse.Directory.Basic

/-! Authorization: whether a user of the directory holds a permission. -/
namespace Gatehouse.Service

def authorize (directory : Directory) (id : UserId) (code : String) : Except Error Bool := do
  if id.isValid then
    match ← directory.access id with
    | none => .error (.auth .userNotFound)
    | some access => return access.grants code
  else
    .error (.auth (.permissionDenied "User id not provided"))

end Gatehouse.Service
