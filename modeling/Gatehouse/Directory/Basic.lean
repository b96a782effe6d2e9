import Gatehouse.User.Access

/-! The user directory as the service sees it: three look-ups, any of which may fail. -/
namespace Gatehouse

structure Directory where
  byUsername : String → Except Error (Option User)
  byId : UserId → Except Error (Option User)
  access : UserId → Except Error (Option UserAccess)

end Gatehouse
