import Datebook.Role
import Datebook.Text.Quoted

/-!
Accounts. The name of a user identifies it and owns its events; the password hash never appears in
diagnostics.
-/

set_option autoImplicit false

namespace Datebook

structure User where
  name : String
  hashedPassword : String
  email : String
  role : Role := .user
  deriving DecidableEq, Repr

/-- A user for diagnostics, the password hash hidden. -/
def User.describe (user : User) : String :=
  Text.record "User"
    [("name", Text.quoted user.name), ("hashed_password", Text.redacted),
      ("email", Text.quoted user.email), ("role", user.role.describe)]

end Datebook
