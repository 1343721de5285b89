/-!
Account roles and their written forms.
-/

set_option autoImplicit false

namespace Datebook

inductive Role where
  | user
  | admin
  deriving DecidableEq, Repr

namespace Role

/-- The stored form of a role. -/
def text : Role → String
  | .user => "user"
  | .admin => "admin"

/-- The role with a stored form, and none for any other text. -/
def ofText? (text : String) : Option Role :=
  if text = "user" then some .user
  else if text = "admin" then some .admin
  else none

/-- The name of a role in diagnostics. -/
def describe : Role → String
  | .user => "User"
  | .admin => "Admin"

theorem ofText?_text (role : Role) : ofText? role.text = some role := by
  cases role <;> decide

end Role

end Datebook
