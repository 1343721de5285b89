import Datebook.Event
import Datebook.User

/-!
Fixtures: the users, times and events with which backends are checked.
-/

set_option autoImplicit false

namespace Datebook.Fixture

/-- A user with a fixed hash and an address made from the name. -/
def user (name : String) : User :=
  { name, hashedPassword := "$argon2id$fixture", email := name ++ "@example.com" }

/-- A name that no other check picks, as long as identifiers are drawn once. -/
def uniqueName (label : String) (drawn : EventId) : String :=
  label ++ "-" ++ String.ofList drawn.simpleChars

/-- An hour and minute of 2030-06-03. -/
def moment (hour minute : Nat) : Instant :=
  (Instant.ofCivil? ⟨2030, 6, 3⟩ (hour * 3600 + minute * 60 : Nat) 0).getD .first

/-- An hour and minute of 2030-06-03, if the day has them. -/
def moment? (hour minute : Nat) : Option Instant :=
  if hour < 24 ∧ minute < 60 then some (moment hour minute) else none

/-- Fields for an interval of so many minutes, unless its stop is out of range. -/
def slot? (title : String) (start : Instant) (minutes : Int) : Option EventFields :=
  (start.add? (minutes * 60000000000)).map fun stop => { title, start, stop }

/-- Fields for an interval of so many minutes. -/
def slot (title : String) (start : Instant) (minutes : Int) : EventFields :=
  (slot? title start minutes).getD { title, start, stop := .last }

end Datebook.Fixture
