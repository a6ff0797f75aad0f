import SiteReport.Text.Blank

/-!
Tokens that name the user to the server. A blank token counts as none.
-/

namespace SiteReport

structure Token where
  secret : String
  deriving DecidableEq

namespace Token

/-- The token that an environment variable holds. -/
def ofVariable? (value : Option String) : Option Token :=
  match value with
  | some secret => if Text.isBlank secret then none else some ⟨secret⟩
  | none => none

/-- The text for logs, which never shows the secret. -/
def redacted (_ : Token) : String := "AuthToken(..)"

end Token

end SiteReport
