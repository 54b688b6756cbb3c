import Endpoint.Text.Base64
import Endpoint.Text.Shown
import Endpoint.Text.Utf8

/-!
Credentials. Each kind says what stands in the header that carries it, if anything does; how
credentials are shown in diagnostics never holds a secret.
-/
namespace Endpoint
open Text

/-- Credentials: a user's name and password, a token, or content that is given as it is. -/
inductive Authentication where
  | basic (username password : String)
  | bearer (token : String)
  | fixed (content : Option String)
deriving DecidableEq, Repr

namespace Authentication

/-- The value of the header that carries the credentials. An empty token is none. -/
def content : Authentication → Option String
  | basic username password =>
    some ("Basic " ++ String.ofList (base64 (utf8 (username ++ ":" ++ password))))
  | bearer token => if token == "" then none else some ("Bearer " ++ token)
  | fixed content => content

/-- How credentials are shown in diagnostics. -/
def debug : Authentication → String
  | basic username _ => "BasicAuthentication \x7b username: " ++ quoted username ++ ", .. \x7d"
  | bearer _ => "BearerAuthentication(..)"
  | fixed _ => ""

end Authentication
end Endpoint
