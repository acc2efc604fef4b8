import DeploySync.Http.Sending

/-!
# Fetching pages

A page is fetched whole or not at all: a page beyond a limit is refused, so that no part of one is
taken for all of it.

## Main definitions

* `Http.Page.readCapped` — the body of an answer, up to a limit
* `Http.Page.fetch` — the plan of the request for a page
* `Http.Page.Plan` — plans that ask for the texts of pages by their URLs
-/

namespace DeploySync.Http.Page

/-- Pages may have this many bytes. -/
def limit : Nat := 5 * 1024 * 1024

/-- Reads the pieces of a body behind what was read. A piece that goes beyond the limit is not
kept. -/
def readCapped (limit : Nat) (url : String) :
    (body : ByteArray) → List (Except Failure ByteArray) → Except Error ByteArray
  | body, [] => .ok body
  | _, .error f :: _ => .error (.http (.chunk f))
  | body, .ok piece :: rest =>
    if limit < body.size + piece.size then .error (.http (.tooLarge url limit))
    else readCapped limit url (body ++ piece) rest

/-- The URL of a page, which is one of HTTP. -/
def urlOf (text : String) : Except Error Url :=
  match Url.parse text with
  | .error fault => .error (.validation (.badUrl text fault))
  | .ok url =>
    if isHttp url then .ok url else .error (.validation (.schemeNotAllowed url.schemeText))

/-- The text of the page that an answer brings. -/
def ofAnswer (url : String) : Except Failure Response → Except Error String
  | .error f => .error (.http (.fetch url f))
  | .ok response =>
    if response.status.isSuccess then
      (readCapped limit url ByteArray.empty response.pieces).map Bytes.lossyText
    else .error (.http (.status url response.status))

/-- Fetches a page. -/
def fetch (url : String) : Http.Plan String := do
  let target ← Plan.ofExcept (urlOf url)
  let answer ← send { method := .get, url := target }
  Plan.ofExcept (ofAnswer url answer)

/-- A request for a page is answered by its text. -/
def Answer (_ : String) : Type := String

/-- Plans that ask for the texts of pages by their URLs. -/
abbrev Plan := DeploySync.Plan String Answer

end DeploySync.Http.Page
