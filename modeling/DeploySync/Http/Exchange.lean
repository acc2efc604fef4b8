import DeploySync.Bytes
import DeploySync.Http.Status
import DeploySync.Url.Basic

/-!
# Requests and answers

## Main definitions

* `Http.Request` — a request
* `Http.Response` — an answer, its body as the pieces in which it arrives
* `Http.Failure` — why there is no answer, or no whole body
* `Http.Response.body` — the whole body
-/

namespace DeploySync.Http

/-- What a request asks for. -/
inductive Method where
  | get
  | post
  deriving DecidableEq, Repr

/-- A request; without a content type it has no body. -/
structure Request where
  method : Method
  url : Url
  authorization : Option String := none
  contentType : Option String := none
  body : ByteArray := ByteArray.empty
  deriving DecidableEq

/-- Why there is no answer, or no whole body. -/
inductive Failure where
  /-- The request could not be sent. -/
  | sending (url : String)
  /-- There is no request of this kind to the URL. -/
  | unsendable (url : String)
  /-- A header cannot be sent. -/
  | header
  /-- The body did not arrive whole, or is not what was expected. -/
  | body
  | other (text : String)
  deriving DecidableEq, Repr

/-- The wording of a failure. -/
def Failure.message : Failure → String
  | .sending url => s!"error sending request for url ({url})"
  | .unsendable url => s!"builder error for url ({url})"
  | .header => "builder error"
  | .body => "error decoding response body"
  | .other text => text

/-- An answer. The body arrives in pieces; a failure among them ends it. -/
structure Response where
  status : Status
  pieces : List (Except Failure ByteArray) := []

/-- Joins the pieces of a body up to the first failure. -/
def joinPieces : List (Except Failure ByteArray) → Except Failure ByteArray
  | [] => .ok ByteArray.empty
  | .error e :: _ => .error e
  | .ok piece :: rest =>
    match joinPieces rest with
    | .ok more => .ok (piece ++ more)
    | .error e => .error e

/-- The whole body of an answer. -/
def Response.body (r : Response) : Except Failure ByteArray := joinPieces r.pieces

/-- The body of an answer as a text, empty if it did not arrive whole. -/
def Response.text (r : Response) : String :=
  match r.body with
  | .ok bytes => Bytes.lossyText bytes
  | .error _ => ""

end DeploySync.Http
