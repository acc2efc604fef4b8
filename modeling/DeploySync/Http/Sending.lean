import DeploySync.Http.Exchange
import DeploySync.Plan

/-!
# Sending requests

## Main definitions

* `Http.Plan` — plans whose calls are requests
* `Http.Transport`, `Http.scripted` — what answers requests
* `Http.refusal?` — why a request cannot be sent at all
* `Http.send` — the plan that sends a request
-/

namespace DeploySync.Http

/-- A request is answered by an answer, or there is none. -/
def Request.Answer (_ : Request) : Type := Except Failure Response

/-- A plan whose calls are requests. -/
abbrev Plan := DeploySync.Plan Request Request.Answer

/-- What answers requests. -/
abbrev Transport (σ : Type) := Request → σ → Except Failure Response × σ

/-- A transport as what answers the calls of a plan. -/
def Transport.handler {σ : Type} (t : Transport σ) : Plan.Handler Request Request.Answer σ :=
  fun r s =>
    let (answer, s) := t r s
    (.ok answer, s)

/-- The transport that gives prepared answers, one to each request; behind the last of them it
reaches nothing. -/
def scripted : Transport (List (Except Failure Response))
  | r, [] => (.error (.sending r.url.text), [])
  | _, answer :: rest => (answer, rest)

private def isHeaderByte (b : UInt8) : Bool := (32 ≤ b && b != 127) || b == 9

/-- A text may stand in a header: it has no control characters but the tab. -/
def isHeaderText (s : String) : Bool := s.toUTF8.toList.all isHeaderByte

/-- The schemes of requests. -/
def isHttp (url : Url) : Bool := url.schemeText == "http" || url.schemeText == "https"

/-- Why a request cannot be sent at all. -/
def refusal? (r : Request) : Option Failure :=
  if r.authorization.any fun a => ! isHeaderText a then some .header
  else if ! isHttp r.url || r.url.host.isNone then some (.unsendable r.url.text)
  else none

/-- Sends a request. User name and password are not part of the URL that is sent. -/
def send (request : Request) : Plan (Except Failure Response) :=
  let r := { request with url := request.url.withoutUserinfo }
  match refusal? r with
  | some failure => pure (.error failure)
  | none => DeploySync.Plan.call r

/-- A request that is not refused is a single call. -/
theorem send_of_none {r : Request} (h : refusal? { r with url := r.url.withoutUserinfo } = none) :
    send r = DeploySync.Plan.call { r with url := r.url.withoutUserinfo } := by
  rw [send]
  split
  · next f hf => cases h.symm.trans hf
  · rfl

/-- A request that is refused is no call. -/
theorem send_of_some {r : Request} {f : Failure}
    (h : refusal? { r with url := r.url.withoutUserinfo } = some f) :
    send r = .done (.ok (.error f)) := by
  rw [send]
  split
  · next f' hf =>
    obtain rfl := Option.some.inj (h.symm.trans hf)
    rfl
  · next hnone => cases h.symm.trans hnone

end DeploySync.Http
