import DeploySync.Proofs.Bucket.Objects

/-!
# Requests to an object store

All requests of a bucket go to the endpoint: their URLs differ from it in the path and the query
only. So either all of them can be sent, or none can, whatever they ask for.

## Main definitions

* `ObjectBucket.CanSend` — requests to the endpoint can be sent
* `ObjectBucket.OnEndpoint` — a URL differs from the endpoint in its path and its query only
* `ObjectBucket.outgoing` — a request as it is sent
* `ObjectBucket.asking` — the plan that asks for the answer to a request and goes on with it
* `ObjectBucket.Makes` — the requests of a call

## Main results

* `ObjectBucket.refusal?_eq_none_iff` — no request is refused exactly if requests can be sent
* `ObjectBucket.exchange_bind` — an exchange asks for the answer to what goes out
* `ObjectBucket.asks_plan` — a call sends no other requests than its own
-/

namespace DeploySync.ObjectBucket

open DeploySync.Plan (done)

variable {α : Type} {b : ObjectBucket} {r : Http.Request} {u : Url} {key : BlobKey}

/-! ### What goes out -/

/-- Requests to the endpoint can be sent, with the credentials in a header. -/
structure CanSend (b : ObjectBucket) : Prop where
  isHttp : Http.isHttp b.endpoint
  host : b.endpoint.host.isSome
  header : ∀ a ∈ b.authorization, Http.isHeaderText a

/-- The URL differs from the endpoint in its path and its query only. -/
def OnEndpoint (b : ObjectBucket) (u : Url) : Prop :=
  ∃ path query, u = { b.endpoint with path := path, query := query }

/-- A request as it is sent. -/
def outgoing (r : Http.Request) : Http.Request := { r with url := r.url.withoutUserinfo }

/-- A request on the endpoint is refused exactly if requests cannot be sent. -/
theorem refusal?_eq_none_iff (hr : r.authorization = b.authorization) (hu : b.OnEndpoint r.url) :
    Http.refusal? (outgoing r) = none ↔ b.CanSend := by
  obtain ⟨path, query, hu⟩ := hu
  -- the scheme, the host and the credentials are those of the bucket
  have hhttp : Http.isHttp r.url.withoutUserinfo = Http.isHttp b.endpoint := by
    rw [hu]
    rfl
  have hhost : r.url.withoutUserinfo.host = b.endpoint.host := by
    rw [hu]
    rfl
  rw [Http.refusal?, outgoing]
  dsimp only
  rw [hr, hhttp, hhost]
  constructor
  · intro hnone
    split at hnone
    · cases hnone
    · next hheader =>
      split at hnone
      · cases hnone
      · next hsendable =>
        rw [Bool.not_eq_true, Bool.or_eq_false_iff, Bool.not_eq_false', ← Option.not_isSome,
          Bool.not_eq_false'] at hsendable
        rw [Bool.not_eq_true, Option.any_eq_false] at hheader
        exact ⟨hsendable.1, hsendable.2, fun a ha => by simpa using hheader a ha⟩
  · intro hcan
    have hheader : (b.authorization.any fun a => ! Http.isHeaderText a) = false := by
      rw [Option.any_eq_false]
      intro a ha
      rw [hcan.header a ha]
      rfl
    rw [hheader, hcan.isHttp, ← Option.not_isSome, hcan.host]
    rfl

/-- Asks for the answer to a request and goes on with it; without an answer the plan fails. -/
def asking (r : Http.Request) (next : Http.Response → Http.Plan α) : Http.Plan α :=
  .ask r fun (answer : Except Http.Failure Http.Response) =>
    match answer with
    | .ok response => next response
    | .error f => done (.error (.http (.failure f)))

/-- An exchange that is not refused asks for the answer to what goes out. -/
theorem exchange_bind_of_none (h : Http.refusal? (outgoing r) = none)
    (next : Http.Response → Http.Plan α) :
    (exchange r).bind next = asking (outgoing r) next := by
  have hsend : Http.send r = Plan.call (outgoing r) := Http.send_of_none h
  rw [exchange, hsend, asking]
  refine congrArg (Plan.ask _) (funext fun (answer : Except Http.Failure Http.Response) => ?_)
  cases answer <;> rfl

/-- An exchange that is refused fails. -/
theorem exchange_bind_of_some {f : Http.Failure} (h : Http.refusal? (outgoing r) = some f)
    (next : Http.Response → Http.Plan α) :
    (exchange r).bind next = done (.error (.http (.failure f))) := by
  have hsend : Http.send r = done (.ok (.error f)) := Http.send_of_some h
  rw [exchange, hsend]
  rfl

/-- An exchange on the endpoint asks for the answer to what goes out, if requests can be sent. -/
theorem exchange_bind (hcan : b.CanSend) (hr : r.authorization = b.authorization)
    (hu : b.OnEndpoint r.url) (next : Http.Response → Http.Plan α) :
    (exchange r).bind next = asking (outgoing r) next :=
  exchange_bind_of_none ((refusal?_eq_none_iff hr hu).2 hcan) next

/-- An exchange on the endpoint fails, if no requests can be sent. -/
theorem exchange_bind_of_not (hcan : ¬ b.CanSend) (hr : r.authorization = b.authorization)
    (hu : b.OnEndpoint r.url) (next : Http.Response → Http.Plan α) :
    ∃ f, (exchange r).bind next = done (.error (.http (.failure f))) := by
  obtain ⟨f, hsome⟩ := Option.ne_none_iff_exists'.1 (mt (refusal?_eq_none_iff hr hu).1 hcan)
  exact ⟨f, exchange_bind_of_some hsome next⟩

/-- Something missing is no success. -/
theorem not_isSuccess_notFound : Http.Status.notFound.isSuccess = false := rfl

/-! ### URLs on the endpoint -/

theorem onEndpoint_of_url {segments : List String} (hu : b.url segments = .ok u) :
    b.OnEndpoint u ∧ u.query = b.endpoint.query ∧
      ∃ path, b.endpoint.path = .segments path := by
  cases hpath : b.endpoint.path with
  | opaqueText text =>
    rw [url, Url.addSegments?, hpath] at hu
    cases hu
  | segments path =>
    rw [url_eq hpath] at hu
    obtain rfl := Except.ok.inj hu
    exact ⟨⟨_, b.endpoint.query, rfl⟩, rfl, path, rfl⟩

theorem OnEndpoint.addText (hu : b.OnEndpoint u) (name value : String) :
    b.OnEndpoint (addText u name value) := by
  obtain ⟨path, query, rfl⟩ := hu
  exact ⟨path, _, rfl⟩

theorem OnEndpoint.continueUrl (hu : b.OnEndpoint u) (token : Option String) :
    b.OnEndpoint (continueUrl u token) := by
  cases token with
  | none => exact hu
  | some token => exact hu.addText "rewriteToken" token

/-! ### The requests of calls -/

/-- The request is one of the call, as it is sent. A rewrite may go on from any token. -/
def Makes (b : ObjectBucket) : Bucket.Call → Http.Request → Prop
  | .bucketExists, r => ∃ u, b.bucketUrl = .ok u ∧ r = outgoing (b.getRequest u)
  | .createBucket location c, r => ∃ u, b.creationUrl = .ok u ∧
      r = outgoing (b.postRequest u jsonType (b.creationBody location c))
  | .blobExists key, r => ∃ u, b.objectUrl key = .ok u ∧ r = outgoing (b.getRequest u)
  | .download key, r => ∃ u, b.downloadUrl key = .ok u ∧ r = outgoing (b.getRequest u)
  | .upload key bytes, r => ∃ u, b.uploadUrl key = .ok u ∧
      r = outgoing (b.postRequest u blobType bytes)
  | .setClass key c, r => ∃ u token, b.rewriteUrl key = .ok u ∧
      r = outgoing (b.postRequest (continueUrl u token) jsonType (rewriteBody c))

theorem asks_exchange_bind {P : Http.Request → Prop} (hr : P (outgoing r))
    {next : Http.Response → Http.Plan α} (hnext : ∀ response, (next response).Asks P) :
    ((exchange r).bind next).Asks P := by
  cases hrefusal : Http.refusal? (outgoing r) with
  | some f =>
    rw [exchange_bind_of_some hrefusal]
    trivial
  | none =>
    rw [exchange_bind_of_none hrefusal]
    refine ⟨hr, fun answer : Except Http.Failure Http.Response => ?_⟩
    cases answer with
    | error f => trivial
    | ok response => exact hnext response

theorem asks_ofExcept_bind {β : Type} {P : Http.Request → Prop} {x : Except Error β}
    {next : β → Http.Plan α} (h : ∀ a, x = .ok a → (next a).Asks P) :
    ((Plan.ofExcept x).bind next).Asks P := by
  cases x with
  | error e => trivial
  | ok a => exact h a rfl

theorem asks_probe {P : Http.Request → Prop} (hr : P (outgoing (b.getRequest u))) (what : String) :
    (b.probe u what).Asks P := by
  rw [probe, Plan.bind_eq]
  refine asks_exchange_bind hr fun response => ?_
  split
  · trivial
  · split <;> trivial

theorem asks_insist_bind {P : Http.Request → Prop} (hr : P (outgoing r)) (what : String) :
    ((insist r what).bind fun _ => done (.ok ()) : Http.Plan Unit).Asks P := by
  rw [insist, Plan.bind_eq, Plan.bind_assoc]
  refine asks_exchange_bind hr fun response => ?_
  split <;> trivial

theorem asks_rewriting {P : Http.Request → Prop} {base : Url} {body : ByteArray}
    (hr : ∀ token, P (outgoing (b.postRequest (continueUrl base token) jsonType body)))
    (rounds : Nat) (token : Option String) : (b.rewrite key base body rounds token).Asks P := by
  induction rounds generalizing token with
  | zero => trivial
  | succ rounds ih =>
    rw [rewrite, Plan.bind_eq]
    -- behind an answer the rewrite ends, or goes on with one round less
    refine asks_exchange_bind (hr token) fun response => ?_
    split
    · trivial
    · split
      · trivial
      · rw [Plan.bind_eq]
        refine asks_ofExcept_bind fun answer _ => ?_
        split
        · trivial
        · split
          · exact ih _
          · trivial

/-- A call sends no other requests than its own. -/
theorem asks_plan (b : ObjectBucket) (rounds : Nat) (c : Bucket.Call) :
    (b.plan rounds c).Asks (b.Makes c) := by
  cases c with
  | bucketExists => exact asks_ofExcept_bind fun u hu => asks_probe ⟨u, hu, rfl⟩ _
  | createBucket location c => exact asks_ofExcept_bind fun u hu => asks_insist_bind ⟨u, hu, rfl⟩ _
  | blobExists key => exact asks_ofExcept_bind fun u hu => asks_probe ⟨u, hu, rfl⟩ _
  | download key =>
    rw [plan, download, Plan.bind_eq]
    refine asks_ofExcept_bind fun u hu => asks_exchange_bind ⟨u, hu, rfl⟩ fun response => ?_
    split
    · trivial
    · split <;> trivial
  | upload key bytes => exact asks_ofExcept_bind fun u hu => asks_insist_bind ⟨u, hu, rfl⟩ _
  | setClass key c =>
    exact asks_ofExcept_bind fun u hu =>
      asks_rewriting (fun token => ⟨u, token, hu, rfl⟩) rounds none

end DeploySync.ObjectBucket
