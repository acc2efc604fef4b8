import DeploySync.Proofs.Bucket.Exchange

/-!
# Outages of an object store

What the store answers to a request is told apart by its status only: it succeeded, the thing asked
for is not there, or there is an outage. A call never goes on behind an outage.

## Main definitions

* `Http.transcript` — the requests of a plan with the answers they get
* `Http.answers` — the answers that a script has for requests
* `ObjectBucket.IsOutage` — the answers to the requests of a call that report an outage
* `ObjectBucket.Heeds` — the plan fails at the first outage
* `ObjectBucket.found`, `ObjectBucket.succeeded`, `ObjectBucket.content` — what an answer says
* `ObjectBucket.AsksOnce` — the plan is one request, and its result what the answer says

## Main results

* `Http.answers_transcript`, `Http.rest_of_transcript` — a plan uses up its script in order
* `ObjectBucket.heeds_plan` — every call fails at the first outage
* `ObjectBucket.Heeds.transcript` — behind an outage there is no request
* `ObjectBucket.asksOnce_bucketExists`, `ObjectBucket.asksOnce_createBucket`,
  `ObjectBucket.asksOnce_blobExists`, `ObjectBucket.asksOnce_download` — the calls of one request
-/

namespace DeploySync

open Plan (done)

/-- The requests of a plan, each with the answer it gets from a script. -/
def Http.transcript {α : Type} :
    Http.Plan α → List (Except Http.Failure Http.Response) →
      List (Http.Request × Except Http.Failure Http.Response)
  | .done _, _ => []
  | .ask r next, script =>
    (r, (Http.scripted r script).1) ::
      Http.transcript (next (Http.scripted r script).1) (Http.scripted r script).2

/-! ### Answers in order -/

namespace Http

variable {α : Type}

/-- The answers that a script has for requests, one after the other. -/
def answers : List Request → List (Except Failure Response) → List (Except Failure Response)
  | [], _ => []
  | r :: rs, script => (scripted r script).1 :: answers rs (scripted r script).2

theorem scripted_rest (r : Request) (script : List (Except Failure Response)) :
    (scripted r script).2 = script.drop 1 := by
  cases script <;> rfl

theorem answers_append (rs more : List Request) (script : List (Except Failure Response)) :
    answers (rs ++ more) script = answers rs script ++ answers more (script.drop rs.length) := by
  induction rs generalizing script with
  | nil => rfl
  | cons r rs ih =>
    rw [List.cons_append, answers, answers, ih, scripted_rest, List.drop_drop, List.length_cons,
      Nat.add_comm 1, List.cons_append]

/-- The requests of a plan get the answers that the script has for them. -/
theorem answers_transcript (p : Plan α) (script : List (Except Failure Response)) :
    (transcript p script).map (·.2) = answers ((transcript p script).map (·.1)) script := by
  induction p generalizing script with
  | done result => rfl
  | ask r next ih => exact congrArg (_ :: ·) (ih _ _)

/-- Each request of a plan uses up one answer. -/
theorem rest_of_transcript (p : Plan α) (script : List (Except Failure Response)) :
    (p.run scripted.handler script).2 = script.drop (transcript p script).length := by
  induction p generalizing script with
  | done result => rfl
  | ask r next ih =>
    rw [transcript, List.length_cons, Nat.add_comm, ← List.drop_drop, ← scripted_rest r script]
    exact ih _ _

end Http

namespace ObjectBucket

open Http (Request Response Failure transcript scripted)

variable {α : Type} {b : ObjectBucket} {r : Request} {u : Url} {key : BlobKey}
variable {outage : Response → Prop} {script : List (Except Failure Response)}

/-! ### Answers -/

/-- The answer reports an outage: no success, and not that the thing asked for is missing. What is
created cannot be missing. -/
def IsOutage (c : Bucket.Call) (response : Response) : Prop :=
  response.status.isSuccess = false ∧
    (response.status = .notFound →
      (∃ location storageClass, c = .createBucket location storageClass) ∨
        ∃ key bytes, c = .upload key bytes)

theorem IsOutage.ne_notFound {c : Bucket.Call} {response : Response} (h : IsOutage c response)
    (hcreate : ∀ location storageClass, c ≠ .createBucket location storageClass)
    (hupload : ∀ key bytes, c ≠ .upload key bytes) : response.status ≠ .notFound := by
  intro hstatus
  rcases h.2 hstatus with ⟨location, storageClass, hc⟩ | ⟨key, bytes, hc⟩
  · exact hcreate _ _ hc
  · exact hupload _ _ hc

/-- What the answer to a lookup says. -/
def found (what : String) (response : Response) : Except Error Bool :=
  if response.status = .notFound then .ok false
  else if response.status.isSuccess then .ok true
  else .error (failure what response)

/-- What the answer to a request says that has to succeed. -/
def succeeded (what : String) (response : Response) : Except Error Unit :=
  if response.status.isSuccess then .ok () else .error (failure what response)

/-- What the answer to a download says. -/
def content (b : ObjectBucket) (key : BlobKey) (response : Response) : Except Error ByteArray :=
  if response.status = .notFound then .error (b.missing key)
  else if response.status.isSuccess then bodyOf response
  else .error (failure s!"Download of '{key.text}'" response)

/-- What is said if there may be no answer. -/
def judged (verdict : Response → Except Error α) : Except Failure Response → Except Error α
  | .ok response => verdict response
  | .error f => .error (.http (.failure f))

theorem probe_eq (b : ObjectBucket) (u : Url) (what : String) :
    b.probe u what =
      (exchange (b.getRequest u)).bind fun response => done (found what response) := by
  rw [probe, Plan.bind_eq]
  refine congrArg _ (funext fun response => ?_)
  rw [found]
  split
  · rfl
  · split <;> rfl

theorem insist_eq (r : Request) (what : String) (next : Response → Http.Plan α) :
    (insist r what).bind next =
      (exchange r).bind fun response =>
        if response.status.isSuccess then next response else Plan.fail (failure what response) := by
  rw [insist, Plan.bind_eq, Plan.bind_assoc]
  refine congrArg _ (funext fun response => ?_)
  split <;> rfl

theorem download_eq (b : ObjectBucket) (key : BlobKey) :
    b.download key = (Plan.ofExcept (b.downloadUrl key)).bind fun u =>
      (exchange (b.getRequest u)).bind fun response => done (b.content key response) := by
  rw [download, Plan.bind_eq]
  refine congrArg _ (funext fun u => ?_)
  rw [Plan.bind_eq]
  refine congrArg _ (funext fun response => ?_)
  rw [content]
  split
  · rfl
  · cases response.status.isSuccess <;> rfl

/-! ### Outages -/

/-- The plan fails at the first outage, with an error that tells its status and its text. -/
def Heeds (outage : Response → Prop) : Http.Plan α → Prop
  | .done _ => True
  | .ask _ next => ∀ answer : Except Failure Response, Heeds outage (next answer) ∧
      ∀ response, answer = .ok response → outage response →
        ∃ what, next answer = done (.error (.storage (.status what response.status response.text)))

theorem heeds_ofExcept_bind {β : Type} {x : Except Error β} {next : β → Http.Plan α}
    (h : ∀ a, Heeds outage (next a)) : Heeds outage ((Plan.ofExcept x).bind next) := by
  cases x with
  | error e => trivial
  | ok a => exact h a

/-- A plan of one exchange heeds outages if it fails at them and heeds them later on. -/
theorem heeds_exchange_bind (r : Request) {next : Response → Http.Plan α}
    (hrest : ∀ response, Heeds outage (next response))
    (hfail : ∀ response, outage response →
      ∃ what, next response =
        done (.error (.storage (.status what response.status response.text)))) :
    Heeds outage ((exchange r).bind next) := by
  cases hrefusal : Http.refusal? (outgoing r) with
  | some f =>
    -- what is not sent is not answered
    rw [exchange_bind_of_some hrefusal]
    trivial
  | none =>
    rw [exchange_bind_of_none hrefusal]
    intro answer
    cases answer with
    | error f => exact ⟨trivial, nofun⟩
    | ok response =>
      refine ⟨hrest response, fun response' heq => ?_⟩
      obtain rfl := Except.ok.inj heq
      exact hfail response

theorem heeds_probe (what : String) (h : ∀ response, outage response →
    response.status.isSuccess = false ∧ response.status ≠ .notFound) :
    Heeds outage (b.probe u what) := by
  rw [probe_eq]
  refine heeds_exchange_bind _ (fun _ => trivial) fun response hout => ⟨what, ?_⟩
  obtain ⟨hsuccess, hmissing⟩ := h response hout
  rw [found, if_neg hmissing, hsuccess]
  rfl

theorem heeds_insist (r : Request) (what : String)
    (h : ∀ response, outage response → response.status.isSuccess = false) :
    Heeds outage ((insist r what).bind fun _ => done (.ok ())) := by
  rw [insist_eq]
  refine heeds_exchange_bind r (fun response => ?_) fun response hout => ⟨what, ?_⟩
  · split <;> trivial
  · rw [h response hout]
    rfl

theorem heeds_rewrite (h : ∀ response, outage response →
    response.status.isSuccess = false ∧ response.status ≠ .notFound) (base : Url)
    (body : ByteArray) (rounds : Nat) (token : Option String) :
    Heeds outage (b.rewrite key base body rounds token) := by
  induction rounds generalizing token with
  | zero => trivial
  | succ rounds ih =>
    rw [rewrite, Plan.bind_eq]
    refine heeds_exchange_bind _ (fun response => ?_) fun response hout => ?_
    · split
      · trivial
      · split
        · trivial
        · rw [Plan.bind_eq]
          refine heeds_ofExcept_bind fun answer => ?_
          split
          · trivial
          · split
            · exact ih _
            · trivial
    · obtain ⟨hsuccess, hmissing⟩ := h response hout
      rw [if_neg hmissing, hsuccess]
      exact ⟨_, rfl⟩

/-- Every call on the bucket fails at the first outage. -/
theorem heeds_plan (b : ObjectBucket) (rounds : Nat) (c : Bucket.Call) :
    Heeds (IsOutage c) (b.plan rounds c) := by
  cases c with
  | bucketExists =>
    exact heeds_ofExcept_bind fun u => heeds_probe _ fun response hout =>
      ⟨hout.1, hout.ne_notFound (by simp) (by simp)⟩
  | createBucket location storageClass =>
    exact heeds_ofExcept_bind fun u => heeds_insist _ _ fun response hout => hout.1
  | blobExists key =>
    exact heeds_ofExcept_bind fun u => heeds_probe _ fun response hout =>
      ⟨hout.1, hout.ne_notFound (by simp) (by simp)⟩
  | download key =>
    rw [plan, download_eq]
    refine heeds_ofExcept_bind fun u => heeds_exchange_bind _ (fun _ => trivial) ?_
    intro response hout
    -- the answer brings no content and does not say that the blob is missing
    rw [content, if_neg (hout.ne_notFound (by simp) (by simp)), hout.1]
    exact ⟨_, rfl⟩
  | upload key bytes =>
    exact heeds_ofExcept_bind fun u => heeds_insist _ _ fun response hout => hout.1
  | setClass key storageClass =>
    exact heeds_ofExcept_bind fun u => heeds_rewrite (fun response hout =>
      ⟨hout.1, hout.ne_notFound (by simp) (by simp)⟩) u _ rounds none

/-- An outage is answered to the last request of a plan that heeds it, and the plan fails. -/
theorem Heeds.transcript {p : Http.Plan α} (h : Heeds outage p) {response : Response}
    {before after : List (Request × Except Failure Response)}
    (hmem : transcript p script = before ++ (r, .ok response) :: after) (hout : outage response) :
    after = [] ∧ ∃ what, (p.run scripted.handler script).1 =
      .error (.storage (.status what response.status response.text)) := by
  -- the outage is the answer to the first request, or to one of those behind it
  induction p generalizing script before with
  | done result =>
    rw [Http.transcript] at hmem
    simp at hmem
  | ask q next ih =>
    rw [Http.transcript] at hmem
    have hrun : ((Plan.ask q next).run scripted.handler script).1 =
        ((next (scripted q script).1).run scripted.handler (scripted q script).2).1 := rfl
    obtain ⟨hrest, hfail⟩ := h (scripted q script).1
    cases before with
    | nil =>
      obtain ⟨hfirst, hafter⟩ := List.cons.inj hmem
      obtain ⟨what, hdone⟩ := hfail response (Prod.mk.inj hfirst).2 hout
      rw [hdone] at hafter hrun
      exact ⟨hafter.symm, what, hrun⟩
    | cons x before =>
      rw [hrun]
      exact ih _ hrest (List.cons.inj hmem).2

/-- What is sent is among the requests that a plan can ask for. -/
theorem forall_mem_transcript {P : Request → Prop} {p : Http.Plan α} (hp : p.Asks P)
    (script : List (Except Failure Response)) : ∀ x ∈ Http.transcript p script, P x.1 := by
  induction p generalizing script with
  | done result => exact List.forall_mem_nil _
  | ask r next ih => exact List.forall_mem_cons.2 ⟨hp.1, ih _ (hp.2 _) _⟩

/-! ### Calls of one request -/

/-- URLs can be put behind the endpoint. -/
def IsBase (b : ObjectBucket) : Prop := ∃ path, b.endpoint.path = .segments path

/-- Requests to the URLs behind the endpoint can be sent. -/
structure Reachable (b : ObjectBucket) : Prop where
  isBase : b.IsBase
  canSend : b.CanSend

/-- There is a URL on the endpoint if URLs can be put behind it, and an invalid input otherwise. -/
structure Located (b : ObjectBucket) (url : Except Error Url) : Prop where
  url_of_isBase : b.IsBase → ∃ u, url = .ok u ∧ b.OnEndpoint u
  error_of_not : ¬ b.IsBase → ∃ cause, url = .error (.validation cause)

theorem located_url (b : ObjectBucket) (segments : List String) :
    b.Located (b.url segments) := by
  refine ⟨?_, fun hbase => ?_⟩
  · rintro ⟨path, hpath⟩
    have hu := url_eq hpath segments
    exact ⟨_, hu, (onEndpoint_of_url hu).1⟩
  · cases hpath : b.endpoint.path with
    | segments path => exact absurd ⟨path, hpath⟩ hbase
    | opaqueText text =>
      refine ⟨.baselessEndpoint b.endpoint.text, ?_⟩
      rw [url, Url.addSegments?, hpath]

theorem Located.addText {url : Except Error Url} (h : b.Located url) (name value : String) :
    b.Located (url.map fun u => addText u name value) := by
  refine ⟨fun hbase => ?_, fun hbase => ?_⟩
  · obtain ⟨u, rfl, hu⟩ := h.url_of_isBase hbase
    exact ⟨_, rfl, hu.addText name value⟩
  · obtain ⟨cause, rfl⟩ := h.error_of_not hbase
    exact ⟨cause, rfl⟩

/-- The plan sends one request, and its result is what the answer says. If the request cannot be
sent the plan fails, but not because something is missing. -/
structure AsksOnce (b : ObjectBucket) (verdict : Response → Except Error α) (p : Http.Plan α) :
    Prop where
  asks : b.Reachable → ∃ r, p = asking r fun response => done (verdict response)
  fails : ¬ b.Reachable → ∃ e, p = done (.error e) ∧ ∀ what, e ≠ .notFound what

theorem transcript_asking (r : Request) (verdict : Response → Except Error α)
    (script : List (Except Failure Response)) :
    transcript (asking r fun response => done (verdict response)) script =
      [(r, (scripted r script).1)] := by
  cases script with
  | nil => rfl
  | cons answer script => cases answer <;> rfl

theorem run_asking_done (r : Request) (verdict : Response → Except Error α)
    (script : List (Except Failure Response)) :
    ((asking r fun response => done (verdict response)).run scripted.handler script).1 =
      judged verdict (scripted r script).1 := by
  cases script with
  | nil => rfl
  | cons answer script => cases answer <;> rfl

theorem Located.asksOnce {url : Except Error Url} (h : b.Located url) (request : Url → Request)
    (hrequest : ∀ u, (request u).authorization = b.authorization ∧ (request u).url = u)
    (verdict : Response → Except Error α) :
    b.AsksOnce verdict ((Plan.ofExcept url).bind fun u =>
      (exchange (request u)).bind fun response => done (verdict response)) := by
  have hon (u : Url) (hu : b.OnEndpoint u) : b.OnEndpoint (request u).url := by
    rwa [(hrequest u).2]
  refine ⟨fun ⟨hbase, hcan⟩ => ?_, fun hnot => ?_⟩
  · obtain ⟨u, rfl, hu⟩ := h.url_of_isBase hbase
    exact ⟨_, exchange_bind hcan (hrequest u).1 (hon u hu) _⟩
  · -- there is no URL, or the request to it is refused
    by_cases hbase : b.IsBase
    · obtain ⟨u, rfl, hu⟩ := h.url_of_isBase hbase
      obtain ⟨f, hfail⟩ := exchange_bind_of_not (fun hcan => hnot ⟨hbase, hcan⟩) (hrequest u).1
        (hon u hu) fun response => done (verdict response)
      exact ⟨_, hfail, nofun⟩
    · obtain ⟨cause, rfl⟩ := h.error_of_not hbase
      exact ⟨_, rfl, nofun⟩

theorem asksOnce_bucketExists (b : ObjectBucket) (rounds : Nat) :
    b.AsksOnce (found s!"Bucket lookup for '{b.name}'") (b.plan rounds .bucketExists) := by
  have h := (located_url b ["storage", "v1", "b", b.name]).asksOnce b.getRequest
    (fun u => ⟨rfl, rfl⟩) (found s!"Bucket lookup for '{b.name}'")
  simp only [← probe_eq] at h
  exact h

theorem asksOnce_blobExists (b : ObjectBucket) (rounds : Nat) (key : BlobKey) :
    b.AsksOnce (found s!"Object lookup for '{key.text}'") (b.plan rounds (.blobExists key)) := by
  have h := (located_url b ["storage", "v1", "b", b.name, "o", key.text]).asksOnce b.getRequest
    (fun u => ⟨rfl, rfl⟩) (found s!"Object lookup for '{key.text}'")
  simp only [← probe_eq] at h
  exact h

theorem asksOnce_createBucket (b : ObjectBucket) (rounds : Nat) (location : String)
    (storageClass : StorageClass) :
    b.AsksOnce (succeeded s!"Bucket creation for '{b.name}'")
      (b.plan rounds (.createBucket location storageClass)) := by
  have hinsist (u : Url) :
      (exchange (b.postRequest u jsonType (b.creationBody location storageClass))).bind
          (fun response => done (succeeded s!"Bucket creation for '{b.name}'" response)) =
        (insist (b.postRequest u jsonType (b.creationBody location storageClass))
          s!"Bucket creation for '{b.name}'").bind fun _ => done (.ok ()) := by
    rw [insist_eq]
    refine congrArg _ (funext fun response => ?_)
    rw [succeeded]
    split <;> rfl
  have h := ((located_url b ["storage", "v1", "b"]).addText "project" b.project).asksOnce
    (fun u => b.postRequest u jsonType (b.creationBody location storageClass))
    (fun u => ⟨rfl, rfl⟩) (succeeded s!"Bucket creation for '{b.name}'")
  simp only [hinsist] at h
  exact h

theorem asksOnce_download (b : ObjectBucket) (rounds : Nat) (key : BlobKey) :
    b.AsksOnce (b.content key) (b.plan rounds (.download key)) := by
  rw [plan, download_eq]
  exact ((located_url b ["storage", "v1", "b", b.name, "o", key.text]).addText "alt"
    "media").asksOnce b.getRequest (fun u => ⟨rfl, rfl⟩) (b.content key)

end ObjectBucket

end DeploySync
