import DeploySync.Proofs.Bucket.Outage
import DeploySync.Proofs.Bytes
import DeploySync.Proofs.Settings.Display

/-!
# The access token

The access token stands in one header of the requests and nowhere else. So a bucket with another
token does the same, whatever is answered, but for that header.

## Main definitions

* `ObjectBucket.authorized` — a plan of requests with another header for the credentials
* `ObjectBucket.Served`, `ObjectBucket.served` — calls on a bucket with their results and requests

## Main results

* `ObjectBucket.plan_eq_authorized` — what a bucket does with another token
* `ObjectBucket.token_does_not_leak` — settings that differ in the access token
-/

namespace DeploySync.ObjectBucket

open DeploySync.Plan (done)
open Http (Request Response Failure transcript scripted)

variable {α β : Type} {a : Option String} {b b' : ObjectBucket} {r : Request} {u : Url}
variable {script : List (Except Failure Response)}

/-! ### Another header -/

/-- The plan with another header for the credentials in each of its requests. -/
def authorized (a : Option String) : Http.Plan α → Http.Plan α
  | .done result => .done result
  | .ask r next => .ask { r with authorization := a }
      fun answer : Except Failure Response => authorized a (next answer)

/-- A request with the header is refused exactly if it is refused with another one, if both can be
sent. -/
theorem refusal?_authorized (ha : ∀ h ∈ a, Http.isHeaderText h)
    (hr : ∀ h ∈ r.authorization, Http.isHeaderText h) :
    Http.refusal? { r with authorization := a } = Http.refusal? r := by
  have hlegal {a : Option String} (ha : ∀ h ∈ a, Http.isHeaderText h) :
      (a.any fun h => ! Http.isHeaderText h) = false := by
    rw [Option.any_eq_false]
    intro h hh
    rw [ha h hh]
    rfl
  rw [Http.refusal?, Http.refusal?, hlegal ha, hlegal hr]

/-- An exchange goes out with the other header, and what follows goes on with it. -/
theorem exchange_bind_eq_authorized (ha : ∀ h ∈ a, Http.isHeaderText h)
    (hr : ∀ h ∈ r.authorization, Http.isHeaderText h) {next next' : Response → Http.Plan α}
    (hnext : ∀ response, next' response = authorized a (next response)) :
    (exchange { r with authorization := a }).bind next' =
      authorized a ((exchange r).bind next) := by
  -- both requests are refused, for the same reason, or none of them is
  have hrefusal := refusal?_authorized (r := outgoing r) ha hr
  cases hout : Http.refusal? (outgoing r) with
  | some f =>
    rw [exchange_bind_of_some hout, exchange_bind_of_some (hrefusal.trans hout)]
    rfl
  | none =>
    rw [exchange_bind_of_none hout, exchange_bind_of_none (hrefusal.trans hout)]
    refine congrArg (Plan.ask _) (funext fun (answer : Except Failure Response) => ?_)
    cases answer with
    | error f => rfl
    | ok response => exact hnext response

theorem ofExcept_bind_eq_authorized {x : Except Error β} {next next' : β → Http.Plan α}
    (hnext : ∀ y, next' y = authorized a (next y)) :
    (Plan.ofExcept x).bind next' = authorized a ((Plan.ofExcept x).bind next) := by
  cases x with
  | error e => rfl
  | ok y => exact hnext y

/-! ### Another token -/

/-- The bucket with another token. -/
def withToken (b : ObjectBucket) (token : Option String) : ObjectBucket := { b with token := token }

/-- The credentials can stand in a header. -/
def LegalHeader (b : ObjectBucket) : Prop := ∀ h ∈ b.authorization, Http.isHeaderText h

section WithToken

variable {token : Option String}

theorem probe_withToken (hb : b.LegalHeader) (ht : (b.withToken token).LegalHeader) (u : Url)
    (what : String) :
    (b.withToken token).probe u what =
      authorized (b.withToken token).authorization (b.probe u what) := by
  rw [probe_eq, probe_eq]
  exact exchange_bind_eq_authorized (r := b.getRequest u) ht hb fun response => rfl

theorem download_withToken (hb : b.LegalHeader) (ht : (b.withToken token).LegalHeader)
    (key : BlobKey) :
    (b.withToken token).download key =
      authorized (b.withToken token).authorization (b.download key) := by
  rw [download_eq, download_eq]
  refine ofExcept_bind_eq_authorized (x := b.downloadUrl key) fun u => ?_
  exact exchange_bind_eq_authorized (r := b.getRequest u) ht hb fun response => rfl

theorem insist_withToken (hb : b.LegalHeader) (ht : (b.withToken token).LegalHeader) (u : Url)
    (type : String) (body : ByteArray) (what : String) :
    (insist ((b.withToken token).postRequest u type body) what).bind (fun _ => done (.ok ())) =
      authorized (b.withToken token).authorization
        ((insist (b.postRequest u type body) what).bind fun _ =>
          done (.ok ()) : Http.Plan Unit) := by
  rw [insist_eq, insist_eq]
  refine exchange_bind_eq_authorized (r := b.postRequest u type body) ht hb fun response => ?_
  split <;> rfl

theorem rewrite_withToken (hb : b.LegalHeader) (ht : (b.withToken token).LegalHeader)
    (key : BlobKey) (base : Url) (body : ByteArray) (rounds : Nat) (from? : Option String) :
    (b.withToken token).rewrite key base body rounds from? =
      authorized (b.withToken token).authorization (b.rewrite key base body rounds from?) := by
  induction rounds generalizing from? with
  | zero => rfl
  | succ rounds ih =>
    rw [rewrite, rewrite, Plan.bind_eq, Plan.bind_eq]
    -- how the rewrite goes on depends on the answer and not on the credentials
    refine exchange_bind_eq_authorized ht
      (r := b.postRequest (continueUrl base from?) jsonType body) hb fun response => ?_
    split
    · rfl
    · split
      · rfl
      · refine ofExcept_bind_eq_authorized fun answer => ?_
        split
        · rfl
        · split
          · exact ih _
          · rfl

/-- A bucket does the same with another token, but for the header. -/
theorem plan_withToken (hb : b.LegalHeader) (ht : (b.withToken token).LegalHeader) (rounds : Nat)
    (c : Bucket.Call) :
    (b.withToken token).plan rounds c =
      authorized (b.withToken token).authorization (b.plan rounds c) := by
  cases c with
  | bucketExists =>
    exact ofExcept_bind_eq_authorized (x := b.bucketUrl) fun u => probe_withToken hb ht u _
  | createBucket location c =>
    exact ofExcept_bind_eq_authorized (x := b.creationUrl) fun u =>
      insist_withToken hb ht u jsonType (b.creationBody location c) _
  | blobExists key =>
    exact ofExcept_bind_eq_authorized (x := b.objectUrl key) fun u => probe_withToken hb ht u _
  | download key => exact download_withToken hb ht key
  | upload key bytes =>
    exact ofExcept_bind_eq_authorized (x := b.uploadUrl key) fun u =>
      insist_withToken hb ht u blobType bytes _
  | setClass key c =>
    exact ofExcept_bind_eq_authorized (x := b.rewriteUrl key) fun u =>
      rewrite_withToken hb ht key u _ rounds none

end WithToken

/-! ### What is served -/

theorem run_authorized (a : Option String) (p : Http.Plan α)
    (script : List (Except Failure Response)) :
    (authorized a p).run scripted.handler script = p.run scripted.handler script := by
  induction p generalizing script with
  | done result => rfl
  | ask r next ih =>
    cases script with
    | nil => exact ih _ _
    | cons answer script => exact ih _ _

theorem transcript_authorized (a : Option String) (p : Http.Plan α)
    (script : List (Except Failure Response)) :
    transcript (authorized a p) script =
      (transcript p script).map fun x => ({ x.1 with authorization := a }, x.2) := by
  induction p generalizing script with
  | done result => rfl
  | ask r next ih =>
    cases script with
    | nil => exact congrArg (List.cons _) (ih _ _)
    | cons answer script => exact congrArg (List.cons _) (ih _ _)

/-- A call with its result, and its requests with their answers. -/
structure Served where
  call : Bucket.Call
  result : Except Error call.Answer
  requests : List (Request × Except Failure Response)

/-- Calls on a bucket one after the other, whether the calls before them failed or not. The answers
to their requests are given by a script. -/
def served (b : ObjectBucket) (rounds : Nat) :
    List Bucket.Call → List (Except Failure Response) → List Served
  | [], _ => []
  | c :: calls, script =>
    ⟨c, ((b.plan rounds c).run scripted.handler script).1, transcript (b.plan rounds c) script⟩ ::
      b.served rounds calls ((b.plan rounds c).run scripted.handler script).2

/-- The same with another header for the credentials. -/
def Served.authorized (a : Option String) (s : Served) : Served :=
  { s with requests := s.requests.map fun x => ({ x.1 with authorization := a }, x.2) }

/-- Calls on a bucket with another token have the same results and the same requests, but for the
header. -/
theorem served_withToken {token : Option String} (hb : b.LegalHeader)
    (ht : (b.withToken token).LegalHeader) (rounds : Nat) (calls : List Bucket.Call)
    (script : List (Except Failure Response)) :
    (b.withToken token).served rounds calls script =
      (b.served rounds calls script).map (·.authorized (b.withToken token).authorization) := by
  induction calls generalizing script with
  | nil => rfl
  | cons c calls ih =>
    rw [served, plan_withToken hb ht, run_authorized, transcript_authorized, ih]
    rfl

/-! ### Where the token goes -/

theorem isHeaderText_append (s t : String) :
    Http.isHeaderText (s ++ t) = (Http.isHeaderText s && Http.isHeaderText t) := by
  have hbytes : (s ++ t).toUTF8.toList = s.toUTF8.toList ++ t.toUTF8.toList := by
    change (Bytes.ofText (s ++ t)).toList = (Bytes.ofText s).toList ++ (Bytes.ofText t).toList
    rw [Bytes.toList_ofText, Bytes.toList_ofText, Bytes.toList_ofText, String.toList_append,
      List.flatMap_append]
  rw [Http.isHeaderText, hbytes, List.all_append]
  rfl

/-- A token that can stand in a header can do so behind the word for its kind. -/
theorem legalHeader_of_isHeaderText {t : String} (hb : b.token = some t)
    (ht : Http.isHeaderText t) : b.LegalHeader := by
  have hword : Http.isHeaderText "Bearer " = true := by decide +kernel
  intro h hh
  rw [authorization, hb, Option.map_some, Option.mem_some_iff] at hh
  rw [← hh, isHeaderText_append, hword, ht]
  rfl

theorem withoutUserinfo_of_onEndpoint (hu : b.OnEndpoint u) (hplain : b.endpoint.userinfo = []) :
    u.withoutUserinfo = u := by
  obtain ⟨path, query, rfl⟩ := hu
  rw [Url.withoutUserinfo, ← hplain]

theorem onEndpoint_of_map_addText {url : Except Error Url} {name value : String}
    (h : ∀ u, url = .ok u → b.OnEndpoint u)
    (hu : url.map (fun u => addText u name value) = .ok u) : b.OnEndpoint u := by
  cases url with
  | error e => cases hu
  | ok v =>
    obtain rfl := Except.ok.inj hu
    exact (h v rfl).addText name value

/-- Every request of a call carries the credentials of the bucket, and goes to its endpoint. -/
theorem of_makes {c : Bucket.Call} (h : b.Makes c r) (hplain : b.endpoint.userinfo = []) :
    r.authorization = b.authorization ∧ b.OnEndpoint r.url := by
  have hsegments (segments : List String) (u : Url) (hu : b.url segments = .ok u) :
      b.OnEndpoint u := (onEndpoint_of_url hu).1
  have hgoes {u : Url} (hu : b.OnEndpoint u) : b.OnEndpoint u.withoutUserinfo := by
    rwa [withoutUserinfo_of_onEndpoint hu hplain]
  -- all URLs are the endpoint with a path, and some with a query
  cases c with
  | bucketExists =>
    obtain ⟨u, hu, rfl⟩ := h
    exact ⟨rfl, hgoes (hsegments _ u hu)⟩
  | createBucket location c =>
    obtain ⟨u, hu, rfl⟩ := h
    exact ⟨rfl, hgoes (onEndpoint_of_map_addText (hsegments _) hu)⟩
  | blobExists key =>
    obtain ⟨u, hu, rfl⟩ := h
    exact ⟨rfl, hgoes (hsegments _ u hu)⟩
  | download key =>
    obtain ⟨u, hu, rfl⟩ := h
    exact ⟨rfl, hgoes (onEndpoint_of_map_addText (hsegments _) hu)⟩
  | upload key bytes =>
    obtain ⟨u, hu, rfl⟩ := h
    refine ⟨rfl, hgoes ?_⟩
    rw [uploadUrl] at hu
    cases hurl : b.url ["upload", "storage", "v1", "b", b.name, "o"] with
    | error e =>
      rw [hurl] at hu
      cases hu
    | ok v =>
      rw [hurl] at hu
      obtain rfl := Except.ok.inj hu
      exact ((hsegments _ v hurl).addText "uploadType" "media").addText "name" key.text
  | setClass key c =>
    obtain ⟨u, token, hu, rfl⟩ := h
    exact ⟨rfl, hgoes ((hsegments _ u hu).continueUrl token)⟩

theorem of_mem_served (hplain : b.endpoint.userinfo = []) {rounds : Nat}
    {calls : List Bucket.Call} {s : Served} (hs : s ∈ b.served rounds calls script) :
    ∀ x ∈ s.requests, x.1.authorization = b.authorization ∧ b.OnEndpoint x.1.url := by
  induction calls generalizing script with
  | nil => cases hs
  | cons c calls ih =>
    rcases List.mem_cons.1 hs with rfl | hs
    · intro x hx
      exact of_makes (forall_mem_transcript (b.asks_plan rounds c) script x hx) hplain
    · exact ih hs

/-- The buckets of settings that differ in the access token do so, too. -/
theorem ofSettings_eq_withToken {c c' : Settings} (hsame : c.withoutToken = c'.withoutToken) :
    ofSettings c' = (ofSettings c).map (·.withToken c'.accessToken) := by
  have hfield := Settings.withoutToken_eq_iff.1 hsame
  have hendpoint : c.endpoint = c'.endpoint := Option.some.inj (hfield .endpoint nofun)
  have hbucket : c.bucket = c'.bucket := Option.some.inj (hfield .bucket nofun)
  have hproject : c.project = c'.project := Option.some.inj (hfield .project nofun)
  rw [ofSettings, ofSettings, hendpoint, hbucket, hproject]
  cases Url.parse c'.endpoint <;> rfl

theorem token_ofSettings {c : Settings} (hb : ofSettings c = .ok b) : b.token = c.accessToken := by
  rw [ofSettings] at hb
  split at hb
  · obtain rfl := Except.ok.inj hb
    rfl
  · cases hb

/-- What is shown of a bucket depends on the token only in whether there is one. -/
theorem describe_eq (hendpoint : b.endpoint = b'.endpoint) (hname : b.name = b'.name)
    (hproject : b.project = b'.project) (hhas : b.hasCredentials = b'.hasCredentials) :
    b.describe = b'.describe := by
  unfold describe
  rw [hendpoint, hname, hproject, hhas]

/-- For settings that differ in the access token at most the same is shown, and it spells all the
other settings. There is a bucket for both or for neither. With a token every request carries it
behind the word for its kind, and without one none does; all requests go to the endpoint. Where both
tokens can stand in a header, the buckets are shown as the same, and any calls on them have the same
results and the same requests but for that header, whatever is answered. -/
theorem token_does_not_leak {c c' : Settings} (hsame : c.withoutToken = c'.withoutToken) :
    (c.display = c'.display ∧ Json.parse? c.display = some c.toJson ∧
      ∀ x : Settings.Setting, (c.toJson.member? x.group.name).bind (·.member? x.field) =
        if x = .accessToken then none else some (.ofText? (c.text? x))) ∧
    (∀ e, ofSettings c = .error e ↔ ofSettings c' = .error e) ∧
    ∀ b b', ofSettings c = .ok b → ofSettings c' = .ok b' → b.endpoint.userinfo = [] →
      (∀ rounds calls script, ∀ s ∈ b.served rounds calls script, ∀ x ∈ s.requests,
        x.1.authorization = c.accessToken.map ("Bearer " ++ ·) ∧ b.OnEndpoint x.1.url) ∧
      ∀ t t', c.accessToken = some t → c'.accessToken = some t' →
        Http.isHeaderText t → Http.isHeaderText t' →
        b.describe = b'.describe ∧
        ∀ rounds calls script, b'.served rounds calls script =
          (b.served rounds calls script).map (·.authorized (some ("Bearer " ++ t'))) := by
  have hmap := ofSettings_eq_withToken hsame
  refine ⟨⟨Settings.display_eq_iff.2 hsame, Settings.parse?_display c, Settings.member?_toJson c⟩,
    fun e => ?_, fun b b' hb hb' hplain => ⟨fun rounds calls script s hs x hx => ?_,
      fun t t' ht ht' hlegal hlegal' => ?_⟩⟩
  · rw [hmap]
    cases ofSettings c with
    | error e' => exact Iff.rfl
    | ok b => exact ⟨nofun, nofun⟩
  · rw [← token_ofSettings hb]
    exact of_mem_served hplain hs x hx
  · -- the second bucket is the first one with the other token
    obtain rfl : b.withToken (some t') = b' := by
      rw [hb, hb', ht'] at hmap
      exact (Except.ok.inj hmap).symm
    have htoken := (token_ofSettings hb).trans ht
    refine ⟨?_, fun rounds calls script => ?_⟩
    · have hhas : b.hasCredentials = (b.withToken (some t')).hasCredentials := by
        rw [hasCredentials, htoken]
        rfl
      exact describe_eq rfl rfl rfl hhas
    · exact served_withToken (legalHeader_of_isHeaderText htoken hlegal)
        (legalHeader_of_isHeaderText rfl hlegal') rounds calls script

/-- The settings of the small world with an access token. -/
def tokenSettings (token : String) : Settings :=
  { World.sampleSettings with accessToken := some token }

theorem ofSettings_tokenSettings (token : String) :
    ofSettings (tokenSettings token) = .ok (sampleBucket.withToken (some token)) := by
  have hsame : World.sampleSettings.withoutToken = (tokenSettings token).withoutToken := rfl
  rw [ofSettings_eq_withToken hsame, ofSettings_sampleBucket]
  rfl

theorem token_does_not_leak_sample :
    (tokenSettings "first").withoutToken = (tokenSettings "second").withoutToken ∧
    (tokenSettings "first").display = (tokenSettings "second").display ∧
    ((sampleBucket.withToken (some "first")).served 5 [.blobExists sampleKey, .download sampleKey]
      [.ok ⟨⟨500⟩, []⟩]).map (·.requests.map (·.1.authorization)) =
        [[some "Bearer first"], [some "Bearer first"]] ∧
    (sampleBucket.withToken (some "second")).served 5 [.blobExists sampleKey, .download sampleKey]
        [.ok ⟨⟨500⟩, []⟩] =
      ((sampleBucket.withToken (some "first")).served 5 [.blobExists sampleKey, .download sampleKey]
        [.ok ⟨⟨500⟩, []⟩]).map (·.authorized (some "Bearer second")) := by
  have hsame : (tokenSettings "first").withoutToken = (tokenSettings "second").withoutToken := rfl
  obtain ⟨⟨hdisplay, -⟩, -, hbuckets⟩ := token_does_not_leak hsame
  obtain ⟨-, hserved⟩ := hbuckets _ _ (ofSettings_tokenSettings "first")
    (ofSettings_tokenSettings "second") rfl
  obtain ⟨-, hserved⟩ := hserved "first" "second" rfl rfl (by decide +kernel) (by decide +kernel)
  exact ⟨hsame, hdisplay, by decide +kernel, hserved 5 _ _⟩

end DeploySync.ObjectBucket
