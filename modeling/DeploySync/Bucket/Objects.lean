import DeploySync.Bucket.Call
import DeploySync.Http.Sending
import DeploySync.Json.Members
import DeploySync.Json.Value
import DeploySync.Settings.Basic

/-!
# Buckets of an object store

Blobs are the objects of a bucket of an object store, which is reached by requests. A key is one
segment of the path of a URL, or a parameter of its query, so that slashes in it are escaped.

## Main definitions

* `ObjectBucket` — an endpoint, a bucket and the credentials
* `ObjectBucket.ofSettings` — the bucket that the settings name
* `ObjectBucket.bucketUrl`, `ObjectBucket.objectUrl`, `ObjectBucket.uploadUrl`,
  `ObjectBucket.rewriteUrl` — the URLs of the requests
* `ObjectBucket.plan` — a call on the bucket as a plan of requests
* `ObjectBucket.describe` — the bucket as it is shown, without the credentials
-/

namespace DeploySync

/-- A bucket of an object store. -/
structure ObjectBucket where
  endpoint : Url
  name : String
  project : String
  token : Option String
  deriving DecidableEq, Repr

namespace ObjectBucket

/-- The bucket that the settings name. -/
def ofSettings (c : Settings) : Except Error ObjectBucket :=
  match Url.parse c.endpoint with
  | .ok endpoint => .ok ⟨endpoint, c.bucket, c.project, c.accessToken⟩
  | .error fault => .error (.validation (.badEndpoint c.endpoint fault))

/-- Requests carry credentials. -/
def hasCredentials (b : ObjectBucket) : Bool := b.token.isSome

/-- The bucket as it is shown. -/
def describe (b : ObjectBucket) : String :=
  let token := if b.hasCredentials then "Some(\"<redacted>\")" else "None"
  r"GcsBucketStore { endpoint: " ++ Text.quoted b.endpoint.text ++
    ", bucket: " ++ Text.quoted b.name ++ ", project_id: " ++ Text.quoted b.project ++
    ", access_token: " ++ token ++ r" }"

/-! ### URLs -/

/-- The endpoint with segments behind its path. -/
def url (b : ObjectBucket) (segments : List String) : Except Error Url :=
  match b.endpoint.addSegments? (segments.map String.toList) with
  | some u => .ok u
  | none => .error (.validation (.baselessEndpoint b.endpoint.text))

/-- The URL of the bucket. -/
def bucketUrl (b : ObjectBucket) : Except Error Url := b.url ["storage", "v1", "b", b.name]

/-- The URL of an object. -/
def objectUrl (b : ObjectBucket) (key : BlobKey) : Except Error Url :=
  b.url ["storage", "v1", "b", b.name, "o", key.text]

/-- A parameter behind the query of a URL. -/
def addText (u : Url) (name value : String) : Url :=
  u.addParameter name.toList value.toList

/-- The URL of the buckets of the project. -/
def creationUrl (b : ObjectBucket) : Except Error Url :=
  (b.url ["storage", "v1", "b"]).map fun u => addText u "project" b.project

/-- The URL of the content of an object. -/
def downloadUrl (b : ObjectBucket) (key : BlobKey) : Except Error Url :=
  (b.objectUrl key).map fun u => addText u "alt" "media"

/-- The URL to which an object is uploaded. -/
def uploadUrl (b : ObjectBucket) (key : BlobKey) : Except Error Url :=
  (b.url ["upload", "storage", "v1", "b", b.name, "o"]).map fun u =>
    addText (addText u "uploadType" "media") "name" key.text

/-- The URL under which an object is rewritten in its place. -/
def rewriteUrl (b : ObjectBucket) (key : BlobKey) : Except Error Url :=
  b.url
    ["storage", "v1", "b", b.name, "o", key.text, "rewriteTo", "b", b.name, "o", key.text]

/-- The URL under which a rewrite goes on from a token. -/
def continueUrl (base : Url) : Option String → Url
  | none => base
  | some token => addText base "rewriteToken" token

/-! ### Requests -/

/-- The type of the content of blobs. -/
def blobType : String := "application/x-yaml"

/-- The type of the content of other requests. -/
def jsonType : String := "application/json"

/-- The header that carries the credentials. -/
def authorization (b : ObjectBucket) : Option String := b.token.map ("Bearer " ++ ·)

/-- A request for what stands at a URL. -/
def getRequest (b : ObjectBucket) (u : Url) : Http.Request where
  method := .get
  url := u
  authorization := b.authorization

/-- A request that sends bytes. -/
def postRequest (b : ObjectBucket) (u : Url) (type : String) (body : ByteArray) :
    Http.Request where
  method := .post
  url := u
  authorization := b.authorization
  contentType := some type
  body := body

private def jsonBytes (v : Json.Value) : ByteArray := (String.ofList v.compact).toUTF8

/-- The content of the request that creates the bucket. -/
def creationBody (b : ObjectBucket) (location : String) (storageClass : StorageClass) :
    ByteArray :=
  jsonBytes <| .object
    [("location", .string location), ("name", .string b.name),
      ("storageClass", .string storageClass.name)]

/-- The content of the requests that rewrite an object. -/
def rewriteBody (storageClass : StorageClass) : ByteArray :=
  jsonBytes (.object [("storageClass", .string storageClass.name)])

/-- Sends a request; without an answer the plan fails. -/
def exchange (r : Http.Request) : Http.Plan Http.Response := do
  let answer : Except Http.Failure Http.Response ← Http.send r
  match answer with
  | .ok response => return response
  | .error failure => Plan.fail (.http (.failure failure))

/-- The error of an answer that reports no success. -/
def failure (what : String) (response : Http.Response) : Error :=
  .storage (.status what response.status response.text)

/-- Asks whether something is there: the status for something missing is an answer too. -/
def probe (b : ObjectBucket) (u : Url) (what : String) : Http.Plan Bool := do
  let response ← exchange (b.getRequest u)
  if response.status = .notFound then return false
  else if response.status.isSuccess then return true
  else Plan.fail (failure what response)

/-- Sends a request that has to succeed. -/
def insist (r : Http.Request) (what : String) : Http.Plan Http.Response := do
  let response ← exchange r
  if response.status.isSuccess then return response else Plan.fail (failure what response)

/-- The error of an object that is not there. -/
def missing (b : ObjectBucket) (key : BlobKey) : Error := .notFound (.blob key.text b.name)

/-- The whole body of an answer. -/
def bodyOf (response : Http.Response) : Except Error ByteArray :=
  match response.body with
  | .ok bytes => .ok bytes
  | .error f => .error (.http (.failure f))

/-! ### Rewriting -/

/-- What the answer to a rewrite says: it is done, or it goes on from a token. -/
structure Rewrite where
  done : Bool
  token : Option String
  deriving DecidableEq, Repr

/-- What a member of the answer to a rewrite says. -/
inductive Rewrite.Member where
  | done (isDone : Bool)
  | token (token : Option String)
  | other

/-- Whether a member says that the rewrite is done or not. -/
def Rewrite.Member.done? : Rewrite.Member → Option Bool
  | .done isDone => some isDone
  | _ => none

/-- The token that a member says, which may be null. -/
def Rewrite.Member.token? : Rewrite.Member → Option (Option String)
  | .token t => some t
  | _ => none

/-- Reads a member. What stands under another key is passed over. -/
def Rewrite.member : Json.Step Rewrite.Member := do
  let key ← Json.Step.memberKey
  if key == "done" then return .done (← Json.Step.flag)
  else if key == "rewriteToken" then return .token (← Json.Step.text?)
  else
    Json.Step.pass
    return .other

/-- What members say together. Neither key may stand there twice, and the token may be missing. -/
def Rewrite.ofMembers? (members : List Rewrite.Member) : Option Rewrite :=
  match members.filterMap Rewrite.Member.done?, members.filterMap Rewrite.Member.token? with
  | [isDone], [] => some ⟨isDone, none⟩
  | [isDone], [token] => some ⟨isDone, token⟩
  | _, _ => none

/-- Reads the answer to a rewrite: an object with its two members, or the two in a list. -/
def Rewrite.answer : Json.Step (Option Rewrite) := do
  match ← Json.Step.skipSpace with
  | some 91 => do
    Json.Step.skip
    let isDone ← Json.Step.flag
    Json.Step.expect ','
    let token ← Json.Step.text?
    Json.Step.expect ']'
    return some ⟨isDone, token⟩
  | some 123 => do
    Json.Step.skip
    return Rewrite.ofMembers? (← Json.Step.pieces '}' Rewrite.member true ((← get).rest.length + 1))
  | _ => Json.Step.failAhead .expectedValue

/-- Reads the body of the answer to a rewrite. -/
def Rewrite.ofResponse (response : Http.Response) : Except Error Rewrite :=
  match bodyOf response with
  | .error e => .error e
  | .ok bytes =>
    match Json.read? Rewrite.answer bytes.toList with
    | some (some rewrite) => .ok rewrite
    | _ => .error (.http (.failure .body))

/-- Rewrites an object until the store says that it is done, from token to token, in at most so
many rounds. -/
def rewrite (b : ObjectBucket) (key : BlobKey) (base : Url) (body : ByteArray) :
    (rounds : Nat) → Option String → Http.Plan Unit
  | 0, _ => Plan.fail (.storage (.endlessRewrite key.text))
  | rounds + 1, token => do
    let response ← exchange (b.postRequest (continueUrl base token) jsonType body)
    if response.status = .notFound then Plan.fail (b.missing key)
    else if ! response.status.isSuccess then
      Plan.fail (failure s!"Storage class update of '{key.text}'" response)
    else
      let answer ← Plan.ofExcept (Rewrite.ofResponse response)
      if answer.done then return ()
      else
        match answer.token with
        | some token => rewrite b key base body rounds (some token)
        | none => Plan.fail (.storage (.noRewriteToken key.text))

/-! ### Calls -/

/-- Reads an object. -/
def download (b : ObjectBucket) (key : BlobKey) : Http.Plan ByteArray := do
  let u ← Plan.ofExcept (b.downloadUrl key)
  let response ← exchange (b.getRequest u)
  if response.status = .notFound then Plan.fail (b.missing key)
  else if ! response.status.isSuccess then
    Plan.fail (failure s!"Download of '{key.text}'" response)
  else Plan.ofExcept (bodyOf response)

/-- A call on the bucket as a plan of requests; a rewrite takes at most so many rounds. -/
def plan (b : ObjectBucket) (rounds : Nat) : (c : Bucket.Call) → Http.Plan c.Answer
  | .bucketExists => do
    let u ← Plan.ofExcept b.bucketUrl
    b.probe u s!"Bucket lookup for '{b.name}'"
  | .createBucket location storageClass => do
    let u ← Plan.ofExcept b.creationUrl
    let r := b.postRequest u jsonType (b.creationBody location storageClass)
    let _ ← insist r s!"Bucket creation for '{b.name}'"
    return ()
  | .blobExists key => do
    let u ← Plan.ofExcept (b.objectUrl key)
    b.probe u s!"Object lookup for '{key.text}'"
  | .download key => b.download key
  | .upload key bytes => do
    let u ← Plan.ofExcept (b.uploadUrl key)
    let _ ← insist (b.postRequest u blobType bytes) s!"Upload of '{key.text}'"
    return ()
  | .setClass key storageClass => do
    let base ← Plan.ofExcept (b.rewriteUrl key)
    b.rewrite key base (rewriteBody storageClass) rounds none

/-- Answers calls on the bucket over a transport. -/
def perform {σ : Type} (b : ObjectBucket) (rounds : Nat) (t : Http.Transport σ) :
    Plan.Handler Bucket.Call Bucket.Call.Answer σ :=
  fun c s => (b.plan rounds c).run t.handler s

end ObjectBucket

end DeploySync
