import DeploySync.Bucket.Objects
import DeploySync.Proofs.Url.Extending
import DeploySync.Proofs.World

/-!
# Keys in the URLs of objects

An object is uploaded under a parameter of the query, and looked up, read and rewritten under
segments of the path. Both spell the key, unless the key cannot be a segment: a segment of a path
is never a dot segment and has no tabs and no line breaks.

## Main definitions

* `ObjectBucket.IsPlainName` — a name of a bucket that is a segment as it is
* `ObjectBucket.objectsPath` — the path under which the objects of a bucket stand
* `ObjectBucket.SendsTo` — the URLs that the requests of a plan go to

## Main results

* `ObjectBucket.objectUrl_eq`, `ObjectBucket.rewriteUrl_eq` — the URLs of an object
* `ObjectBucket.objectUrl_text_ne` — different keys have different URLs
* `ObjectBucket.requests_spell_key` — the requests of the calls on an object, and its key in them
-/

namespace DeploySync.ObjectBucket

open DeploySync.Plan (Asks)
open Url (IsKept IsPlain addSegment isSpecial)

variable {b : ObjectBucket} {k k' : BlobKey} {u u' : Url}

/-! ### The name of the bucket -/

/-- A character of a plain name. -/
def isNameChar (c : Char) : Bool :=
  Text.isLetter c || Text.isDigit c || c == '-' || c == '_' || c == '.'

/-- A name of letters, digits, hyphens, underscores and dots that is no dot segment. -/
structure IsPlainName (name : String) : Prop where
  isNameChar : name.toList.all isNameChar
  ne_dot : name ≠ "."
  ne_dots : name ≠ ".."

/-- The characters of a plain name are neither dropped from a segment nor escaped in it. -/
theorem isNameChar_plain {c : Char} (hc : isNameChar c) :
    Url.isIgnored c = false ∧ Url.inSegment true c = false := by
  have hall : ∀ n : Fin 128, isNameChar (Char.ofNat n) →
      Url.isIgnored (Char.ofNat n) = false ∧ Url.inSegment true (Char.ofNat n) = false := by
    decide
  -- a plain name is ASCII, so that the characters can be gone through
  have hlt : c.toNat < 128 := by
    simp only [isNameChar, Text.isLetter, Text.isDigit, Bool.or_eq_true, Bool.and_eq_true,
      decide_eq_true_eq, beq_iff_eq] at hc
    rcases hc with ((((⟨-, hc⟩ | ⟨-, hc⟩) | ⟨-, hc⟩) | rfl) | rfl) | rfl
    · exact Nat.lt_of_le_of_lt (show c.toNat ≤ 122 from hc) (by decide)
    · exact Nat.lt_of_le_of_lt (show c.toNat ≤ 90 from hc) (by decide)
    · exact Nat.lt_of_le_of_lt (show c.toNat ≤ 57 from hc) (by decide)
    all_goals decide
  have hofNat := hall ⟨c.toNat, hlt⟩
  rw [Char.ofNat_toNat] at hofNat
  exact hofNat hc

theorem IsPlainName.isPlain {name : String} (h : IsPlainName name) : IsPlain name.toList := by
  have hchars : ∀ c ∈ name.toList, Url.isIgnored c = false ∧ Url.inSegment true c = false :=
    fun c hc => isNameChar_plain (List.all_eq_true.1 h.isNameChar c hc)
  refine ⟨⟨fun c hc => (hchars c hc).1, ?_, ?_⟩, fun c hc => (hchars c hc).2⟩
  · exact fun heq => h.ne_dot (String.toList_inj.1 heq)
  · exact fun heq => h.ne_dots (String.toList_inj.1 heq)

/-! ### The URLs of an object -/

/-- The path under which the objects of the bucket stand. -/
def objectsPath (b : ObjectBucket) : List (List Char) :=
  b.endpoint.basePath ++ ["storage", "v1", "b", b.name, "o"].map String.toList

/-- The segments between the two keys of a rewrite. -/
def rewritePath (b : ObjectBucket) : List (List Char) :=
  ["rewriteTo", "b", b.name, "o"].map String.toList

/-- The endpoint with another path. -/
def withPath (b : ObjectBucket) (path : List (List Char)) : Url :=
  { b.endpoint with path := .segments path }

/-- Requests can be sent to the URL. -/
def IsSendable (u : Url) : Prop := Http.isHttp u ∧ u.host.isSome

/-- The segments in front of the key of an object are added as they are. -/
theorem foldl_objectsPath (hname : IsPlain b.name.toList) (special : Bool) :
    (["storage", "v1", "b", b.name, "o"].map String.toList).foldl (addSegment special)
      b.endpoint.basePath = b.objectsPath := by
  refine Url.foldl_addSegment ?_ special _
  simp only [List.map_cons, List.map_nil, List.forall_mem_cons]
  exact ⟨by decide, by decide, by decide, hname, by decide, List.forall_mem_nil _⟩

/-- So are those between the two keys of a rewrite. -/
theorem foldl_rewritePath (hname : IsPlain b.name.toList) (special : Bool)
    (path : List (List Char)) :
    b.rewritePath.foldl (addSegment special) path = path ++ b.rewritePath := by
  refine Url.foldl_addSegment ?_ special path
  simp only [rewritePath, List.map_cons, List.map_nil, List.forall_mem_cons]
  exact ⟨by decide, by decide, hname, by decide, List.forall_mem_nil _⟩

section Urls

variable {path : List (List Char)} (hpath : b.endpoint.path = .segments path)
include hpath

theorem url_eq (segments : List String) :
    b.url segments = .ok (b.withPath
      ((segments.map String.toList).foldl (addSegment (isSpecial b.endpoint.scheme))
        b.endpoint.basePath)) := by
  rw [url, Url.addSegments?_eq hpath]
  rfl

theorem objectUrl_eq (hname : IsPlain b.name.toList) (k : BlobKey) :
    b.objectUrl k = .ok (b.withPath
      (addSegment (isSpecial b.endpoint.scheme) b.objectsPath k.chars)) := by
  have hkey : k.text.toList = k.chars := String.toList_ofList
  rw [objectUrl, url_eq hpath, ← foldl_objectsPath hname, ← hkey]
  rfl

theorem rewriteUrl_eq (hname : IsPlain b.name.toList) (k : BlobKey) :
    b.rewriteUrl k = .ok (b.withPath
      (addSegment (isSpecial b.endpoint.scheme)
        (addSegment (isSpecial b.endpoint.scheme) b.objectsPath k.chars ++ b.rewritePath)
        k.chars)) := by
  have hkey : k.text.toList = k.chars := String.toList_ofList
  rw [rewriteUrl, url_eq hpath, ← foldl_rewritePath hname (isSpecial b.endpoint.scheme),
    ← foldl_objectsPath hname, ← hkey]
  rfl

/-- The name of an upload is read back, behind the parameters of the endpoint. -/
theorem exists_uploadUrl (k : BlobKey) :
    ∃ u, b.uploadUrl k = .ok u ∧ (IsSendable b.endpoint → IsSendable u) ∧
      u.parameters = b.endpoint.parameters ++ [("uploadType", "media"), ("name", k.text)] := by
  rw [uploadUrl, url_eq hpath]
  refine ⟨((b.withPath _).addParameter "uploadType".toList "media".toList).addParameter
    "name".toList k.text.toList, rfl, id, ?_⟩
  rw [Url.parameters_addParameter, Url.parameters_addParameter, List.append_assoc]
  simp only [String.ofList_toList]
  rfl

end Urls

/-! ### Requests -/

/-- The requests of a plan go to certain URLs, and if the credentials can stand in a header, there
is one at least. -/
structure SendsTo {α : Type} (b : ObjectBucket) (P : Url → Prop) (p : Http.Plan α) : Prop where
  asks : Asks (fun r => P r.url) p
  isDone : (∀ a ∈ b.authorization, Http.isHeaderText a) → p.isDone = false

theorem SendsTo.bind {α β : Type} {P : Url → Prop} {p : Http.Plan α} {f : α → Http.Plan β}
    (hp : b.SendsTo P p) (hf : ∀ a, Asks (fun r => P r.url) (f a)) : b.SendsTo P (p.bind f) where
  asks := hp.asks.bind hf
  isDone hauthorization := Plan.isDone_bind (hp.isDone hauthorization) f

/-- A request is sent to its URL. -/
theorem sendsTo_exchange {r : Http.Request} (hr : r.authorization = b.authorization)
    (hu : IsSendable r.url) : b.SendsTo (· = r.url.withoutUserinfo) (exchange r) := by
  have hsend : b.SendsTo (· = r.url.withoutUserinfo) (Http.send r) := by
    have hsendable : (! Http.isHttp r.url.withoutUserinfo || r.url.withoutUserinfo.host.isNone) =
        false := by
      have hhttp : Http.isHttp r.url.withoutUserinfo = true := hu.1
      have hhost : r.url.withoutUserinfo.host.isSome = true := hu.2
      rw [hhttp, ← Option.not_isSome, hhost]
      rfl
    constructor
    · rw [Http.send]
      split
      · exact Plan.asks_done _
      · exact ⟨rfl, fun _ => Plan.asks_done _⟩
    · intro hauthorization
      have hheader : (b.authorization.any fun a => ! Http.isHeaderText a) = false := by
        rw [Option.any_eq_false]
        exact fun a ha => by rw [hauthorization a ha]; rfl
      rw [Http.send, Http.refusal?, hsendable, hr, hheader]
      rfl
  refine hsend.bind fun answer => ?_
  cases answer <;> exact Plan.asks_done _

theorem sendsTo_insist {r : Http.Request} (hr : r.authorization = b.authorization)
    (hu : IsSendable r.url) (what : String) :
    b.SendsTo (· = r.url.withoutUserinfo) (insist r what) := by
  refine (sendsTo_exchange hr hu).bind fun response => ?_
  split <;> exact Plan.asks_done _

theorem sendsTo_probe (hu : IsSendable u) (what : String) :
    b.SendsTo (· = u.withoutUserinfo) (b.probe u what) := by
  refine (sendsTo_exchange (r := b.getRequest u) rfl hu).bind fun response => ?_
  split
  · exact Plan.asks_done _
  · split <;> exact Plan.asks_done _

/-- The token of a rewrite that goes on is a parameter of the query, and leaves the path. -/
theorem sendsTo_continue (hu : IsSendable u) (body : ByteArray) (token : Option String) :
    b.SendsTo (·.path = u.path) (exchange (b.postRequest (continueUrl u token) jsonType body)) := by
  have hcontinue : IsSendable (continueUrl u token) := by
    cases token <;> exact hu
  have hpath : (continueUrl u token).withoutUserinfo.path = u.path := by
    cases token <;> rfl
  have hsends := sendsTo_exchange (b := b)
    (r := b.postRequest (continueUrl u token) jsonType body) rfl hcontinue
  refine ⟨hsends.asks.mono fun q hq => ?_, hsends.isDone⟩
  rw [hq]
  exact hpath

theorem asks_rewrite (hu : IsSendable u) (k : BlobKey) (body : ByteArray) (rounds : Nat)
    (token : Option String) : Asks (·.url.path = u.path) (b.rewrite k u body rounds token) := by
  induction rounds generalizing token with
  | zero => exact Plan.asks_done _
  | succ rounds ih =>
    refine (sendsTo_continue hu body token).asks.bind fun response => ?_
    split
    · exact Plan.asks_done _
    · split
      · exact Plan.asks_done _
      · refine Plan.Asks.bind (Plan.asks_done (Rewrite.ofResponse response)) fun answer => ?_
        split
        · exact Plan.asks_done _
        · split
          · exact ih _
          · exact Plan.asks_done _

theorem sendsTo_rewrite (hu : IsSendable u) (k : BlobKey) (body : ByteArray) (rounds : Nat)
    (token : Option String) :
    b.SendsTo (·.path = u.path) (b.rewrite k u body (rounds + 1) token) where
  asks := asks_rewrite hu k body (rounds + 1) token
  isDone hauthorization :=
    Plan.isDone_bind ((sendsTo_continue hu body token).isDone hauthorization) _

/-! ### Calls on an object -/

theorem isSpecial_of_isHttp (hhttp : Http.isHttp u) : isSpecial u.scheme := by
  have hscheme {scheme : String} (h : u.schemeText == scheme) : u.scheme = scheme.toList := by
    rw [← eq_of_beq h, Url.schemeText, String.toList_ofList]
  rcases Bool.or_eq_true_iff.1 hhttp with h | h
  · rw [hscheme h]
    decide
  · rw [hscheme h]
    decide

/-- The path of the objects ends in a segment that is not empty. -/
theorem exists_objectsPath (b : ObjectBucket) : ∃ front, b.objectsPath = front ++ [['o']] := by
  refine ⟨b.endpoint.basePath ++ ["storage", "v1", "b", b.name].map String.toList, ?_⟩
  rw [objectsPath, List.append_assoc]
  rfl

/-- In a URL with the path of an object the segment behind that of the bucket spells the key exactly
if it was kept. -/
theorem spells_key_iff {special : Bool}
    (hpath : u.path = .segments (addSegment special b.objectsPath k.chars)) :
    u.Spells b.objectsPath k.text ↔ IsKept k.chars := by
  obtain ⟨front, hfront⟩ := b.exists_objectsPath
  rw [hfront, ← List.append_nil (addSegment special _ _)] at hpath
  rw [hfront]
  exact Url.spells_addSegment_iff (by decide) (by simp) hpath

/-- In the URL of a rewrite both segments for the key spell it exactly if it was kept. -/
theorem spells_keys_iff {special : Bool} (hpath : u.path = .segments
      (addSegment special (addSegment special b.objectsPath k.chars ++ b.rewritePath) k.chars)) :
    (u.Spells b.objectsPath k.text ↔ IsKept k.chars) ∧
      ((∃ source, u.Spells (b.objectsPath ++ source :: b.rewritePath) k.text) ↔
        IsKept k.chars) := by
  obtain ⟨front, hfront⟩ := b.exists_objectsPath
  rw [hfront] at hpath ⊢
  refine ⟨?_, Url.exists_spells_addSegment_iff (by decide) (by simp [rewritePath]) hpath⟩
  obtain ⟨rest, hrest⟩ := Url.exists_addSegment_append special
    (addSegment special (front ++ [['o']]) k.chars) "rewriteTo".toList "b".toList
    ([b.name, "o"].map String.toList) k.chars
  refine Url.spells_addSegment_iff (by decide) ?_ (hpath.trans (congrArg _ hrest))
  -- the segment that follows is kept, and the key is not
  rintro hk segment hsegment hspells
  obtain rfl := Option.some.inj hsegment
  rw [Url.decoded?_of_isPlain (by decide), Option.some_inj, String.ofList_inj] at hspells
  rw [← hspells] at hk
  exact hk (by decide)

/-- Different keys that are kept have different URLs. -/
theorem objectUrl_text_ne {path : List (List Char)} (hpath : b.endpoint.path = .segments path)
    (hhost : b.endpoint.host.isSome) (hname : IsPlain b.name.toList) (hk : IsKept k.chars)
    (hk' : IsKept k'.chars) (hne : k ≠ k') (hu : b.objectUrl k = .ok u)
    (hu' : b.objectUrl k' = .ok u') : u.text ≠ u'.text := by
  rw [objectUrl_eq hpath hname, Url.addSegment_of_isKept hk] at hu
  rw [objectUrl_eq hpath hname, Url.addSegment_of_isKept hk'] at hu'
  obtain rfl := Except.ok.inj hu
  obtain rfl := Except.ok.inj hu'
  intro htext
  -- the last segments agree then, and spell both keys
  have hdecoded := congrArg Url.decoded? (Url.segment_eq_of_text_eq hhost htext)
  rw [Url.decoded?_segment, Url.decoded?_segment, Option.some_inj, String.ofList_inj] at hdecoded
  exact hne (congrArg BlobKey.mk hdecoded)

theorem sendsTo_upload (hu : b.uploadUrl k = .ok u) (hsendable : IsSendable u) (rounds : Nat)
    (bytes : ByteArray) :
    b.SendsTo (· = u.withoutUserinfo) (b.plan rounds (.upload k bytes)) := by
  rw [plan, hu]
  exact (sendsTo_insist (r := b.postRequest u blobType bytes) rfl hsendable _).bind
    fun _ => Plan.asks_done _

theorem sendsTo_blobExists (hu : b.objectUrl k = .ok u) (hsendable : IsSendable u) (rounds : Nat) :
    b.SendsTo (· = u.withoutUserinfo) (b.plan rounds (.blobExists k)) := by
  rw [plan, hu]
  exact sendsTo_probe hsendable _

theorem sendsTo_download (hu : b.downloadUrl k = .ok u) (hsendable : IsSendable u) (rounds : Nat) :
    b.SendsTo (· = u.withoutUserinfo) (b.plan rounds (.download k)) := by
  rw [plan, download, hu]
  refine (sendsTo_exchange (r := b.getRequest u) rfl hsendable).bind fun response => ?_
  split
  · exact Plan.asks_done _
  · split <;> exact Plan.asks_done _

theorem sendsTo_setClass (hu : b.rewriteUrl k = .ok u) (hsendable : IsSendable u) (rounds : Nat)
    (storageClass : StorageClass) :
    b.SendsTo (·.path = u.path) (b.plan (rounds + 1) (.setClass k storageClass)) := by
  rw [plan, hu]
  exact sendsTo_rewrite hsendable k _ rounds none

theorem of_ofSettings {c : Settings} (hb : ofSettings c = .ok b) :
    Url.parse c.endpoint = .ok b.endpoint ∧ b.name = c.bucket := by
  rw [ofSettings] at hb
  split at hb
  · next endpoint hparse =>
    obtain rfl := Except.ok.inj hb
    exact ⟨hparse, rfl⟩
  · cases hb

/-- How the requests of the calls on an object name it. The name of an upload is read back as the
key, behind the parameters of the endpoint. The segment behind the path of the objects in a lookup,
a download or a rewrite is read back as the key exactly if that is no dot segment and has no tab and
no line break, and so is the segment for the target of a rewrite. Different keys of that kind have
different URLs. -/
theorem requests_spell_key {c : Settings} (hb : ofSettings c = .ok b)
    (hhttp : Http.isHttp b.endpoint) (hname : IsPlainName c.bucket) (k : BlobKey) :
    (∃ u, b.uploadUrl k = .ok u ∧
      u.parameters = b.endpoint.parameters ++ [("uploadType", "media"), ("name", k.text)] ∧
      ∀ rounds bytes, b.SendsTo (· = u.withoutUserinfo) (b.plan rounds (.upload k bytes))) ∧
    (∃ u, b.objectUrl k = .ok u ∧ (u.Spells b.objectsPath k.text ↔ IsKept k.chars) ∧
      ∀ rounds, b.SendsTo (· = u.withoutUserinfo) (b.plan rounds (.blobExists k))) ∧
    (∃ u, b.downloadUrl k = .ok u ∧ (u.Spells b.objectsPath k.text ↔ IsKept k.chars) ∧
      ∀ rounds, b.SendsTo (· = u.withoutUserinfo) (b.plan rounds (.download k))) ∧
    (∃ u, b.rewriteUrl k = .ok u ∧ (u.Spells b.objectsPath k.text ↔ IsKept k.chars) ∧
      ((∃ source, u.Spells (b.objectsPath ++ source :: b.rewritePath) k.text) ↔
        IsKept k.chars) ∧
      ∀ rounds storageClass,
        b.SendsTo (·.path = u.path) (b.plan (rounds + 1) (.setClass k storageClass))) ∧
    ∀ k', IsKept k.chars → IsKept k'.chars → k ≠ k' →
      ∀ u u', b.objectUrl k = .ok u → b.objectUrl k' = .ok u' → u.text ≠ u'.text := by
  obtain ⟨hparse, hbucket⟩ := of_ofSettings hb
  obtain ⟨hhost, path, hpath⟩ := Url.exists_of_parse hparse (isSpecial_of_isHttp hhttp)
  have hplain := hname.isPlain
  rw [← hbucket] at hplain
  -- segments and parameters leave the scheme and the host
  have hsendable : IsSendable b.endpoint := ⟨hhttp, hhost⟩
  refine ⟨?_, ?_, ?_, ?_, ?_⟩
  · obtain ⟨u, hu, hscheme, hparameters⟩ := exists_uploadUrl hpath k
    have hsends := sendsTo_upload hu (hscheme hsendable)
    exact ⟨u, hu, hparameters, hsends⟩
  · have hu := objectUrl_eq hpath hplain k
    exact ⟨_, hu, spells_key_iff rfl, fun rounds => sendsTo_blobExists hu hsendable rounds⟩
  · have hu := congrArg (Except.map fun u => addText u "alt" "media") (objectUrl_eq hpath hplain k)
    exact ⟨_, hu, spells_key_iff rfl, fun rounds => sendsTo_download hu hsendable rounds⟩
  · have hu := rewriteUrl_eq hpath hplain k
    obtain ⟨hsource, htarget⟩ := spells_keys_iff (u := withPath _ _) rfl
    exact ⟨_, hu, hsource, htarget, fun rounds c => sendsTo_setClass hu hsendable rounds c⟩
  · intro k' hk hk' hne u u' hu hu'
    exact objectUrl_text_ne hpath hhost hplain hk hk' hne hu hu'

/-- The bucket of the small world, kept in an object store. -/
def sampleBucket : ObjectBucket where
  endpoint := {
    scheme := "http".toList
    host := some "localhost".toList
    path := .segments [[]] }
  name := "vars"
  project := "project"
  token := none

theorem ofSettings_sampleBucket : ofSettings World.sampleSettings = .ok sampleBucket := by
  decide +kernel

/-- A key with a slash, a percent sign, a space, a plus sign and an umlaut. -/
def sampleKey : BlobKey := ⟨"dev/50% a+b.yäml".toList⟩

theorem requests_spell_key_sample :
    ofSettings World.sampleSettings = .ok sampleBucket ∧ Http.isHttp sampleBucket.endpoint ∧
      IsPlainName World.sampleSettings.bucket ∧
      (∃ u, sampleBucket.uploadUrl sampleKey = .ok u ∧
        u.parameters = [("uploadType", "media"), ("name", "dev/50% a+b.yäml")]) ∧
      ∃ u, sampleBucket.objectUrl sampleKey = .ok u ∧
        u.Spells sampleBucket.objectsPath "dev/50% a+b.yäml" := by
  have hhttp : Http.isHttp sampleBucket.endpoint := by decide
  have hname : IsPlainName World.sampleSettings.bucket := ⟨by decide, by decide, by decide⟩
  obtain ⟨⟨u, hu, hparameters, -⟩, ⟨u', hu', hspells, -⟩, -⟩ :=
    requests_spell_key ofSettings_sampleBucket hhttp hname sampleKey
  exact ⟨ofSettings_sampleBucket, hhttp, hname, ⟨u, hu, hparameters⟩, u', hu',
    hspells.2 (by decide)⟩

end DeploySync.ObjectBucket
