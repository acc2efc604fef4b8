import DeploySync.Proofs.Bucket.Exchange

/-!
# Rewriting an object

A change of the storage class is asked for until the store says that it is done, or says something
from which no rewrite goes on. The requests differ in one parameter only, which is the token of the
last answer, so that a token is never sent twice.

## Main definitions

* `ObjectBucket.GoesOn` — an answer from which a rewrite goes on, and its token
* `ObjectBucket.nextToken?` — that token
* `ObjectBucket.rewriteRequest` — the request that goes on from a token
* `ObjectBucket.Ends` — how a rewrite ends with its last answer

## Main results

* `ObjectBucket.rewrite_succ` — one round of a rewrite
* `ObjectBucket.run_rewrite` — all rounds: a rewrite ends at the first answer from which it does not
  go on
* `ObjectBucket.rewrite_rounds` — the requests of a change of the storage class, and how it ends
-/

namespace DeploySync.ObjectBucket

open DeploySync.Plan (done)
open Http (Request Response)

variable {b : ObjectBucket} {key : BlobKey} {base : Url} {body : ByteArray} {token : String}
variable {response : Response}

/-! ### Answers -/

/-- From the answer a rewrite goes on with a token: it reports success, but not that the rewrite is
done. -/
def GoesOn (response : Response) (token : String) : Prop :=
  response.status.isSuccess ∧ Rewrite.ofResponse response = .ok ⟨false, some token⟩

/-- The token from which a rewrite goes on behind an answer, if it does. -/
def nextToken? (response : Response) : Option String :=
  if response.status.isSuccess then
    match Rewrite.ofResponse response with
    | .ok rewrite => if rewrite.done then none else rewrite.token
    | .error _ => none
  else none

theorem nextToken?_eq_some_iff : nextToken? response = some token ↔ GoesOn response token := by
  rw [nextToken?, GoesOn]
  by_cases hsuccess : response.status.isSuccess
  · rcases Rewrite.ofResponse response with e | ⟨_ | _, token'⟩ <;> simp [hsuccess]
  · simp [hsuccess]

theorem nextToken?_eq_none_iff : nextToken? response = none ↔ ∀ token, ¬ GoesOn response token := by
  simp only [Option.eq_none_iff_forall_ne_some, Ne, nextToken?_eq_some_iff]

/-- A body that says nothing of a rewrite is a failure of the exchange. -/
theorem exists_of_ofResponse {e : Error} (h : Rewrite.ofResponse response = .error e) :
    ∃ f, e = .http (.failure f) := by
  rw [Rewrite.ofResponse, bodyOf] at h
  split at h
  · next hbody =>
    split at hbody
    · cases hbody
    · exact ⟨_, (Except.error.inj h).symm.trans (Except.error.inj hbody).symm⟩
  · split at h
    · cases h
    · exact ⟨_, (Except.error.inj h).symm⟩

/-- How a rewrite ends with an answer from which it does not go on. It is done only if the answer
reports success and says so. -/
structure Ends (b : ObjectBucket) (key : BlobKey) (response : Response)
    (result : Except Error Unit) : Prop where
  ok_iff : result = .ok () ↔
    response.status.isSuccess ∧ ∃ token, Rewrite.ofResponse response = .ok ⟨true, token⟩
  missing : response.status = .notFound → result = .error (.notFound (.blob key.text b.name))
  refused : ¬ response.status.isSuccess → response.status ≠ .notFound →
    ∃ what, result = .error (.storage (.status what response.status response.text))
  stuck : response.status.isSuccess → Rewrite.ofResponse response = .ok ⟨false, none⟩ →
    result = .error (.storage (.noRewriteToken key.text))
  unreadable : response.status.isSuccess → (∀ rewrite, Rewrite.ofResponse response ≠ .ok rewrite) →
    ∃ f, result = .error (.http (.failure f))

/-- What a rewrite does behind an answer: it ends, or it goes on from a token. -/
def answered (b : ObjectBucket) (key : BlobKey) (next : String → Http.Plan Unit)
    (response : Response) : Http.Plan Unit :=
  if response.status = .notFound then Plan.fail (b.missing key)
  else if ! response.status.isSuccess then
    Plan.fail (failure s!"Storage class update of '{key.text}'" response)
  else
    (Plan.ofExcept (Rewrite.ofResponse response)).bind fun answer =>
      if answer.done then done (.ok ())
      else
        match answer.token with
        | some token => next token
        | none => Plan.fail (.storage (.noRewriteToken key.text))

/-- From an answer with a token a rewrite goes on. -/
theorem answered_of_goesOn (next : String → Http.Plan Unit) (h : GoesOn response token) :
    b.answered key next response = next token := by
  obtain ⟨hsuccess, hanswer⟩ := h
  have hne : response.status ≠ .notFound := by
    intro heq
    rw [heq, not_isSuccess_notFound] at hsuccess
    cases hsuccess
  rw [answered, if_neg hne, hsuccess, hanswer]
  rfl

/-- With any other answer it ends. -/
theorem answered_of_not (b : ObjectBucket) (key : BlobKey) (next : String → Http.Plan Unit)
    (h : ∀ token, ¬ GoesOn response token) :
    ∃ result, b.answered key next response = done result ∧ b.Ends key response result := by
  rw [answered]
  by_cases hmissing : response.status = .notFound
  · have hsuccess : ¬ response.status.isSuccess := by
      rw [hmissing, not_isSuccess_notFound]
      exact Bool.false_ne_true
    rw [if_pos hmissing]
    exact ⟨_, rfl, by simp [hsuccess], fun _ => rfl, fun _ hne => absurd hmissing hne,
      fun hs => absurd hs hsuccess, fun hs => absurd hs hsuccess⟩
  · rw [if_neg hmissing]
    by_cases hsuccess : response.status.isSuccess
    · rw [hsuccess, Bool.not_true, if_neg Bool.false_ne_true]
      -- unreadable, or done or not, each with a token or without
      rcases hanswer : Rewrite.ofResponse response with e | ⟨_ | _, _ | token⟩
      · obtain ⟨f, rfl⟩ := exists_of_ofResponse hanswer
        exact ⟨_, rfl, by simp [hanswer], fun h => absurd h hmissing, fun h => absurd hsuccess h,
          fun _ h => by simp [hanswer] at h, fun _ _ => ⟨f, rfl⟩⟩
      · exact ⟨_, rfl, by simp [hanswer], fun h => absurd h hmissing, fun h => absurd hsuccess h,
          fun _ _ => rfl, fun _ h => absurd hanswer (h _)⟩
      · exact absurd ⟨hsuccess, hanswer⟩ (h token)
      · exact ⟨_, rfl, by simp [hanswer, hsuccess], fun h => absurd h hmissing,
          fun h => absurd hsuccess h, fun _ h => by simp [hanswer] at h,
          fun _ h => absurd hanswer (h _)⟩
      · exact ⟨_, rfl, by simp [hanswer, hsuccess], fun h => absurd h hmissing,
          fun h => absurd hsuccess h, fun _ h => by simp [hanswer] at h,
          fun _ h => absurd hanswer (h _)⟩
    · rw [Bool.not_eq_true] at hsuccess
      rw [hsuccess, Bool.not_false, if_pos rfl]
      exact ⟨_, rfl, by simp [hsuccess], fun h => absurd h hmissing, fun _ _ => ⟨_, rfl⟩,
        by simp [hsuccess], by simp [hsuccess]⟩

/-! ### Rounds -/

/-- The request of a rewrite that goes on from a token, as it is sent. -/
def rewriteRequest (b : ObjectBucket) (base : Url) (body : ByteArray) (token : Option String) :
    Request :=
  outgoing (b.postRequest (continueUrl base token) jsonType body)

/-- One round of a rewrite: a request, and what is done behind its answer. -/
theorem rewrite_succ (hcan : b.CanSend) (hbase : b.OnEndpoint base) (rounds : Nat)
    (token : Option String) :
    b.rewrite key base body (rounds + 1) token =
      asking (b.rewriteRequest base body token)
        (b.answered key fun token => b.rewrite key base body rounds (some token)) :=
  exchange_bind hcan rfl (hbase.continueUrl token) _

/-- A request with the answer that it got. -/
abbrev Exchanged := Plan.Answered Request Request.Answer

/-- The exchange of a request for an answer. -/
def exchanged (request : Request) (response : Response) : Exchanged :=
  ⟨request, .ok (.ok response)⟩

theorem run_asking {α : Type} (request : Request) (next : Response → Http.Plan α)
    (response : Response) (rest : List (Except Http.Failure Response)) :
    (asking request next).run Http.scripted.handler (.ok response :: rest) =
      (next response).run Http.scripted.handler rest := rfl

theorem calls_asking {α : Type} (request : Request) (next : Response → Http.Plan α)
    (response : Response) (rest : List (Except Http.Failure Response)) :
    (asking request next).calls Http.scripted.handler (.ok response :: rest) =
      exchanged request response :: (next response).calls Http.scripted.handler rest := rfl

theorem map_fst_exchanged {requests : List Request} {answers : List Response}
    (h : requests.length = answers.length) :
    (List.zipWith exchanged requests answers).map (·.1) = requests := by
  induction requests generalizing answers with
  | nil => rfl
  | cons request requests ih =>
    cases answers with
    | nil => cases h
    | cons response answers =>
      rw [List.zipWith_cons_cons, List.map_cons, ih (Nat.succ.inj h)]
      rfl

/-- Answers from which a rewrite goes on have their tokens. -/
theorem exists_tokens {going : List Response} (h : ∀ r ∈ going, (nextToken? r).isSome) :
    ∃ tokens : List String,
      List.Forall₂ GoesOn going tokens ∧ going.map nextToken? = tokens.map some := by
  induction going with
  | nil => exact ⟨[], .nil, rfl⟩
  | cons response going ih =>
    rw [List.forall_mem_cons] at h
    obtain ⟨token, hnext⟩ := Option.isSome_iff_exists.1 h.1
    obtain ⟨tokens, htokens, hmap⟩ := ih h.2
    refine ⟨token :: tokens, .cons (nextToken?_eq_some_iff.1 hnext) htokens, ?_⟩
    rw [List.map_cons, List.map_cons, hnext, hmap]

/-- A rewrite goes on as long as the answers have a token, each request with the token of the answer
before it, and ends with the first answer that has none. -/
theorem run_rewrite (hcan : b.CanSend) (hbase : b.OnEndpoint base) (key : BlobKey)
    (body : ByteArray) {answers : List Response}
    (hend : ∃ r ∈ answers, nextToken? r = none) {rounds : Nat} (hrounds : answers.length ≤ rounds)
    (start : Option String) :
    ∃ going last rest result, answers = going ++ last :: rest ∧
      (∀ r ∈ going, (nextToken? r).isSome) ∧ nextToken? last = none ∧ b.Ends key last result ∧
      (b.rewrite key base body rounds start).run Http.scripted.handler (answers.map .ok) =
        (result, rest.map .ok) ∧
      (b.rewrite key base body rounds start).calls Http.scripted.handler (answers.map .ok) =
        List.zipWith exchanged ((start :: going.map nextToken?).map (b.rewriteRequest base body))
          (going ++ [last]) := by
  -- each answer from which the rewrite goes on takes one of the rounds
  induction answers generalizing rounds start with
  | nil =>
    obtain ⟨r, hr, -⟩ := hend
    cases hr
  | cons response more ih =>
    obtain ⟨rounds, rfl⟩ : ∃ n, rounds = n + 1 := Nat.exists_eq_add_one_of_ne_zero (by
      rw [List.length_cons] at hrounds
      omega)
    rw [List.length_cons, Nat.add_le_add_iff_right] at hrounds
    rw [rewrite_succ hcan hbase, List.map_cons, run_asking, calls_asking]
    cases hnext : nextToken? response with
    | none =>
      -- the first answer ends the rewrite
      obtain ⟨result, hdone, hends⟩ := answered_of_not b key
        (fun token => b.rewrite key base body rounds (some token)) (nextToken?_eq_none_iff.1 hnext)
      rw [hdone]
      exact ⟨[], response, more, result, rfl, by simp, hnext, hends, rfl, rfl⟩
    | some token =>
      rw [answered_of_goesOn _ (nextToken?_eq_some_iff.1 hnext)]
      have hend' : ∃ r ∈ more, nextToken? r = none := by
        obtain ⟨r, hr, hnone⟩ := hend
        rcases List.mem_cons.1 hr with rfl | hr
        · rw [hnext] at hnone
          cases hnone
        · exact ⟨r, hr, hnone⟩
      obtain ⟨going, last, rest, result, rfl, hgoing, hlast, hends, hrun, hcalls⟩ :=
        ih hend' hrounds (some token)
      refine ⟨response :: going, last, rest, result, rfl, ?_, hlast, hends, hrun, ?_⟩
      · intro r hr
        rcases List.mem_cons.1 hr with rfl | hr
        · rw [hnext]
          rfl
        · exact hgoing r hr
      · rw [hcalls, List.map_cons (f := nextToken?), hnext]
        rfl

/-! ### Changes of the storage class -/

/-- The requests that a call on the bucket sends, with the answers that come one after the other. -/
def requests (b : ObjectBucket) (rounds : Nat) (c : Bucket.Call)
    (script : List (Except Http.Failure Response)) : List Request :=
  ((b.plan rounds c).calls Http.scripted.handler script).map (·.1)

/-- Two URLs are the same, but for their queries. -/
def SameButQuery (u u' : Url) : Prop := { u with query := none } = { u' with query := none }

theorem rewriteRequest_url (b : ObjectBucket) (base : Url) (body : ByteArray)
    (token : Option String) :
    SameButQuery (b.rewriteRequest base body token).url base.withoutUserinfo := by
  cases token <;> rfl

theorem body_rewriteRequest (b : ObjectBucket) (base : Url) (body : ByteArray)
    (token : Option String) :
    (b.rewriteRequest base body token).body = body := rfl

/-- A request of a rewrite has no parameter but the token. -/
theorem parameters_rewriteRequest (hbase : base.parameters = []) (body : ByteArray)
    (token : Option String) :
    (b.rewriteRequest base body token).url.parameters =
      token.toList.map fun token => ("rewriteToken", token) := by
  cases token with
  | none => exact hbase
  | some token =>
    have hparameters := Url.parameters_addParameter base "rewriteToken".toList token.toList
    rw [hbase, String.ofList_toList, String.ofList_toList] at hparameters
    exact hparameters

/-- A bucket that cannot send makes no request to change a storage class, and says why. -/
theorem setClass_of_not (hcan : ¬ b.CanSend) (key : BlobKey) (storageClass : StorageClass)
    (rounds : Nat) :
    ∃ e, b.plan (rounds + 1) (.setClass key storageClass) = done (.error e) := by
  rw [plan]
  cases hurl : b.rewriteUrl key with
  | error e => exact ⟨e, rfl⟩
  | ok base =>
    obtain ⟨f, hfail⟩ := exchange_bind_of_not (r := b.postRequest (continueUrl base none) jsonType
      (rewriteBody storageClass)) hcan rfl ((onEndpoint_of_url hurl).1.continueUrl none)
      (b.answered key fun token =>
        b.rewrite key base (rewriteBody storageClass) rounds (some token))
    exact ⟨_, hfail⟩

/-- A bucket that can send has a URL for each rewrite, with the parameters of its endpoint. -/
theorem exists_rewriteUrl {c : Settings} (hb : ofSettings c = .ok b) (hcan : b.CanSend)
    (key : BlobKey) :
    ∃ base, b.rewriteUrl key = .ok base ∧ b.OnEndpoint base ∧
      base.parameters = b.endpoint.parameters := by
  obtain ⟨hparse, -⟩ := of_ofSettings hb
  obtain ⟨-, path, hpath⟩ := Url.exists_of_parse hparse (isSpecial_of_isHttp hcan.isHttp)
  obtain ⟨base, hurl⟩ : ∃ base, b.rewriteUrl key = .ok base := ⟨_, url_eq hpath _⟩
  obtain ⟨hon, hquery, -⟩ := onEndpoint_of_url hurl
  refine ⟨base, hurl, hon, ?_⟩
  rw [Url.parameters, Url.parameters, hquery]

/-- A change of the storage class is a rewrite that starts without a token. -/
theorem setClass_eq_rewrite {key : BlobKey} (hurl : b.rewriteUrl key = .ok base)
    (storageClass : StorageClass) (rounds : Nat) :
    b.plan rounds (.setClass key storageClass) =
      b.rewrite key base (rewriteBody storageClass) rounds none := by
  rw [plan, hurl]
  rfl

/-- How the storage class of an object is changed, whatever the store answers, up to the first
answer from which the rewrite does not go on. All requests post the same body to the same URL, the
first without a token, and each other one with the token of the answer before it as its only
parameter. So there is one request for each answer up to that one, and that one tells how the
rewrite ends. A bucket that cannot send makes no request. -/
theorem rewrite_rounds {c : Settings} (hb : ofSettings c = .ok b)
    (hquery : b.endpoint.parameters = []) (key : BlobKey) (storageClass : StorageClass)
    {answers : List Response} (hend : ∃ r ∈ answers, ∀ token, ¬ GoesOn r token) {rounds : Nat}
    (hrounds : answers.length ≤ rounds) :
    let script : List (Except Http.Failure Response) := answers.map .ok
    let sent := b.requests rounds (.setClass key storageClass) script
    let result := (b.perform rounds Http.scripted (.setClass key storageClass) script).1
    (¬ b.CanSend → sent = [] ∧ ∃ e, result = .error e) ∧
    (b.CanSend → ∃ base going tokens last rest, b.rewriteUrl key = .ok base ∧
      answers = going ++ last :: rest ∧ List.Forall₂ GoesOn going tokens ∧
      (∀ token, ¬ GoesOn last token) ∧ sent.length = going.length + 1 ∧
      (∀ r ∈ sent, r.method = .post ∧ SameButQuery r.url base.withoutUserinfo ∧
        r.contentType = some jsonType ∧ r.body = rewriteBody storageClass) ∧
      sent.map (·.url.parameters) = [] :: tokens.map (fun token => [("rewriteToken", token)]) ∧
      b.Ends key last result) := by
  intro script sent result
  constructor
  · intro hcan
    -- an answer that ends the rewrite is one at least, so there is a round
    obtain ⟨rounds, rfl⟩ : ∃ n, rounds = n + 1 := by
      obtain ⟨r, hr, -⟩ := hend
      have hpos := List.length_pos_of_mem hr
      exact Nat.exists_eq_add_one_of_ne_zero (by omega)
    obtain ⟨e, hplan⟩ := b.setClass_of_not hcan key storageClass rounds
    refine ⟨?_, e, ?_⟩
    · change ((b.plan (rounds + 1) _).calls _ _).map _ = []
      rw [hplan]
      rfl
    · change ((b.plan (rounds + 1) _).run _ _).1 = _
      rw [hplan]
      rfl
  · intro hcan
    obtain ⟨base, hurl, hon, hbase⟩ := exists_rewriteUrl hb hcan key
    rw [← hbase] at hquery
    have hplan := setClass_eq_rewrite hurl storageClass rounds
    obtain ⟨going, last, rest, ending, hanswers, hgoing, hlast, hends, hrun, hcalls⟩ :=
      run_rewrite hcan hon key (rewriteBody storageClass)
        (by simpa only [nextToken?_eq_none_iff] using hend) hrounds none
    -- every answer that goes on has its token
    obtain ⟨tokens, htokens, hmap⟩ := exists_tokens hgoing
    have hsent : sent = (none :: tokens.map some).map
        (b.rewriteRequest base (rewriteBody storageClass)) := by
      have hfirst := congrArg (List.map (·.1)) ((congrArg
        (fun p : Http.Plan Unit => p.calls Http.scripted.handler script) hplan).trans hcalls)
      rw [map_fst_exchanged (by simp), hmap] at hfirst
      exact hfirst
    have hresult : result = ending := congrArg Prod.fst ((congrArg
      (fun p : Http.Plan Unit => p.run Http.scripted.handler script) hplan).trans hrun)
    refine ⟨base, going, tokens, last, rest, hurl, hanswers, htokens,
      nextToken?_eq_none_iff.1 hlast, ?_, ?_, ?_, hresult ▸ hends⟩
    · have hlength := congrArg List.length hmap
      rw [List.length_map, List.length_map] at hlength
      rw [hsent, List.length_map, List.length_cons, List.length_map, hlength]
    · intro r hr
      rw [hsent] at hr
      obtain ⟨token, -, rfl⟩ := List.mem_map.1 hr
      exact ⟨rfl, rewriteRequest_url b base (rewriteBody storageClass) token, rfl,
        body_rewriteRequest b base (rewriteBody storageClass) token⟩
    · rw [hsent, List.map_map, List.map_cons, List.map_map]
      refine congrArg₂ List.cons (parameters_rewriteRequest hquery _ none) ?_
      exact List.map_congr_left fun token _ => parameters_rewriteRequest hquery _ (some token)

/-- An answer to a rewrite that has one more part to go. -/
def sampleUndone : Response :=
  ⟨⟨200⟩, [.ok r#"{ "done": false, "rewriteToken": "a/b" }"#.toUTF8]⟩

/-- An answer to a rewrite that is done. It has other members, too, with a number beyond all doubles
and a string that spells no text. -/
def sampleDone : Response :=
  ⟨⟨200⟩, [.ok r#"{ "size": 1e999, "resource": { "name": ["\ud800"] }, "done": true }"#.toUTF8]⟩

theorem goesOn_sampleUndone : GoesOn sampleUndone "a/b" := ⟨by decide, by decide +kernel⟩

theorem ofResponse_sampleDone : Rewrite.ofResponse sampleDone = .ok ⟨true, none⟩ := by
  decide +kernel

theorem not_goesOn_sampleDone (token : String) : ¬ GoesOn sampleDone token := by
  rintro ⟨-, h⟩
  rw [ofResponse_sampleDone] at h
  cases h

theorem rewrite_rounds_two :
    ofSettings World.sampleSettings = .ok sampleBucket ∧ sampleBucket.endpoint.parameters = [] ∧
    (∃ r ∈ [sampleUndone, sampleDone], ∀ token, ¬ GoesOn r token) ∧
    [sampleUndone, sampleDone].length ≤ 5 ∧ sampleBucket.CanSend ∧
    (sampleBucket.requests 5 (.setClass sampleKey .coldline)
      [.ok sampleUndone, .ok sampleDone]).map (·.url.parameters) = [[], [("rewriteToken", "a/b")]] ∧
    (sampleBucket.perform 5 Http.scripted (.setClass sampleKey .coldline)
      [.ok sampleUndone, .ok sampleDone]).1 = .ok () := by
  have hquery : sampleBucket.endpoint.parameters = [] := by decide +kernel
  have hend : ∃ r ∈ [sampleUndone, sampleDone], ∀ token, ¬ GoesOn r token :=
    ⟨sampleDone, by simp, not_goesOn_sampleDone⟩
  have hrounds : [sampleUndone, sampleDone].length ≤ 5 := by decide
  have hcan : sampleBucket.CanSend := ⟨by decide, by decide, by simp [authorization, sampleBucket]⟩
  obtain ⟨-, hrun⟩ := rewrite_rounds ofSettings_sampleBucket hquery sampleKey .coldline hend hrounds
  obtain ⟨base, going, tokens, last, rest, -, hanswers, htokens, hlast, -, -, hparameters, hends⟩ :=
    hrun hcan
  refine ⟨ofSettings_sampleBucket, hquery, hend, hrounds, hcan, ?_⟩
  -- the first answer goes on, so the second one is the last
  cases htokens with
  | nil =>
    obtain ⟨rfl, -⟩ := List.cons.inj hanswers
    exact absurd goesOn_sampleUndone (hlast _)
  | @cons response token going tokens hgoes htokens =>
    obtain ⟨rfl, hmore⟩ := List.cons.inj hanswers
    obtain rfl : token = "a/b" :=
      Option.some.inj ((nextToken?_eq_some_iff.2 hgoes).symm.trans
        (nextToken?_eq_some_iff.2 goesOn_sampleUndone))
    cases htokens with
    | nil =>
      obtain ⟨rfl, -⟩ := List.cons.inj hmore
      exact ⟨hparameters, hends.ok_iff.2 ⟨by decide, none, ofResponse_sampleDone⟩⟩
    | cons hgoes' _ =>
      obtain ⟨rfl, -⟩ := List.cons.inj hmore
      exact absurd hgoes' (not_goesOn_sampleDone _)

end DeploySync.ObjectBucket
