import DeploySync.Proofs.Sync.Requests

/-!
# Calls of one request

Most calls on a bucket of an object store are one request, and what becomes of them is what the
answer says. A lookup decides whether a second call is made.

## Main definitions

* `Sync.Course` — the courses that a call of one request can take
* `Sync.Fetched` — a blob was looked up with success and downloaded whole
* `Sync.Sequence` — which requests are sent for two calls, of which the second depends on an answer

## Main results

* `Sync.course` — a call of one request takes no other course
* `Sync.Course.found_false_iff`, `Sync.Course.found_true_iff`, `Sync.Course.content_ok_iff`,
  `Sync.Course.content_notFound_iff`, `Sync.Course.succeeded_iff` — what the results tell of the
  answers
* `Sync.Sequence.second_iff` — when the second call is made
-/

namespace DeploySync

open ObjectBucket (found succeeded judged)

namespace Sync

open World (Sent requests)

variable {w : World} {b : ObjectBucket} {key : BlobKey} {α : Type} {c : Bucket.Call}
variable {xs ys : List Sent} {x : Sent} {what : String}

/-! ### Calls of one request -/

/-- The courses that a call of one request can take: it fails without a request, but not because
something is missing, or its result is what the answer says. -/
inductive Course (b : ObjectBucket) (c : Bucket.Call) (verdict : Http.Response → Except Error α) :
    List Sent → Except Error α → Prop
  | unsent {e : Error} (hnot : ¬ b.Reachable) (he : ∀ cause, e ≠ .notFound cause) :
      Course b c verdict [] (.error e)
  | sent (hreachable : b.Reachable) (r : Http.Request)
      (answer : Except Http.Failure Http.Response) :
      Course b c verdict [⟨c, r, answer⟩] (judged verdict answer)

/-- There are no other courses, and the files stay as they are. -/
theorem course {verdict : Http.Response → Except Error c.Answer}
    (h : ∀ rounds, b.AsksOnce verdict (b.plan rounds c)) (hw : w.Over b) :
    ∃ result w', World.perform (.bucket c) w = (result, w') ∧
      Course b c verdict (requests b w (.bucket c)) result ∧ w'.Over b ∧ w'.files = w.files := by
  have hperform := World.perform_over hw c
  refine ⟨_, _, hperform, ?_, hw.perform hperform, rfl⟩
  rw [requests]
  by_cases hreachable : b.Reachable
  · obtain ⟨r, hplan⟩ := (h (w.network.length + 1)).asks hreachable
    rw [hplan, ObjectBucket.transcript_asking, ObjectBucket.run_asking_done]
    exact .sent hreachable r _
  · obtain ⟨e, hplan, he⟩ := (h (w.network.length + 1)).fails hreachable
    rw [hplan]
    exact .unsent hreachable he

namespace Course

variable {verdict : Http.Response → Except Error α} {result : Except Error α}

theorem call (h : Course b c verdict xs result) : ∀ x ∈ xs, x.call = c := by
  cases h with
  | unsent hnot he => exact List.forall_mem_nil _
  | sent hreachable r answer => exact List.forall_mem_singleton.2 rfl

theorem call_ne (h : Course b c verdict xs result) (c' : Bucket.Call) (hne : c ≠ c') :
    ∀ x ∈ xs, x.call ≠ c' := by
  intro x hx
  rwa [h.call x hx]

theorem length_le (h : Course b c verdict xs result) : xs.length ≤ 1 := by
  cases h <;> simp

theorem reachable (h : Course b c verdict xs result) (hx : x ∈ xs) : b.Reachable := by
  cases h with
  | unsent hnot he => cases hx
  | sent hreachable r answer => exact hreachable

theorem eq_singleton (h : Course b c verdict xs result) (hreachable : b.Reachable) :
    ∃ x, xs = [x] ∧ x.call = c := by
  cases h with
  | unsent hnot he => exact absurd hreachable hnot
  | sent _ r answer => exact ⟨_, rfl, rfl⟩

theorem eq_nil (h : Course b c verdict xs result) (hnot : ¬ b.Reachable) : xs = [] := by
  cases h with
  | unsent _ he => rfl
  | sent hreachable r answer => exact absurd hreachable hnot

/-- A call that cannot be sent fails, but not because something is missing. -/
theorem error_of_not (h : Course b c verdict xs result) (hnot : ¬ b.Reachable) :
    ∃ e, result = .error e ∧ ∀ cause, e ≠ .notFound cause := by
  cases h with
  | unsent _ he => exact ⟨_, rfl, he⟩
  | sent hreachable r answer => exact absurd hreachable hnot

theorem reachable_of_ok {a : α} (h : Course b c verdict xs (.ok a)) : b.Reachable := by
  by_contra hnot
  obtain ⟨e, he, -⟩ := h.error_of_not hnot
  cases he

/-- What the result says is what the answer says, unless the request had none. -/
theorem result_iff (h : Course b c verdict xs result) (Q : Except Error α → Prop)
    (R : Http.Response → Prop) (herror : ∀ e, (∀ cause, e ≠ .notFound cause) → ¬ Q (.error e))
    (hverdict : ∀ response, Q (verdict response) ↔ R response) :
    Q result ↔ ∃ x ∈ xs, ∃ response, x.answer = .ok response ∧ R response := by
  cases h with
  | unsent hnot he => exact iff_of_false (herror _ he) (by simp)
  | sent hreachable r answer =>
    cases answer with
    | error f => exact iff_of_false (herror _ nofun) (by simp)
    | ok response =>
      rw [judged, hverdict]
      simp

end Course

/-- A lookup finds nothing exactly if the answer says that it is missing. -/
theorem found_eq_false_iff {response : Http.Response} :
    found what response = .ok false ↔ response.status = .notFound := by
  rw [found]
  split_ifs <;> simp [*]

/-- A lookup finds something exactly if the answer reports success. -/
theorem found_eq_true_iff {response : Http.Response} :
    found what response = .ok true ↔ response.status.isSuccess := by
  rw [found]
  split_ifs with hmissing hsuccess
  · simp [hmissing, ObjectBucket.not_isSuccess_notFound]
  · simp [hsuccess]
  · simp [hsuccess]

theorem Course.found_false_iff {result : Except Error Bool}
    (h : Course b c (found what) xs result) :
    result = .ok false ↔ ∃ x ∈ xs, x.IsMissing :=
  h.result_iff (· = .ok false) (·.status = .notFound) (fun _ _ => nofun) fun _ => found_eq_false_iff

theorem Course.found_true_iff {result : Except Error Bool}
    (h : Course b c (found what) xs result) :
    result = .ok true ↔ ∃ x ∈ xs, x.IsSuccess :=
  h.result_iff (· = .ok true) (·.status.isSuccess) (fun _ _ => nofun) fun _ => found_eq_true_iff

/-- A lookup that fails does not report that something is missing. -/
theorem Course.error_ne_notFound {e : Error} (h : Course b c (found what) xs (.error e))
    (cause : Missing) : e ≠ .notFound cause := by
  rintro rfl
  obtain ⟨-, -, -, -, hfalse⟩ := (h.result_iff (· = .error (.notFound cause)) (fun _ => False)
    (fun e he heq => he cause (Except.error.inj heq)) fun response => by
      rw [iff_false, found]
      split_ifs <;> simp [ObjectBucket.failure]).1 rfl
  exact hfalse

/-- A download finds nothing exactly if the answer says that it is missing. -/
theorem content_eq_notFound_iff {response : Http.Response} :
    (∃ cause, b.content key response = .error (.notFound cause)) ↔
      response.status = .notFound := by
  rw [ObjectBucket.content]
  split_ifs with hmissing hsuccess
  · exact iff_of_true ⟨_, rfl⟩ hmissing
  · refine iff_of_false ?_ hmissing
    rw [ObjectBucket.bodyOf]
    rintro ⟨cause, h⟩
    split at h <;> cases h
  · refine iff_of_false ?_ hmissing
    rintro ⟨cause, h⟩
    cases h

/-- A download has a content exactly if the answer reports success and its body is whole. -/
theorem content_eq_ok_iff {response : Http.Response} {bytes : ByteArray} :
    b.content key response = .ok bytes ↔
      response.status.isSuccess ∧ response.body = .ok bytes := by
  rw [ObjectBucket.content]
  split_ifs with hmissing hsuccess
  · simp [hmissing, ObjectBucket.not_isSuccess_notFound]
  · rw [ObjectBucket.bodyOf]
    cases response.body <;> simp [hsuccess]
  · simp [hsuccess]

theorem Course.content_notFound_iff {result : Except Error ByteArray}
    (h : Course b c (b.content key) xs result) :
    (∃ cause, result = .error (.notFound cause)) ↔ ∃ x ∈ xs, x.IsMissing := by
  refine h.result_iff (fun result => ∃ cause, result = .error (.notFound cause))
    (·.status = .notFound) ?_ fun _ => content_eq_notFound_iff
  rintro e he ⟨cause, heq⟩
  exact he cause (Except.error.inj heq)

theorem Course.content_ok_iff {result : Except Error ByteArray} {bytes : ByteArray}
    (h : Course b c (b.content key) xs result) :
    result = .ok bytes ↔ ∃ x ∈ xs, x.Delivers bytes :=
  h.result_iff (· = .ok bytes)
    (fun response => response.status.isSuccess ∧ response.body = .ok bytes)
    (fun _ _ => nofun) fun _ => content_eq_ok_iff

/-- What has to succeed did exactly if the answer reports success. -/
theorem Course.succeeded_iff {result : Except Error Unit}
    (h : Course b c (succeeded what) xs result) : result = .ok () ↔ ∃ x ∈ xs, x.IsSuccess := by
  refine h.result_iff (· = .ok ()) (·.status.isSuccess) (fun _ _ => nofun) fun response => ?_
  rw [succeeded]
  split_ifs with hsuccess <;> simp [hsuccess]

/-- Among requests of one call any is a request of that call. -/
theorem exists_call_iff (hxs : ∀ x ∈ xs, x.call = c) (P : Sent → Prop) :
    (∃ x ∈ xs, x.call = c ∧ P x) ↔ ∃ x ∈ xs, P x := by
  constructor
  · rintro ⟨x, hx, -, hP⟩
    exact ⟨x, hx, hP⟩
  · rintro ⟨x, hx, hP⟩
    exact ⟨x, hx, hxs x hx, hP⟩

/-- Requests of other calls do not count. -/
theorem exists_call_append_iff (hys : ∀ x ∈ ys, x.call ≠ c) (P : Sent → Prop) :
    (∃ x ∈ xs ++ ys, x.call = c ∧ P x) ↔ ∃ x ∈ xs, x.call = c ∧ P x := by
  constructor
  · rintro ⟨x, hx, hcall, hP⟩
    rcases List.mem_append.1 hx with hx | hx
    · exact ⟨x, hx, hcall, hP⟩
    · exact absurd hcall (hys x hx)
  · rintro ⟨x, hx, hP⟩
    exact ⟨x, List.mem_append_left _ hx, hP⟩

theorem exists_append_call_iff (hxs : ∀ x ∈ xs, x.call ≠ c) (P : Sent → Prop) :
    (∃ x ∈ xs ++ ys, x.call = c ∧ P x) ↔ ∃ x ∈ ys, x.call = c ∧ P x := by
  refine .trans (exists_congr fun x => and_congr_left fun _ => ?_) (exists_call_append_iff hxs P)
  rw [List.mem_append, List.mem_append, or_comm]

/-- Whether a lookup finds nothing is seen in the requests up to it and in those behind it. -/
theorem Course.exists_missing_iff {looked : Except Error Bool}
    (h : Course b c (found what) xs looked) (hys : ∀ x ∈ ys, x.call ≠ c) :
    (∃ x ∈ xs ++ ys, x.call = c ∧ x.IsMissing) ↔ looked = .ok false := by
  rw [exists_call_append_iff hys, exists_call_iff h.call, h.found_false_iff]

/-- The blob was looked up with success, and downloaded whole. -/
def Fetched (xs : List Sent) (key : BlobKey) (bytes : ByteArray) : Prop :=
  (∃ x ∈ xs, x.call = .blobExists key ∧ x.IsSuccess) ∧
    ∃ x ∈ xs, x.call = .download key ∧ x.Delivers bytes

/-- A lookup alone fetches nothing. -/
theorem Course.not_fetched {looked : Except Error Bool} {bytes : ByteArray}
    (h : Course b (.blobExists key) (found what) xs looked) : ¬ Fetched xs key bytes := by
  rintro ⟨-, x, hx, hcall, -⟩
  rw [h.call x hx] at hcall
  cases hcall

/-- A blob is fetched exactly if its lookup and its download are answered well. -/
theorem Course.fetched_iff {looked : Except Error Bool} {content? : Except Error ByteArray}
    {bytes : ByteArray} (h : Course b (.blobExists key) (found what) xs looked)
    (h' : Course b (.download key) (b.content key) ys content?) :
    Fetched (xs ++ ys) key bytes ↔ looked = .ok true ∧ content? = .ok bytes := by
  rw [Fetched, exists_call_append_iff (h'.call_ne (.blobExists key) nofun), exists_call_iff h.call,
    exists_append_call_iff (h.call_ne (.download key) nofun), exists_call_iff h'.call,
    h.found_true_iff, h'.content_ok_iff]

/-! ### Sequences of two calls -/

/-- The requests of two calls, of which the second is made if the answer to the first says so. If
requests can be sent at all, the first call is made; the second is made exactly if the operation
goes on, and there is no other request. -/
structure Sequence (b : ObjectBucket) (first second : Bucket.Call) (goesOn : Sent → Prop)
    (xs : List Sent) : Prop where
  unreachable : ¬ b.Reachable → xs = []
  reachable : b.Reachable → ∃ x ys, xs = x :: ys ∧ x.call = first ∧
    (goesOn x → ∃ y, ys = [y] ∧ y.call = second) ∧ (¬ goesOn x → ys = [])

namespace Sequence

variable {first second : Bucket.Call} {goesOn : Sent → Prop} {β : Type}
variable {verdict : Http.Response → Except Error α} {verdict' : Http.Response → Except Error β}
variable {result : Except Error α} {result' : Except Error β}

/-- The operation ends with the first call. -/
theorem one (h : Course b first verdict xs result) (hends : ¬ ∃ x ∈ xs, goesOn x) :
    Sequence b first second goesOn xs := by
  refine ⟨h.eq_nil, fun hreachable => ?_⟩
  obtain ⟨x, rfl, hcall⟩ := h.eq_singleton hreachable
  simp only [List.mem_singleton, exists_eq_left] at hends
  exact ⟨x, [], rfl, hcall, fun hgoes => absurd hgoes hends, fun _ => rfl⟩

/-- The operation goes on with the second call. -/
theorem two (h : Course b first verdict xs result) (hgoes : ∃ x ∈ xs, goesOn x)
    (h' : Course b second verdict' ys result') : Sequence b first second goesOn (xs ++ ys) := by
  have hreachable : b.Reachable := by
    obtain ⟨x, hx, -⟩ := hgoes
    exact h.reachable hx
  obtain ⟨x, rfl, hcall⟩ := h.eq_singleton hreachable
  obtain ⟨y, rfl, hcall'⟩ := h'.eq_singleton hreachable
  simp only [List.mem_singleton, exists_eq_left] at hgoes
  exact ⟨fun hnot => absurd hreachable hnot, fun _ =>
    ⟨x, [y], rfl, hcall, fun _ => ⟨y, rfl, hcall'⟩, fun hends => absurd hgoes hends⟩⟩

/-- The second call is made exactly if the answer to the first says so. -/
theorem second_iff (h : Sequence b first second goesOn xs) (hne : first ≠ second) :
    (∃ x ∈ xs, x.call = second) ↔ ∃ x ∈ xs, x.call = first ∧ goesOn x := by
  by_cases hreachable : b.Reachable
  · obtain ⟨x, ys, rfl, rfl, hgoes, hends⟩ := h.reachable hreachable
    by_cases hx : goesOn x
    · obtain ⟨y, rfl, hy⟩ := hgoes hx
      exact iff_of_true ⟨y, by simp, hy⟩ ⟨x, by simp, rfl, hx⟩
    · simp only [hends hx, List.mem_singleton, exists_eq_left]
      exact iff_of_false hne fun h => hx h.2
  · rw [h.unreachable hreachable]
    simp

end Sequence

end Sync

end DeploySync
