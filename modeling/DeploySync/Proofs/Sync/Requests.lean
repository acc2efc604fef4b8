import DeploySync.Proofs.Bucket.Outage
import DeploySync.Proofs.Sync.Loading

/-!
# Requests of synchronizations

A synchronization on a bucket of an object store sends requests, each for one of its calls on the
bucket. They get the answers of the store in order, and an outage is answered to the last of them.

## Main definitions

* `World.Over` — the bucket of a world is one of an object store
* `World.Sent` — a request with the call that it is made for and its answer
* `World.sent` — the requests of a synchronization
* `Sync.Runs` — the result of a synchronization, the world behind it and the requests on its way

## Main results

* `World.answers_sent` — the requests of a synchronization get the answers of the store in order
* `World.sent_outage` — an outage is answered to the last request of a synchronization
-/

namespace DeploySync

open Plan (done)
open ObjectBucket (IsOutage)

namespace World

variable {w w' : World} {b : ObjectBucket} {α β : Type}

/-- The bucket of the world is one of an object store, and no call on it is to fail. -/
structure Over (w : World) (b : ObjectBucket) : Prop where
  holder : w.holder = .store (.objects b)
  interruptions : w.interruptions = []

/-- The answers that the network has in store. -/
def network (w : World) : List (Except Http.Failure Http.Response) := w.surroundings.network

/-- A request, the call on the bucket that it is made for, and its answer. -/
structure Sent where
  call : Bucket.Call
  request : Http.Request
  answer : Except Http.Failure Http.Response

/-- The store answered that the thing asked for is missing. -/
def Sent.IsMissing (x : Sent) : Prop :=
  ∃ response, x.answer = .ok response ∧ response.status = .notFound

/-- The store answered with success. -/
def Sent.IsSuccess (x : Sent) : Prop :=
  ∃ response, x.answer = .ok response ∧ response.status.isSuccess

/-- The store answered with success and a whole body. -/
def Sent.Delivers (x : Sent) (bytes : ByteArray) : Prop :=
  ∃ response, x.answer = .ok response ∧ response.status.isSuccess ∧ response.body = .ok bytes

/-- The requests of a single call of a synchronization. -/
def requests (b : ObjectBucket) (w : World) : Sync.Call → List Sent
  | .bucket c => (Http.transcript (b.plan (w.network.length + 1) c) w.network).map fun x =>
      ⟨c, x.1, x.2⟩
  | _ => []

/-- The requests of a synchronization, with their answers. -/
def sent (b : ObjectBucket) : Sync.Plan α → World → List Sent
  | .done _, _ => []
  | .ask q next, w => requests b w q ++
    match perform q w with
    | (.ok a, w') => sent b (next a) w'
    | (.error _, _) => []

/-- The world behind a call on its bucket. -/
def answered (w : World) (c : Bucket.Call)
    (network : List (Except Http.Failure Http.Response)) : World :=
  { w with calls := c :: w.calls, surroundings := { w.surroundings with network := network } }

/-- The store answers the calls on the bucket. -/
theorem perform_over (hw : w.Over b) (c : Bucket.Call) :
    perform (.bucket c) w =
      (((b.plan (w.network.length + 1) c).run Http.scripted.handler w.network).1,
        w.answered c
          ((b.plan (w.network.length + 1) c).run Http.scripted.handler w.network).2) := by
  have hnone : ({ w with calls := c :: w.calls } : World).interruption? c = none := by
    rw [interruption?, hw.interruptions, List.find?_nil]
  rw [perform, onBucket, hnone]
  obtain ⟨surroundings, holder, outputs, interruptions, calls, queries⟩ := w
  obtain rfl : holder = .store (.objects b) := hw.holder
  rfl

/-- Each request of a call uses up one answer. -/
theorem network_perform (hw : w.Over b) (q : Sync.Call) :
    (perform q w).2.network = w.network.drop (requests b w q).length := by
  cases q with
  | bucket c =>
    rw [perform_over hw, requests, List.length_map]
    exact Http.rest_of_transcript _ _
  | output dir name =>
    rw [perform_output]
    rfl
  | readFile p => rfl
  | writeFile p bytes => rfl

theorem Over.perform (hw : w.Over b) {q : Sync.Call} {result : Except Error q.Answer}
    (hq : World.perform q w = (result, w')) : w'.Over b := by
  obtain rfl : (World.perform q w).2 = w' := congrArg Prod.snd hq
  cases q with
  | bucket c =>
    rw [perform_over hw]
    exact ⟨hw.holder, hw.interruptions⟩
  | output dir name =>
    rw [perform_output]
    exact ⟨hw.holder, hw.interruptions⟩
  | readFile p => exact hw
  | writeFile p bytes => exact ⟨hw.holder, hw.interruptions⟩

theorem Over.run (hw : w.Over b) {p : Sync.Plan α} {result : Except Error α}
    (hp : w.run p = (result, w')) : w'.Over b := by
  have hrun := Plan.run_invariant (h := World.perform) (I := fun w => w.Over b) (fun _ => True)
    (fun q v hv _ => hv.perform rfl) p hw (fun _ _ => trivial)
  rw [World.run] at hp
  rwa [hp] at hrun

theorem sent_ask_ok {q : Sync.Call} {next : q.Answer → Sync.Plan α} {a : q.Answer}
    (hq : perform q w = (.ok a, w')) :
    sent b (.ask q next) w = requests b w q ++ sent b (next a) w' := by
  rw [sent, hq]

theorem sent_ask_error {q : Sync.Call} {next : q.Answer → Sync.Plan α} {e : Error}
    (hq : perform q w = (.error e, w')) : sent b (.ask q next) w = requests b w q := by
  rw [sent, hq, List.append_nil]

theorem sent_bind_ok {p : Sync.Plan α} {a : α} (hp : w.run p = (.ok a, w'))
    (f : α → Sync.Plan β) : sent b (p.bind f) w = sent b p w ++ sent b (f a) w' := by
  induction p generalizing w with
  | done result =>
    obtain ⟨rfl, rfl⟩ := Prod.mk.inj hp
    rfl
  | ask q next ih =>
    rw [run] at hp
    rcases hq : perform q w with ⟨e | a', w₁⟩
    · rw [Plan.run_ask_error hq] at hp
      cases hp
    · rw [Plan.run_ask_ok hq] at hp
      rw [Plan.bind_ask, sent_ask_ok hq, sent_ask_ok hq, List.append_assoc, ih a' hp]

theorem sent_bind_error {p : Sync.Plan α} {e : Error} (hp : w.run p = (.error e, w'))
    (f : α → Sync.Plan β) : sent b (p.bind f) w = sent b p w := by
  induction p generalizing w with
  | done result =>
    obtain ⟨rfl, rfl⟩ := Prod.mk.inj hp
    rfl
  | ask q next ih =>
    rw [run] at hp
    rcases hq : perform q w with ⟨e' | a', w₁⟩
    · rw [Plan.bind_ask, sent_ask_error hq, sent_ask_error hq]
    · rw [Plan.run_ask_ok hq] at hp
      rw [Plan.bind_ask, sent_ask_ok hq, sent_ask_ok hq, ih a' hp]

theorem answers_requests (b : ObjectBucket) (w : World) (q : Sync.Call) :
    (requests b w q).map (·.answer) =
      Http.answers ((requests b w q).map (·.request)) w.network := by
  cases q with
  | bucket c =>
    rw [requests, List.map_map, List.map_map]
    exact Http.answers_transcript _ _
  | _ => rfl

/-- The requests of a synchronization get the answers that the store gives, one after the other. -/
theorem answers_sent (hw : w.Over b) (p : Sync.Plan α) :
    (sent b p w).map (·.answer) = Http.answers ((sent b p w).map (·.request)) w.network := by
  induction p generalizing w with
  | done result => rfl
  | ask q next ih =>
    rcases hq : perform q w with ⟨e | a, w'⟩
    · rw [sent_ask_error hq]
      exact answers_requests b w q
    · -- behind the call the answers go on where its requests ended
      have hnetwork := network_perform hw q
      rw [hq] at hnetwork
      rw [sent_ask_ok hq, List.map_append, List.map_append, Http.answers_append, List.length_map,
        ← hnetwork, answers_requests, ih a (hw.perform hq)]

/-- What is sent for a call is a request of that call. -/
theorem of_mem_requests {q : Sync.Call} {x : Sent} (hx : x ∈ requests b w q) :
    q = .bucket x.call ∧ b.Makes x.call x.request := by
  cases q with
  | bucket c =>
    obtain ⟨y, hy, rfl⟩ := List.mem_map.1 hx
    exact ⟨rfl, ObjectBucket.forall_mem_transcript (b.asks_plan _ c) w.network y hy⟩
  | _ => cases hx

/-- What holds of the requests of every single call holds of all that are sent. -/
theorem forall_mem_sent {R : Sent → Prop} {P : Sync.Call → Prop} {p : Sync.Plan α} (hp : p.Asks P)
    (h : ∀ q w, P q → ∀ x ∈ requests b w q, R x) (w : World) : ∀ x ∈ sent b p w, R x := by
  induction p generalizing w with
  | done result =>
    rw [sent]
    exact List.forall_mem_nil _
  | ask q next ih =>
    rcases hq : perform q w with ⟨e | a, w'⟩
    · rw [sent_ask_error hq]
      exact h q w hp.1
    · rw [sent_ask_ok hq]
      exact List.forall_mem_append.2 ⟨h q w hp.1, ih a (hp.2 a) w'⟩

theorem makes_of_mem_sent (p : Sync.Plan α) (w : World) :
    ∀ x ∈ sent b p w, b.Makes x.call x.request :=
  forall_mem_sent (Plan.asks_true p) (fun _ _ _ _ hx => (of_mem_requests hx).2) w

/-- Requests are sent for calls that the plan can make. -/
theorem call_of_mem_sent {P : Sync.Call → Prop} {p : Sync.Plan α} (hp : p.Asks P) (w : World) :
    ∀ x ∈ sent b p w, P (.bucket x.call) := by
  refine forall_mem_sent hp (fun q w hq x hx => ?_) w
  obtain ⟨rfl, -⟩ := of_mem_requests hx
  exact hq

/-- Reading sends no requests. -/
theorem sent_of_asks_reading {p : Sync.Plan α} (hp : p.Asks Sync.IsReading) (w : World) :
    sent b p w = [] := by
  rw [List.eq_nil_iff_forall_not_mem]
  intro x hx
  exact call_of_mem_sent hp w x hx

/-- An outage is answered to the last request of a call, which fails. -/
theorem requests_outage {q : Sync.Call} (hw : w.Over b) {before after : List Sent} {x : Sent}
    {response : Http.Response} (hsent : requests b w q = before ++ x :: after)
    (hanswer : x.answer = .ok response) (hout : IsOutage x.call response)
    {result : Except Error q.Answer} (hq : perform q w = (result, w')) :
    after = [] ∧
      ∃ what, result = .error (.storage (.status what response.status response.text)) := by
  cases q with
  | bucket c =>
    obtain ⟨front, more, htranscript, hfront, hmore⟩ := List.map_eq_append_iff.1 hsent
    obtain ⟨y, rest, rfl, rfl, rfl⟩ := List.map_eq_cons_iff.1 hmore
    obtain ⟨r, answer⟩ := y
    obtain rfl : answer = .ok response := hanswer
    rw [perform_over hw] at hq
    obtain ⟨rfl, -⟩ := Prod.mk.inj hq
    obtain ⟨rfl, hfail⟩ := (b.heeds_plan _ c).transcript htranscript hout
    exact ⟨rfl, hfail⟩
  | output dir name => exact absurd hsent.symm (by simp [requests])
  | readFile p => exact absurd hsent.symm (by simp [requests])
  | writeFile p bytes => exact absurd hsent.symm (by simp [requests])

/-- An outage is answered to the last request of a synchronization, which fails with its status and
its text. -/
theorem sent_outage {p : Sync.Plan α} (hw : w.Over b) {before after : List Sent} {x : Sent}
    {response : Http.Response} (hsent : sent b p w = before ++ x :: after)
    (hanswer : x.answer = .ok response) (hout : IsOutage x.call response) :
    after = [] ∧
      ∃ what, (w.run p).1 = .error (.storage (.status what response.status response.text)) := by
  -- the outage is answered to the first call, or to one of those behind it
  induction p generalizing w before with
  | done result =>
    rw [sent] at hsent
    simp at hsent
  | ask q next ih =>
    rcases hq : perform q w with ⟨e | a, w'⟩
    · rw [sent_ask_error hq] at hsent
      rw [run, Plan.run_ask_error hq]
      obtain ⟨hafter, what, herror⟩ := requests_outage hw hsent hanswer hout hq
      exact ⟨hafter, what, congrArg Except.error (Except.error.inj herror)⟩
    · rw [sent_ask_ok hq] at hsent
      rw [run, Plan.run_ask_ok hq]
      rcases List.append_eq_append_iff.1 hsent with ⟨front, -, hmore⟩ | ⟨front, hfirst, hmore⟩
      · exact ih a (hw.perform hq) hmore
      · cases front with
        | nil => exact ih a (hw.perform hq) (show _ = [] ++ x :: after from hmore.symm)
        | cons y front =>
          -- the call would have failed
          obtain ⟨rfl, -⟩ := List.cons.inj hmore
          obtain ⟨-, what, herror⟩ := requests_outage hw hfirst hanswer hout hq
          cases herror

end World

namespace Sync

open World (Sent requests)

variable {w w' : World} {b : ObjectBucket} {α : Type} {xs : List Sent}

/-- A synchronization has the result and leaves the world, and sends the requests on its way. -/
structure Runs (b : ObjectBucket) (w : World) (p : Plan α) (result : Except Error α) (w' : World)
    (xs : List Sent) : Prop where
  run : w.run p = (result, w')
  sent : World.sent b p w = xs

namespace Runs

variable {result : Except Error α}

theorem done (b : ObjectBucket) (w : World) (result : Except Error α) :
    Runs b w (done result) result w [] := ⟨rfl, rfl⟩

theorem ask_ok {q : Call} {next : q.Answer → Plan α} {a : q.Answer}
    (hq : World.perform q w = (.ok a, w')) {w'' : World} (h : Runs b w' (next a) result w'' xs) :
    Runs b w (.ask q next) result w'' (requests b w q ++ xs) :=
  ⟨(Plan.run_ask_ok hq).trans h.run, (World.sent_ask_ok hq).trans (congrArg _ h.sent)⟩

theorem ask_error {q : Call} {next : q.Answer → Plan α} {e : Error}
    (hq : World.perform q w = (.error e, w')) :
    Runs b w (.ask q next) (.error e) w' (requests b w q) :=
  ⟨Plan.run_ask_error hq, World.sent_ask_error hq⟩

end Runs

end Sync

end DeploySync
