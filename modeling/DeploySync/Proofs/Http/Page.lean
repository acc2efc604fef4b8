import DeploySync.Http.Page
import DeploySync.Proofs.Plan
import Mathlib.Data.List.Induction

/-!
# Pages are read whole

The body of a page arrives in pieces of any sizes. Reading is a fold over them: a piece is put
behind what is held, unless there would be more than the limit, and a failure ends the reading. So
the result does not depend on where the body was cut, nothing beyond the limit is ever held, and
what is returned is the whole body.

## Main definitions

* `Http.Page.joined`, `Http.Page.total` — pieces put together, and the number of their bytes
* `Http.Page.hold` — reads one item
* `Http.Page.Reading` — what comes of the items of a body
* `Http.Page.Brings` — an answer with a whole page

## Main results

* `Http.Page.readCapped_eq_foldlM`, `Http.Page.hold_eq_ok_iff` — reading is a fold, and its step
* `Http.Page.reading_readCapped` — a body is read whole, or the first item that is too much or a
  failure is the error
* `Http.Page.readCapped_eq_ok_iff`, `Http.Page.readCapped_eq_tooLarge_iff`,
  `Http.Page.readCapped_eq_chunk_iff` — when each of them comes
* `Http.Page.readCapped_pieces` — where the body is cut does not matter
* `Http.Page.run_fetch_eq_ok_iff` — a page that is fetched is read whole
-/

namespace DeploySync.Http.Page

variable {limit : Nat} {url : String} {held body : ByteArray} {pieces before : List ByteArray}
variable {items rest : List (Except Failure ByteArray)} {f : Failure}

/-- The pieces put together. -/
def joined (pieces : List ByteArray) : ByteArray := pieces.foldr (· ++ ·) ByteArray.empty

/-- The number of bytes of the pieces. -/
def total (pieces : List ByteArray) : Nat := pieces.foldr (fun piece n => piece.size + n) 0

/-- Reads one item behind what is held. -/
def hold (limit : Nat) (url : String) (held : ByteArray) :
    Except Failure ByteArray → Except Error ByteArray
  | .error f => .error (.http (.chunk f))
  | .ok piece =>
    if limit < held.size + piece.size then .error (.http (.tooLarge url limit))
    else .ok (held ++ piece)

@[simp] theorem joined_nil : joined [] = ByteArray.empty := rfl

@[simp] theorem joined_cons (piece : ByteArray) (pieces : List ByteArray) :
    joined (piece :: pieces) = piece ++ joined pieces := rfl

@[simp] theorem total_cons (piece : ByteArray) (pieces : List ByteArray) :
    total (piece :: pieces) = piece.size + total pieces := rfl

theorem total_concat (pieces : List ByteArray) (piece : ByteArray) :
    total (pieces ++ [piece]) = total pieces + piece.size := by
  induction pieces with
  | nil => exact Nat.add_comm _ _
  | cons first pieces ih => rw [List.cons_append, total_cons, total_cons, ih, Nat.add_assoc]

theorem size_joined (pieces : List ByteArray) : (joined pieces).size = total pieces := by
  induction pieces with
  | nil => rfl
  | cons piece pieces ih => rw [joined_cons, ByteArray.size_append, ih, total_cons]

/-! ### One item after the other -/

/-- Reading is a fold over the items. -/
theorem readCapped_eq_foldlM (limit : Nat) (url : String) (held : ByteArray)
    (items : List (Except Failure ByteArray)) :
    readCapped limit url held items = items.foldlM (hold limit url) held := by
  fun_induction readCapped limit url held items with
  | case1 held => rfl
  | case2 held f rest => rfl
  | case3 held piece rest hover =>
    rw [List.foldlM_cons, hold, if_pos hover]
    rfl
  | case4 held piece rest hover ih =>
    rw [List.foldlM_cons, hold, if_neg hover]
    exact ih

/-- What is held behind an item is within the limit. -/
theorem hold_eq_ok_iff {item : Except Failure ByteArray} :
    hold limit url held item = .ok body ↔
      ∃ piece, item = .ok piece ∧ body = held ++ piece ∧ body.size ≤ limit := by
  cases item with
  | error f => simp [hold]
  | ok piece =>
    rw [hold]
    split
    · next hover =>
      simp only [reduceCtorEq, Except.ok.injEq, exists_eq_left', false_iff, not_and]
      rintro rfl
      rw [ByteArray.size_append]
      omega
    · next hover =>
      simp only [Except.ok.injEq, exists_eq_left']
      constructor
      · rintro rfl
        refine ⟨rfl, ?_⟩
        rw [ByteArray.size_append]
        omega
      · rintro ⟨rfl, -⟩
        rfl

/-- What is held behind any number of items is within the limit. -/
theorem size_le_of_foldlM (hheld : held.size ≤ limit)
    (h : items.foldlM (hold limit url) held = .ok body) : body.size ≤ limit := by
  induction items generalizing held with
  | nil =>
    obtain rfl := Except.ok.inj h
    exact hheld
  | cons item items ih =>
    rw [List.foldlM_cons] at h
    cases hitem : hold limit url held item with
    | error e =>
      rw [hitem] at h
      cases h
    | ok more =>
      rw [hitem] at h
      obtain ⟨piece, -, -, hmore⟩ := hold_eq_ok_iff.1 hitem
      exact ih hmore h

/-- Reading goes on from what is held behind the first items. -/
theorem readCapped_of_foldlM {start : ByteArray}
    (h : items.foldlM (hold limit url) start = .ok held)
    (rest : List (Except Failure ByteArray)) :
    readCapped limit url start (items ++ rest) = readCapped limit url held rest := by
  rw [readCapped_eq_foldlM, readCapped_eq_foldlM, List.foldlM_append, h]
  rfl

/-! ### What comes of a body -/

/-- What comes of the items of a body: they are pieces and stay within the limit, or the first item
that goes beyond it or is a failure is the error. -/
inductive Reading (limit : Nat) (url : String) (held : ByteArray) :
    List (Except Failure ByteArray) → Except Error ByteArray → Prop
  | whole (pieces : List ByteArray) (hfits : held.size + total pieces ≤ limit) :
    Reading limit url held (pieces.map .ok) (.ok (held ++ joined pieces))
  | tooLarge (before : List ByteArray) (piece : ByteArray) (after : List (Except Failure ByteArray))
    (hfits : held.size + total before ≤ limit)
    (hover : limit < held.size + total before + piece.size) :
    Reading limit url held (before.map .ok ++ .ok piece :: after)
      (.error (.http (.tooLarge url limit)))
  | failed (before : List ByteArray) (f : Failure) (after : List (Except Failure ByteArray))
    (hfits : held.size + total before ≤ limit) :
    Reading limit url held (before.map .ok ++ .error f :: after) (.error (.http (.chunk f)))

/-- A piece that fits goes before what comes of the items behind it. -/
theorem Reading.cons {piece : ByteArray} {result : Except Error ByteArray}
    (h : Reading limit url (held ++ piece) items result) :
    Reading limit url held (.ok piece :: items) result := by
  cases h with
  | whole pieces hfits =>
    rw [ByteArray.size_append] at hfits
    rw [ByteArray.append_assoc]
    exact .whole (piece :: pieces) (by rw [total_cons]; omega)
  | tooLarge before next after hfits hover =>
    rw [ByteArray.size_append] at hfits hover
    exact .tooLarge (piece :: before) next after (by rw [total_cons]; omega)
      (by rw [total_cons]; omega)
  | failed before f after hfits =>
    rw [ByteArray.size_append] at hfits
    exact .failed (piece :: before) f after (by rw [total_cons]; omega)

theorem reading_readCapped (hheld : held.size ≤ limit)
    (items : List (Except Failure ByteArray)) :
    Reading limit url held items (readCapped limit url held items) := by
  fun_induction readCapped limit url held items with
  | case1 held =>
    have h : Reading limit url held _ _ := .whole [] hheld
    rwa [joined_nil, ByteArray.append_empty] at h
  | case2 held f rest => exact .failed [] f rest hheld
  | case3 held piece rest hover => exact .tooLarge [] piece rest hheld hover
  | case4 held piece rest hover ih =>
    refine (ih ?_).cons
    rw [ByteArray.size_append]
    omega

/-- Pieces that fit are held, and reading goes on behind them. -/
theorem readCapped_append (hfits : held.size + total before ≤ limit) :
    readCapped limit url held (before.map .ok ++ rest) =
      readCapped limit url (held ++ joined before) rest := by
  induction before generalizing held with
  | nil => rw [joined_nil, ByteArray.append_empty, List.map_nil, List.nil_append]
  | cons piece before ih =>
    rw [total_cons] at hfits
    have hpiece : ¬ limit < held.size + piece.size := by omega
    rw [List.map_cons, List.cons_append, readCapped, if_neg hpiece, ih, joined_cons,
      ByteArray.append_assoc]
    rw [ByteArray.size_append]
    omega

/-- Pieces that are too much are refused, whatever follows. -/
theorem readCapped_eq_tooLarge {piece : ByteArray}
    (hover : limit < held.size + total before + piece.size) :
    readCapped limit url held (before.map .ok ++ .ok piece :: rest) =
      .error (.http (.tooLarge url limit)) := by
  induction before generalizing held with
  | nil => exact if_pos hover
  | cons first before ih =>
    rw [List.map_cons, List.cons_append, readCapped]
    split
    · rfl
    · -- the first piece fits, so that it is the others that do not
      apply ih
      rw [total_cons] at hover
      rw [ByteArray.size_append]
      omega

/-! ### A body from its start -/

theorem reading_of_eq {result : Except Error ByteArray}
    (h : readCapped limit url ByteArray.empty items = result) :
    Reading limit url ByteArray.empty items result := by
  have hempty : ByteArray.empty.size ≤ limit := Nat.zero_le limit
  rw [← h]
  exact reading_readCapped hempty items

/-- What is read from the start has its own size. -/
theorem size_empty_add (n : Nat) : ByteArray.empty.size + n = n := Nat.zero_add n

/-- A body is read exactly if all of it arrives and it is within the limit. -/
theorem readCapped_eq_ok_iff :
    readCapped limit url ByteArray.empty items = .ok body ↔
      ∃ pieces, items = pieces.map .ok ∧ total pieces ≤ limit ∧ body = joined pieces := by
  constructor
  · intro h
    cases reading_of_eq h with
    | whole pieces hfits =>
      rw [size_empty_add] at hfits
      exact ⟨pieces, rfl, hfits, ByteArray.empty_append⟩
  · rintro ⟨pieces, rfl, hfits, rfl⟩
    have hread : readCapped limit url ByteArray.empty (pieces.map .ok ++ []) = _ :=
      readCapped_append (by rwa [size_empty_add])
    rwa [List.append_nil, readCapped, ByteArray.empty_append] at hread

/-- A body is too large exactly if a piece before any failure goes beyond the limit. -/
theorem readCapped_eq_tooLarge_iff :
    readCapped limit url ByteArray.empty items = .error (.http (.tooLarge url limit)) ↔
      ∃ before piece after, items = before.map .ok ++ .ok piece :: after ∧
        limit < total before + piece.size := by
  constructor
  · intro h
    cases reading_of_eq h with
    | tooLarge before piece after hfits hover =>
      rw [size_empty_add] at hover
      exact ⟨before, piece, after, rfl, hover⟩
  · rintro ⟨before, piece, after, rfl, hover⟩
    apply readCapped_eq_tooLarge
    rwa [size_empty_add]

/-- A failure ends the reading exactly if it is the first one, and what comes before is within the
limit. -/
theorem readCapped_eq_chunk_iff :
    readCapped limit url ByteArray.empty items = .error (.http (.chunk f)) ↔
      ∃ before after, items = before.map .ok ++ .error f :: after ∧ total before ≤ limit := by
  constructor
  · intro h
    cases reading_of_eq h with
    | failed before f after hfits =>
      rw [size_empty_add] at hfits
      exact ⟨before, after, rfl, hfits⟩
  · rintro ⟨before, after, rfl, hfits⟩
    rw [readCapped_append (by rwa [size_empty_add])]
    rfl

/-- There are no other errors. -/
theorem error_of_readCapped {e : Error}
    (h : readCapped limit url ByteArray.empty items = .error e) :
    e = .http (.tooLarge url limit) ∨ ∃ f, e = .http (.chunk f) := by
  cases reading_of_eq h with
  | tooLarge before piece after hfits hover => exact Or.inl rfl
  | failed before f after hfits => exact Or.inr ⟨f, rfl⟩

/-- Without failures, the whole body decides, and not where it was cut. -/
theorem readCapped_pieces (limit : Nat) (url : String) (pieces : List ByteArray) :
    readCapped limit url ByteArray.empty (pieces.map .ok) =
      if (joined pieces).size ≤ limit then .ok (joined pieces)
      else .error (.http (.tooLarge url limit)) := by
  rw [size_joined]
  split
  · next hfits => exact readCapped_eq_ok_iff.2 ⟨pieces, rfl, hfits, rfl⟩
  · next hover =>
    -- there is a last piece, and with it the body is too large
    rw [readCapped_eq_tooLarge_iff]
    cases pieces using List.reverseRecOn with
    | nil => exact absurd (Nat.zero_le limit) hover
    | append_singleton before piece =>
      refine ⟨before, piece, [], by rw [List.map_append, List.map_singleton], ?_⟩
      rw [total_concat] at hover
      exact Nat.lt_of_not_le hover

/-! ### Fetching -/

/-- The request for a page as it is sent. -/
def outgoing (target : Url) : Request := { method := .get, url := target.withoutUserinfo }

/-- The request for a page is answered with success by these pieces, which are all there and within
the limit. -/
structure Brings {σ : Type} (t : Transport σ) (url : String) (s : σ) (pieces : List ByteArray) :
    Prop where
  answered : ∃ target response, urlOf url = .ok target ∧ refusal? (outgoing target) = none ∧
    (t (outgoing target) s).1 = .ok response ∧ response.status.isSuccess ∧
    response.pieces = pieces.map .ok
  fits : total pieces ≤ Page.limit

/-- An answer brings a page exactly if it is a success and brings the whole of it. -/
theorem ofAnswer_eq_ok_iff {answer : Except Failure Response} {html : String} :
    ofAnswer url answer = .ok html ↔
      ∃ response pieces, answer = .ok response ∧ response.status.isSuccess ∧
        response.pieces = pieces.map .ok ∧ total pieces ≤ Page.limit ∧
        html = Bytes.lossyText (joined pieces) := by
  cases answer with
  | error f => simp [ofAnswer]
  | ok response =>
    rw [ofAnswer]
    split
    · next hsuccess =>
      constructor
      · intro h
        cases hread : readCapped Page.limit url ByteArray.empty response.pieces with
        | error e =>
          rw [hread] at h
          cases h
        | ok body =>
          rw [hread] at h
          obtain ⟨pieces, hpieces, hfits, rfl⟩ := readCapped_eq_ok_iff.1 hread
          exact ⟨response, pieces, rfl, hsuccess, hpieces, hfits, (Except.ok.inj h).symm⟩
      · rintro ⟨_, pieces, ⟨⟩, -, hpieces, hfits, rfl⟩
        rw [readCapped_eq_ok_iff.2 ⟨pieces, hpieces, hfits, rfl⟩]
        rfl
    · next hsuccess =>
      constructor
      · intro h
        cases h
      · rintro ⟨_, pieces, ⟨⟩, hsuccess', -⟩
        exact absurd hsuccess' hsuccess

/-- A page whose URL is none of HTTP is not asked for. -/
theorem fetch_of_error {e : Error} (h : urlOf url = .error e) : fetch url = .done (.error e) := by
  rw [fetch, h]
  rfl

/-- A request for a page that cannot be sent is answered by the failure. -/
theorem fetch_of_some {target : Url} (h : urlOf url = .ok target)
    (hrefused : refusal? (outgoing target) = some f) :
    fetch url = .done (ofAnswer url (.error f)) := by
  have hsend := send_of_some (r := { method := .get, url := target }) hrefused
  rw [fetch, h]
  change (send { method := .get, url := target }).bind _ = _
  rw [hsend]
  rfl

/-- A page is asked for by a single request, and what comes of it is what comes of the answer. -/
theorem fetch_of_none {target : Url} (h : urlOf url = .ok target)
    (hsent : refusal? (outgoing target) = none) :
    fetch url = .ask (outgoing target) fun answer => .done (ofAnswer url answer) := by
  have hsend := send_of_none (r := { method := .get, url := target }) hsent
  rw [fetch, h]
  change (send { method := .get, url := target }).bind _ = _
  rw [hsend]
  rfl

/-- A page is fetched exactly if an answer brings the whole of it. -/
theorem run_fetch_eq_ok_iff {σ : Type} {t : Transport σ} {s : σ} {html : String} :
    ((fetch url).run t.handler s).1 = .ok html ↔
      ∃ pieces, Brings t url s pieces ∧ html = Bytes.lossyText (joined pieces) := by
  cases htarget : urlOf url with
  | error e =>
    rw [fetch_of_error htarget]
    constructor
    · intro h
      cases h
    · rintro ⟨pieces, ⟨⟨target, response, htarget', -⟩, -⟩, -⟩
      cases htarget.symm.trans htarget'
  | ok target =>
    cases hrefusal : refusal? (outgoing target) with
    | some f =>
      rw [fetch_of_some htarget hrefusal]
      constructor
      · intro h
        cases h
      · rintro ⟨pieces, ⟨⟨target', response, htarget', hsent, -⟩, -⟩, -⟩
        obtain rfl := Except.ok.inj (htarget.symm.trans htarget')
        cases hrefusal.symm.trans hsent
    | none =>
      rw [fetch_of_none htarget hrefusal]
      have hrun : (Plan.run t.handler (.ask (outgoing target) fun answer =>
          .done (ofAnswer url answer)) s).1 = ofAnswer url (t (outgoing target) s).1 := rfl
      rw [hrun, ofAnswer_eq_ok_iff]
      constructor
      · rintro ⟨response, pieces, hanswer, hsuccess, hpieces, hfits, rfl⟩
        exact ⟨pieces, ⟨⟨target, response, htarget, hrefusal, hanswer, hsuccess, hpieces⟩, hfits⟩,
          rfl⟩
      · rintro ⟨pieces, ⟨⟨target', response, htarget', -, hanswer, hsuccess, hpieces⟩, hfits⟩, rfl⟩
        obtain rfl := Except.ok.inj (htarget.symm.trans htarget')
        exact ⟨response, pieces, hanswer, hsuccess, hpieces, hfits, rfl⟩

end DeploySync.Http.Page
