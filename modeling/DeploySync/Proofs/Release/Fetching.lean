import DeploySync.Proofs.Http.Page
import DeploySync.Proofs.Release.Listing

/-!
# Listings are fetched whole

An archive is selected from a page only if the whole page was read. A listing that is cut off or too
large is an error, so that a link that stands in the part that did arrive is never taken for the
least one.

## Main definitions

* `Http.Page.ReadsCapped` — the result of reading the items of a body up to a limit

## Main results

* `Http.Page.readsCapped` — reading has this result
* `Release.Site.run_resolve_eq_ok_iff` — an archive is found exactly if a whole page offers it
* `Release.Site.pages_read_whole` — both, and that neither the cuts matter nor more is held
-/

namespace DeploySync

namespace Http.Page

/-- The result of reading the items of a body up to a limit: the whole body, if no item is a failure
and all pieces are within the limit; the error for the size, if a piece before any failure goes
beyond it; and the first failure otherwise. -/
structure ReadsCapped (limit : Nat) (url : String) (items : List (Except Failure ByteArray))
    (result : Except Error ByteArray) : Prop where
  whole : ∀ body, result = .ok body ↔
    ∃ pieces, items = pieces.map .ok ∧ total pieces ≤ limit ∧ body = joined pieces
  tooLarge : result = .error (.http (.tooLarge url limit)) ↔
    ∃ before piece after, items = before.map .ok ++ .ok piece :: after ∧
      limit < total before + piece.size
  failed : ∀ f, result = .error (.http (.chunk f)) ↔
    ∃ before after, items = before.map .ok ++ .error f :: after ∧ total before ≤ limit
  other : ∀ e, result = .error e → e = .http (.tooLarge url limit) ∨ ∃ f, e = .http (.chunk f)

theorem readsCapped (limit : Nat) (url : String) (items : List (Except Failure ByteArray)) :
    ReadsCapped limit url items (readCapped limit url ByteArray.empty items) where
  whole _ := readCapped_eq_ok_iff
  tooLarge := readCapped_eq_tooLarge_iff
  failed _ := readCapped_eq_chunk_iff
  other _ := error_of_readCapped

end Http.Page

namespace Release.Site

open Http.Page (readCapped hold joined total Brings)

variable {site : Site} {q : Query} {link html : String}

/-- What is picked is the least name that fits, below the listing. -/
theorem pick_eq_ok_iff :
    site.pick q html = .ok link ↔
      ∃ name, q.Wants site.suffix (Html.targets html) name ∧
        link = site.listingUrl q.version ++ "/" ++ name := by
  rw [pick, links]
  cases hselect : select q.distro q.arch (archives site.suffix (Html.targets html)) with
  | none =>
    constructor
    · intro h
      cases h
    · rintro ⟨name, hwants, -⟩
      exact absurd hwants.fits (select_eq_none_iff.1 hselect name hwants.mem)
  | some name =>
    constructor
    · intro h
      exact ⟨name, select_eq_some_iff.1 hselect, (Except.ok.inj h).symm⟩
    · rintro ⟨name', hwants, rfl⟩
      rw [hwants.unique (select_eq_some_iff.1 hselect)]

/-- An archive is found exactly if it is the least one that fits on a whole page. -/
theorem run_resolve_eq_ok_iff {σ : Type} {t : Http.Transport σ} {s : σ} :
    (((site.resolve q).through Http.Page.fetch).run t.handler s).1 = .ok link ↔
      ∃ pieces name, Brings t (site.listingUrl q.version) s pieces ∧
        q.Wants site.suffix (Html.targets (Bytes.lossyText (joined pieces))) name ∧
        link = site.listingUrl q.version ++ "/" ++ name := by
  have hthrough : (site.resolve q).through Http.Page.fetch =
      (Http.Page.fetch (site.listingUrl q.version)).bind fun html => .done (site.pick q html) := rfl
  have hfetch (html : String) : ((Http.Page.fetch (site.listingUrl q.version)).run t.handler s).1 =
      .ok html ↔ _ := Http.Page.run_fetch_eq_ok_iff
  rw [hthrough, Plan.run_bind]
  generalize (Http.Page.fetch (site.listingUrl q.version)).run t.handler s = ran at hfetch ⊢
  obtain ⟨e | html, s'⟩ := ran
  · constructor
    · intro h
      cases h
    · rintro ⟨pieces, name, hbrings, -⟩
      cases (hfetch _).2 ⟨pieces, hbrings, rfl⟩
  · constructor
    · intro h
      obtain ⟨pieces, hbrings, rfl⟩ := (hfetch html).1 rfl
      obtain ⟨name, hwants, hlink⟩ := pick_eq_ok_iff.1 h
      exact ⟨pieces, name, hbrings, hwants, hlink⟩
    · rintro ⟨pieces, name, hbrings, hwants, hlink⟩
      -- the page that was fetched is the one that the pieces make up
      obtain ⟨rfl⟩ := (hfetch _).2 ⟨pieces, hbrings, rfl⟩
      exact pick_eq_ok_iff.2 ⟨name, hwants, hlink⟩

/-- For every limit, a body is read whole or not at all, whatever pieces it arrives in and wherever
a failure comes; reading goes piece by piece, and never is more held than the limit; pieces that
make up the same body are read alike. So an archive is found only on a page that was read whole, and
it is the least one that fits there. -/
theorem pages_read_whole :
    (∀ (limit : Nat) (url : String) (items : List (Except Http.Failure ByteArray)),
      Http.Page.ReadsCapped limit url items (readCapped limit url ByteArray.empty items) ∧
      readCapped limit url ByteArray.empty items =
        items.foldlM (hold limit url) ByteArray.empty ∧
      ∀ before after held, items = before ++ after →
        before.foldlM (hold limit url) ByteArray.empty = .ok held →
        held.size ≤ limit ∧
          readCapped limit url ByteArray.empty items = readCapped limit url held after) ∧
    (∀ (limit : Nat) (url : String) (pieces pieces' : List ByteArray),
      joined pieces = joined pieces' →
        readCapped limit url ByteArray.empty (pieces.map .ok) =
          readCapped limit url ByteArray.empty (pieces'.map .ok)) ∧
    ∀ (site : Site) (q : Query) (σ : Type) (t : Http.Transport σ) (s : σ) (link : String),
      (((site.resolve q).through Http.Page.fetch).run t.handler s).1 = .ok link ↔
        ∃ pieces name, Brings t (site.listingUrl q.version) s pieces ∧
          q.Wants site.suffix (Html.targets (Bytes.lossyText (joined pieces))) name ∧
          link = site.listingUrl q.version ++ "/" ++ name := by
  refine ⟨fun limit url items => ⟨Http.Page.readsCapped limit url items,
    Http.Page.readCapped_eq_foldlM limit url _ items, fun before after held hitems hheld => ?_⟩,
    fun limit url pieces pieces' hjoined => ?_, fun site q σ t s link => run_resolve_eq_ok_iff⟩
  · have hempty : ByteArray.empty.size ≤ limit := Nat.zero_le limit
    rw [hitems]
    exact ⟨Http.Page.size_le_of_foldlM hempty hheld, Http.Page.readCapped_of_foldlM hheld after⟩
  · rw [Http.Page.readCapped_pieces, Http.Page.readCapped_pieces, hjoined]

end Release.Site

end DeploySync
