import DeploySync.Release.Listing
import DeploySync.Proofs.Bytes
import DeploySync.Proofs.Plan
import DeploySync.Proofs.Text.Split
import DeploySync.Proofs.Text.Trimming

/-!
# Archives of a listing

The plan that finds an archive fetches the listing of the version and nothing else. It chooses among
all anchors of the page: the archive is the least of the names that hold what the query asks for,
wherever on the page and however often these names stand, and whatever else is listed.

## Main definitions

* `Release.Query.Fits` — a name has what the query asks for
* `Release.Query.Wants` — a name is the least of those that fit
* `Release.Resolved`, `Release.LooksUp` — what comes of a listing, and the plan that looks there

## Main results

* `Release.mem_inOrder`, `Release.pairwise_inOrder` — texts in order are the same texts, in order
* `Release.select_eq_some_iff`, `Release.select_eq_none_iff` — which archive is selected
* `Release.Site.resolve_least` — the archive that is found is the least one that fits
-/

namespace DeploySync.Release

variable {s t suffix : String} {texts targets targets' : List String} {q : Query}

/-! ### Texts in order -/

theorem mem_insert : t ∈ insert s texts ↔ t = s ∨ t ∈ texts := by
  fun_induction insert s texts with
  | case1 => simp
  | case2 u rest hlt => simp
  | case3 rest hlt => simp
  | case4 u rest hlt hne ih =>
    rw [List.mem_cons, List.mem_cons, ih]
    exact or_left_comm

theorem pairwise_insert (h : texts.Pairwise (· < ·)) : (insert s texts).Pairwise (· < ·) := by
  fun_induction insert s texts with
  | case1 => exact List.pairwise_singleton _ _
  | case2 u rest hlt =>
    refine List.pairwise_cons.2 ⟨fun v hv => ?_, h⟩
    rcases List.mem_cons.1 hv with rfl | hv
    · exact hlt
    · exact lt_trans hlt (List.rel_of_pairwise_cons h hv)
  | case3 rest hlt => exact h
  | case4 u rest hlt hne ih =>
    obtain ⟨hfirst, hrest⟩ := List.pairwise_cons.1 h
    refine List.pairwise_cons.2 ⟨fun v hv => ?_, ih hrest⟩
    -- what comes behind is the new text, which is greater, or was there
    rcases mem_insert.1 hv with rfl | hv
    · exact lt_of_le_of_ne (not_lt.1 hlt) (Ne.symm hne)
    · exact hfirst v hv

/-- Putting texts in order neither adds nor drops one. -/
theorem mem_inOrder : t ∈ inOrder texts ↔ t ∈ texts := by
  induction texts with
  | nil => exact Iff.rfl
  | cons s texts ih =>
    rw [inOrder, List.foldr_cons, mem_insert, List.mem_cons]
    exact or_congr_right ih

/-- Texts in order are in order, and each of them is there once. -/
theorem pairwise_inOrder (texts : List String) : (inOrder texts).Pairwise (· < ·) := by
  induction texts with
  | nil => exact List.Pairwise.nil
  | cons s texts ih => exact pairwise_insert ih

/-- Among texts in order, the first one with a property is the least one. -/
theorem find?_eq_some_iff_least {p : String → Bool} (h : texts.Pairwise (· < ·)) :
    texts.find? p = some s ↔ s ∈ texts ∧ p s ∧ ∀ t ∈ texts, p t → s ≤ t := by
  induction texts with
  | nil => simp
  | cons u rest ih =>
    obtain ⟨hfirst, hrest⟩ := List.pairwise_cons.1 h
    -- the first text is less than the others: it is the least one, or it does not count
    by_cases hu : p u
    · rw [List.find?_cons_of_pos hu, Option.some_inj]
      constructor
      · rintro rfl
        refine ⟨List.mem_cons_self, hu, fun t ht _ => ?_⟩
        rcases List.mem_cons.1 ht with rfl | ht
        · exact le_rfl
        · exact le_of_lt (hfirst t ht)
      · rintro ⟨hmem, -, hleast⟩
        rcases List.mem_cons.1 hmem with rfl | hmem
        · rfl
        · exact absurd (hfirst s hmem) (not_lt.2 (hleast u List.mem_cons_self hu))
    · rw [List.find?_cons_of_neg hu, ih hrest]
      constructor
      · rintro ⟨hmem, hs, hleast⟩
        refine ⟨List.mem_cons_of_mem u hmem, hs, fun t ht hpt => ?_⟩
        rcases List.mem_cons.1 ht with rfl | ht
        · exact absurd hpt hu
        · exact hleast t ht hpt
      · rintro ⟨hmem, hs, hleast⟩
        rcases List.mem_cons.1 hmem with rfl | hmem
        · exact absurd hs hu
        · exact ⟨hmem, hs, fun t ht => hleast t (List.mem_cons_of_mem u ht)⟩

/-! ### Selecting -/

/-- The name has what the query asks for, and it ends as archives do. -/
structure Query.Fits (q : Query) (suffix name : String) : Prop where
  suffix : suffix.toList <:+ name.toList
  distro : q.distro.toList <:+: name.toList
  arch : q.arch.toList <:+: name.toList

/-- The name is the least of those that fit, by its bytes. -/
structure Query.Wants (q : Query) (suffix : String) (targets : List String) (name : String) :
    Prop where
  mem : name ∈ targets
  fits : q.Fits suffix name
  least : ∀ other ∈ targets, q.Fits suffix other →
    (Bytes.ofText name).toList ≤ (Bytes.ofText other).toList

theorem mem_archives : t ∈ archives suffix targets ↔ t ∈ targets ∧ suffix.toList <:+ t.toList := by
  rw [archives, mem_inOrder, List.mem_filter, endsWith, List.isSuffixOf_iff_suffix]

theorem mem_archives_and_holds :
    t ∈ archives suffix targets ∧ (holds q.distro t && holds q.arch t) = true ↔
      t ∈ targets ∧ q.Fits suffix t := by
  rw [mem_archives, Bool.and_eq_true, holds, holds, Text.containsPiece_iff, Text.containsPiece_iff]
  constructor
  · rintro ⟨⟨hmem, hsuffix⟩, hdistro, harch⟩
    exact ⟨hmem, hsuffix, hdistro, harch⟩
  · rintro ⟨hmem, hfits⟩
    exact ⟨⟨hmem, hfits.suffix⟩, hfits.distro, hfits.arch⟩

/-- The least name that fits is selected. -/
theorem select_eq_some_iff :
    select q.distro q.arch (archives suffix targets) = some s ↔ q.Wants suffix targets s := by
  have hordered : (archives suffix targets).Pairwise (· < ·) := pairwise_inOrder _
  rw [select, find?_eq_some_iff_least hordered, ← and_assoc, mem_archives_and_holds]
  constructor
  · rintro ⟨⟨hmem, hfits⟩, hleast⟩
    refine ⟨hmem, hfits, fun other hother hfits => ?_⟩
    obtain ⟨hlisted, hholds⟩ := mem_archives_and_holds.2 ⟨hother, hfits⟩
    exact Bytes.toList_ofText_le_iff.2 (hleast other hlisted hholds)
  · intro hwants
    refine ⟨⟨hwants.mem, hwants.fits⟩, fun other hlisted hholds => ?_⟩
    obtain ⟨hother, hfits⟩ := mem_archives_and_holds.1 ⟨hlisted, hholds⟩
    exact Bytes.toList_ofText_le_iff.1 (hwants.least other hother hfits)

/-- Nothing is selected exactly if no name fits. -/
theorem select_eq_none_iff :
    select q.distro q.arch (archives suffix targets) = none ↔
      ∀ name ∈ targets, ¬ q.Fits suffix name := by
  rw [select, List.find?_eq_none]
  constructor
  · intro hnone name hmem hfits
    obtain ⟨hlisted, hholds⟩ := mem_archives_and_holds.2 ⟨hmem, hfits⟩
    exact hnone name hlisted hholds
  · intro hnone name hlisted hholds
    obtain ⟨hmem, hfits⟩ := mem_archives_and_holds.1 ⟨hlisted, hholds⟩
    exact hnone name hmem hfits

/-- Only names that fit matter. -/
theorem Query.Wants.congr (hs : q.Wants suffix targets s)
    (h : ∀ name, q.Fits suffix name → (name ∈ targets ↔ name ∈ targets')) :
    q.Wants suffix targets' s := by
  refine ⟨(h s hs.fits).1 hs.mem, hs.fits, fun other hother hfits => ?_⟩
  exact hs.least other ((h other hfits).2 hother) hfits

/-- There is at most one least name. -/
theorem Query.Wants.unique (hs : q.Wants suffix targets s) (ht : q.Wants suffix targets t) :
    s = t := by
  have hst := Bytes.toList_ofText_le_iff.1 (hs.least t ht.mem ht.fits)
  have hts := Bytes.toList_ofText_le_iff.1 (ht.least s hs.mem hs.fits)
  exact le_antisymm hst hts

/-! ### Looking an archive up -/

/-- What comes of the answer to the request for a listing: the error, the URL of the archive, or
that there is none. -/
inductive Resolved (listing suffix : String) (q : Query) :
    Except Error String → Except Error String → Prop
  | failed (e : Error) : Resolved listing suffix q (.error e) (.error e)
  | found {html name : String} (h : q.Wants suffix (Html.targets html) name) :
    Resolved listing suffix q (.ok html) (.ok (listing ++ "/" ++ name))
  | missing {html : String} (h : ∀ name ∈ Html.targets html, ¬ q.Fits suffix name) :
    Resolved listing suffix q (.ok html) (.error (.noMatchingArtifact q.distro q.arch q.version))

/-- The plan fetches the listing, and ends with what comes of the answer. -/
structure LooksUp {σ : Type} (listing suffix : String) (q : Query) (plan : Http.Page.Plan String)
    (fetcher : Plan.Handler String Http.Page.Answer σ) (s : σ) : Prop where
  calls : plan.calls fetcher s = [⟨listing, (fetcher listing s).1⟩]
  state : (plan.run fetcher s).2 = (fetcher listing s).2
  result : Resolved listing suffix q (fetcher listing s).1 (plan.run fetcher s).1

/-- From pages that offer the same fitting names comes the same. -/
theorem Resolved.congr {listing html html' : String} {result result' : Except Error String}
    (hresult : Resolved listing suffix q (.ok html) result)
    (hresult' : Resolved listing suffix q (.ok html') result')
    (h : ∀ name, q.Fits suffix name → (name ∈ Html.targets html ↔ name ∈ Html.targets html')) :
    result = result' := by
  -- a name that fits one of the pages is on both of them
  rcases hresult with _ | ⟨hwants⟩ | ⟨hnone⟩ <;> rcases hresult' with _ | ⟨hwants'⟩ | ⟨hnone'⟩
  · rw [(hwants.congr h).unique hwants']
  · exact absurd hwants.fits (hnone' _ ((h _ hwants.fits).1 hwants.mem))
  · exact absurd hwants'.fits (hnone _ ((h _ hwants'.fits).2 hwants'.mem))
  · rfl

namespace Site

theorem resolved_pick (site : Site) (q : Query) (html : String) :
    Resolved (site.listingUrl q.version) site.suffix q (.ok html) (site.pick q html) := by
  rw [pick, links]
  cases hselect : select q.distro q.arch (archives site.suffix (Html.targets html)) with
  | none => exact .missing (select_eq_none_iff.1 hselect)
  | some name => exact .found (select_eq_some_iff.1 hselect)

theorem resolve_eq (site : Site) (q : Query) :
    site.resolve q = .ask (site.listingUrl q.version) fun html => .done (site.pick q html) := rfl

theorem looksUp_resolve {σ : Type} (site : Site) (q : Query)
    (fetcher : Plan.Handler String Http.Page.Answer σ) (s : σ) :
    LooksUp (site.listingUrl q.version) site.suffix q (site.resolve q) fetcher s := by
  rw [resolve_eq]
  rcases hanswer : fetcher (site.listingUrl q.version) s with ⟨e | html, s'⟩
  · refine ⟨?_, ?_, ?_⟩
    · rw [Plan.calls_ask_error hanswer, hanswer]
    · rw [Plan.run_ask_error hanswer, hanswer]
    · rw [Plan.run_ask_error hanswer, hanswer]
      exact .failed e
  · refine ⟨?_, ?_, ?_⟩
    · rw [Plan.calls_ask_ok hanswer, hanswer, Plan.calls_done]
    · rw [Plan.run_ask_ok hanswer, hanswer, Plan.run_done]
    · rw [Plan.run_ask_ok hanswer, hanswer, Plan.run_done]
      exact resolved_pick site q html

/-- How many slashes end the URL of a site does not matter. -/
theorem ofUrl_append {slashes : String} (url suffix : String)
    (h : ∀ c ∈ slashes.toList, c = '/') : ofUrl (url ++ slashes) suffix = ofUrl url suffix := by
  rw [ofUrl, ofUrl, String.toList_append, Text.trimEndBy_append]
  intro c hc
  exact beq_iff_eq.2 (h c hc)

/-- The URL of a site is its base with slashes behind, and the base does not end with one. -/
theorem exists_base_ofUrl (url suffix : String) :
    ∃ slashes, url = (ofUrl url suffix).base ++ slashes ∧ (∀ c ∈ slashes.toList, c = '/') ∧
      (ofUrl url suffix).base.toList.getLast? ≠ some '/' := by
  obtain ⟨slashes, hurl, hslashes⟩ := Text.exists_trimEndBy (· == '/') url.toList
  refine ⟨String.ofList slashes, ?_, ?_, ?_⟩
  · rw [ofUrl, ← String.ofList_append, ← hurl, String.ofList_toList]
  · intro c hc
    rw [String.toList_ofList] at hc
    exact beq_iff_eq.1 (hslashes c hc)
  · intro hlast
    rw [ofUrl, String.toList_ofList] at hlast
    have hslash := Text.getLast?_trimEndBy hlast
    rw [beq_self_eq_true] at hslash
    cases hslash

/-- For every URL of a site, every suffix and every query, and whatever answers the requests: one
page is fetched, which is the listing of the version below the URL without the slashes at its end.
The archive that is found there is the least one that fits, so that neither the order of the
anchors, nor their number, nor those that do not fit, nor the slashes matter. -/
theorem resolve_least (url suffix : String) (q : Query) :
    ∃ base slashes : String,
      url = base ++ slashes ∧ (∀ c ∈ slashes.toList, c = '/') ∧ base.toList.getLast? ≠ some '/' ∧
      (∀ (σ : Type) (fetcher : Plan.Handler String Http.Page.Answer σ) (s : σ),
        LooksUp (base ++ "/" ++ q.version) suffix q ((ofUrl url suffix).resolve q) fetcher s) ∧
      (∀ (σ σ' : Type) (fetcher : Plan.Handler String Http.Page.Answer σ) (s : σ)
          (fetcher' : Plan.Handler String Http.Page.Answer σ') (s' : σ') (html html' : String),
        (fetcher (base ++ "/" ++ q.version) s).1 = .ok html →
        (fetcher' (base ++ "/" ++ q.version) s').1 = .ok html' →
        (∀ name, q.Fits suffix name → (name ∈ Html.targets html ↔ name ∈ Html.targets html')) →
        (((ofUrl url suffix).resolve q).run fetcher s).1 =
          (((ofUrl url suffix).resolve q).run fetcher' s').1) ∧
      ∀ more : String, (∀ c ∈ more.toList, c = '/') →
        (ofUrl (url ++ more) suffix).resolve q = (ofUrl url suffix).resolve q := by
  obtain ⟨slashes, hurl, hslashes, hlast⟩ := exists_base_ofUrl url suffix
  refine ⟨_, slashes, hurl, hslashes, hlast, ?_, ?_, ?_⟩
  · intro σ fetcher s
    exact looksUp_resolve (ofUrl url suffix) q fetcher s
  · intro σ σ' fetcher s fetcher' s' html html' hanswer hanswer' h
    have hresult := (looksUp_resolve (ofUrl url suffix) q fetcher s).result
    have hresult' := (looksUp_resolve (ofUrl url suffix) q fetcher' s').result
    rw [listingUrl, hanswer] at hresult
    rw [listingUrl, hanswer'] at hresult'
    exact hresult.congr hresult' h
  · intro more hmore
    rw [ofUrl_append url suffix hmore]

end Site

end DeploySync.Release
