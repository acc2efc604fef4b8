import DeploySync.Html.Anchors
import DeploySync.Http.Page
import DeploySync.Release.Query

/-!
# Listings of release archives

A vendor lists the archives of a version on one page. The archive that is wanted is the least one
whose name holds the pieces of the query, so that the order of the page does not matter.

## Main definitions

* `Release.links` — the archives that a page lists, in order
* `Release.select` — the archive that is wanted
* `Release.Site` — where the listings stand
* `Release.Site.resolve` — the plan that finds the URL of an archive
-/

namespace DeploySync.Release

/-- A list in order with a text put in, unless it is there already. -/
def insert (s : String) : List String → List String
  | [] => [s]
  | t :: rest => if s < t then s :: t :: rest else if s = t then t :: rest else t :: insert s rest

/-- Texts in order, each of them once. -/
def inOrder (texts : List String) : List String := texts.foldr insert []

/-- A text ends with another one. -/
def endsWith (suffix s : String) : Bool := suffix.toList.isSuffixOf s.toList

/-- The archives among what anchors refer to, in order. -/
def archives (suffix : String) (targets : List String) : List String :=
  inOrder (targets.filter (endsWith suffix))

/-- The archives that a page lists, in order. -/
def links (html suffix : String) : List String := archives suffix (Html.targets html)

/-- An archive's name holds a piece. -/
def holds (piece s : String) : Bool := Text.containsPiece piece.toList s.toList

/-- The first archive whose name holds both pieces. -/
def select (distro arch : String) (links : List String) : Option String :=
  links.find? fun s => holds distro s && holds arch s

/-- Where the listings stand, and how archives end. -/
structure Site where
  base : String
  suffix : String
  deriving DecidableEq, Repr

namespace Site

/-- The site at a URL; slashes at its end do not count. -/
def ofUrl (url suffix : String) : Site :=
  ⟨String.ofList (Text.trimEndBy (· == '/') url.toList), suffix⟩

/-- The site of the settings. -/
def ofSettings (c : Settings) : Site := .ofUrl c.listingBase c.suffix

/-- The URL of the listing of a version. -/
def listingUrl (s : Site) (version : String) : String := s.base ++ "/" ++ version

/-- The URL of the archive that a listing offers for a query. -/
def pick (s : Site) (q : Query) (html : String) : Except Error String :=
  match select q.distro q.arch (links html s.suffix) with
  | some link => .ok (s.listingUrl q.version ++ "/" ++ link)
  | none => .error (.noMatchingArtifact q.distro q.arch q.version)

/-- Finds the URL of the archive for a query. -/
def resolve (s : Site) (q : Query) : Http.Page.Plan String := do
  let html ← Plan.call (s.listingUrl q.version)
  Plan.ofExcept (s.pick q html)

end Site

end DeploySync.Release
