import DeploySync.Html.Token

/-!
# Open elements

While a page is read, the elements that are not closed yet form a stack, the innermost one first.
How far a tag reaches is decided by the elements that bound a scope.

## Main definitions

* `Html.Space`, `Html.Element` — an element of HTML, or of a drawing or a formula inside of it
* `Html.Element.isSpecial`, `Html.Element.isFormatting` — classes of elements
* `Html.Scope`, `Html.inScope` — whether a tag reaches an element of a name
* `Html.popThrough`, `Html.popTo`, `Html.closeFormatting` — stacks with elements closed
-/

namespace DeploySync.Html

/-- What an element belongs to. -/
inductive Space where
  | html
  | drawing
  | formula
  deriving DecidableEq, Repr

/-- An element: its name, and what it belongs to. -/
structure Element where
  name : String
  space : Space := .html
  deriving DecidableEq, Repr

namespace Element

/-- An element of HTML with one of some names. -/
def isNamed (e : Element) (names : List String) : Bool :=
  e.space == .html && names.contains e.name

/-- An element of a formula that holds text. -/
def isTextHolder (e : Element) : Bool :=
  e.space == .formula && ["mi", "mo", "mn", "ms", "mtext"].contains e.name

/-- An element of a drawing that holds HTML. -/
def isHtmlHolder (e : Element) : Bool :=
  e.space == .drawing && ["foreignobject", "desc", "title"].contains e.name

/-- An element that is not HTML's own and bounds scopes. -/
private def isForeignBound (e : Element) : Bool :=
  e.isTextHolder || e.isHtmlHolder || (e.space == .formula && e.name == "annotation-xml")

/-- The formatting elements. -/
def formattingNames : List String :=
  ["a", "b", "big", "code", "em", "font", "i", "nobr", "s", "small", "strike", "strong", "tt", "u"]

/-- The special elements of HTML. -/
private def specialNames : List String :=
  ["address", "applet", "area", "article", "aside", "base", "basefont", "bgsound", "blockquote",
    "body", "br", "button", "caption", "center", "col", "colgroup", "dd", "details", "dir", "div",
    "dl", "dt", "embed", "fieldset", "figcaption", "figure", "footer", "form", "frame", "frameset",
    "h1", "h2", "h3", "h4", "h5", "h6", "head", "header", "hgroup", "hr", "html", "iframe", "img",
    "input", "keygen", "li", "link", "listing", "main", "marquee", "menu", "meta", "nav", "noembed",
    "noframes", "noscript", "object", "ol", "p", "param", "plaintext", "pre", "script", "search",
    "section", "select", "source", "style", "summary", "table", "tbody", "td", "template",
    "textarea", "tfoot", "th", "thead", "title", "tr", "track", "ul", "wbr", "xmp"]

/-- An element that an end tag of an unknown name does not close. -/
def isSpecial (e : Element) : Bool := e.isNamed specialNames || e.isForeignBound

/-- A formatting element. -/
def isFormatting (e : Element) : Bool := e.isNamed formattingNames

end Element

/-- What bounds the reach of a tag. -/
inductive Scope where
  | plain
  | listItem
  | button
  | table
  | select
  deriving DecidableEq, Repr

private def plainBounds : List String :=
  ["applet", "caption", "html", "table", "td", "th", "marquee", "object", "template"]

/-- The element bounds a scope. -/
def Scope.isBound (scope : Scope) (e : Element) : Bool :=
  match scope with
  | .plain => e.isNamed plainBounds || e.isForeignBound
  | .listItem => e.isNamed ("ol" :: "ul" :: plainBounds) || e.isForeignBound
  | .button => e.isNamed ("button" :: plainBounds) || e.isForeignBound
  | .table => e.isNamed ["html", "table", "template"]
  | .select => ! e.isNamed ["optgroup", "option"]

/-- A tag reaches an element with one of some names. -/
def inScope (scope : Scope) (names : List String) : List Element → Bool
  | [] => false
  | e :: rest => e.isNamed names || (! scope.isBound e && inScope scope names rest)

/-- The stack with everything closed up to an element with one of some names, and that one too. -/
def popThrough (names : List String) (stack : List Element) : List Element :=
  (stack.dropWhile (! ·.isNamed names)).tail

/-- The stack with everything closed up to an element with one of some names. -/
def popTo (names : List String) (stack : List Element) : List Element :=
  stack.dropWhile (! ·.isNamed names)

/-- The stack with an element closed that a tag reaches, and everything inside of it. -/
def popInScope (scope : Scope) (names : List String) (stack : List Element) : List Element :=
  if inScope scope names stack then popThrough names stack else stack

/-- The stack with a formatting element closed that a tag reaches. The special elements inside of it
stay open, with the formatting elements around them. -/
def closeFormatting (name : String) (stack : List Element) : List Element :=
  if inScope .plain [name] stack then
    let inside := stack.takeWhile (! ·.isNamed [name])
    let kept := (inside.dropWhile (! ·.isSpecial)).filter fun e => e.isSpecial || e.isFormatting
    kept ++ popThrough [name] stack
  else stack

/-- The stack behind an end tag of a name without rules of its own. It closes the nearest element of
the name, unless it is outside of a special element. -/
def closeOther (name : String) (stack : List Element) : List Element :=
  match stack.find? fun e => e.isNamed [name] || e.isSpecial with
  | some e => if e.isNamed [name] then popThrough [name] stack else stack
  | none => stack

/-- The elements whose ends may be left out. -/
private def endlessNames : List String :=
  ["dd", "dt", "li", "optgroup", "option", "p", "rb", "rp", "rt", "rtc"]

/-- The stack with the innermost elements closed whose ends may be left out, but not those of a
name. -/
def popEndless (kept : List String) (stack : List Element) : List Element :=
  stack.dropWhile (·.isNamed (endlessNames.filter (! kept.contains ·)))

end DeploySync.Html
