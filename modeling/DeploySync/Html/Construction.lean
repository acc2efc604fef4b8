import DeploySync.Html.Element

/-!
# Building a page

Which tags of a page become elements depends on where they stand: a list of choices or a set of
frames holds no anchors, and a raw text has no tags. The tags are followed through the insertion
modes of HTML as far as this matters. The tree itself is not kept, only what the anchors in it
refer to.

## Main definitions

* `Html.Mode` — the insertion modes
* `Html.Construction` — the open elements, the mode, and the anchors so far
* `Html.Construction.take` — takes a token
-/

namespace DeploySync.Html

/-- The insertion modes. -/
inductive Mode where
  | beforeHead
  | inHead
  | afterHead
  | inBody
  | inTable
  | inCaption
  | inColumns
  | inTableBody
  | inRow
  | inCell
  | inSelect
  | inSelectInTable
  | inTemplate
  | afterBody
  /-- A set of frames, which holds no anchors. -/
  | frames
  deriving DecidableEq, Repr

/-- A page while it is read. -/
structure Construction where
  mode : Mode := .beforeHead
  /-- The open elements, the innermost one first. -/
  stack : List Element := [⟨"html", .html⟩]
  /-- The modes in the open templates, the innermost one first. -/
  templates : List Mode := []
  /-- A set of frames may still take the place of the body. -/
  framesAllowed : Bool := true
  /-- What the anchors refer to, the last one first. -/
  targets : List String := []
  deriving Repr

/-- What a token leads to: the page, whether the token is to be taken once more, and the raw text
that follows it. -/
structure Turn where
  page : Construction
  again : Bool := false
  raw : Option RawText := none

namespace Construction

/-- The token is dealt with. -/
private def done (c : Construction) : Turn := { page := c }

/-- The token is to be taken once more. -/
private def retry (c : Construction) : Turn := { page := c, again := true }

/-- Raw text follows. -/
private def before (raw : RawText) (c : Construction) : Turn := { page := c, raw := some raw }

private def withMode (mode : Mode) (c : Construction) : Construction := { c with mode := mode }

private def withStack (c : Construction) (f : List Element → List Element) : Construction :=
  { c with stack := f c.stack }

private def noFrames (c : Construction) : Construction := { c with framesAllowed := false }

/-- The innermost element has one of some names. -/
private def isIn (c : Construction) (names : List String) : Bool :=
  c.stack.head?.any (·.isNamed names)

private def reaches (c : Construction) (scope : Scope) (names : List String) : Bool :=
  inScope scope names c.stack

/-- Notes what an anchor refers to. -/
private def note (c : Construction) (tag : Tag) : Construction :=
  match tag.name == "a", tag.attribute? "href" with
  | true, some target => { c with targets := target :: c.targets }
  | _, _ => c

/-- Opens an element. -/
private def openIn (space : Space) (tag : Tag) (c : Construction) : Construction :=
  (c.note tag).withStack (⟨tag.name, space⟩ :: ·)

/-- Opens an element of HTML. -/
private def openTag (tag : Tag) (c : Construction) : Construction := c.openIn .html tag

/-- Opens an element of HTML that no tag opens. -/
private def openNamed (name : String) (c : Construction) : Construction :=
  c.openTag { name := name }

/-- Opens an element of a drawing or a formula, or puts it in as a closed one. -/
private def openForeign (space : Space) (tag : Tag) (c : Construction) : Construction :=
  if tag.isClosed then c.note tag else c.openIn space tag

/-- The mode that the open elements call for. -/
private def modeOf (templates : List Mode) : List Element → Mode
  | [] => .inBody
  | e :: rest =>
    if e.isNamed ["select"] then
      if (rest.find? (·.isNamed ["table", "template"])).any (·.isNamed ["table"]) then
        .inSelectInTable
      else .inSelect
    else if e.isNamed ["td", "th"] then .inCell
    else if e.isNamed ["tr"] then .inRow
    else if e.isNamed ["tbody", "thead", "tfoot"] then .inTableBody
    else if e.isNamed ["caption"] then .inCaption
    else if e.isNamed ["colgroup"] then .inColumns
    else if e.isNamed ["table"] then .inTable
    else if e.isNamed ["template"] then templates.headD .inBody
    else if e.isNamed ["head"] then .inHead
    else if e.isNamed ["body"] then .inBody
    else if e.isNamed ["html"] then .afterHead
    else modeOf templates rest

private def resetMode (c : Construction) : Construction :=
  { c with mode := modeOf c.templates c.stack }

/-! ### Head and templates -/

/-- A start tag that is treated like one in the head: metadata, raw text, or a template. -/
private def headStart? (tag : Tag) (c : Construction) : Option Turn :=
  let n := tag.name
  if n == "template" then
    some (done ((c.openTag tag).noFrames.withMode .inTemplate |>
      fun c => { c with templates := .inTemplate :: c.templates }))
  else if n == "script" then some (c.before .script)
  else if ["title", "style", "noframes"].contains n then some (c.before (.upTo n))
  else if ["base", "basefont", "bgsound", "link", "meta"].contains n then some (done c)
  else none

/-- The end tag of a template. -/
private def closeTemplate (c : Construction) : Construction :=
  if c.stack.any (·.isNamed ["template"]) then
    resetMode { c with stack := popThrough ["template"] c.stack, templates := c.templates.tail }
  else c

/-- The end tags that open what is missing around them. -/
private def openingEnds : List String := ["body", "html", "br"]

private def beforeHead (t : Token) (c : Construction) : Turn :=
  let head : Turn := retry ((c.openNamed "head").withMode .inHead)
  match t with
  | .start tag =>
    if tag.name == "html" then done c
    else if tag.name == "head" then done ((c.openTag tag).withMode .inHead)
    else head
  | .finish n => if n == "head" || openingEnds.contains n then head else done c
  | .character => head

private def inHead (t : Token) (c : Construction) : Turn :=
  let behind := (c.withStack List.tail).withMode .afterHead
  match t with
  | .start tag =>
    match c.headStart? tag with
    | some turn => turn
    | none =>
      if tag.name == "noscript" then c.before (.upTo tag.name)
      else if ["html", "head"].contains tag.name then done c
      else retry behind
  | .finish n =>
    if n == "head" then done behind
    else if n == "template" then done c.closeTemplate
    else if openingEnds.contains n then retry behind
    else done c
  | .character => retry behind

private def afterHead (t : Token) (c : Construction) : Turn :=
  let body : Turn := retry ((c.openNamed "body").withMode .inBody)
  match t with
  | .start tag =>
    match c.headStart? tag with
    | some turn => turn
    | none =>
      if tag.name == "body" then done ((c.openTag tag).noFrames.withMode .inBody)
      else if tag.name == "frameset" then done (c.withMode .frames)
      else if ["html", "head"].contains tag.name then done c
      else body
  | .finish n =>
    if n == "template" then done c.closeTemplate
    else if openingEnds.contains n then body
    else done c
  | .character => body

/-! ### Body -/

private def headingNames : List String := ["h1", "h2", "h3", "h4", "h5", "h6"]

/-- The elements that stand beside paragraphs. -/
private def blockNames : List String :=
  ["address", "article", "aside", "blockquote", "center", "details", "dialog", "dir", "div", "dl",
    "fieldset", "figcaption", "figure", "footer", "header", "hgroup", "main", "menu", "nav", "ol",
    "p", "search", "section", "summary", "ul"]

private def isTablePart (n : String) : Bool :=
  ["caption", "col", "colgroup", "tbody", "td", "tfoot", "th", "thead", "tr"].contains n

private def isHidden (tag : Tag) : Bool :=
  (tag.attribute? "type").any (Text.eqIgnoringCase · "hidden")

private def closeParagraph (c : Construction) : Construction :=
  c.withStack (popInScope .button ["p"])

/-- Closes the item around a new one. -/
private def closeItem (names : List String) (c : Construction) : Construction :=
  let bound (e : Element) : Bool := e.isSpecial && ! e.isNamed ["address", "div", "p"]
  match c.stack.find? fun e => e.isNamed names || bound e with
  | some e => if e.isNamed names then c.withStack (popThrough [e.name]) else c
  | none => c

private def closeOption (c : Construction) : Construction :=
  if c.isIn ["option"] then c.withStack List.tail else c

/-- The innermost element but the root is the body. -/
private def hasBody (c : Construction) : Bool :=
  c.stack.reverse[1]?.any (·.isNamed ["body"])

private def bodyStart (tag : Tag) (c : Construction) : Turn :=
  let n := tag.name
  let block := c.closeParagraph
  match c.headStart? tag with
  | some turn => turn
  | none =>
    if n == "body" then done (if c.hasBody then c.noFrames else c)
    else if n == "frameset" then
      done (if c.hasBody && c.framesAllowed then c.withMode .frames else c)
    else if n == "form" || blockNames.contains n then done (block.openTag tag)
    else if headingNames.contains n then
      done ((if block.isIn headingNames then block.withStack List.tail else block).openTag tag)
    else if ["pre", "listing"].contains n then done (block.openTag tag).noFrames
    else if n == "li" then done ((c.closeItem ["li"]).closeParagraph.openTag tag).noFrames
    else if ["dd", "dt"].contains n then
      done ((c.closeItem ["dd", "dt"]).closeParagraph.openTag tag).noFrames
    else if n == "plaintext" then (block.openTag tag).before .endless
    else if n == "button" then
      done ((c.withStack (popInScope .plain ["button"])).openTag tag).noFrames
    else if ["a", "nobr"].contains n then done ((c.withStack (closeFormatting n)).openTag tag)
    else if ["applet", "marquee", "object"].contains n then done (c.openTag tag).noFrames
    else if n == "table" then done ((block.openTag tag).noFrames.withMode .inTable)
    else if ["area", "br", "embed", "img", "image", "keygen", "wbr"].contains n then done c.noFrames
    else if n == "input" then done (if isHidden tag then c else c.noFrames)
    else if ["param", "source", "track"].contains n then done c
    else if n == "hr" then done block.noFrames
    else if n == "xmp" then block.noFrames.before (.upTo n)
    else if ["textarea", "iframe"].contains n then c.noFrames.before (.upTo n)
    else if ["noembed", "noscript"].contains n then c.before (.upTo n)
    else if n == "select" then
      let mode := match c.mode with
        | .inTable | .inCaption | .inTableBody | .inRow | .inCell => .inSelectInTable
        | _ => Mode.inSelect
      done ((c.openTag tag).noFrames.withMode mode)
    else if ["optgroup", "option"].contains n then done (c.closeOption.openTag tag)
    else if ["rb", "rtc", "rp", "rt"].contains n then
      let kept := if ["rp", "rt"].contains n then ["rtc"] else []
      let ruby := if c.reaches .plain ["ruby"] then c.withStack (popEndless kept) else c
      done (ruby.openTag tag)
    else if n == "math" then done (c.openForeign .formula tag)
    else if n == "svg" then done (c.openForeign .drawing tag)
    else if isTablePart n || ["html", "head", "frame"].contains n then done c
    else done (c.openTag tag)

private def bodyFinish (n : String) (c : Construction) : Turn :=
  if n == "template" then done c.closeTemplate
  else if ["body", "html"].contains n then
    done (if c.reaches .plain ["body"] then c.withMode .afterBody else c)
  else if n == "p" then done c.closeParagraph
  else if blockNames.contains n || ["button", "listing", "pre", "dd", "dt"].contains n ||
      ["applet", "marquee", "object"].contains n then
    done (c.withStack (popInScope .plain [n]))
  else if n == "form" then
    done (if c.reaches .plain [n] then c.withStack (·.eraseP (·.isNamed [n])) else c)
  else if n == "li" then done (c.withStack (popInScope .listItem [n]))
  else if headingNames.contains n then done (c.withStack (popInScope .plain headingNames))
  else if Element.formattingNames.contains n then done (c.withStack (closeFormatting n))
  else if n == "br" then done c.noFrames
  else done (c.withStack (closeOther n))

private def inBody (t : Token) (c : Construction) : Turn :=
  match t with
  | .start tag => c.bodyStart tag
  | .finish n => c.bodyFinish n
  | .character => done c.noFrames

private def afterBody (t : Token) (c : Construction) : Turn :=
  if t == .finish "html" then done c else retry (c.withMode .inBody)

/-! ### Tables -/

private def sectionNames : List String := ["tbody", "tfoot", "thead"]

private def tableRoots : List String := ["html", "table", "template"]

/-- Closes a part of a table and takes the token once more, or drops the token. -/
private def leave (part : List String) (mode : Mode) (c : Construction) : Turn :=
  if c.reaches .table part then
    let left := c.withStack (popThrough part)
    retry (left.withMode mode)
  else done c

private def closeTable (c : Construction) : Construction :=
  resetMode (c.withStack (popThrough ["table"]))

private def inTable (t : Token) (c : Construction) : Turn :=
  let cleared := c.withStack (popTo tableRoots)
  match t with
  | .character => c.inBody t
  | .start tag =>
    let n := tag.name
    if n == "caption" then done ((cleared.openTag tag).withMode .inCaption)
    else if n == "colgroup" then done ((cleared.openTag tag).withMode .inColumns)
    else if n == "col" then retry ((cleared.openNamed "colgroup").withMode .inColumns)
    else if sectionNames.contains n then done ((cleared.openTag tag).withMode .inTableBody)
    else if ["td", "th", "tr"].contains n then
      retry ((cleared.openNamed "tbody").withMode .inTableBody)
    else if n == "table" then
      if c.reaches .table ["table"] then retry c.closeTable else done c
    else if n == "form" || (n == "input" && isHidden tag) then done c
    else c.inBody t
  | .finish n =>
    if n == "table" then done (if c.reaches .table ["table"] then c.closeTable else c)
    else if isTablePart n || ["body", "html"].contains n then done c
    else c.inBody t

private def inCaption (t : Token) (c : Construction) : Turn :=
  let leaving := c.leave ["caption"] .inTable
  match t with
  | .character => c.inBody t
  | .start tag => if isTablePart tag.name then leaving else c.inBody t
  | .finish n =>
    if n == "caption" then { leaving with again := false }
    else if n == "table" then leaving
    else if isTablePart n || ["body", "html"].contains n then done c
    else c.inBody t

private def inColumns (t : Token) (c : Construction) : Turn :=
  let isHere := c.isIn ["colgroup"]
  let behind := if isHere then (c.withStack List.tail).withMode .inTable else c
  match t with
  | .character => { page := behind, again := isHere }
  | .start tag =>
    if ["html", "col"].contains tag.name then done c
    else if tag.name == "template" then (c.headStart? tag).getD (done c)
    else { page := behind, again := isHere }
  | .finish n =>
    if n == "colgroup" then done behind
    else if n == "col" then done c
    else if n == "template" then done c.closeTemplate
    else { page := behind, again := isHere }

/-- Closes the sections of a table, or drops the token. -/
private def leaveSection (c : Construction) : Turn :=
  if c.reaches .table sectionNames then
    retry ((c.withStack fun s => (popTo (sectionNames ++ tableRoots) s).tail).withMode .inTable)
  else done c

private def inTableBody (t : Token) (c : Construction) : Turn :=
  let cleared := c.withStack (popTo ("template" :: "html" :: sectionNames))
  match t with
  | .character => c.inTable t
  | .start tag =>
    let n := tag.name
    if n == "tr" then done ((cleared.openTag tag).withMode .inRow)
    else if ["th", "td"].contains n then retry ((cleared.openNamed "tr").withMode .inRow)
    else if isTablePart n then c.leaveSection
    else c.inTable t
  | .finish n =>
    if sectionNames.contains n then
      if c.reaches .table [n] then { c.leaveSection with again := false } else done c
    else if n == "table" then c.leaveSection
    else if isTablePart n || ["body", "html"].contains n then done c
    else c.inTable t

private def inRow (t : Token) (c : Construction) : Turn :=
  let leaving := c.leave ["tr"] .inTableBody
  match t with
  | .character => c.inTable t
  | .start tag =>
    let n := tag.name
    if ["th", "td"].contains n then
      let cleared := c.withStack (popTo ["tr", "template", "html"])
      done ((cleared.openTag tag).withMode .inCell)
    else if isTablePart n then leaving
    else c.inTable t
  | .finish n =>
    if n == "tr" then { leaving with again := false }
    else if n == "table" then leaving
    else if sectionNames.contains n then
      if c.reaches .table [n] then leaving else done c
    else if isTablePart n || ["body", "html"].contains n then done c
    else c.inTable t

private def inCell (t : Token) (c : Construction) : Turn :=
  let leaving := c.leave ["td", "th"] .inRow
  match t with
  | .character => c.inBody t
  | .start tag => if isTablePart tag.name then leaving else c.inBody t
  | .finish n =>
    if ["td", "th"].contains n then
      if c.reaches .table [n] then done ((c.withStack (popThrough [n])).withMode .inRow) else done c
    else if ["table", "tr"].contains n || sectionNames.contains n then
      if c.reaches .table [n] then leaving else done c
    else if isTablePart n || ["body", "html"].contains n then done c
    else c.inBody t

/-! ### Choices, templates and drawings -/

private def closeSelect (c : Construction) : Construction :=
  resetMode (c.withStack (popThrough ["select"]))

private def inSelect (t : Token) (c : Construction) : Turn :=
  let isOpen := c.reaches .select ["select"]
  match t with
  | .character => done c
  | .start tag =>
    let n := tag.name
    if n == "option" then done (c.closeOption.openTag tag)
    else if ["optgroup", "hr"].contains n then
      let free := c.closeOption
      let free := if free.isIn ["optgroup"] then free.withStack List.tail else free
      done (if n == "hr" then free else free.openTag tag)
    else if n == "select" then done (if isOpen then c.closeSelect else c)
    else if ["input", "keygen", "textarea"].contains n then
      if isOpen then retry c.closeSelect else done c
    else if ["script", "template"].contains n then (c.headStart? tag).getD (done c)
    else done c
  | .finish n =>
    if n == "optgroup" then
      let inner := c.closeOption
      if inner.isIn ["optgroup"] then done (inner.withStack List.tail) else done c
    else if n == "option" then done c.closeOption
    else if n == "select" then done (if isOpen then c.closeSelect else c)
    else if n == "template" then done c.closeTemplate
    else done c

/-- The tags at which a choice in a table ends. -/
private def endsSelect (n : String) : Bool :=
  n == "table" || (isTablePart n && ! ["col", "colgroup"].contains n)

private def inSelectInTable (t : Token) (c : Construction) : Turn :=
  match t with
  | .character => done c
  | .start tag => if endsSelect tag.name then retry c.closeSelect else c.inSelect t
  | .finish n =>
    if endsSelect n then
      if c.reaches .table [n] then retry c.closeSelect else done c
    else c.inSelect t

/-- The template goes on in another mode. -/
private def turnTemplate (mode : Mode) (c : Construction) : Turn :=
  retry { c with mode := mode, templates := mode :: c.templates.tail }

private def inTemplate (t : Token) (c : Construction) : Turn :=
  match t with
  | .character => c.inBody t
  | .start tag =>
    let n := tag.name
    match c.headStart? tag with
    | some turn => turn
    | none =>
      if n == "caption" || n == "colgroup" || sectionNames.contains n then c.turnTemplate .inTable
      else if n == "col" then c.turnTemplate .inColumns
      else if n == "tr" then c.turnTemplate .inTableBody
      else if ["td", "th"].contains n then c.turnTemplate .inRow
      else c.turnTemplate .inBody
  | .finish n => done (if n == "template" then c.closeTemplate else c)

/-- The tags of HTML that end a drawing or a formula. -/
private def breakoutNames : List String :=
  ["b", "big", "blockquote", "body", "br", "center", "code", "dd", "div", "dl", "dt", "em", "embed",
    "h1", "h2", "h3", "h4", "h5", "h6", "head", "hr", "i", "img", "li", "listing", "menu", "meta",
    "nobr", "ol", "p", "pre", "ruby", "s", "small", "span", "strong", "strike", "sub", "sup",
    "table", "tt", "u", "ul", "var"]

private def breaksOut (tag : Tag) : Bool :=
  breakoutNames.contains tag.name ||
    (tag.name == "font" && ["color", "face", "size"].any fun a => (tag.attribute? a).isSome)

/-- The token belongs to a drawing or a formula. -/
private def isForeign (t : Token) (c : Construction) : Bool :=
  match c.stack with
  | [] => false
  | e :: _ =>
    if e.space == .html then false
    else
      match t with
      | .finish _ => true
      | .character => ! (e.isTextHolder || e.isHtmlHolder)
      | .start tag =>
        ! ((e.isTextHolder && ! ["mglyph", "malignmark"].contains tag.name) || e.isHtmlHolder ||
          (e == ⟨"annotation-xml", .formula⟩ && tag.name == "svg"))

/-- Closes drawings and formulas up to what may hold HTML. -/
private def breakOut (c : Construction) : Construction :=
  c.withStack (·.dropWhile fun e => e.space != .html && ! e.isTextHolder && ! e.isHtmlHolder)

/-- The end tag of an element of a drawing or a formula; nothing if an element of HTML comes
first. -/
private def closeForeign? (n : String) : List Element → Option (List Element)
  | [] => none
  | e :: rest =>
    if e.space == .html then none
    else if e.name == n then some rest
    else closeForeign? n rest

/-! ### Tokens -/

/-- Takes a token in the current mode. -/
private def byMode (t : Token) (c : Construction) : Turn :=
  match c.mode with
  | .beforeHead => c.beforeHead t
  | .inHead => c.inHead t
  | .afterHead => c.afterHead t
  | .inBody => c.inBody t
  | .inTable => c.inTable t
  | .inCaption => c.inCaption t
  | .inColumns => c.inColumns t
  | .inTableBody => c.inTableBody t
  | .inRow => c.inRow t
  | .inCell => c.inCell t
  | .inSelect => c.inSelect t
  | .inSelectInTable => c.inSelectInTable t
  | .inTemplate => c.inTemplate t
  | .afterBody => c.afterBody t
  | .frames => if let .start tag := t then
      if tag.name == "noframes" then c.before (.upTo tag.name) else done c
    else done c

/-- Takes a token in a drawing or a formula. -/
private def inForeign (t : Token) (c : Construction) : Turn :=
  match t with
  | .character => done c.noFrames
  | .start tag =>
    if breaksOut tag then c.breakOut.byMode t
    else done (c.openForeign ((c.stack.head?.map (·.space)).getD .html) tag)
  | .finish n =>
    if ["br", "p"].contains n then c.breakOut.byMode t
    else
      match closeForeign? n c.stack with
      | some stack => done { c with stack := stack }
      | none => c.byMode t

/-- Takes a token, at most so many times over. -/
private def takeWithin : (rounds : Nat) → Token → Construction → Construction × Option RawText
  | 0, _, c => (c, none)
  | rounds + 1, t, c =>
    let turn := if c.isForeign t then c.inForeign t else c.byMode t
    if turn.again then takeWithin rounds t turn.page else (turn.page, turn.raw)

/-- Takes a token; also gives the raw text that follows it. Each time that a token is taken once
more an element was closed, or the page has come nearer to its body. -/
def take (t : Token) (c : Construction) : Construction × Option RawText :=
  takeWithin (c.stack.length + 16) t c

/-- The innermost element is not HTML's own. -/
def isInForeign (c : Construction) : Bool := c.stack.head?.any (·.space != .html)

end Construction

end DeploySync.Html
