import DeploySync.Html.Construction

/-!
# Anchors of a page

## Main definitions

* `Html.normalized` — a text with uniform line ends
* `Html.targets` — what the anchors of a page refer to, in order
-/

namespace DeploySync.Html

/-- The characters of a page: its lines end in line feeds alone, and there is no byte order mark in
front. -/
def normalized (html : String) : List Char :=
  match ((html.replace "\r\n" "\n").replace "\r" "\n").toList with
  | '\uFEFF' :: rest => rest
  | s => s

/-- Reads characters on a page. -/
def Construction.read (page : Construction) : List Char → Construction
  | [] => page
  | c :: rest =>
    let read := Token.read page.isInForeign c rest
    match read.1 with
    | none => page.read read.2
    | some t =>
      match page.take t with
      | (page, none) => page.read read.2
      | (page, some raw) => page.read (raw.skip read.2)
termination_by s => s.length
decreasing_by
  · exact Nat.lt_succ_of_le (Token.length_read_le _ c rest)
  · exact Nat.lt_succ_of_le (Token.length_read_le _ c rest)
  · exact Nat.lt_succ_of_le
      (Nat.le_trans (RawText.length_skip_le raw _) (Token.length_read_le _ c rest))

/-- What the anchors of a page refer to, in order. -/
def targets (html : String) : List String :=
  (({} : Construction).read (normalized html)).targets.reverse

end DeploySync.Html
