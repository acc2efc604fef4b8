import DeploySync.Text.Printable

/-!
# Quoted texts in messages

Messages quote texts and paths between double quotes, with escapes for everything that would not
show: `\t`, `\r`, `\n`, `\0`, the backslash, the quote, and `\u{…}` for characters without a
visible form. A path also escapes the single quote.

## Main definitions

* `Text.quoted` — a text between double quotes
* `Text.quotedPath` — a path between double quotes
-/

namespace DeploySync.Text

/-- One character inside double quotes. -/
def quotedChar (c : Char) : List Char :=
  if c = '\x00' then ['\\', '0']
  else if c = '\t' then ['\\', 't']
  else if c = '\r' then ['\\', 'r']
  else if c = '\n' then ['\\', 'n']
  else if c = '"' || c = '\\' then ['\\', c]
  else if ' ' ≤ c && c ≤ '~' then [c]
  else if isGraphemeExtend c || ! isPrintable c then
    ['\\', 'u', '{'] ++ Nat.toDigits 16 c.toNat ++ ['}']
  else [c]

/-- One character of a path inside double quotes. -/
def quotedPathChar (c : Char) : List Char :=
  if c = '\'' then ['\\', '\''] else quotedChar c

/-- A text between double quotes. -/
def quoted (s : String) : String :=
  String.ofList ('"' :: s.toList.flatMap quotedChar ++ ['"'])

/-- A path between double quotes. -/
def quotedPath (s : String) : String :=
  String.ofList ('"' :: s.toList.flatMap quotedPathChar ++ ['"'])

end DeploySync.Text
