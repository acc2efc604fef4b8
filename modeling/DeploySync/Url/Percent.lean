import DeploySync.Text.Split

/-!
# Percent and form encoding

The parts of a URL hold only some ASCII characters as they are. All others are written as the
bytes of their UTF-8 form, each as a percent sign and two hexadecimal digits; every part has its
own set of characters to escape. Names and values of a query are written in the form encoding,
which turns a space into a plus sign.

## Main definitions

* `Url.encodeWith` — percent encoding with a set of characters to escape
* `Url.inFragment`, `Url.inPath`, `Url.inSegment`, `Url.inQuery`, `Url.inUserinfo` — the sets
* `Url.formEncode` — the form encoding
* `Url.percentDecode`, `Url.formDecode` — the bytes that an encoded text spells
-/

namespace DeploySync.Url

/-- One byte as a percent sign and two hexadecimal digits. -/
def escapeByte (b : UInt8) : List Char :=
  ['%', Text.hexDigit (b.toNat / 16), Text.hexDigit (b.toNat % 16)]

/-- A character as its escaped bytes. -/
def escapeChar (c : Char) : List Char :=
  (String.utf8EncodeChar c).flatMap escapeByte

/-- A character that no part of a URL holds as it is: a control, or one beyond ASCII. -/
def isAlwaysEscaped (c : Char) : Bool :=
  c.toNat < 0x20 || 0x7E < c.toNat

/-- The characters that a fragment escapes. -/
def inFragment (c : Char) : Bool :=
  isAlwaysEscaped c || " \"<>`".toList.contains c

/-- The characters that a path escapes. -/
def inPath (c : Char) : Bool :=
  inFragment c || "#?{}".toList.contains c

/-- The characters that a path segment escapes when it is added to a path. -/
def inSegment (special : Bool) (c : Char) : Bool :=
  inPath c || c == '/' || c == '%' || (special && c == '\\')

/-- The characters that a query escapes. -/
def inQuery (special : Bool) (c : Char) : Bool :=
  isAlwaysEscaped c || " \"#<>".toList.contains c || (special && c == '\'')

/-- The characters that a user name or a password escapes. -/
def inUserinfo (c : Char) : Bool :=
  inPath c || "/:;=@[\\]^|".toList.contains c

/-- Percent encoding with a set of characters to escape. -/
def encodeWith (escaped : Char → Bool) (s : List Char) : List Char :=
  s.flatMap fun c => if escaped c then escapeChar c else [c]

/-- The characters that the form encoding keeps. -/
def isFormSafe (c : Char) : Bool :=
  Text.isLetter c || Text.isDigit c || c == '*' || c == '-' || c == '.' || c == '_'

/-- The form encoding of a name or a value. -/
def formEncode (s : List Char) : List Char :=
  s.flatMap fun c => if c == ' ' then ['+'] else if isFormSafe c then [c] else escapeChar c

/-- The bytes that a percent-encoded text spells; a percent sign without two digits behind it is
itself. -/
def percentDecode : List Char → List UInt8
  | [] => []
  | '%' :: a :: b :: rest =>
    match Text.hexValue? a, Text.hexValue? b with
    | some h, some l => UInt8.ofNat (16 * h + l) :: percentDecode rest
    | _, _ => 37 :: percentDecode (a :: b :: rest)
  | c :: rest => String.utf8EncodeChar c ++ percentDecode rest

/-- The bytes that a form-encoded text spells. -/
def formDecode (s : List Char) : List UInt8 :=
  percentDecode (s.map fun c => if c == '+' then ' ' else c)

end DeploySync.Url
