/-!
# Blank characters and trimming

Settings, node lists and server answers are read with the blanks at their ends removed, and a
blob key segment that is all blank is refused. A character is blank when it has the Unicode
property `White_Space`.

## Main definitions

* `Text.isBlank` — the characters with the property `White_Space`
* `Text.trimStartBy`, `Text.trimEndBy`, `Text.trimBy` — drop a class of characters at the ends
* `Text.trim` — drop the blanks at both ends
-/

namespace DeploySync.Text

/-- The characters with the Unicode property `White_Space`. -/
def isBlank (c : Char) : Bool :=
  let n := c.toNat
  (9 ≤ n && n ≤ 13) || n == 0x20 || n == 0x85 || n == 0xA0 || n == 0x1680 ||
    (0x2000 ≤ n && n ≤ 0x200A) || n == 0x2028 || n == 0x2029 || n == 0x202F ||
    n == 0x205F || n == 0x3000

/-- Drops the characters of a class at the start. -/
def trimStartBy (p : Char → Bool) (s : List Char) : List Char :=
  s.dropWhile p

/-- Drops the characters of a class at the end. -/
def trimEndBy (p : Char → Bool) (s : List Char) : List Char :=
  (s.reverse.dropWhile p).reverse

/-- Drops the characters of a class at both ends. -/
def trimBy (p : Char → Bool) (s : List Char) : List Char :=
  trimEndBy p (trimStartBy p s)

/-- Drops the blanks at both ends. -/
def trim (s : String) : String :=
  String.ofList (trimBy isBlank s.toList)

/-- A text without any character that is not blank. -/
def allBlank (s : List Char) : Bool :=
  s.all isBlank

@[simp] theorem trimStartBy_nil (p : Char → Bool) : trimStartBy p [] = [] := rfl

@[simp] theorem trimEndBy_nil (p : Char → Bool) : trimEndBy p [] = [] := rfl

@[simp] theorem trimBy_nil (p : Char → Bool) : trimBy p [] = [] := rfl

end DeploySync.Text
