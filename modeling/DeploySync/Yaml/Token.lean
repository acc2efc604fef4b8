import DeploySync.Yaml.Char

/-!
# Tokens of the YAML notation

A stream is first cut into tokens: indicators, names, scalars, and the starts and ends of block
collections, which the indentation alone shows.

## Main definitions

* `Yaml.ScalarStyle` — the five ways to write a scalar
* `Yaml.TokenKind`, `Yaml.Token` — a token, and where it begins and ends
-/

namespace DeploySync.Yaml

/-- The five ways to write a scalar. -/
inductive ScalarStyle where
  | plain
  | singleQuoted
  | doubleQuoted
  | literal
  | folded
  deriving DecidableEq, Repr

/-- What a token is. Tags are bytes, because their escapes spell bytes. -/
inductive TokenKind where
  | versionDirective (major minor : Nat)
  | tagDirective (handle : List Char) (replacement : List UInt8)
  | documentStart
  | documentEnd
  | streamEnd
  | blockSequenceStart
  | blockMappingStart
  | blockEnd
  | flowSequenceStart
  | flowSequenceEnd
  | flowMappingStart
  | flowMappingEnd
  | blockEntry
  | flowEntry
  | key
  | value
  | alias (name : List Char)
  | anchor (name : List Char)
  | tag (handle : List Char) (suffix : List UInt8)
  | scalar (text : List Char) (style : ScalarStyle)
  deriving DecidableEq, Repr

/-- A token and the two places between which it stands. -/
structure Token where
  kind : TokenKind
  start : Mark
  stop : Mark
  deriving DecidableEq, Repr

end DeploySync.Yaml
