import DeploySync.Text.Quoted

/-!
# Errors of loading the settings

## Main definitions

* `Settings.Error`, `Settings.Error.message` — what is wrong with a setting, and its wording
-/

namespace DeploySync.Settings

/-- What is wrong with a setting. -/
inductive Error where
  /-- The value is none of the names that a setting of this type may have. -/
  | unknownName (type value key : String)
  /-- A setting that is a name was given several members instead. -/
  | severalMembers (type key : String)
  /-- A setting that is a text was given members instead. -/
  | notText (key : String)
  /-- A whole group was set to a text. -/
  | flatGroup (value type key : String)
  /-- A group that was set to a text lacks a field. -/
  | missingField (key : String)
  | other (text : String)
  deriving DecidableEq, Repr

/-- The wording of an error. -/
def Error.message : Error → String
  | .unknownName type value key =>
    s!"enum {type} does not have variant constructor {value} for key `{key}`"
  | .severalMembers type key =>
    s!"value of enum {type} should be represented by either string or table with exactly " ++
      s!"one key for key `{key}`"
  | .notText key => s!"invalid type: map, expected a string for key `{key}`"
  | .flatGroup value type key =>
    s!"invalid type: string {Text.quoted value}, expected struct {type} for key `{key}`"
  | .missingField key => s!"missing configuration field {Text.quoted key}"
  | .other text => text

end DeploySync.Settings
