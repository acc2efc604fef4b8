import DeploySync.Text.Utf8

/-!
# Bytes as texts

Files, blobs and command output are bytes; the library reads most of them as texts.

## Main definitions

* `Bytes.ofText`, `Bytes.text?` — a text as bytes, and back
* `Bytes.lossyText` — bytes read leniently
-/

namespace DeploySync.Bytes

/-- Bytes are compared as arrays of bytes. -/
instance instDecidableEq : DecidableEq ByteArray := ByteArray.instDecidableEq

/-- The bytes of a text. -/
def ofText (s : String) : ByteArray := s.toUTF8

/-- The text that bytes spell, if they are well-formed. -/
def text? (b : ByteArray) : Option String := String.fromUTF8? b

/-- The text that bytes spell, with replacement characters where they are not well-formed. -/
def lossyText (b : ByteArray) : String :=
  match String.fromUTF8? b with
  | some s => s
  | none => String.ofList (Text.Utf8.lossy b.toList)

@[simp] theorem text?_ofText (s : String) : text? (ofText s) = some s := by
  have h : (ofText s).IsValidUTF8 := s.isValidUTF8
  simp only [text?, String.fromUTF8?, h, dif_pos]
  rfl

@[simp] theorem lossyText_ofText (s : String) : lossyText (ofText s) = s := by
  have h : String.fromUTF8? (ofText s) = some s := text?_ofText s
  rw [lossyText, h]

end DeploySync.Bytes
