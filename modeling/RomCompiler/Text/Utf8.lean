import RomCompiler.Bytes
import RomCompiler.Text.Blank

/-! # Texts as bytes

A file holds a text in UTF-8.
- **`Text.toUtf8`** — the bytes of a text.
- **`Text.ofUtf8?`** — the text of some bytes, if they are valid; it undoes the former
  (`ofUtf8?_eq_some_iff`). -/

namespace RomCompiler.Text

/-- `toUtf8 text`: the bytes of a text. -/
def toUtf8 (text : Text) : Bytes := (String.ofList text).toUTF8.data.toList

/-- `ofUtf8? bytes`: the text of some bytes, if they are valid. -/
def ofUtf8? (bytes : Bytes) : Option Text :=
  (String.fromUTF8? ⟨bytes.toArray⟩).map String.toList

/-- `ofUtf8? (toUtf8 text) = some text`: a text is read back from its bytes. -/
@[simp] theorem ofUtf8?_toUtf8 (text : Text) : ofUtf8? (toUtf8 text) = some text := by
  have hbytes : (⟨(toUtf8 text).toArray⟩ : ByteArray) = (String.ofList text).toUTF8 := by
    simp [toUtf8]
  have hvalid : (String.ofList text).toUTF8.IsValidUTF8 := (String.ofList text).isValidUTF8
  have hback : String.fromUTF8 (String.ofList text).toUTF8 hvalid = String.ofList text := rfl
  rw [ofUtf8?, hbytes, String.fromUTF8?, dif_pos hvalid, hback]
  simp

/-- `ofUtf8? bytes = some text ↔ bytes = toUtf8 text`: some bytes are valid exactly where they are
those of a text. -/
theorem ofUtf8?_eq_some_iff {bytes : Bytes} {text : Text} :
    ofUtf8? bytes = some text ↔ bytes = toUtf8 text := by
  constructor
  · intro h
    rw [ofUtf8?, String.fromUTF8?] at h
    split at h
    · next hvalid =>
      have htext : (String.fromUTF8 ⟨bytes.toArray⟩ hvalid).toList = text := Option.some.inj h
      rw [← htext, toUtf8, String.ofList_toList]
      rfl
    · exact absurd h (by simp)
  · rintro rfl
    exact ofUtf8?_toUtf8 text

end RomCompiler.Text
