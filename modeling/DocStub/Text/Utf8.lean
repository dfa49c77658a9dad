/-!
# Bytes of a text

Files hold bytes, and a text is stored in UTF-8.

* `encode`, `utf8Length` — the bytes of a text and their number.
* `decode?` — the text that some bytes encode, if they encode one.
* `decode?_eq_some_iff` — the two belong together: bytes encode at most one text.
-/

namespace DocStub.Text

/-- The bytes of a text. -/
def encode (t : List Char) : ByteArray := (String.ofList t).toUTF8

/-- The number of bytes of a text. -/
def utf8Length (t : List Char) : Nat := t.foldl (fun n c => n + c.utf8Size) 0

/-- The text that the bytes encode.  Surrogates, forms that are too long and broken sequences
encode nothing; a byte order mark is an ordinary character. -/
def decode? (b : ByteArray) : Option (List Char) := (String.fromUTF8? b).map String.toList

theorem decode?_eq_some_iff {b : ByteArray} {t : List Char} :
    decode? b = some t ↔ b = encode t := by
  simp only [decode?, encode, Option.map_eq_some_iff, String.fromUTF8?, String.fromUTF8]
  constructor
  · rintro ⟨s, h, rfl⟩
    split at h
    · cases h
      simp
    · cases h
  · rintro rfl
    refine ⟨String.ofList t, ?_, by simp⟩
    rw [String.toUTF8_eq_toByteArray, dif_pos (String.isValidUTF8 _)]

@[simp] theorem decode?_encode (t : List Char) : decode? (encode t) = some t :=
  decode?_eq_some_iff.2 rfl

end DocStub.Text
