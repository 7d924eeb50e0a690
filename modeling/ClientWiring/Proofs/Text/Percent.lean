import ClientWiring.Text.Percent

/-!
# Written escapes read back

Whatever text was encoded, decoding gives it back, and the written form has no characters but the
plain ones and `%`, so that every other character can stand between two written forms.

    decode (encodeChars s.toList) = .ok s                              (decode_encodeChars)
    c ∈ encodeChars cs → isPlain c = true ∨ c = '%'                    (mem_encodeChars)
-/

namespace ClientWiring.Text

/-! ## Bytes of a text -/

/-- Bytes are decoded to the text whose UTF-8 form they are. -/
theorem Utf8.decode_eq_ok_iff (bytes : List UInt8) (s : String) :
    Utf8.decode bytes = .ok s ↔ s.toByteArray = ⟨bytes.toArray⟩ := by
  unfold Utf8.decode String.fromUTF8?
  by_cases hvalid : (ByteArray.mk bytes.toArray).IsValidUTF8
  · rw [dif_pos hvalid]
    simp only [Except.ok.injEq]
    constructor
    · rintro rfl
      rfl
    · intro h
      exact String.toByteArray_inj.mp h.symm
  · rw [dif_neg hvalid]
    simp only [reduceCtorEq, false_iff]
    intro h
    exact hvalid (h ▸ s.isValidUTF8)

/-- The bytes of a text are UTF-8. -/
theorem Utf8.decode_flatMap_utf8EncodeChar (s : String) :
    Utf8.decode (s.toList.flatMap String.utf8EncodeChar) = .ok s := by
  have hbytes : ByteArray.mk (s.toList.flatMap String.utf8EncodeChar).toArray = s.toByteArray := by
    rw [← String.utf8Encode_toList, List.utf8Encode]
    apply ByteArray.ext
    rw [List.data_toByteArray]
  exact (Utf8.decode_eq_ok_iff _ s).mpr hbytes.symm

namespace Percent

/-! ## One character -/

theorem decodeBytes_cons_of_ne {c : Char} (h : c ≠ '%') (rest : List Char) :
    decodeBytes (c :: rest) = String.utf8EncodeChar c ++ decodeBytes rest := by
  rw [decodeBytes]
  intro a b rest' hc
  exact absurd hc h

theorem decodeBytes_escape (b : UInt8) (rest : List Char) :
    decodeBytes (escape b ++ rest) = b :: decodeBytes rest := by
  have hb : b.toNat < 256 := b.toNat_lt
  have hhigh := Hex.digit?_upperDigit (b.toNat / 16) (by omega)
  have hlow := Hex.digit?_upperDigit (b.toNat % 16) (by omega)
  have hsum : b.toNat / 16 * 16 + b.toNat % 16 = b.toNat := by omega
  show decodeBytes ('%' :: Hex.upperDigit (b.toNat / 16) :: Hex.upperDigit (b.toNat % 16) :: rest) =
    _
  rw [decodeBytes]
  simp only [hhigh, hlow, hsum, UInt8.ofNat_toNat]

theorem decodeBytes_escapes (bytes : List UInt8) (rest : List Char) :
    decodeBytes (bytes.flatMap escape ++ rest) = bytes ++ decodeBytes rest := by
  induction bytes with
  | nil => rfl
  | cons b more ih =>
    rw [List.flatMap_cons, List.append_assoc, decodeBytes_escape, ih, List.cons_append]

theorem ne_percent_of_isPlain {c : Char} (h : isPlain c = true) : c ≠ '%' := by
  rintro rfl
  revert h
  decide

theorem decodeBytes_encodeChar (c : Char) (rest : List Char) :
    decodeBytes (encodeChar c ++ rest) = String.utf8EncodeChar c ++ decodeBytes rest := by
  unfold encodeChar
  split
  · next hplain => exact decodeBytes_cons_of_ne (ne_percent_of_isPlain hplain) rest
  · exact decodeBytes_escapes _ rest

/-! ## Whole texts -/

theorem decodeBytes_encodeChars (cs : List Char) :
    decodeBytes (encodeChars cs) = cs.flatMap String.utf8EncodeChar := by
  induction cs with
  | nil => rfl
  | cons c rest ih =>
    have hcons : encodeChars (c :: rest) = encodeChar c ++ encodeChars rest := rfl
    rw [hcons, decodeBytes_encodeChar, ih, List.flatMap_cons]

/-- Decoding undoes encoding. -/
theorem decode_encodeChars (s : String) : decode (encodeChars s.toList) = .ok s := by
  unfold decode
  rw [decodeBytes_encodeChars, Utf8.decode_flatMap_utf8EncodeChar]

theorem isPlain_upperDigit : ∀ n, n < 16 → isPlain (Hex.upperDigit n) = true := by decide

/-- The written form has only plain characters and the sign of an escape. -/
theorem mem_encodeChars {c : Char} {cs : List Char} (h : c ∈ encodeChars cs) :
    isPlain c = true ∨ c = '%' := by
  obtain ⟨d, -, hc⟩ := List.mem_flatMap.mp h
  unfold encodeChar at hc
  split at hc
  · next hplain =>
    left
    rw [List.mem_singleton.mp hc]
    exact hplain
  · obtain ⟨b, -, hb⟩ := List.mem_flatMap.mp hc
    have hlt : b.toNat < 256 := b.toNat_lt
    simp only [escape, List.mem_cons, List.not_mem_nil, or_false] at hb
    rcases hb with rfl | rfl | rfl
    · exact .inr rfl
    · exact .inl (isPlain_upperDigit _ (by omega))
    · exact .inl (isPlain_upperDigit _ (by omega))

/-- A character that is neither plain nor the sign of an escape is never written. -/
theorem not_mem_encodeChars {c : Char} (hplain : isPlain c = false) (hsign : c ≠ '%')
    (cs : List Char) : c ∉ encodeChars cs := by
  intro hc
  rcases mem_encodeChars hc with h | h
  · rw [hplain] at h
    cases h
  · exact hsign h

theorem encodeChar_ne_nil (c : Char) : encodeChar c ≠ [] := by
  unfold encodeChar
  split
  · simp
  · intro h
    obtain ⟨b, rest, hb⟩ := List.exists_cons_of_ne_nil (String.utf8EncodeChar_ne_nil (c := c))
    rw [hb, List.flatMap_cons] at h
    cases h

theorem encodeChars_eq_nil_iff (cs : List Char) : encodeChars cs = [] ↔ cs = [] := by
  cases cs with
  | nil => simp [encodeChars]
  | cons c rest =>
    have hcons : encodeChars (c :: rest) = encodeChar c ++ encodeChars rest := rfl
    rw [hcons]
    simp [encodeChar_ne_nil]

/-! ## What escapes stand for -/

/-- A row of characters spells a text: the bytes it stands for are the UTF-8 form of the text. -/
def Spells (cs : List Char) (s : String) : Prop := s.toByteArray = ⟨(decodeBytes cs).toArray⟩

theorem decode_eq_ok_iff (cs : List Char) (s : String) : decode cs = .ok s ↔ Spells cs s :=
  Utf8.decode_eq_ok_iff _ s

theorem decodeBytes_eq_nil_iff (cs : List Char) : decodeBytes cs = [] ↔ cs = [] := by
  unfold decodeBytes
  split
  · simp
  · split <;> simp
  · simp

/-- Only an empty row spells the empty text. -/
theorem spells_empty_iff (cs : List Char) : Spells cs "" ↔ cs = [] := by
  have hempty : "".toByteArray = ⟨#[]⟩ := rfl
  unfold Spells
  rw [hempty, ← decodeBytes_eq_nil_iff]
  simp

end Percent

end ClientWiring.Text
