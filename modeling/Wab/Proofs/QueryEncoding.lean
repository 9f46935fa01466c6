import Wab.Proofs.Utf8
import Wab.Query.Encoding

/-! # What decoding a query undoes

A text is encoded character by character: one that a query may hold stands as it is or as the
escapes of its bytes, any other one as the escapes of its bytes. Whichever choice is made at each
character, the query is legal and decoding it gives the text: a run of characters of ASCII never
begins or ends inside the bytes of a character.

* **`Query.Encodes s t`** — the text `t` is an encoding of `s`.
* **`Query.unescape_append`** — the encoding of one character is resolved in front of any text.
* **`Query.clear_of_encodes`** — decoding gives back what was encoded. -/

namespace Wab.Query

/-- A hexadecimal digit of a number below sixteen, in either letter case. -/
def IsDigitOf (n : Nat) (c : CodePoint) : Prop :=
  c = Nat.digitChar n ∨ c = (Nat.digitChar n).toUpper

/-- The escapes of bytes: a percent sign and two hexadecimal digits for each. -/
inductive Escapes : Bytes → Text → Prop where
  /-- No byte. -/
  | nil : Escapes [] []
  /-- One more byte in front. -/
  | cons {byte : UInt8} {bytes : Bytes} {high low : CodePoint} {t : Text}
    (hhigh : IsDigitOf (byte.toNat / 16) high) (hlow : IsDigitOf (byte.toNat % 16) low)
    (hrest : Escapes bytes t) : Escapes (byte :: bytes) (.scalar '%' :: high :: low :: t)

/-- The second text is an encoding of the first one. -/
inductive Encodes : Text → Text → Prop where
  /-- Nothing. -/
  | nil : Encodes [] []
  /-- A code point that a query may hold stands as it is. -/
  | raw {c : CodePoint} {s t : Text} (hraw : isRaw c = true) (hrest : Encodes s t) :
    Encodes (c :: s) (c :: t)
  /-- Any character stands as the escapes of its bytes. -/
  | escaped {c : Char} {e s t : Text} (hescapes : Escapes (String.utf8EncodeChar c) e)
    (hrest : Encodes s t) : Encodes (.scalar c :: s) (e ++ t)

/-- The encodings of two texts are one of both. -/
theorem Encodes.append {s t s' t' : Text} (h : Encodes s t) (h' : Encodes s' t') :
    Encodes (s ++ s') (t ++ t') := by
  induction h with
  | nil => exact h'
  | raw hraw _ ih => exact .raw hraw ih
  | escaped hescapes _ ih =>
      rw [List.append_assoc]
      exact .escaped hescapes ih

/-- Bytes have escapes. -/
theorem exists_escapes (bytes : Bytes) : ∃ t, Escapes bytes t := by
  induction bytes with
  | nil => exact ⟨[], .nil⟩
  | cons byte bytes ih =>
      obtain ⟨t, ht⟩ := ih
      exact ⟨_, .cons (Or.inl rfl) (Or.inl rfl) ht⟩

/-- A surrogate may stand in a query as it is. -/
theorem isRaw_surrogate (n : Fin 0x800) : isRaw (.surrogate n) = true := by
  have hlarge : 0xD800 ≤ (CodePoint.surrogate n).toNat := Nat.le_add_right 0xD800 n
  have hbeyond : 0x9F < (CodePoint.surrogate n).toNat := by omega
  have hfilled : Text.isBlank (.surrogate n) = false := by
    simp only [Text.isBlank, Bool.or_eq_false_iff, Bool.and_eq_false_iff, decide_eq_false_iff_not,
      beq_eq_false_iff_ne]
    omega
  rw [isRaw, hfilled, decide_eq_true hbeyond, Bool.not_false, Bool.and_true, Bool.or_true]

/-- Every text has an encoding. -/
theorem exists_encodes (s : Text) : ∃ t, Encodes s t := by
  induction s with
  | nil => exact ⟨[], .nil⟩
  | cons c s ih =>
      obtain ⟨t, ht⟩ := ih
      cases c with
      | scalar c =>
          obtain ⟨e, he⟩ := exists_escapes (String.utf8EncodeChar c)
          exact ⟨e ++ t, .escaped he ht⟩
      | surrogate n => exact ⟨_, .raw (isRaw_surrogate n) ht⟩

/-! ## Hexadecimal digits -/

/-- What holds of a hexadecimal digit of a value. -/
structure Reads (n : Nat) (c : CodePoint) : Prop where
  /-- It is a digit. -/
  digit : isHexDigit c = true
  /-- It has this value. -/
  value : hexValue c = n
  /-- It is a character of ASCII. -/
  ascii : isAscii c = true

instance (n : Nat) (c : CodePoint) : Decidable (Reads n c) :=
  decidable_of_iff (isHexDigit c = true ∧ hexValue c = n ∧ isAscii c = true)
    ⟨fun ⟨digit, value, ascii⟩ => ⟨digit, value, ascii⟩,
      fun ⟨digit, value, ascii⟩ => ⟨digit, value, ascii⟩⟩

/-- The digits of the numbers below sixteen have their values. -/
theorem reads_digitChar :
    ∀ n < 16, Reads n (Nat.digitChar n) ∧ Reads n (Nat.digitChar n).toUpper := by
  decide

/-- A digit of a number has its value. -/
theorem IsDigitOf.reads {n : Nat} {c : CodePoint} (h : IsDigitOf n c) (hn : n < 16) :
    Reads n c := by
  obtain ⟨hsmall, hcapital⟩ := reads_digitChar n hn
  rcases h with rfl | rfl
  · exact hsmall
  · exact hcapital

/-- The two digits of a byte have the values of its halves. -/
theorem reads_of_byte {byte : UInt8} {high low : CodePoint}
    (hhigh : IsDigitOf (byte.toNat / 16) high) (hlow : IsDigitOf (byte.toNat % 16) low) :
    Reads (byte.toNat / 16) high ∧ Reads (byte.toNat % 16) low := by
  have hbyte : byte.toNat < 256 := byte.toNat_lt
  exact ⟨hhigh.reads (by omega), hlow.reads (by omega)⟩

/-! ## Escapes -/

/-- Escapes are characters of ASCII. -/
theorem Escapes.isAscii {bytes : Bytes} {e : Text} (h : Escapes bytes e) :
    ∀ c ∈ e, isAscii c = true := by
  induction h with
  | nil => exact fun c hc => absurd hc List.not_mem_nil
  | @cons byte bytes high low t hhigh hlow _ ih =>
      obtain ⟨hhighReads, hlowReads⟩ := reads_of_byte hhigh hlow
      intro c hc
      rcases List.mem_cons.1 hc with rfl | hc
      · decide
      rcases List.mem_cons.1 hc with rfl | hc
      · exact hhighReads.ascii
      rcases List.mem_cons.1 hc with rfl | hc
      · exact hlowReads.ascii
      · exact ih c hc

/-- Escapes leave a query as legal as what follows them. -/
theorem Escapes.isEncoded_append {bytes : Bytes} {e : Text} (h : Escapes bytes e) (t : Text) :
    isEncoded (e ++ t) = isEncoded t := by
  induction h with
  | nil => rfl
  | @cons byte bytes high low rest hhigh hlow _ ih =>
      obtain ⟨hhighReads, hlowReads⟩ := reads_of_byte hhigh hlow
      show isEncoded (.scalar '%' :: high :: low :: (rest ++ t)) = isEncoded t
      rw [isEncoded, hhighReads.digit, hlowReads.digit, ih]
      rfl

/-- Escapes stand for their bytes. -/
theorem Escapes.unescapeBytes_append {bytes : Bytes} {e : Text} (h : Escapes bytes e) (t : Text) :
    unescapeBytes (e ++ t) = bytes ++ unescapeBytes t := by
  induction h with
  | nil => rfl
  | @cons byte bytes high low rest hhigh hlow _ ih =>
      obtain ⟨hhighReads, hlowReads⟩ := reads_of_byte hhigh hlow
      have hvalue : hexValue high * 16 + hexValue low = byte.toNat := by
        rw [hhighReads.value, hlowReads.value]
        omega
      show unescapeBytes (.scalar '%' :: high :: low :: (rest ++ t))
        = byte :: (bytes ++ unescapeBytes t)
      rw [unescapeBytes, hhighReads.digit, hlowReads.digit, hvalue, UInt8.ofNat_toNat, ih]
      rfl

/-! ## Raw characters -/

/-- The percent sign begins an escape and is no raw character. -/
theorem ne_percent_of_isRaw {c : CodePoint} (h : isRaw c = true) : c ≠ '%' := by
  rintro rfl
  exact absurd h (by decide)

/-- A raw character leaves a query as legal as what follows it. -/
theorem isEncoded_cons_of_isRaw {c : CodePoint} (h : isRaw c = true) (t : Text) :
    isEncoded (c :: t) = isEncoded t := by
  have hne := ne_percent_of_isRaw h
  rw [isEncoded]
  · rw [h, Bool.true_and]
  · intro a b rest hc
    exact absurd hc hne

/-- A character that begins no escape stands for its own byte. -/
theorem unescapeBytes_cons_of_ne {c : CodePoint} (h : c ≠ '%') (t : Text) :
    unescapeBytes (c :: t) = UInt8.ofNat c.toNat :: unescapeBytes t := by
  rw [unescapeBytes]
  intro a b rest hc
  exact absurd hc h

/-- A character of ASCII has one byte. -/
theorem utf8EncodeChar_of_isAscii {c : Char} (h : isAscii c = true) :
    String.utf8EncodeChar c = [UInt8.ofNat c.toNat] := by
  have hle : c.toNat ≤ 0x7F := Nat.le_of_lt_succ (of_decide_eq_true h)
  have hval : c.val.toNat = c.toNat := rfl
  simp only [String.utf8EncodeChar, hval]
  rw [if_pos hle]

/-- A code point of ASCII is a character. -/
theorem exists_of_isAscii {c : CodePoint} (h : isAscii c = true) : ∃ d, c = .scalar d :=
  CodePoint.exists_of_toNat_lt (Nat.lt_trans (of_decide_eq_true h) (by decide))

/-! ## Decoding -/

/-- The escapes of a text are resolved run by run. -/
theorem unescape_eq (t : Text) :
    unescape t = Utf8.decodeLossy (unescapeBytes (t.takeWhile isAscii))
      ++ unescape (t.dropWhile isAscii) := by
  have hempty : Utf8.decodeLossy (unescapeBytes []) = [] := by
    rw [unescapeBytes, Utf8.decodeLossy, Utf8.characters]
    rfl
  cases t with
  | nil => rw [List.takeWhile_nil, hempty, List.dropWhile_nil, List.nil_append]
  | cons c rest =>
      by_cases hc : isAscii c = true
      · rw [unescape, if_pos hc, List.takeWhile_cons_of_pos hc, List.dropWhile_cons_of_pos hc]
      · rw [List.takeWhile_cons_of_neg hc, List.dropWhile_cons_of_neg hc, hempty, List.nil_append]

/-- **One character is resolved in front of any text**, if its encoding is of ASCII and stands for
its bytes. -/
theorem unescape_append {c : Char} {e : Text} (hascii : ∀ d ∈ e, isAscii d = true)
    (hbytes : ∀ t, unescapeBytes (e ++ t) = String.utf8EncodeChar c ++ unescapeBytes t)
    (t : Text) : unescape (e ++ t) = .scalar c :: unescape t := by
  -- The run that the encoding begins goes on with the run that the rest begins with.
  rw [unescape_eq (e ++ t), List.takeWhile_append_of_pos hascii,
    List.dropWhile_append_of_pos hascii, hbytes, Utf8.decodeLossy_utf8EncodeChar, List.cons_append,
    ← unescape_eq t]

/-- An encoding is made of raw characters and escapes. -/
theorem isEncoded_of_encodes {s t : Text} (h : Encodes s t) : isEncoded t = true := by
  induction h with
  | nil => rfl
  | raw hraw _ ih => rw [isEncoded_cons_of_isRaw hraw, ih]
  | escaped hescapes _ ih => rw [hescapes.isEncoded_append, ih]

/-- The escapes of an encoding are those of the text. -/
theorem unescape_of_encodes {s t : Text} (h : Encodes s t) : unescape t = s := by
  induction h with
  | nil => exact unescape_nil
  | @raw c s t hraw _ ih =>
      by_cases hc : isAscii c = true
      · obtain ⟨c, rfl⟩ := exists_of_isAscii hc
        have hbytes : ∀ t, unescapeBytes ([.scalar c] ++ t)
            = String.utf8EncodeChar c ++ unescapeBytes t := by
          intro t
          rw [utf8EncodeChar_of_isAscii hc]
          exact unescapeBytes_cons_of_ne (ne_percent_of_isRaw hraw) t
        have hascii : ∀ d ∈ [CodePoint.scalar c], isAscii d = true := by
          intro d hd
          rwa [List.mem_singleton.1 hd]
        rw [← ih]
        exact unescape_append hascii hbytes t
      · rw [unescape, if_neg hc, ih]
  | @escaped c e s t hescapes _ ih =>
      rw [unescape_append hescapes.isAscii hescapes.unescapeBytes_append, ih]

/-- **Decoding gives back what was encoded.** -/
theorem clear_of_encodes {s t : Text} (h : Encodes s t) : clear t = s := by
  have hlegal : isLegal t = true := by
    rw [isLegal, isEncoded_of_encodes h, Bool.true_or]
  rw [clear, if_pos hlegal, unescape_of_encodes h]

end Wab.Query
