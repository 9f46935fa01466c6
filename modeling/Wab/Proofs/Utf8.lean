import Wab.Text.Utf8

/-! # Reading texts from their bytes

Decoding undoes encoding, and nothing but what encoding gives is decoded. The first byte of a
sequence tells how many bytes follow and where the second one may lie, which leaves each character
one sequence only; both proofs go by the number of bytes of a character.

* **`Utf8.characters_utf8EncodeChar`** — one character is read back, whatever follows it.
* **`Utf8.cons_eq_of_next`** — one character is read from its bytes only.
* **`Text.surrogate?`** — the first surrogate of a text, which stands in the way of its bytes.
* **`Utf8.encode_eq_ok_iff`** — the texts that have bytes.
* **`Utf8.decode?_eq_some_iff`** — a text is read from its bytes only.
* **`Utf8.mem_of_mem_encode`** — no byte of ASCII is part of a longer sequence. -/

namespace Wab

namespace Utf8

/-- A byte in range goes into the character that is being read. -/
theorem follow_ofNat {n least greatest : Nat} (hn : n < 256) (hl : least ≤ n) (hg : n ≤ greatest)
    (bits following : Nat) (bytes : Bytes) :
    follow bits (following + 1) least greatest (UInt8.ofNat n :: bytes)
      = follow (bits * 64 + (n - 0x80)) following 0x80 0xBF bytes := by
  have hbyte : (UInt8.ofNat n).toNat = n := UInt8.toNat_ofNat_of_lt' hn
  rw [follow, hbyte, if_pos ⟨hl, hg⟩]

/-- A sequence that is complete is read as its character. -/
theorem characters_of_follow {n bits following least greatest : Nat} {c : Char}
    {bytes rest : Bytes}
    (hlead : Lead.ofByte? (UInt8.ofNat n) = some ⟨bits, following, least, greatest⟩)
    (hfollow : follow bits following least greatest bytes = (some c, rest)) :
    characters (UInt8.ofNat n :: bytes) = some c :: characters rest := by
  rw [characters, next, hlead]
  simp only [hfollow]

/-- The only byte of one. -/
theorem ofByte?_one {n : Nat} (hg : n < 0x80) :
    Lead.ofByte? (UInt8.ofNat n) = some ⟨n, 0, 0x80, 0xBF⟩ := by
  have hbyte : (UInt8.ofNat n).toNat = n := UInt8.toNat_ofNat_of_lt' (by simp [UInt8.size]; omega)
  simp only [Lead.ofByte?, hbyte]
  rw [if_pos hg]

/-- The first byte of two. -/
theorem ofByte?_two {n : Nat} (hl : 0xC2 ≤ n) (hg : n < 0xE0) :
    Lead.ofByte? (UInt8.ofNat n) = some ⟨n - 0xC0, 1, 0x80, 0xBF⟩ := by
  have hbyte : (UInt8.ofNat n).toNat = n := UInt8.toNat_ofNat_of_lt' (by simp [UInt8.size]; omega)
  simp only [Lead.ofByte?, hbyte]
  rw [if_neg (by omega), if_neg (by omega), if_pos hg]

/-- The first byte of three: the range of the second one leaves out overlong forms and
surrogates. -/
theorem ofByte?_three {n : Nat} (hl : 0xE0 ≤ n) (hg : n < 0xF0) :
    Lead.ofByte? (UInt8.ofNat n) = some ⟨n - 0xE0, 2, if n = 0xE0 then 0xA0 else 0x80,
      if n = 0xED then 0x9F else 0xBF⟩ := by
  have hbyte : (UInt8.ofNat n).toNat = n := UInt8.toNat_ofNat_of_lt' (by simp [UInt8.size]; omega)
  simp only [Lead.ofByte?, hbyte]
  rw [if_neg (by omega), if_neg (by omega), if_neg (by omega)]
  by_cases h0 : n = 0xE0
  · subst h0
    rfl
  · by_cases hD : n = 0xED
    · subst hD
      rfl
    · rw [if_neg h0, if_neg hD, if_pos hg, if_neg h0, if_neg hD]

/-- The first byte of four: the range of the second one leaves out overlong forms and numbers that
are too great. -/
theorem ofByte?_four {n : Nat} (hl : 0xF0 ≤ n) (hg : n ≤ 0xF4) :
    Lead.ofByte? (UInt8.ofNat n) = some ⟨n - 0xF0, 3, if n = 0xF0 then 0x90 else 0x80,
      if n = 0xF4 then 0x8F else 0xBF⟩ := by
  have hn : n = 0xF0 ∨ n = 0xF1 ∨ n = 0xF2 ∨ n = 0xF3 ∨ n = 0xF4 := by omega
  rcases hn with rfl | rfl | rfl | rfl | rfl <;> rfl

/-- No sequence begins with a byte that only goes on with one or that stands in none. -/
theorem ofByte?_none {n : Nat} (hn : 0x80 ≤ n ∧ n < 0xC2 ∨ 0xF4 < n ∧ n < 256) :
    Lead.ofByte? (UInt8.ofNat n) = none := by
  have hbyte : (UInt8.ofNat n).toNat = n := UInt8.toNat_ofNat_of_lt' (by simp [UInt8.size]; omega)
  simp only [Lead.ofByte?, hbyte]
  rcases hn with ⟨hl, hg⟩ | ⟨hl, hg⟩
  · rw [if_neg (by omega), if_pos hg]
  · rw [if_neg (by omega), if_neg (by omega), if_neg (by omega), if_neg (by omega),
      if_neg (by omega), if_neg (by omega), if_neg (by omega), if_neg (by omega),
      if_neg (by omega)]

/-- The character that a text begins with is read back from its bytes. -/
theorem characters_utf8EncodeChar (c : Char) (bytes : Bytes) :
    characters (String.utf8EncodeChar c ++ bytes) = some c :: characters bytes := by
  have hvalid : c.toNat < 0xD800 ∨ 0xDFFF < c.toNat ∧ c.toNat < 0x110000 := c.valid
  have hval : c.val.toNat = c.toNat := rfl
  have hread {v : Nat} (hv : v = c.toNat) (least greatest : Nat) :
      follow v 0 least greatest bytes = (some c, bytes) := by
    rw [follow, hv, Char.ofNat_toNat]
  simp only [String.utf8EncodeChar, hval]
  -- The proof goes by the number of bytes, so the character is only a number from here on.
  generalize c.toNat = v at hvalid hread
  by_cases h1 : v ≤ 0x7F
  · rw [if_pos h1]
    exact characters_of_follow (ofByte?_one (by omega)) (hread rfl _ _)
  rw [if_neg h1]
  by_cases h2 : v ≤ 0x7FF
  · rw [if_pos h2, List.cons_append, List.cons_append, List.nil_append]
    refine characters_of_follow (ofByte?_two (by omega) (by omega)) ?_
    rw [follow_ofNat (by omega) (by omega) (by omega)]
    exact hread (by omega) _ _
  rw [if_neg h2]
  by_cases h3 : v ≤ 0xFFFF
  · rw [if_pos h3, List.cons_append, List.cons_append, List.cons_append, List.nil_append]
    -- The second byte is never that of an overlong form or of a surrogate.
    refine characters_of_follow (ofByte?_three (by omega) (by omega)) ?_
    rw [follow_ofNat (by omega) (by split <;> omega) (by split <;> omega),
      follow_ofNat (by omega) (by omega) (by omega)]
    exact hread (by omega) _ _
  · rw [if_neg h3, List.cons_append, List.cons_append, List.cons_append, List.cons_append,
      List.nil_append]
    refine characters_of_follow (ofByte?_four (by omega) (by omega)) ?_
    rw [follow_ofNat (by omega) (by split <;> omega) (by split <;> omega),
      follow_ofNat (by omega) (by omega) (by omega), follow_ofNat (by omega) (by omega) (by omega)]
    exact hread (by omega) _ _

/-- The bytes of one character are read in front of any bytes, even if these are ill-formed. -/
theorem decodeLossy_utf8EncodeChar (c : Char) (bytes : Bytes) :
    decodeLossy (String.utf8EncodeChar c ++ bytes) = .scalar c :: decodeLossy bytes := by
  rw [decodeLossy, characters_utf8EncodeChar]
  rfl

/-- The bytes of characters are those of the first one and of the others. -/
theorem bytes_cons (c : Char) (s : List Char) :
    bytes (c :: s) = String.utf8EncodeChar c ++ bytes s := List.flatMap_cons

/-- The characters of the bytes of characters are these. -/
theorem characters_bytes (s : List Char) : characters (bytes s) = s.map some := by
  induction s with
  | nil => simp [bytes, characters]
  | cons c rest ih => rw [bytes_cons, characters_utf8EncodeChar, ih, List.map_cons]

/-- **Characters are read back from their bytes.** -/
theorem decode?_bytes (s : List Char) : decode? (bytes s) = some (s.map CodePoint.scalar) := by
  rw [decode?, characters_bytes]
  induction s with
  | nil => rfl
  | cons c rest ih =>
      rw [List.map_cons, List.mapM_cons, ih]
      rfl

/-! ## Which bytes are read -/

/-- A sequence that goes on takes a byte in range. -/
theorem exists_of_follow_succ {bits following least greatest : Nat} {c : Char}
    {bytes rest : Bytes} (h : follow bits (following + 1) least greatest bytes = (some c, rest)) :
    ∃ n more, bytes = UInt8.ofNat n :: more ∧ least ≤ n ∧ n ≤ greatest
      ∧ follow (bits * 64 + (n - 0x80)) following 0x80 0xBF more = (some c, rest) := by
  cases bytes with
  | nil => exact absurd h (by simp [follow])
  | cons byte more =>
      rw [follow] at h
      split at h
      next hrange =>
        exact ⟨byte.toNat, more, by rw [UInt8.ofNat_toNat], hrange.1, hrange.2, h⟩
      next => exact absurd h (by simp)

/-- A sequence that is complete is a character. -/
theorem eq_of_follow_zero {bits least greatest : Nat} {c : Char} {bytes rest : Bytes}
    (h : follow bits 0 least greatest bytes = (some c, rest)) :
    c = Char.ofNat bits ∧ bytes = rest := by
  rw [follow] at h
  obtain ⟨hc, hrest⟩ := Prod.mk.inj h
  exact ⟨(Option.some.inj hc).symm, hrest⟩

/-- The bytes of the character of a number. -/
theorem utf8EncodeChar_ofNat {v : Nat} (h : v.isValidChar) :
    String.utf8EncodeChar (Char.ofNat v)
      = if v ≤ 0x7F then [UInt8.ofNat v]
        else if v ≤ 0x7FF then [UInt8.ofNat (v / 64 % 32 + 192), UInt8.ofNat (v % 64 + 128)]
        else if v ≤ 0xFFFF then
          [UInt8.ofNat (v / 4096 % 16 + 224), UInt8.ofNat (v / 64 % 64 + 128),
            UInt8.ofNat (v % 64 + 128)]
        else [UInt8.ofNat (v / 262144 % 8 + 240), UInt8.ofNat (v / 4096 % 64 + 128),
          UInt8.ofNat (v / 64 % 64 + 128), UInt8.ofNat (v % 64 + 128)] := by
  have hval : (Char.ofNat v).val.toNat = v := by
    rw [Char.ofNat, dif_pos h]
    rfl
  rw [String.utf8EncodeChar, hval]

/-- What follows the first byte is read as that byte announces. -/
theorem next_of_ofByte? {byte : UInt8} {bits following least greatest : Nat}
    (h : Lead.ofByte? byte = some ⟨bits, following, least, greatest⟩) (bytes : Bytes) :
    next byte bytes = follow bits following least greatest bytes := by
  rw [next, h]

/-- **A character that is read is read from its bytes.** -/
theorem cons_eq_of_next {byte : UInt8} {bytes rest : Bytes} {c : Char}
    (h : next byte bytes = (some c, rest)) : byte :: bytes = String.utf8EncodeChar c ++ rest := by
  obtain ⟨n, hn, rfl⟩ : ∃ n < 256, byte = UInt8.ofNat n :=
    ⟨byte.toNat, byte.toNat_lt, UInt8.ofNat_toNat.symm⟩
  have hlead : n < 0x80 ∨ 0xC2 ≤ n ∧ n < 0xE0 ∨ 0xE0 ≤ n ∧ n < 0xF0 ∨ 0xF0 ≤ n ∧ n ≤ 0xF4
      ∨ (0x80 ≤ n ∧ n < 0xC2 ∨ 0xF4 < n ∧ n < 256) := by
    omega
  -- The first byte gives the number of bytes; the range of the second one shows that there is no
  -- shorter sequence for the character and that it is no surrogate.
  rcases hlead with hone | ⟨hl, hg⟩ | ⟨hl, hg⟩ | ⟨hl, hg⟩ | hnone
  · rw [next_of_ofByte? (ofByte?_one hone)] at h
    obtain ⟨hc, rfl⟩ := eq_of_follow_zero h
    rw [hc, utf8EncodeChar_ofNat (Or.inl (by omega)), if_pos (by omega)]
    rfl
  · rw [next_of_ofByte? (ofByte?_two hl hg)] at h
    obtain ⟨b, bytes, rfl, hbl, hbg, h⟩ := exists_of_follow_succ h
    obtain ⟨hc, rfl⟩ := eq_of_follow_zero h
    generalize hv : (n - 0xC0) * 64 + (b - 0x80) = v at hc
    rw [hc, utf8EncodeChar_ofNat (Or.inl (by omega)), if_neg (by omega), if_pos (by omega),
      show v / 64 % 32 + 192 = n by omega, show v % 64 + 128 = b by omega]
    rfl
  · rw [next_of_ofByte? (ofByte?_three hl hg)] at h
    obtain ⟨b, bytes, rfl, hbl, hbg, h⟩ := exists_of_follow_succ h
    obtain ⟨d, bytes, rfl, hdl, hdg, h⟩ := exists_of_follow_succ h
    obtain ⟨hc, rfl⟩ := eq_of_follow_zero h
    generalize hv : ((n - 0xE0) * 64 + (b - 0x80)) * 64 + (d - 0x80) = v at hc
    have hvalid : 0x800 ≤ v ∧ (v < 0xD800 ∨ 0xDFFF < v) := by
      split at hbl <;> split at hbg <;> omega
    have hb : 0x80 ≤ b ∧ b ≤ 0xBF := by
      split at hbl <;> split at hbg <;> omega
    rw [hc, utf8EncodeChar_ofNat (hvalid.2.imp_right (⟨·, by omega⟩)), if_neg (by omega),
      if_neg (by omega), if_pos (by omega), show v / 4096 % 16 + 224 = n by omega,
      show v / 64 % 64 + 128 = b by omega, show v % 64 + 128 = d by omega]
    rfl
  · rw [next_of_ofByte? (ofByte?_four hl hg)] at h
    obtain ⟨b, bytes, rfl, hbl, hbg, h⟩ := exists_of_follow_succ h
    obtain ⟨d, bytes, rfl, hdl, hdg, h⟩ := exists_of_follow_succ h
    obtain ⟨e, bytes, rfl, hel, heg, h⟩ := exists_of_follow_succ h
    obtain ⟨hc, rfl⟩ := eq_of_follow_zero h
    generalize hv : (((n - 0xF0) * 64 + (b - 0x80)) * 64 + (d - 0x80)) * 64 + (e - 0x80) = v at hc
    have hb : 0x80 ≤ b ∧ b ≤ 0xBF := by
      split at hbl <;> split at hbg <;> omega
    have hvalid : 0x10000 ≤ v ∧ v < 0x110000 := by
      split at hbl <;> split at hbg <;> omega
    rw [hc, utf8EncodeChar_ofNat (Or.inr ⟨by omega, hvalid.2⟩), if_neg (by omega),
      if_neg (by omega), if_neg (by omega), show v / 262144 % 8 + 240 = n by omega,
      show v / 4096 % 64 + 128 = b by omega, show v / 64 % 64 + 128 = d by omega,
      show v % 64 + 128 = e by omega]
    rfl
  · rw [next, ofByte?_none hnone] at h
    exact absurd h (by simp)

/-- Bytes are read character by character. -/
theorem decode?_cons_eq_some {byte : UInt8} {bytes : Bytes} {s : Text}
    (h : decode? (byte :: bytes) = some s) :
    ∃ c t, (next byte bytes).1 = some c ∧ decode? (next byte bytes).2 = some t
      ∧ s = .scalar c :: t := by
  rw [decode?, characters, List.mapM_cons] at h
  obtain ⟨first, hfirst, h⟩ := Option.bind_eq_some_iff.1 h
  obtain ⟨t, ht, h⟩ := Option.bind_eq_some_iff.1 h
  obtain ⟨c, hc, rfl⟩ := Option.map_eq_some_iff.1 hfirst
  exact ⟨c, t, hc, ht, (Option.some.inj h).symm⟩

/-- Only the bytes of characters are read, and they are read as these. -/
theorem exists_of_decode? {bytes : Bytes} {s : Text} (h : decode? bytes = some s) :
    ∃ chars : List Char, s = chars.map CodePoint.scalar ∧ bytes = Utf8.bytes chars := by
  induction bytes using characters.induct generalizing s with
  | case1 =>
      rw [decode?, characters, List.mapM_nil] at h
      exact ⟨[], (Option.some.inj h).symm, rfl⟩
  | case2 byte bytes ih =>
      obtain ⟨c, t, hc, ht, rfl⟩ := decode?_cons_eq_some h
      obtain ⟨chars, rfl, hbytes⟩ := ih ht
      refine ⟨c :: chars, rfl, ?_⟩
      rw [bytes_cons, ← hbytes, ← cons_eq_of_next (Prod.ext hc rfl)]

/-! ## The bytes of a text -/

/-- Characters have bytes whatever the surrogates stand for and wherever they begin. -/
theorem encodeFrom_map_scalar (byte? : Fin 0x800 → Option UInt8) (place : Nat) (s : List Char) :
    encodeFrom byte? place (s.map CodePoint.scalar) = .ok (bytes s) := by
  induction s generalizing place with
  | nil => rfl
  | cons c s ih =>
      rw [List.map_cons, encodeFrom, ih, bytes_cons]
      rfl

/-- The bytes of a text of characters are those of the characters. -/
@[simp] theorem encode_map_scalar (s : List Char) :
    encode (s.map CodePoint.scalar) = .ok (bytes s) := encodeFrom_map_scalar _ 0 s

/-- The first surrogate stands in the way of the bytes of a text. -/
theorem encode_map_scalar_append (s : List Char) (n : Fin 0x800) (rest : Text) :
    encode (s.map CodePoint.scalar ++ .surrogate n :: rest)
      = .error ⟨s.length, n, (rest.takeWhile CodePoint.isSurrogate).length⟩ := by
  have hplace (place : Nat) :
      encodeFrom (fun _ => none) place (s.map CodePoint.scalar ++ .surrogate n :: rest)
        = .error ⟨place + s.length, n, (rest.takeWhile CodePoint.isSurrogate).length⟩ := by
    induction s generalizing place with
    | nil => rfl
    | cons c s ih =>
        rw [List.map_cons, List.cons_append, encodeFrom, ih, List.length_cons,
          Nat.add_assoc, Nat.add_comm 1]
        rfl
  rw [encode, hplace, Nat.zero_add]

end Utf8

/-- The surrogate that a code point is. -/
def CodePoint.surrogate? : CodePoint → Option (Fin 0x800)
  | .scalar _ => none
  | .surrogate n => some n

/-- The first surrogate of a text. -/
def Text.surrogate? (s : Text) : Option (Fin 0x800) := s.findSome? CodePoint.surrogate?

namespace Text

/-- A text without surrogates consists of characters. -/
theorem surrogate?_eq_none_iff {s : Text} :
    surrogate? s = none ↔ ∃ chars : List Char, s = chars.map CodePoint.scalar := by
  constructor
  · intro h
    induction s with
    | nil => exact ⟨[], rfl⟩
    | cons c s ih =>
        cases c with
        | scalar c =>
            obtain ⟨chars, rfl⟩ := ih h
            exact ⟨c :: chars, rfl⟩
        | surrogate n => exact absurd h (by simp [surrogate?, CodePoint.surrogate?])
  · rintro ⟨chars, rfl⟩
    simp [surrogate?, CodePoint.surrogate?]

/-- The first surrogate of a text comes behind characters. -/
theorem surrogate?_eq_some_iff {s : Text} {n : Fin 0x800} :
    surrogate? s = some n
      ↔ ∃ (chars : List Char) (rest : Text),
        s = chars.map CodePoint.scalar ++ .surrogate n :: rest := by
  constructor
  · intro h
    induction s with
    | nil => exact absurd h (by simp [surrogate?])
    | cons c s ih =>
        cases c with
        | scalar c =>
            obtain ⟨chars, rest, rfl⟩ := ih h
            exact ⟨c :: chars, rest, rfl⟩
        | surrogate m =>
            obtain rfl : m = n := Option.some.inj h
            exact ⟨[], s, rfl⟩
  · rintro ⟨chars, rest, rfl⟩
    have hchars : surrogate? (chars.map CodePoint.scalar) = none :=
      surrogate?_eq_none_iff.2 ⟨chars, rfl⟩
    rw [surrogate?, List.findSome?_append, ← surrogate?, hchars]
    rfl

/-- The first surrogate of two texts is that of the first one, or else that of the second one. -/
theorem surrogate?_append (s t : Text) : surrogate? (s ++ t) = (surrogate? s).or (surrogate? t) :=
  List.findSome?_append

/-- A text has no surrogate if none of its code points is one. -/
theorem surrogate?_eq_none_iff_forall {s : Text} :
    surrogate? s = none ↔ ∀ c ∈ s, c.surrogate? = none := List.findSome?_eq_none_iff

theorem surrogate?_append_eq_none_iff {s t : Text} :
    surrogate? (s ++ t) = none ↔ surrogate? s = none ∧ surrogate? t = none := by
  rw [surrogate?_append, Option.or_eq_none_iff]

theorem surrogate?_cons_eq_none_iff {c : CodePoint} {s : Text} :
    surrogate? (c :: s) = none ↔ c.surrogate? = none ∧ surrogate? s = none := by
  simp only [surrogate?_eq_none_iff_forall, List.forall_mem_cons]

end Text

namespace Utf8

/-- **A text has bytes** if and only if it consists of characters, and these are theirs. -/
theorem encode_eq_ok_iff {s : Text} {bytes : Bytes} :
    encode s = .ok bytes
      ↔ ∃ chars : List Char, s = chars.map CodePoint.scalar ∧ bytes = Utf8.bytes chars := by
  constructor
  · intro h
    cases hs : Text.surrogate? s with
    | none =>
        obtain ⟨chars, rfl⟩ := Text.surrogate?_eq_none_iff.1 hs
        rw [encode_map_scalar] at h
        exact ⟨chars, rfl, (Except.ok.inj h).symm⟩
    | some n =>
        obtain ⟨chars, rest, rfl⟩ := Text.surrogate?_eq_some_iff.1 hs
        rw [encode_map_scalar_append] at h
        exact absurd h (by simp)
  · rintro ⟨chars, rfl, rfl⟩
    exact encode_map_scalar chars

/-- There is no surrogate in a text that has bytes. -/
theorem surrogate?_of_encode {s : Text} {bytes : Bytes} (h : encode s = .ok bytes) :
    Text.surrogate? s = none := by
  obtain ⟨chars, hchars, -⟩ := encode_eq_ok_iff.1 h
  exact Text.surrogate?_eq_none_iff.2 ⟨chars, hchars⟩

/-- **A text is read from its bytes only.** -/
theorem decode?_eq_some_iff {bytes : Bytes} {s : Text} :
    decode? bytes = some s ↔ encode s = .ok bytes := by
  rw [encode_eq_ok_iff]
  refine ⟨exists_of_decode?, ?_⟩
  rintro ⟨chars, rfl, rfl⟩
  exact decode?_bytes chars

end Utf8

/-- The number of bytes of a code point; a surrogate has none. -/
def CodePoint.width : CodePoint → Nat
  | .scalar c => c.utf8Size
  | .surrogate _ => 0

theorem CodePoint.width_le_four (c : CodePoint) : c.width ≤ 4 := by
  cases c with
  | scalar c => exact c.utf8Size_le_four
  | surrogate n => exact Nat.zero_le 4

/-- The number of bytes of a text; its surrogates are left out. -/
def Text.byteLength (s : Text) : Nat := s.foldr (fun c n => c.width + n) 0

namespace Text

@[simp] theorem byteLength_nil : byteLength [] = 0 := rfl

@[simp] theorem byteLength_cons (c : CodePoint) (s : Text) :
    byteLength (c :: s) = c.width + byteLength s := rfl

theorem byteLength_append (s t : Text) : byteLength (s ++ t) = byteLength s + byteLength t := by
  induction s with
  | nil => exact (Nat.zero_add _).symm
  | cons c s ih => rw [List.cons_append, byteLength_cons, ih, byteLength_cons, Nat.add_assoc]

end Text

namespace Utf8

/-- A text takes as many bytes as its characters. -/
theorem length_of_encode {s : Text} {bytes : Bytes} (h : encode s = .ok bytes) :
    bytes.length = Text.byteLength s := by
  obtain ⟨chars, rfl, rfl⟩ := encode_eq_ok_iff.1 h
  clear h
  induction chars with
  | nil => rfl
  | cons c chars ih =>
      rw [bytes_cons, List.length_append, String.length_utf8EncodeChar, ih, List.map_cons,
        Text.byteLength_cons]
      rfl

/-- What holds of the number of bytes of a text. -/
theorem exists_encode_iff {s : Text} {P : Nat → Prop} :
    (∃ bytes, encode s = .ok bytes ∧ P bytes.length)
      ↔ Text.surrogate? s = none ∧ P (Text.byteLength s) := by
  constructor
  · rintro ⟨bytes, hbytes, h⟩
    rw [length_of_encode hbytes] at h
    exact ⟨surrogate?_of_encode hbytes, h⟩
  · rintro ⟨hnone, h⟩
    obtain ⟨chars, rfl⟩ := Text.surrogate?_eq_none_iff.1 hnone
    have hbytes := encode_map_scalar chars
    rw [← length_of_encode hbytes] at h
    exact ⟨_, hbytes, h⟩

/-- A text has bytes for which there is room if it has no surrogate and takes no more. -/
theorem exists_encode_le_iff {s : Text} {room : Nat} :
    (∃ bytes, encode s = .ok bytes ∧ bytes.length ≤ room)
      ↔ Text.surrogate? s = none ∧ Text.byteLength s ≤ room := exists_encode_iff (P := (· ≤ room))

/-- A text has bytes for which there is no room if it has no surrogate and takes more. -/
theorem exists_lt_encode_iff {s : Text} {room : Nat} :
    (∃ bytes, encode s = .ok bytes ∧ room < bytes.length)
      ↔ Text.surrogate? s = none ∧ room < Text.byteLength s := exists_encode_iff (P := (room < ·))

/-- The bytes of two texts are those of the first one and those of the second one. -/
theorem encode_append_eq_ok_iff {s t : Text} {written : Bytes} :
    encode (s ++ t) = .ok written
      ↔ ∃ start rest, encode s = .ok start ∧ encode t = .ok rest ∧ written = start ++ rest := by
  simp only [encode_eq_ok_iff]
  constructor
  · rintro ⟨chars, hchars, rfl⟩
    obtain ⟨front, back, rfl, rfl, rfl⟩ := List.map_eq_append_iff.1 hchars.symm
    exact ⟨_, _, ⟨front, rfl, rfl⟩, ⟨back, rfl, rfl⟩, List.flatMap_append⟩
  · rintro ⟨_, _, ⟨front, rfl, rfl⟩, ⟨back, rfl, rfl⟩, rfl⟩
    exact ⟨front ++ back, List.map_append.symm, List.flatMap_append.symm⟩

/-- A byte of ASCII is the number of a character of the text and no part of a longer sequence. -/
theorem mem_of_mem_encode {s : Text} {bytes : Bytes} (hs : encode s = .ok bytes) {n : Nat}
    (hn : n < 0x80) (h : UInt8.ofNat n ∈ bytes) : .scalar (Char.ofNat n) ∈ s := by
  obtain ⟨chars, rfl, rfl⟩ := encode_eq_ok_iff.1 hs
  obtain ⟨c, hc, hbyte⟩ := List.mem_flatMap.1 h
  refine List.mem_map.2 ⟨_, ?_, rfl⟩
  have hvalid : c.toNat < 0x110000 := by
    rcases c.valid with hlow | ⟨-, hhigh⟩
    · exact Nat.lt_trans hlow (by decide)
    · exact hhigh
  have hsame {m : Nat} (hm : m < 256) (h : UInt8.ofNat n = UInt8.ofNat m) : n = m := by
    have hnat := congrArg UInt8.toNat h
    rwa [UInt8.toNat_ofNat_of_lt' (by simp [UInt8.size]; omega),
      UInt8.toNat_ofNat_of_lt' (by simp [UInt8.size]; omega)] at hnat
  suffices hnumber : n = c.toNat by rwa [hnumber, Char.ofNat_toNat]
  simp only [String.utf8EncodeChar, show c.val.toNat = c.toNat from rfl] at hbyte
  generalize c.toNat = v at hvalid hbyte
  -- The bytes of longer sequences are all greater.
  split at hbyte
  · exact hsame (by omega) (List.mem_singleton.1 hbyte)
  split at hbyte
  · simp only [List.mem_cons, List.not_mem_nil, or_false] at hbyte
    rcases hbyte with hb | hb <;> have hnat := hsame (by omega) hb <;> omega
  split at hbyte
  · simp only [List.mem_cons, List.not_mem_nil, or_false] at hbyte
    rcases hbyte with hb | hb | hb <;> have hnat := hsame (by omega) hb <;> omega
  · simp only [List.mem_cons, List.not_mem_nil, or_false] at hbyte
    rcases hbyte with hb | hb | hb | hb <;> have hnat := hsame (by omega) hb <;> omega

end Utf8

end Wab
