import Wab.Proofs.HeaderName
import Wab.Proofs.QueryEncoding
import Wab.Proofs.Replacements

/-! # What a query is decoded to

A query that is made of raw characters and escapes is decoded run by run: between other characters
the characters of ASCII and the escapes stand for bytes, which are read as UTF-8. Any other query
stays as it is. One that would be legal but for a line feed at its end is decoded all the same, as
the pattern that tells legal queries takes the end of a line for the end of the query.

* **`Query.MadeOf`** — a text of some characters and escapes.
* **`Query.Resolves`** — the text that a query is decoded to.
* **`Query.resolves_iff`** — it is the one that decoding gives.
* **`Query.decode_resolves`** — which queries are decoded. -/

namespace Wab.Query

/-! ## Legal queries -/

/-- A hexadecimal digit. -/
def IsDigit (c : CodePoint) : Prop := ∃ n < 16, IsDigitOf n c

/-- The text is made of characters of a kind and of escapes. -/
inductive MadeOf (kind : CodePoint → Prop) : Text → Prop where
  /-- Nothing. -/
  | nil : MadeOf kind []
  /-- A character of this kind. -/
  | char {c : CodePoint} {t : Text} (hc : kind c) (hrest : MadeOf kind t) : MadeOf kind (c :: t)
  /-- An escape. -/
  | escape {high low : CodePoint} {t : Text} (hhigh : IsDigit high) (hlow : IsDigit low)
    (hrest : MadeOf kind t) : MadeOf kind (.scalar '%' :: high :: low :: t)

/-- The query is made of raw characters and escapes. -/
def Legal (query : Text) : Prop := MadeOf (fun c => isRaw c = true) query

/-- The query is legal, or it is but for a line feed at its end. -/
def LegalLine (query : Text) : Prop := Legal query ∨ ∃ t, query = t ++ [.scalar '\n'] ∧ Legal t

/-- The percent sign and what follows it are an escape. -/
def BeginsEscape (after : Text) : Prop :=
  ∃ high low rest, after = high :: low :: rest ∧ IsDigit high ∧ IsDigit low

/-- A control character. -/
def IsControl (c : CodePoint) : Prop := c.toNat < 0x20 ∨ 0x7F ≤ c.toNat ∧ c.toNat ≤ 0x9F

/-- White space or a control character. -/
def Excluded (c : CodePoint) : Prop := Text.isBlank c = true ∨ IsControl c

instance (n : Nat) (c : CodePoint) : Decidable (IsDigitOf n c) :=
  inferInstanceAs (Decidable (_ ∨ _))

instance (c : CodePoint) : Decidable (IsDigit c) :=
  inferInstanceAs (Decidable (∃ n < 16, IsDigitOf n c))

instance (c : CodePoint) : Decidable (IsControl c) :=
  inferInstanceAs (Decidable (_ ∨ _))

instance (c : CodePoint) : Decidable (Excluded c) :=
  inferInstanceAs (Decidable (_ ∨ _))

/-- What holds of the characters of the numbers below 128 holds of every character of ASCII. -/
theorem of_ascii {P : CodePoint → Prop} (h : ∀ n < 0x80, P (Char.ofNat n)) {c : CodePoint}
    (hc : c.toNat < 0x80) : P c := by
  obtain ⟨d, rfl⟩ := CodePoint.exists_of_toNat_lt (Nat.lt_trans hc (by decide))
  rw [← Char.ofNat_toNat d]
  exact h d.toNat hc

/-- The hexadecimal digits are characters of ASCII. -/
theorem toNat_lt_of_isHexDigit {c : CodePoint} (h : isHexDigit c = true) : c.toNat < 0x80 := by
  simp only [isHexDigit, CodePoint.isBetween, Bool.or_eq_true, Bool.and_eq_true,
    decide_eq_true_eq] at h
  rcases h with (hdigit | ⟨-, hle⟩) | ⟨-, hle⟩
  · cases c with
    | scalar c =>
        simp only [CodePoint.isDigit_scalar, Char.isDigit, Bool.and_eq_true,
          decide_eq_true_eq] at hdigit
        exact Nat.lt_of_le_of_lt (UInt32.le_iff_toNat_le.1 hdigit.2) (by decide)
    | surrogate n => exact absurd hdigit Bool.false_ne_true
  · exact Nat.lt_of_le_of_lt hle (by decide)
  · exact Nat.lt_of_le_of_lt hle (by decide)

/-- The hexadecimal digits are those of the numbers below sixteen. -/
theorem isHexDigit_iff {c : CodePoint} : isHexDigit c = true ↔ IsDigit c := by
  constructor
  · intro h
    have hall : ∀ n < 0x80, isHexDigit (Char.ofNat n) = true → IsDigit (Char.ofNat n) := by
      decide +kernel
    exact of_ascii (P := fun c => isHexDigit c = true → IsDigit c) hall
      (toNat_lt_of_isHexDigit h) h
  · rintro ⟨n, hn, hdigit⟩
    exact (hdigit.reads hn).digit

/-- A hexadecimal digit is no percent sign. -/
theorem IsDigit.ne_percent {c : CodePoint} (h : IsDigit c) : c ≠ '%' := by
  rintro rfl
  exact absurd h (by decide)

namespace MadeOf

variable {kind other : CodePoint → Prop} {s t : Text}

/-- More characters may be allowed. -/
theorem mono (h : MadeOf kind t) (hkind : ∀ c, kind c → other c) : MadeOf other t := by
  induction h with
  | nil => exact .nil
  | char hc _ ih => exact .char (hkind _ hc) ih
  | escape hhigh hlow _ ih => exact .escape hhigh hlow ih

/-- A character may follow. -/
theorem concat (h : MadeOf kind t) {c : CodePoint} (hc : kind c) : MadeOf kind (t ++ [c]) := by
  induction h with
  | nil => exact .char hc .nil
  | char hfirst _ ih => exact .char hfirst ih
  | escape hhigh hlow _ ih => exact .escape hhigh hlow ih

/-- What the characters are. -/
theorem mem (h : MadeOf kind t) {c : CodePoint} (hc : c ∈ t) : kind c ∨ c = '%' ∨ IsDigit c := by
  induction h with
  | nil => exact absurd hc List.not_mem_nil
  | char hfirst _ ih =>
      rcases List.mem_cons.1 hc with rfl | hc
      · exact Or.inl hfirst
      · exact ih hc
  | escape hhigh hlow _ ih =>
      rcases List.mem_cons.1 hc with rfl | hc
      · exact Or.inr (Or.inl rfl)
      rcases List.mem_cons.1 hc with rfl | hc
      · exact Or.inr (Or.inr hhigh)
      rcases List.mem_cons.1 hc with rfl | hc
      · exact Or.inr (Or.inr hlow)
      · exact ih hc

/-- Where the percent sign is no character of the kind, each begins an escape. -/
theorem beginsEscape (hkind : ¬ kind '%') {before after : Text}
    (h : MadeOf kind (before ++ .scalar '%' :: after)) : BeginsEscape after := by
  generalize ht : before ++ .scalar '%' :: after = t at h
  induction h generalizing before with
  | nil => exact absurd ht (by simp)
  | char hc _ ih =>
      cases before with
      | nil => exact absurd ((List.cons.inj ht).1 ▸ hc) hkind
      | cons first before => exact ih (List.cons.inj ht).2
  | @escape high low t hhigh hlow _ ih =>
      match before with
      | [] => exact ⟨high, low, t, (List.cons.inj ht).2, hhigh, hlow⟩
      -- The digits of an escape are no percent signs.
      | [_] =>
          rw [List.singleton_append, List.cons.injEq, List.cons.injEq] at ht
          exact absurd ht.2.1.symm hhigh.ne_percent
      | [_, _] =>
          rw [List.cons_append, List.singleton_append, List.cons.injEq, List.cons.injEq,
            List.cons.injEq] at ht
          exact absurd ht.2.2.1.symm hlow.ne_percent
      | _ :: _ :: _ :: before =>
          rw [List.cons_append, List.cons_append, List.cons_append, List.cons.injEq,
            List.cons.injEq, List.cons.injEq] at ht
          exact ih ht.2.2.2

end MadeOf

/-- Legal queries are those that the decoder takes for encoded. -/
theorem isEncoded_iff {t : Text} : isEncoded t = true ↔ Legal t := by
  constructor
  · intro h
    induction t using isEncoded.induct with
    | case1 => exact .nil
    | case2 high low rest ih =>
        rw [isEncoded, Bool.and_eq_true, Bool.and_eq_true] at h
        obtain ⟨⟨hhigh, hlow⟩, hrest⟩ := h
        exact .escape (isHexDigit_iff.1 hhigh) (isHexDigit_iff.1 hlow) (ih hrest)
    | case3 c rest hc ih =>
        rw [isEncoded, Bool.and_eq_true] at h
        · exact .char h.1 (ih h.2)
        · exact hc
  · intro h
    rw [Legal] at h
    induction h with
    | nil => rfl
    | char hc _ ih => rw [isEncoded_cons_of_isRaw hc, ih]
    | escape hhigh hlow _ ih =>
        rw [isEncoded, isHexDigit_iff.2 hhigh, isHexDigit_iff.2 hlow, ih]
        rfl

/-- **Which queries are decoded**: legal ones, even if a line feed follows. -/
theorem isLegal_iff {query : Text} : isLegal query = true ↔ LegalLine query := by
  rw [isLegal, LegalLine, Bool.or_eq_true, Bool.and_eq_true, beq_iff_eq, isEncoded_iff,
    isEncoded_iff]
  refine or_congr_right ⟨?_, ?_⟩
  · rintro ⟨hlast, hlegal⟩
    obtain ⟨t, rfl⟩ := List.getLast?_eq_some_iff.1 hlast
    rw [List.dropLast_concat] at hlegal
    exact ⟨t, rfl, hlegal⟩
  · rintro ⟨t, rfl, hlegal⟩
    rw [List.getLast?_concat, List.dropLast_concat]
    exact ⟨rfl, hlegal⟩

/-- In a query that is decoded each percent sign begins an escape. -/
theorem LegalLine.madeOf {query : Text} (h : LegalLine query) : MadeOf (· ≠ .scalar '%') query := by
  rcases h with hlegal | ⟨t, rfl, hlegal⟩
  · exact hlegal.mono fun c hc => ne_percent_of_isRaw hc
  · exact (hlegal.mono fun c hc => ne_percent_of_isRaw hc).concat (by decide)

/-! ## What is decoded -/

/-- The bytes that characters of ASCII and escapes stand for. -/
inductive Spells : Bytes → Text → Prop where
  /-- Nothing. -/
  | nil : Spells [] []
  /-- A character of ASCII stands for its number. -/
  | char {c : CodePoint} {bytes : Bytes} {t : Text} (hascii : isAscii c = true) (hc : c ≠ '%')
    (hrest : Spells bytes t) : Spells (UInt8.ofNat c.toNat :: bytes) (c :: t)
  /-- An escape stands for the number of its digits. -/
  | escape {byte : UInt8} {bytes : Bytes} {high low : CodePoint} {t : Text}
    (hhigh : IsDigitOf (byte.toNat / 16) high) (hlow : IsDigitOf (byte.toNat % 16) low)
    (hrest : Spells bytes t) : Spells (byte :: bytes) (.scalar '%' :: high :: low :: t)

/-- The text that a query is decoded to: each maximal run of ASCII characters is read as the bytes
that it stands for, and all other characters stay. -/
inductive Resolves : Text → Text → Prop where
  /-- Nothing. -/
  | nil : Resolves [] []
  /-- Another character. -/
  | other {c : CodePoint} {s t : Text} (hc : isAscii c = false) (hrest : Resolves s t) :
    Resolves (c :: s) (c :: t)
  /-- A run of characters of ASCII, which no further one follows. -/
  | run {run s clear t : Text} {bytes : Bytes} (hrun : run ≠ [])
    (hascii : ∀ c ∈ run, isAscii c = true) (hend : ∀ c ∈ s.head?, isAscii c = false)
    (hbytes : Spells bytes run) (hclear : Utf8.Decodes bytes clear) (hrest : Resolves s t) :
    Resolves (run ++ s) (clear ++ t)

/-- A run of characters is read as the bytes that it stands for. -/
theorem Spells.unescapeBytes_eq {bytes : Bytes} {t : Text} (h : Spells bytes t) :
    unescapeBytes t = bytes := by
  induction h with
  | nil => rfl
  | char _ hc _ ih => rw [unescapeBytes_cons_of_ne hc, ih]
  | escape hhigh hlow _ ih =>
      have hread := (Escapes.cons hhigh hlow .nil).unescapeBytes_append
      rw [← ih]
      exact hread _

/-- Two digits are those of a byte. -/
theorem exists_byte {high low : CodePoint} (hhigh : IsDigit high) (hlow : IsDigit low) :
    ∃ byte : UInt8, IsDigitOf (byte.toNat / 16) high ∧ IsDigitOf (byte.toNat % 16) low := by
  obtain ⟨m, hm, hhigh⟩ := hhigh
  obtain ⟨n, hn, hlow⟩ := hlow
  have hbyte : (UInt8.ofNat (m * 16 + n)).toNat = m * 16 + n :=
    UInt8.toNat_ofNat_of_lt' (by simp [UInt8.size]; omega)
  refine ⟨UInt8.ofNat (m * 16 + n), ?_, ?_⟩
  · rwa [hbyte, show (m * 16 + n) / 16 = m by omega]
  · rwa [hbyte, show (m * 16 + n) % 16 = n by omega]

/-- A run stands for bytes if each percent sign in it begins an escape. -/
theorem spells_unescapeBytes {t : Text} (h : MadeOf (· ≠ .scalar '%') t)
    (hascii : ∀ c ∈ t, isAscii c = true) : Spells (unescapeBytes t) t := by
  induction h with
  | nil => exact .nil
  | @char c t hc _ ih =>
      rw [unescapeBytes_cons_of_ne hc]
      exact .char (hascii c List.mem_cons_self) hc
        (ih fun d hd => hascii d (List.mem_cons_of_mem _ hd))
  | @escape high low t hhigh hlow _ ih =>
      obtain ⟨byte, hhigh, hlow⟩ := exists_byte hhigh hlow
      have hrest := ih fun d hd =>
        hascii d (List.mem_cons_of_mem _ (List.mem_cons_of_mem _ (List.mem_cons_of_mem _ hd)))
      have hspells := Spells.escape hhigh hlow hrest
      rwa [hspells.unescapeBytes_eq]

/-- A hexadecimal digit is a character of ASCII. -/
theorem IsDigit.isAscii {c : CodePoint} (h : IsDigit c) : isAscii c = true :=
  decide_eq_true (toNat_lt_of_isHexDigit (isHexDigit_iff.2 h))

/-- No escape is cut where a run of characters of ASCII ends. -/
theorem MadeOf.run {kind : CodePoint → Prop} {t : Text} (h : MadeOf kind t) :
    MadeOf kind (t.takeWhile Query.isAscii) ∧ MadeOf kind (t.dropWhile Query.isAscii) := by
  induction h with
  | nil => exact ⟨.nil, .nil⟩
  | @char c t hc hrest ih =>
      by_cases hascii : Query.isAscii c = true
      · rw [List.takeWhile_cons_of_pos hascii, List.dropWhile_cons_of_pos hascii]
        exact ⟨.char hc ih.1, ih.2⟩
      · rw [List.takeWhile_cons_of_neg hascii, List.dropWhile_cons_of_neg hascii]
        exact ⟨.nil, .char hc hrest⟩
  | @escape high low t hhigh hlow _ ih =>
      have hpercent : Query.isAscii '%' = true := by decide
      rw [List.takeWhile_cons_of_pos hpercent, List.takeWhile_cons_of_pos hhigh.isAscii,
        List.takeWhile_cons_of_pos hlow.isAscii, List.dropWhile_cons_of_pos hpercent,
        List.dropWhile_cons_of_pos hhigh.isAscii, List.dropWhile_cons_of_pos hlow.isAscii]
      exact ⟨.escape hhigh hlow ih.1, ih.2⟩

/-- A query is decoded if each percent sign in it begins an escape. -/
theorem resolves_unescape {query : Text} (h : MadeOf (· ≠ .scalar '%') query) :
    Resolves query (unescape query) := by
  induction query using unescape.induct with
  | case1 =>
      rw [unescape_nil]
      exact .nil
  | case2 c rest hc ih =>
      -- The first run and what follows it are made of whole escapes again.
      obtain ⟨hrun, hrest⟩ := h.run
      rw [List.takeWhile_cons_of_pos hc] at hrun
      rw [List.dropWhile_cons_of_pos hc] at hrest
      have hascii : ∀ d ∈ c :: rest.takeWhile isAscii, isAscii d = true := by
        intro d hd
        rcases List.mem_cons.1 hd with rfl | hd
        · exact hc
        · exact List.all_eq_true.1 List.all_takeWhile d hd
      have hend : ∀ d ∈ (rest.dropWhile isAscii).head?, isAscii d = false := by
        intro d hd
        have hstop := List.head?_dropWhile_not isAscii rest
        rw [Option.mem_def.1 hd] at hstop
        exact hstop
      have hsplit : c :: rest = (c :: rest.takeWhile isAscii) ++ rest.dropWhile isAscii := by
        rw [List.cons_append, List.takeWhile_append_dropWhile]
      have hresolves := Resolves.run (by simp) hascii hend (spells_unescapeBytes hrun hascii)
        (Utf8.decodes_decodeLossy _) (ih hrest)
      rw [unescape, if_pos hc]
      rwa [← hsplit] at hresolves
  | case3 c rest hc ih =>
      rw [unescape, if_neg hc]
      refine .other (by simpa using hc) (ih ?_)
      cases h with
      | char _ hrest => exact hrest
      | escape => exact absurd (by decide) hc

/-- A query is decoded to nothing else. -/
theorem Resolves.unescape_eq {query t : Text} (h : Resolves query t) : unescape query = t := by
  induction h with
  | nil => exact unescape_nil
  | other hc _ ih => rw [unescape, if_neg (by simp [hc]), ih]
  | @run run s clear t bytes _ hascii hend hbytes hclear _ ih =>
      -- The decoder takes the same run, as no character of ASCII follows it.
      have hstop : s.takeWhile isAscii = [] ∧ s.dropWhile isAscii = s := by
        cases s with
        | nil => exact ⟨rfl, rfl⟩
        | cons c s =>
            have hc : ¬ isAscii c = true := by simp [hend c rfl]
            exact ⟨List.takeWhile_cons_of_neg hc, List.dropWhile_cons_of_neg hc⟩
      rw [Query.unescape_eq, List.takeWhile_append_of_pos hascii,
        List.dropWhile_append_of_pos hascii, hstop.1, hstop.2, List.append_nil,
        hbytes.unescapeBytes_eq, Utf8.decodeLossy_eq_iff.2 hclear, ih]

/-- **A query whose escapes are whole is decoded** to what decoding gives, and to nothing else. -/
theorem resolves_iff {query t : Text} (h : MadeOf (· ≠ .scalar '%') query) :
    Resolves query t ↔ t = unescape query := by
  constructor
  · intro hresolves
    exact hresolves.unescape_eq.symm
  · rintro rfl
    exact resolves_unescape h

/-! ## Which queries are not -/

/-- A raw character is no white space and no control character. -/
theorem not_excluded_of_isRaw {c : CodePoint} (h : isRaw c = true) : ¬ Excluded c := by
  have hall : ∀ n < 0x80, (Char.ofNat n).isAlphanum = true → ¬ Excluded (Char.ofNat n) := by
    decide +kernel
  have hmarks : (marks.all fun c => !decide (Excluded c)) = true := by decide +kernel
  rw [isRaw, Bool.or_eq_true, Bool.or_eq_true, decide_eq_true_eq, Bool.and_eq_true,
    decide_eq_true_eq] at h
  rcases h with (hletter | hmark) | ⟨hbeyond, hblank⟩
  · have hfollowing : HeaderName.isFollowing c = true := by
      rw [HeaderName.isFollowing, hletter]
      rfl
    exact of_ascii (P := fun c => c.isAlphanum = true → ¬ Excluded c) hall
      (HeaderName.toNat_lt_of_isFollowing hfollowing) hletter
  · simpa using List.all_eq_true.1 hmarks c hmark
  · rintro (hwhite | hcontrol)
    · rw [hwhite] at hblank
      exact absurd hblank (by decide)
    · rw [IsControl] at hcontrol
      omega

/-- A legal query holds no white space and no control character. -/
theorem Legal.not_excluded {t : Text} (h : Legal t) {c : CodePoint} (hc : c ∈ t) :
    ¬ Excluded c := by
  rcases MadeOf.mem h hc with hraw | rfl | ⟨n, hn, hdigit⟩
  · exact not_excluded_of_isRaw hraw
  · decide
  · have hall : ∀ n < 16, ¬ Excluded (Nat.digitChar n) ∧ ¬ Excluded (Nat.digitChar n).toUpper := by
      decide +kernel
    rcases hdigit with rfl | rfl
    · exact (hall n hn).1
    · exact (hall n hn).2

/-- A query that is decoded holds white space or a control character at most as a line feed at its
end. -/
theorem LegalLine.eq_of_excluded {before after : Text} {c : CodePoint}
    (h : LegalLine (before ++ c :: after)) (hc : Excluded c) : c = '\n' ∧ after = [] := by
  rcases h with hlegal | ⟨t, ht, hlegal⟩
  · exact absurd hc (hlegal.not_excluded (List.mem_append_right _ List.mem_cons_self))
  · rcases List.eq_nil_or_concat after with rfl | ⟨init, last, rfl⟩
    · have hlast := (List.append_inj' ht rfl).2
      exact ⟨(List.cons.inj hlast).1, rfl⟩
    · -- The character is not the last one, so it stands in the legal part.
      rw [List.concat_eq_append, ← List.cons_append, ← List.append_assoc] at ht
      obtain rfl := (List.append_inj' ht rfl).1
      exact absurd hc (hlegal.not_excluded (List.mem_append_right _ List.mem_cons_self))

/-! ## Decoding -/

/-- **What decoding makes of a query.** A query that is made of raw characters and escapes, with or
without a line feed behind them, is decoded to one text, run by run. Any other one stays as it is,
such as one with white space or a control character that is not a line feed at its end, or with a
percent sign that begins no escape. -/
theorem decode_resolves {ε : Type} (query : Text) :
    ∃ clear, (decode (some query) : Traced ε (Option Text)).result = .ok (some clear)
      ∧ (LegalLine query → ∀ t, Resolves query t ↔ t = clear)
      ∧ (¬ LegalLine query → clear = query)
      ∧ ((∃ before c after, query = before ++ c :: after ∧ Excluded c
            ∧ ¬ (c = '\n' ∧ after = []))
          ∨ (∃ before after, query = before ++ .scalar '%' :: after ∧ ¬ BeginsEscape after) →
        clear = query) := by
  have hunchanged : ¬ LegalLine query → clear query = query := by
    intro h
    rw [clear, if_neg (mt isLegal_iff.1 h)]
  refine ⟨clear query, result_decode (some query), ?_, hunchanged, ?_⟩
  · intro h t
    rw [clear, if_pos (isLegal_iff.2 h)]
    exact resolves_iff h.madeOf
  · intro h
    apply hunchanged
    intro hlegal
    rcases h with ⟨before, c, after, rfl, hc, hend⟩ | ⟨before, after, rfl, hescape⟩
    · exact hend (hlegal.eq_of_excluded hc)
    · exact hescape (hlegal.madeOf.beginsEscape (by simp))

/-- Here a query with a line feed at its end, which is not legal, is decoded. -/
theorem decode_resolves_lineFeed :
    ¬ Legal "a%20b\n"
      ∧ (decode (some ↑"a%20b\n") : Traced Unit (Option Text)).result
        = .ok (some ↑"a b\n") := by
  have hlegal : LegalLine "a%20b\n" := isLegal_iff.1 (by decide +kernel)
  obtain ⟨clear, hresult, hresolves, -⟩ := decode_resolves (ε := Unit) "a%20b\n"
  have hclear : Query.unescape "a%20b\n" = "a b\n" := by decide +kernel
  have hdecoded := resolves_unescape hlegal.madeOf
  rw [hclear] at hdecoded
  rw [hresult, ← (hresolves hlegal _).1 hdecoded]
  exact ⟨fun h => absurd (isEncoded_iff.2 h) (by decide +kernel), rfl⟩

end Wab.Query
