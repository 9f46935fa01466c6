import Wab.Proofs.Utf8

/-! # Reading bytes that are no text

Where no character can be read, a part of the bytes is replaced: as much as a character could begin
with, but at least one byte. This leaves one way to read any bytes. The decoder reads them in this
way because it breaks off as soon as no character can be completed: up to there one can, and with
the byte behind it none.

* **`Utf8.IllFormed`** — a part that is replaced.
* **`Utf8.Decodes`** — the text that bytes are read as.
* **`Utf8.exists_illFormed_of_next`** — where the decoder breaks off.
* **`Utf8.decodeLossy_eq_iff`** — the decoder gives that text. -/

namespace Wab.Utf8

/-- Some character begins with the bytes. -/
def Begins (part : Bytes) : Prop := ∃ c, part <+: String.utf8EncodeChar c

/-- The part is what is replaced where the bytes begin with it and go on with the rest. -/
structure IllFormed (part rest : Bytes) : Prop where
  /-- It has a byte. -/
  nonempty : part ≠ []
  /-- No character can be read there. -/
  unread : ∀ c, ¬ String.utf8EncodeChar c <+: part ++ rest
  /-- It is one byte, or a character begins with it. -/
  short : part.length = 1 ∨ Begins part
  /-- No character begins with it and the byte behind it. -/
  maximal : ∀ byte more, rest = byte :: more → ¬ Begins (part ++ [byte])

/-- The bytes are read as the text: each character from its own bytes, and U+FFFD in the place of
each part that is no character. -/
inductive Decodes : Bytes → Text → Prop where
  /-- Nothing. -/
  | nil : Decodes [] []
  /-- A character. -/
  | char {c : Char} {bytes : Bytes} {s : Text} (hrest : Decodes bytes s) :
    Decodes (String.utf8EncodeChar c ++ bytes) (c :: s)
  /-- A part that is replaced. -/
  | replaced {part bytes : Bytes} {s : Text} (hpart : IllFormed part bytes)
    (hrest : Decodes bytes s) : Decodes (part ++ bytes) (.scalar '\uFFFD' :: s)

/-! ## Ill-formed parts -/

/-- With fewer bytes a character begins all the more. -/
theorem Begins.of_append {part more : Bytes} (h : Begins (part ++ more)) : Begins part := by
  obtain ⟨c, hc⟩ := h
  exact ⟨c, (List.prefix_append part more).trans hc⟩

/-- A part that is replaced is not longer than it could be. -/
theorem IllFormed.eq_nil_of_append {part more rest : Bytes} (h : IllFormed part (more ++ rest))
    (hlonger : IllFormed (part ++ more) rest) : more = [] := by
  cases more with
  | nil => rfl
  | cons byte more =>
      -- The longer part has two bytes at least, so that a character begins with it.
      have hbegins : Begins (part ++ [byte] ++ more) := by
        rw [List.append_assoc, List.singleton_append]
        apply hlonger.short.resolve_left
        intro hone
        have hpart := List.length_pos_iff.2 h.nonempty
        rw [List.length_append, List.length_cons] at hone
        omega
      exact absurd hbegins.of_append (h.maximal byte (more ++ rest) rfl)

/-- **At most one part is replaced** at a place. -/
theorem IllFormed.unique {part rest part' rest' : Bytes} (h : IllFormed part rest)
    (h' : IllFormed part' rest') (heq : part ++ rest = part' ++ rest') : rest = rest' := by
  rcases List.append_eq_append_iff.1 heq with ⟨more, rfl, rfl⟩ | ⟨more, rfl, rfl⟩
  · rw [h.eq_nil_of_append h', List.nil_append]
  · rw [h'.eq_nil_of_append h, List.nil_append]

/-! ## Where the decoder breaks off -/

/-- A character is read where the bytes begin with its own. -/
theorem next_of_cons_eq {byte : UInt8} {bytes rest : Bytes} {c : Char}
    (h : byte :: bytes = String.utf8EncodeChar c ++ rest) : next byte bytes = (some c, rest) := by
  have hread := characters_utf8EncodeChar c rest
  rw [← h, characters, List.cons.injEq] at hread
  have hwhole := cons_eq_of_next (Prod.ext hread.1 rfl : next byte bytes = (some c, _))
  rw [h] at hwhole
  exact Prod.ext hread.1 (List.append_cancel_left hwhole).symm

/-- A sequence can be completed: by the least byte in range, and so on. -/
theorem exists_completion (bits following : Nat) {least greatest : Nat}
    (hrange : least ≤ greatest ∧ greatest < 256) :
    ∃ more c, follow bits following least greatest more = (some c, []) := by
  induction following generalizing bits least greatest with
  | zero => exact ⟨[], _, rfl⟩
  | succ following ih =>
      have hnext : 0x80 ≤ 0xBF ∧ 0xBF < 256 := by omega
      obtain ⟨more, c, hmore⟩ := ih (bits * 64 + (least - 0x80)) hnext
      refine ⟨UInt8.ofNat least :: more, c, ?_⟩
      rw [follow_ofNat (by omega) (Nat.le_refl _) hrange.1, hmore]

/-- What a sequence that breaks off has taken: it could be completed, but not with the byte that
comes next. -/
theorem exists_taken_of_follow {bits following least greatest : Nat} {bytes rest : Bytes}
    (hrange : least ≤ greatest ∧ greatest < 256)
    (h : follow bits following least greatest bytes = (none, rest)) :
    ∃ taken, bytes = taken ++ rest
      ∧ (∃ more c, follow bits following least greatest (taken ++ more) = (some c, []))
      ∧ ∀ byte back, rest = byte :: back → ∀ more c last,
        follow bits following least greatest (taken ++ byte :: more) ≠ (some c, last) := by
  induction following generalizing bits least greatest bytes with
  | zero => exact absurd h (by simp [follow])
  | succ following ih =>
      cases bytes with
      | nil =>
          obtain rfl : [] = rest := congrArg Prod.snd h
          refine ⟨[], rfl, exists_completion bits _ hrange, ?_⟩
          intro byte back hrest
          exact absurd hrest (by simp)
      | cons byte bytes =>
          rw [follow] at h
          by_cases hin : least ≤ byte.toNat ∧ byte.toNat ≤ greatest
          · rw [if_pos hin] at h
            obtain ⟨taken, rfl, ⟨more, c, hmore⟩, hstop⟩ := ih ⟨by omega, by omega⟩ h
            refine ⟨byte :: taken, rfl, ⟨more, c, ?_⟩, ?_⟩
            · rw [List.cons_append, follow, if_pos hin, hmore]
            · intro follower back hrest more c last hread
              rw [List.cons_append, follow, if_pos hin] at hread
              exact hstop follower back hrest more c last hread
          · -- The byte is out of range: it is left, and whatever follows it the sequence ends here.
            rw [if_neg hin] at h
            obtain rfl : byte :: bytes = rest := congrArg Prod.snd h
            refine ⟨[], rfl, exists_completion bits _ hrange, ?_⟩
            intro follower back hrest more c last
            rw [← (List.cons.inj hrest).1, List.nil_append, follow, if_neg hin]
            simp

/-- The range that a first byte announces is one of bytes: there are 256 to look at. -/
theorem range_of_ofByte? {byte : UInt8} {lead : Lead} (h : Lead.ofByte? byte = some lead) :
    lead.least ≤ lead.greatest ∧ lead.greatest < 256 := by
  have hall : ∀ n < 256, (Lead.ofByte? (UInt8.ofNat n)).all
      (fun lead => lead.least ≤ lead.greatest && lead.greatest < 256) = true := by
    decide +kernel
  have hbyte := hall byte.toNat byte.toNat_lt
  rw [UInt8.ofNat_toNat, h] at hbyte
  simpa using hbyte

/-- **The decoder breaks off** behind a part that is replaced. -/
theorem exists_illFormed_of_next {byte : UInt8} {bytes rest : Bytes}
    (h : next byte bytes = (none, rest)) :
    ∃ part, byte :: bytes = part ++ rest ∧ IllFormed part rest := by
  have hunread : ∀ c, ¬ String.utf8EncodeChar c <+: byte :: bytes := by
    rintro c ⟨more, hmore⟩
    rw [next_of_cons_eq hmore.symm] at h
    exact absurd h (by simp)
  cases hlead : Lead.ofByte? byte with
  | none =>
      -- No character begins with this byte, so it is replaced alone.
      have hnone : ∀ more, next byte more = (none, more) := by
        intro more
        rw [next, hlead]
      obtain rfl : bytes = rest := congrArg Prod.snd ((hnone bytes).symm.trans h)
      refine ⟨[byte], rfl, by simp, hunread, Or.inl rfl, ?_⟩
      rintro follower more - ⟨c, back, hc⟩
      have hcons : byte :: follower :: back = String.utf8EncodeChar c ++ [] := by
        rw [List.append_nil, ← hc]
        rfl
      have hread := next_of_cons_eq hcons
      rw [hnone] at hread
      exact absurd hread (by simp)
  | some lead =>
      obtain ⟨bits, following, least, greatest⟩ := lead
      rw [next_of_ofByte? hlead] at h
      obtain ⟨taken, rfl, ⟨more, c, hmore⟩, hstop⟩ :=
        exists_taken_of_follow (range_of_ofByte? hlead) h
      refine ⟨byte :: taken, rfl, by simp, hunread, Or.inr ⟨c, more, ?_⟩, ?_⟩
      · -- What was taken can be completed, so that a character begins with it.
        rw [← next_of_ofByte? hlead] at hmore
        have hwhole := cons_eq_of_next hmore
        rwa [List.append_nil] at hwhole
      · -- A character that began with one more byte would be read here.
        rintro follower back hrest ⟨d, last, hd⟩
        have hcons : byte :: (taken ++ follower :: last) = String.utf8EncodeChar d ++ [] := by
          rw [List.append_nil, ← hd]
          simp
        have hread := next_of_cons_eq hcons
        rw [next_of_ofByte? hlead] at hread
        exact hstop follower back hrest last d [] hread

/-! ## Texts -/

/-- The decoder reads a character or a part that is replaced, and then goes on. -/
theorem decodeLossy_cons {byte : UInt8} {bytes rest : Bytes} {c : Option Char}
    (h : next byte bytes = (c, rest)) :
    decodeLossy (byte :: bytes) = .scalar (c.getD '\uFFFD') :: decodeLossy rest := by
  rw [decodeLossy, characters, h]
  rfl

/-- Bytes are read as what the decoder gives. -/
theorem decodes_decodeLossy (bytes : Bytes) : Decodes bytes (decodeLossy bytes) := by
  induction bytes using characters.induct with
  | case1 =>
      rw [decodeLossy, characters]
      exact .nil
  | case2 byte bytes ih =>
      rcases hnext : next byte bytes with ⟨c, rest⟩
      rw [hnext] at ih
      rw [decodeLossy_cons hnext]
      cases c with
      | some c =>
          rw [cons_eq_of_next hnext]
          exact .char ih
      | none =>
          obtain ⟨part, hpart, hillFormed⟩ := exists_illFormed_of_next hnext
          rw [hpart]
          exact .replaced hillFormed ih

/-- **The decoder gives the text that bytes are read as**, and there is no other one. -/
theorem decodeLossy_eq_iff {bytes : Bytes} {s : Text} :
    decodeLossy bytes = s ↔ Decodes bytes s := by
  constructor
  · rintro rfl
    exact decodes_decodeLossy bytes
  · intro h
    induction h with
    | nil => rw [decodeLossy, characters, List.map_nil]
    | char _ ih => rw [decodeLossy_utf8EncodeChar, ih]
    | @replaced part bytes s hpart _ ih =>
        obtain ⟨byte, more, rfl⟩ := List.exists_cons_of_ne_nil hpart.nonempty
        rcases hnext : next byte (more ++ bytes) with ⟨c, rest⟩
        cases c with
        | some c =>
            have hwhole := cons_eq_of_next hnext
            exact absurd ⟨rest, hwhole.symm⟩ (hpart.unread c)
        | none =>
            obtain ⟨other, hother, hillFormed⟩ := exists_illFormed_of_next hnext
            obtain rfl := hpart.unique hillFormed hother
            rw [List.cons_append, decodeLossy_cons hnext, ih]
            rfl

end Wab.Utf8
