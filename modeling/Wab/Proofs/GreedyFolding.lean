import Mathlib.Data.List.Forall2
import Wab.Proofs.RoundTrip

/-! # The greedy folding of a line

Of the ways to cut a line into chunks that have room, one cuts as late as it can. Lines are folded
in this way and in no other, so that the lines of a written manifest have room and the first one of
each header holds the whole name. A line with a surrogate has no such folding, as no chunk with a
surrogate has bytes, and it is not folded at all.

* **`Folding.Greedy`** — chunks of a line that are cut as late as possible.
* **`Folding.greedy_cons_cons`** — a greedy folding is a full chunk and a greedy folding of the
  rest.
* **`Folding.greedy_iff`** — a line has one greedy folding, the one it is folded to.
* **`Manifest.exists_rows`** — the bytes of the physical lines of a written manifest.
* **`Folding.fold_greedy`** — lines are folded greedily, and written lines have room. -/

namespace Wab

namespace Folding

/-- Chunks fold a line greedily to lines of so many bytes in UTF-8. -/
structure Greedy (room : Nat) (line : Text) (chunks : List Text) : Prop where
  /-- There is a first chunk, and it and the others without their first characters are the line. -/
  whole : ∃ first rest, chunks = first :: rest ∧ first ++ rest.flatMap List.tail = line
  /-- Each chunk has bytes, and there is room for them. -/
  fits : ∀ chunk ∈ chunks, ∃ bytes, Utf8.encode chunk = .ok bytes ∧ bytes.length ≤ room
  /-- Each later chunk is a space and at least one character. -/
  later : ∀ chunk ∈ chunks.tail, ∃ c more, chunk = .scalar ' ' :: c :: more
  /-- There is no room in a chunk for the character that the next one goes on with. -/
  full : chunks.IsChain fun chunk next => ∀ c more, next = .scalar ' ' :: c :: more →
    ∃ bytes, Utf8.encode (chunk ++ [c]) = .ok bytes ∧ room < bytes.length

/-! ## Chunk by chunk -/

/-- A line is its own greedy folding if and only if it has bytes and there is room for them. -/
theorem greedy_singleton {room : Nat} {line chunk : Text} :
    Greedy room line [chunk]
      ↔ chunk = line ∧ ∃ bytes, Utf8.encode line = .ok bytes ∧ bytes.length ≤ room := by
  constructor
  · rintro ⟨⟨first, rest, hchunks, rfl⟩, hfits, -, -⟩
    obtain ⟨rfl, rfl⟩ := List.cons.inj hchunks
    rw [List.flatMap_nil, List.append_nil]
    exact ⟨rfl, hfits chunk List.mem_cons_self⟩
  · rintro ⟨rfl, hroom⟩
    refine ⟨⟨chunk, [], rfl, List.append_nil chunk⟩, ?_, ?_, .singleton chunk⟩
    · intro other hother
      rwa [List.mem_singleton.1 hother]
    · intro other hother
      exact absurd hother List.not_mem_nil

/-- **A greedy folding** in more than one chunk is a chunk that is full in front of the next
character and a greedy folding of a space and the rest of the line. -/
theorem greedy_cons_cons {room : Nat} {line chunk next : Text} {rest : List Text} :
    Greedy room line (chunk :: next :: rest)
      ↔ ∃ c more after, next = .scalar ' ' :: c :: more ∧ line = chunk ++ c :: after
        ∧ (∃ bytes, Utf8.encode chunk = .ok bytes ∧ bytes.length ≤ room)
        ∧ (∃ bytes, Utf8.encode (chunk ++ [c]) = .ok bytes ∧ room < bytes.length)
        ∧ Greedy room (.scalar ' ' :: c :: after) (next :: rest) := by
  constructor
  · rintro ⟨⟨first, others, hchunks, rfl⟩, hfits, hlater, hfull⟩
    obtain ⟨rfl, rfl⟩ := List.cons.inj hchunks
    obtain ⟨c, more, rfl⟩ := hlater next List.mem_cons_self
    obtain ⟨hnext, hrest⟩ := List.isChain_cons_cons.1 hfull
    refine ⟨c, more, more ++ rest.flatMap List.tail, rfl, rfl, hfits chunk List.mem_cons_self,
      hnext c more rfl, ⟨_, rest, rfl, rfl⟩, ?_, ?_, hrest⟩
    · exact fun other hother => hfits other (List.mem_cons_of_mem _ hother)
    · exact fun other hother => hlater other (List.mem_cons_of_mem _ hother)
  · rintro ⟨c, more, after, rfl, rfl, hroom, hnext, ⟨first, others, hchunks, hwhole⟩, hfits, hlater,
      hfull⟩
    obtain ⟨rfl, rfl⟩ := List.cons.inj hchunks
    have hafter : c :: after = c :: more ++ rest.flatMap List.tail :=
      (List.cons.inj hwhole).2.symm
    refine ⟨⟨chunk, (.scalar ' ' :: c :: more) :: rest, rfl, by rw [hafter]; rfl⟩, ?_, ?_, ?_⟩
    · intro other hother
      rcases List.mem_cons.1 hother with rfl | hother
      · exact hroom
      · exact hfits other hother
    · intro other hother
      rcases List.mem_cons.1 hother with rfl | hother
      · exact ⟨c, more, rfl⟩
      · exact hlater other hother
    · refine List.isChain_cons_cons.2 ⟨fun d others hd => ?_, hfull⟩
      obtain ⟨rfl, -⟩ := List.cons.inj (List.cons.inj hd).2
      exact hnext

/-! ## How lines are folded -/

/-- There is room for a space and one character. -/
theorem byteLength_space_le (c : CodePoint) : Text.byteLength [.scalar ' ', c] ≤ maxBytes := by
  have hsize := c.width_le_four
  have hspace : Text.byteLength [.scalar ' ', c] = 1 + c.width := rfl
  rw [hspace, maxBytes]
  omega

/-- **The loop invariant of folding**: behind a part of a chunk that takes `used` bytes, of which
the rest of the line is folded, the whole is folded greedily. -/
theorem greedy_chunksAfter {start line : Text} (hstart : Text.surrogate? start = none)
    (hline : Text.surrogate? line = none) (h : Text.byteLength start ≤ maxBytes) :
    Greedy maxBytes (start ++ line)
      ((chunksAfter (Text.byteLength start) line).modifyHead (start ++ ·)) := by
  induction line generalizing start with
  | nil =>
      rw [chunksAfter_nil, List.modifyHead_cons, List.append_nil, greedy_singleton,
        Utf8.exists_encode_le_iff]
      exact ⟨rfl, hstart, h⟩
  | cons c line ih =>
      obtain ⟨hc, hline⟩ := Text.surrogate?_cons_eq_none_iff.1 hline
      have hmore : Text.surrogate? (start ++ [c]) = none :=
        Text.surrogate?_append_eq_none_iff.2 ⟨hstart, Text.surrogate?_cons_eq_none_iff.2 ⟨hc, rfl⟩⟩
      have hlonger : Text.byteLength (start ++ [c]) = Text.byteLength start + c.width := by
        rw [Text.byteLength_append, Text.byteLength_cons, Text.byteLength_nil, Nat.add_zero]
      rw [chunksAfter_cons]
      split
      next hroom =>
        rw [← hlonger] at hroom ⊢
        obtain ⟨first, rest, hchunks⟩ := chunksAfter_eq_cons (Text.byteLength (start ++ [c])) line
        have hgreedy := ih hmore hline hroom
        rw [hchunks, List.modifyHead_cons, ← List.append_cons, ← List.append_cons] at hgreedy
        rw [hchunks, List.modifyHead_cons, List.modifyHead_cons]
        exact hgreedy
      next hfull =>
        -- The next chunk begins with a space and the character for which there is no room here.
        have hspace : Text.byteLength [.scalar ' ', c] = 1 + c.width := rfl
        have hnone : Text.surrogate? [.scalar ' ', c] = none :=
          Text.surrogate?_cons_eq_none_iff.2 ⟨rfl, Text.surrogate?_cons_eq_none_iff.2 ⟨hc, rfl⟩⟩
        obtain ⟨first, rest, hchunks⟩ := chunksAfter_eq_cons (Text.byteLength [.scalar ' ', c]) line
        have hgreedy := ih hnone hline (byteLength_space_le c)
        rw [hchunks, List.modifyHead_cons] at hgreedy
        rw [← hspace, hchunks, List.modifyHead_cons, List.modifyHead_cons, List.append_nil,
          greedy_cons_cons]
        refine ⟨c, first, line, rfl, rfl, Utf8.exists_encode_le_iff.2 ⟨hstart, h⟩, ?_, hgreedy⟩
        refine Utf8.exists_lt_encode_iff.2 ⟨hmore, ?_⟩
        rw [hlonger]
        exact Nat.lt_of_not_le hfull

/-- A chunk ends where there is no room for the next character, and the rest of the line is folded
behind a space. -/
theorem chunks_append_cons {start : Text} {c : CodePoint}
    (hstart : Text.byteLength start ≤ maxBytes)
    (hc : maxBytes < Text.byteLength (start ++ [c])) (rest : Text) :
    chunks (start ++ c :: rest) = start :: chunks (.scalar ' ' :: c :: rest) := by
  have hspace : Text.byteLength [.scalar ' ', c] = 1 + c.width := rfl
  have hroom : 0 + Text.byteLength [.scalar ' ', c] ≤ maxBytes := by
    rw [Nat.zero_add]
    exact byteLength_space_le c
  have hnext := chunksAfter_append hroom rest
  rw [Nat.zero_add, hspace] at hnext
  rw [Text.byteLength_append, Text.byteLength_cons, Text.byteLength_nil] at hc
  rw [chunks, chunksAfter_append (by omega), chunksAfter_cons, if_neg (by omega),
    List.modifyHead_cons, List.append_nil, chunks]
  exact congrArg (List.cons start) hnext.symm

/-- A greedy folding is what the line is folded to, and the line has no surrogate. -/
theorem Greedy.chunks_eq {line : Text} {cs : List Text} (h : Greedy maxBytes line cs) :
    Text.surrogate? line = none ∧ chunks line = cs := by
  induction cs generalizing line with
  | nil =>
      obtain ⟨first, rest, hchunks, -⟩ := h.whole
      exact absurd hchunks (List.cons_ne_nil _ _).symm
  | cons chunk cs ih =>
      cases cs with
      | nil =>
          obtain ⟨rfl, hfits⟩ := greedy_singleton.1 h
          obtain ⟨hnone, hroom⟩ := Utf8.exists_encode_le_iff.1 hfits
          rw [← Nat.zero_add (Text.byteLength chunk)] at hroom
          have hchunks := chunksAfter_append hroom []
          rw [List.append_nil, chunksAfter_nil, List.modifyHead_cons, List.append_nil] at hchunks
          exact ⟨hnone, hchunks⟩
      | cons next rest =>
          obtain ⟨c, more, after, -, rfl, hfits, hfull, hrest⟩ := greedy_cons_cons.1 h
          obtain ⟨hnone, hroom⟩ := Utf8.exists_encode_le_iff.1 hfits
          obtain ⟨-, hnext⟩ := Utf8.exists_lt_encode_iff.1 hfull
          obtain ⟨hafter, hchunks⟩ := ih hrest
          refine ⟨Text.surrogate?_append_eq_none_iff.2 ⟨hnone, hafter⟩, ?_⟩
          rw [chunks_append_cons hroom hnext, hchunks]

/-- **A line has one greedy folding**, the one it is folded to. -/
theorem greedy_iff {line : Text} {cs : List Text} :
    Greedy maxBytes line cs ↔ fold line = .ok cs := by
  rw [fold_eq_ok_iff]
  refine ⟨Greedy.chunks_eq, ?_⟩
  rintro ⟨hnone, rfl⟩
  obtain ⟨first, rest, hchunks⟩ := chunksAfter_eq_cons 0 line
  have hempty : Text.byteLength [] ≤ maxBytes := Nat.zero_le maxBytes
  have hgreedy := greedy_chunksAfter rfl hnone hempty
  rw [Text.byteLength_nil, hchunks] at hgreedy
  rw [chunks, hchunks]
  exact hgreedy

end Folding

/-- The name of a header has at most 70 characters, all of them ASCII, and no line ends in it nor in
the value. -/
structure Header.Foldable (h : Header) : Prop where
  /-- The name is short. -/
  short : h.name.length ≤ 70
  /-- The name is ASCII. -/
  ascii : ∀ c ∈ h.name, c.toNat < 0x80
  /-- No line ends in the name. -/
  name : Lines.Unbroken h.name
  /-- No line ends in the value. -/
  value : Lines.Unbroken h.value

namespace Manifest

/-! ## Written lines -/

/-- All headers can be folded, and no line ends in the name of an entry. -/
structure Foldable (m : Manifest) : Prop where
  /-- The main headers can be folded. -/
  main : ∀ h ∈ m.main.headers, h.Foldable
  /-- No line ends in the name of an entry. -/
  names : ∀ entry ∈ m.entries, Lines.Unbroken entry.1
  /-- The headers of entries can be folded. -/
  entries : ∀ entry ∈ m.entries, ∀ h ∈ entry.2.headers, h.Foldable

/-- A header that is written on lines of its own can be folded. -/
theorem Writable.foldable {h : Header} (hh : Writable h) : h.Foldable := by
  obtain ⟨hname, hvalue⟩ := hh
  have hascii : ∀ c ∈ h.name, c.toNat < 0x80 :=
    fun c hc => HeaderName.toNat_lt_of_isFollowing (HeaderName.isFollowing_of_mem hname hc)
  have hshort := HeaderName.byteLength_le_of_isPlain hname
  rw [HeaderName.byteLength_of_ascii hascii] at hshort
  exact ⟨hshort, hascii, HeaderName.unbroken_of_isPlain hname, hvalue⟩

/-- Lines that have bytes with their ends have bytes one by one. -/
theorem exists_rows {lines : List Text} {bytes : Bytes}
    (h : Utf8.encode (endLines lines) = .ok bytes) :
    ∃ rows, List.Forall₂ (fun line row => Utf8.encode line = .ok row) lines rows
      ∧ bytes = rows.flatMap fun row => row ++ [0x0D, 0x0A] := by
  induction lines generalizing bytes with
  | nil => exact ⟨[], .nil, (Except.ok.inj h).symm⟩
  | cons line lines ih =>
      have hend : Utf8.encode lineEnd = .ok [0x0D, 0x0A] := rfl
      have hcons : endLines (line :: lines) = line ++ lineEnd ++ endLines lines := rfl
      rw [hcons] at h
      obtain ⟨start, rest, hstart, hrest, rfl⟩ := Utf8.encode_append_eq_ok_iff.1 h
      obtain ⟨row, mark, hrow, hmark, rfl⟩ := Utf8.encode_append_eq_ok_iff.1 hstart
      obtain rfl := Except.ok.inj (hend.symm.trans hmark)
      obtain ⟨rows, hrows, rfl⟩ := ih hrest
      exact ⟨row :: rows, .cons hrow hrows, rfl⟩

/-- All headers that are written can be folded, those that name entries too. -/
theorem Foldable.written {m : Manifest} (hm : m.Foldable) {headers : List Header}
    (hheaders : headers ∈ m.written) {h : Header} (hh : h ∈ headers) : h.Foldable := by
  rcases mem_written_iff.1 ⟨headers, hheaders, hh⟩ with hmain | ⟨entry, hentry, hh⟩
  · exact hm.main h hmain
  · rcases List.mem_cons.1 hh with rfl | hh
    · have hplain : HeaderName.isPlain HeaderName.entryName = true := by decide
      exact Writable.foldable ⟨hplain, hm.names entry hentry⟩
    · exact hm.entries entry hentry h hh

/-- The first chunk of a header holds the whole name and the mark behind it. -/
theorem exists_chunks_headerLine {h : Header} (hh : h.Foldable) :
    ∃ start rest, Folding.chunks (headerLine h) = (h.name ++ separator ++ start) :: rest := by
  have hroom : Text.byteLength (h.name ++ separator) ≤ Folding.maxBytes := by
    have hseparator : Text.byteLength separator = 2 := rfl
    have hshort := hh.short
    rw [Text.byteLength_append, HeaderName.byteLength_of_ascii hh.ascii, hseparator,
      Folding.maxBytes]
    omega
  exact Folding.chunks_append hroom h.value

/-- The chunks of each header are among the physical lines, one behind the other. -/
theorem chunks_headerLine_infix_lines {m : Manifest} {headers : List Header}
    (hheaders : headers ∈ m.written) {h : Header} (hh : h ∈ headers) :
    Folding.chunks (headerLine h) <:+: m.lines := by
  have hsection : Folding.chunks (headerLine h) <:+: sectionLines headers :=
    List.infix_of_mem_flatten (List.mem_map_of_mem hh)
  have hlines : sectionLines headers ++ [[]] <:+: m.lines :=
    List.infix_of_mem_flatten (List.mem_map_of_mem hheaders)
  exact (hsection.trans (List.prefix_append _ _).isInfix).trans hlines

/-- The headers of a manifest without surrogates have none. -/
theorem surrogate?_headerLine_of_mem {m : Manifest} (hm : m.surrogate? = none)
    {headers : List Header} (hheaders : headers ∈ m.written) {h : Header} (hh : h ∈ headers) :
    Text.surrogate? (headerLine h) = none :=
  List.findSome?_eq_none_iff.1 (List.findSome?_eq_none_iff.1 hm headers hheaders) h hh

/-- Each physical line has room, and no line ends in it. -/
theorem of_mem_lines {m : Manifest} (hm : m.Foldable) (hnone : m.surrogate? = none) {line : Text}
    (hline : line ∈ m.lines) :
    Text.byteLength line ≤ Folding.maxBytes ∧ Lines.Unbroken line := by
  obtain ⟨headers, hheaders, hline⟩ := List.mem_flatMap.1 hline
  rcases List.mem_append.1 hline with hline | hline
  · obtain ⟨h, hh, hchunk⟩ := List.mem_flatMap.1 hline
    have hfoldable := hm.written hheaders hh
    have hwhole := unbroken_headerLine hfoldable.name hfoldable.value
    have hfold : Folding.fold (headerLine h) = .ok (Folding.chunks (headerLine h)) :=
      Folding.fold_eq_ok_iff.2 ⟨surrogate?_headerLine_of_mem hnone hheaders hh, rfl⟩
    have hfits := (Folding.greedy_iff.2 hfold).fits line hchunk
    exact ⟨(Utf8.exists_encode_le_iff.1 hfits).2, unbroken_of_mem_fold hwhole hchunk⟩
  · rw [List.mem_singleton.1 hline]
    exact ⟨Nat.zero_le _, Lines.unbroken_nil⟩

/-- **Lines are folded greedily**, to chunks of 72 bytes, unless there is a surrogate in them, which
is an error. So each physical line of a manifest without surrogates whose headers can be folded is
at most 72 bytes of well-formed UTF-8 in front of its end, and the first line of each header holds
the whole name and the mark behind it. A manifest with a surrogate is not written. -/
theorem fold_greedy :
    (∀ line chunks, Folding.Greedy 72 line chunks ↔ Folding.fold line = .ok chunks)
      ∧ (∀ line, Text.surrogate? line = none → ∃ chunks, Folding.fold line = .ok chunks)
      ∧ (∀ line n, Text.surrogate? line = some n → Folding.fold line = .error ⟨0, n, 0⟩)
      ∧ ∀ m : Manifest, m.Foldable →
        (∀ n, m.surrogate? = some n → m.bytes = .error ⟨0, n, 0⟩)
        ∧ (m.surrogate? = none →
          ∃ rows, m.bytes = .ok (rows.flatMap fun row => row ++ [0x0D, 0x0A])
            ∧ List.Forall₂ (fun line row => Utf8.encode line = .ok row
                ∧ Utf8.decode? row = some line
                ∧ row.length ≤ 72 ∧ 0x0D ∉ row ∧ 0x0A ∉ row) m.lines rows
            ∧ ∀ headers ∈ m.written, ∀ h ∈ headers, ∃ start rest,
                Folding.fold (headerLine h) = .ok ((h.name ++ ": " ++ start) :: rest)
                  ∧ (h.name ++ ": " ++ start) :: rest <:+: m.lines) := by
  refine ⟨fun line chunks => Folding.greedy_iff, ?_, ?_, fun m hm => ⟨?_, fun hnone => ?_⟩⟩
  · intro line hline
    exact ⟨_, Folding.fold_eq_ok_iff.2 ⟨hline, rfl⟩⟩
  · intro line n hline
    rw [Folding.fold_eq, hline]
    rfl
  · intro n hn
    obtain ⟨k, hk, hbytes⟩ | ⟨hnone, -⟩ := m.bytes_cases
    · obtain rfl := Option.some.inj (hn.symm.trans hk)
      exact hbytes
    · exact absurd (hn.symm.trans hnone) (by simp)
  · obtain ⟨bytes, hbytes⟩ := exists_bytes hnone
    obtain ⟨rows, hrows, rfl⟩ := exists_rows (encode_of_bytes hbytes)
    have hlines := (List.forall₂_and_left _ _).2 ⟨fun line => of_mem_lines hm hnone, hrows⟩
    refine ⟨rows, hbytes, hlines.imp ?_, fun headers hheaders h hh => ?_⟩
    · rintro line row ⟨⟨hroom, hr, hn⟩, hrow⟩
      refine ⟨hrow, Utf8.decode?_eq_some_iff.2 hrow, ?_, fun hbyte => ?_, fun hbyte => ?_⟩
      · rw [Utf8.length_of_encode hrow]
        exact hroom
      · exact hr (Utf8.mem_of_mem_encode hrow (by decide) hbyte)
      · exact hn (Utf8.mem_of_mem_encode hrow (by decide) hbyte)
    · obtain ⟨start, rest, hchunks⟩ := exists_chunks_headerLine (hm.written hheaders hh)
      have hinfix := chunks_headerLine_infix_lines hheaders hh
      rw [hchunks] at hinfix
      have hfold := Folding.fold_eq_ok_iff.2
        ⟨surrogate?_headerLine_of_mem hnone hheaders hh, hchunks⟩
      exact ⟨start, rest, hfold, hinfix⟩

/-- Here the value of a header is folded in front of a character of two bytes, for which one byte of
room is left. -/
theorem fold_greedy_twoBytes :
    ∃ m : Manifest, ∃ rows : List Bytes, m.Foldable ∧ m.surrogate? = none
      ∧ m.main.headers = [⟨"X", List.replicate 40 (.scalar 'é')⟩]
      ∧ m.bytes = .ok (rows.flatMap fun row => row ++ [0x0D, 0x0A])
      ∧ List.Forall₂ (fun line row => Utf8.encode line = .ok row ∧ row.length ≤ 72) m.lines rows
      ∧ m.lines.map Text.byteLength = [71, 13, 0, 7, 0]
      ∧ ∃ start rest, Folding.fold (headerLine ⟨"X", List.replicate 40 (.scalar 'é')⟩)
          = .ok (("X" ++ ": " ++ start) :: rest) := by
  let m : Manifest := ⟨⟨[("x", ⟨"X", List.replicate 40 (.scalar 'é')⟩)]⟩, [("a", .empty)]⟩
  have hm : m.Foldable := by
    refine ⟨?_, ?_, ?_⟩
    · intro h hh
      rw [List.mem_singleton.1 hh]
      have hplain : HeaderName.isPlain "X" = true := by decide
      exact Writable.foldable ⟨hplain, by decide, by decide⟩
    · intro entry hentry
      rw [List.mem_singleton.1 hentry]
      exact ⟨by decide, by decide⟩
    · intro entry hentry h hh
      rw [List.mem_singleton.1 hentry] at hh
      exact absurd hh List.not_mem_nil
  have hnone : m.surrogate? = none := by decide +kernel
  obtain ⟨-, -, -, hwritten⟩ := fold_greedy
  obtain ⟨rows, hbytes, hrows, hnames⟩ := (hwritten m hm).2 hnone
  have hheaders : ordered m.main.headers ∈ m.written := List.mem_cons_self
  obtain ⟨start, rest, hfold, -⟩ := hnames _ hheaders _ (List.mem_singleton.2 rfl)
  exact ⟨m, rows, hm, hnone, rfl, hbytes, hrows.imp fun line row hrow => ⟨hrow.1, hrow.2.2.1⟩,
    by decide +kernel, start, rest, hfold⟩

/-- **Not every line is folded**: one that ends with a surrogate has no greedy folding. -/
theorem fold_surrogate :
    Folding.fold (Text.of "Import-Package: " ++ [.surrogate 0]) = .error ⟨0, 0, 0⟩
      ∧ ∀ chunks, ¬ Folding.Greedy 72 (Text.of "Import-Package: " ++ [.surrogate 0]) chunks := by
  have hfold : Folding.fold (Text.of "Import-Package: " ++ [.surrogate 0]) = .error ⟨0, 0, 0⟩ := by
    rw [Folding.fold_eq]
    rfl
  refine ⟨hfold, fun chunks hgreedy => ?_⟩
  rw [Folding.greedy_iff.1 hgreedy] at hfold
  exact absurd hfold (by simp)

end Manifest

end Wab
