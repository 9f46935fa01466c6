import Wab.Proofs.Decimal
import Wab.Proofs.LineEnds
import Wab.Proofs.Utf8

/-! # The line that an error is about

A message about a text that is no manifest can begin with the number of a line. A section that is
not read begins with a continuation line, or behind headers it has a logical line without a mark or
without a name; one that is read may lack the name of its entry. The number is that of the line with
which what is wrong begins, and the text in front of the section is a manifest by itself.

* **`ManifestError.opening`**, **`ManifestError.line?`** — what a message with a number begins with,
  and which errors have one.
* **`Manifest.Flawed`** — what is wrong with a section, and on which line.
* **`Manifest.SectionAt`** — where a section stands in a text.
* **`Manifest.readSection_eq_error_iff`**, **`Manifest.addSection_eq_error_iff`** — which sections
  are not read, and which are not added.
* **`Manifest.parse_line_number`** — the number in a message. -/

namespace Wab

/-! ## The number in a message -/

/-- A quoted text begins with a quote. -/
theorem Text.head?_quoted (s : Text) : (Text.quoted s).toList.head? ≠ some 'l' := by
  have hmark : Text.quoteMark s = .scalar '"' ∨ Text.quoteMark s = .scalar '\'' := by
    rw [Text.quoteMark]
    exact ite_eq_or_eq _ _ _
  rw [Text.quoted, Text.str, String.toList_ofList, Text.quote, List.cons_append, List.flatMap_cons]
  rcases hmark with h | h
  · simp [h, Text.shown]
  · simp [h, Text.shown]

namespace ManifestError

/-- The number of the line that the error is about. -/
def line? : ManifestError → Option Nat
  | .continuationWithoutHeader line => some line
  | .invalidHeader line _ => some line
  | .emptyHeaderName line => some line
  | .missingEntryName line => some line
  | .notUtf8 => none
  | .header _ => none

/-- What a message about a line begins with. -/
def opening (n : Nat) : List Char := ("line " ++ toString n ++ ": ").toList

theorem opening_append (n : Nat) (s : List Char) :
    opening n ++ s = "line ".toList ++ ((toString n).toList ++ (": ".toList ++ s)) := by
  rw [opening, String.toList_append, String.toList_append, List.append_assoc, List.append_assoc]

/-- As a text, what a message about a line begins with has the number between a word and a mark. -/
theorem map_opening_append (n : Nat) (s : List Char) :
    (opening n ++ s).map CodePoint.scalar
      = Text.of "line " ++ (Text.ofNat n ++ ([.scalar ':', .scalar ' '] ++ s.map .scalar)) := by
  rw [opening_append, List.map_append, List.map_append, List.map_append]
  rfl

/-- Numbers are told apart by what a message about a line begins with. -/
theorem eq_of_opening {m n : Nat} {s t : List Char} (h : opening m ++ s = opening n ++ t) :
    m = n := by
  have hcolon : ∀ i, .scalar ':' ∉ Text.ofNat i := fun i hmem =>
    absurd (Text.isDigit_of_mem_ofNat hmem) (by decide)
  have htext := congrArg (List.map CodePoint.scalar) h
  rw [map_opening_append, map_opening_append] at htext
  have hnumber := List.append_cancel_left htext
  have hcut := Text.cut?_append (hcolon m) [.scalar ' '] (s.map .scalar)
  rw [hnumber, Text.cut?_append (hcolon n) [.scalar ' '] (t.map .scalar)] at hcut
  exact (Text.ofNat_injective (Prod.mk.inj (Option.some.inj hcut)).1).symm

/-- The message about a line begins with the number of the line. -/
theorem opening_prefix_message {e : ManifestError} {line : Nat} (h : e.line? = some line) :
    opening line <+: e.message.toList := by
  have hprefix : ∀ more : String,
      opening line <+: ("line " ++ toString line ++ (": " ++ more)).toList := by
    intro more
    refine ⟨more.toList, ?_⟩
    rw [opening_append, String.toList_append, String.toList_append, String.toList_append,
      List.append_assoc]
  cases e with
  | continuationWithoutHeader l =>
      obtain rfl := Option.some.inj h
      exact hprefix "continuation line without header"
  | invalidHeader l content =>
      obtain rfl := Option.some.inj h
      have hwords : ": invalid header " ++ Text.quoted content
          = ": " ++ ("invalid header " ++ Text.quoted content) := by
        rw [← String.append_assoc]
        rfl
      have hmessage : (invalidHeader l content).message
          = "line " ++ toString l ++ (": " ++ ("invalid header " ++ Text.quoted content)) := by
        rw [← hwords, ← String.append_assoc]
        rfl
      rw [hmessage]
      exact hprefix _
  | emptyHeaderName l =>
      obtain rfl := Option.some.inj h
      exact hprefix "empty header name"
  | missingEntryName l =>
      obtain rfl := Option.some.inj h
      exact hprefix "entry section does not start with a Name header"
  | notUtf8 => exact absurd h (by simp [line?])
  | header cause => exact absurd h (by simp [line?])

/-- What is said of an operation does not begin like a message about a line. -/
theorem head?_message (cause : AttributeError) : cause.message.toList.head? ≠ some 'l' := by
  cases cause with
  | absent folded =>
      exact Text.head?_quoted folded
  | empty =>
      have hmessage : AttributeError.empty.message = "" := rfl
      rw [hmessage]
      simp
  | notText name typeName =>
      have hmessage : (AttributeError.notText name typeName).message
          = "header " ++ (Text.quoted name ++ (" expects a str value, got " ++ typeName)) := by
        rw [← String.append_assoc, ← String.append_assoc]
        rfl
      rw [hmessage, String.toList_append]
      simp
  | illegalValue name =>
      have hmessage : (AttributeError.illegalValue name).message
          = "header " ++ (Text.quoted name ++ " has a line break or NUL in its value") := by
        rw [← String.append_assoc]
        rfl
      rw [hmessage, String.toList_append]
      simp
  | invalidName name =>
      have hmessage : (AttributeError.invalidName name).message
          = "invalid header name " ++ Text.quoted name := rfl
      rw [hmessage, String.toList_append]
      simp

/-- Other messages do not begin like one about a line. -/
theorem not_opening_prefix_message {e : ManifestError} (h : e.line? = none) (n : Nat) :
    ¬ opening n <+: e.message.toList := by
  have hfirst : e.message.toList.head? ≠ some 'l' := by
    cases e with
    | notUtf8 => simp [message]
    | header cause =>
        rw [show (header cause).message = cause.message from rfl]
        exact head?_message cause
    | _ => exact absurd h (by simp [line?])
  rintro ⟨more, hmore⟩
  rw [← hmore, opening_append] at hfirst
  exact hfirst rfl

/-- **The message of an error begins with the number of its line**, if it has one. -/
theorem opening_prefix_message_iff {e : ManifestError} {n : Nat} :
    opening n <+: e.message.toList ↔ e.line? = some n := by
  constructor
  · intro h
    cases hline : e.line? with
    | none => exact absurd h (not_opening_prefix_message hline n)
    | some line =>
        obtain ⟨s, hs⟩ := h
        obtain ⟨t, ht⟩ := opening_prefix_message hline
        rw [eq_of_opening (ht.trans hs.symm)]
  · exact opening_prefix_message

end ManifestError

namespace Manifest

/-! ## What is wrong with a section -/

/-- The logical line has no mark between a name and a value, and no colon at its end. -/
def Unmarked (content : Text) : Prop := ¬ separator <:+: content ∧ ¬ [.scalar ':'] <:+ content

/-- The logical line has nothing in front of the mark, or of the colon at its end. -/
def Unnamed (content : Text) : Prop := separator <+: content ∨ content = [.scalar ':']

/-- The lines of a section, the first of which has a number, are no headers: the first one is a
continuation line, or behind lines that are headers a logical line begins that is none. The number
in the error is that of the line with which this begins. -/
inductive Malformed (line : Nat) : List Text → Nat → ManifestError → Prop where
  /-- The first line is a continuation line. -/
  | continuation {first : Text} {rest : List Text} (h : continues first = true) :
    Malformed line (first :: rest) line (.continuationWithoutHeader line)
  /-- Behind headers comes a logical line without a mark. -/
  | unmarked {earlier : List Text} {headers : List Header} {first : Text} {rest : List Text}
    (hearlier : Reads earlier headers) (hfirst : continues first = false)
    (h : Unmarked (unfolded first rest)) :
    Malformed line (earlier ++ first :: rest) (line + earlier.length)
      (.invalidHeader (line + earlier.length) (unfolded first rest))
  /-- Behind headers comes a logical line without a name. -/
  | unnamed {earlier : List Text} {headers : List Header} {first : Text} {rest : List Text}
    (hearlier : Reads earlier headers) (hfirst : continues first = false)
    (h : Unnamed (unfolded first rest)) :
    Malformed line (earlier ++ first :: rest) (line + earlier.length)
      (.emptyHeaderName (line + earlier.length))

/-- What is wrong with a section whose first line has a number: its lines are no headers, or it is
not the main section, which begins on the first line of a text, and its headers do not begin with
the name of an entry. -/
inductive Flawed (line : Nat) : List Text → Nat → ManifestError → Prop where
  /-- The lines are no headers. -/
  | malformed {run : List Text} {n : Nat} {e : ManifestError} (h : Malformed line run n e) :
    Flawed line run n e
  /-- The first header is not the name of an entry. -/
  | nameless {run : List Text} {first : Header} {headers : List Header} (hline : line ≠ 1)
    (h : Reads run (first :: headers))
    (hname : HeaderName.same first.name HeaderName.entryName = false) :
    Flawed line run line (.missingEntryName line)

/-- The error has the number. -/
theorem Malformed.line? {line : Nat} {run : List Text} {n : Nat} {e : ManifestError}
    (h : Malformed line run n e) : e.line? = some n := by
  cases h with
  | continuation _ => rfl
  | unmarked _ _ _ => rfl
  | unnamed _ _ _ => rfl

/-- The error has the number. -/
theorem Flawed.line? {line : Nat} {run : List Text} {n : Nat} {e : ManifestError}
    (h : Flawed line run n e) : e.line? = some n := by
  cases h with
  | malformed h => exact h.line?
  | nameless _ _ _ => rfl

/-! ## Reading a section -/

/-- A logical line is cut into a name and a value unless it is unmarked. -/
theorem splitHeader?_eq_none_iff {content : Text} :
    splitHeader? content = none ↔ Unmarked content := by
  rw [splitHeader?, Unmarked, ← Text.cut?_eq_none_iff]
  cases Text.cut? separator content with
  | some parts => simp
  | none =>
      have hsuffix : [.scalar ':'] <:+ content ↔ content.getLast? = some (.scalar ':') := by
        rw [List.getLast?_eq_some_iff]
        exact exists_congr fun _ => eq_comm
      simp [hsuffix]

/-- The name that a logical line is cut into is empty if the line is unnamed. -/
theorem exists_splitHeader?_nil_iff {content : Text} :
    (∃ value, splitHeader? content = some ([], value)) ↔ Unnamed content := by
  simp only [splitHeader?_eq_some_iff]
  constructor
  · rintro ⟨value, ⟨rfl, -⟩ | ⟨-, rfl, -⟩⟩
    · exact Or.inl ⟨value, rfl⟩
    · exact Or.inr rfl
  · rintro (⟨value, rfl⟩ | rfl)
    · exact ⟨value, Or.inl ⟨rfl, fun _ _ _ => Nat.zero_le _⟩⟩
    · exact ⟨[], Or.inr ⟨by decide, rfl, rfl⟩⟩

/-- A logical line is no header if it lacks the mark or the name. -/
theorem ofLine_eq_error_iff {line : Nat} {content : Text} {e : ManifestError} :
    NamedLine.ofLine line content = .error e
      ↔ Unmarked content ∧ e = .invalidHeader line content
        ∨ Unnamed content ∧ e = .emptyHeaderName line := by
  rw [← splitHeader?_eq_none_iff, ← exists_splitHeader?_nil_iff, NamedLine.ofLine]
  cases splitHeader? content with
  | none => simp [eq_comm]
  | some parts =>
      obtain ⟨name, value⟩ := parts
      cases name with
      | nil => simp [eq_comm]
      | cons c name => simp

/-- The lines of a section are malformed if the first one is a continuation line or if a logical
line behind headers is none. -/
theorem malformed_iff {line : Nat} {run : List Text} {n : Nat} {e : ManifestError} :
    Malformed line run n e
      ↔ (∃ first rest, run = first :: rest ∧ continues first = true ∧ n = line
          ∧ e = .continuationWithoutHeader line)
        ∨ ∃ earlier headers first rest, run = earlier ++ first :: rest ∧ Reads earlier headers
          ∧ continues first = false ∧ n = line + earlier.length
          ∧ NamedLine.ofLine n (unfolded first rest) = .error e := by
  constructor
  · intro h
    cases h with
    | continuation h => exact Or.inl ⟨_, _, rfl, h, rfl, rfl⟩
    | unmarked hearlier hfirst h =>
        exact Or.inr ⟨_, _, _, _, rfl, hearlier, hfirst, rfl,
          ofLine_eq_error_iff.2 (Or.inl ⟨h, rfl⟩)⟩
    | unnamed hearlier hfirst h =>
        exact Or.inr ⟨_, _, _, _, rfl, hearlier, hfirst, rfl,
          ofLine_eq_error_iff.2 (Or.inr ⟨h, rfl⟩)⟩
  · rintro (⟨first, rest, rfl, h, rfl, rfl⟩ | ⟨earlier, headers, first, rest, rfl, hearlier, hfirst,
      rfl, h⟩)
    · exact .continuation h
    · rcases ofLine_eq_error_iff.1 h with ⟨hmark, rfl⟩ | ⟨hname, rfl⟩
      · exact .unmarked hearlier hfirst hmark
      · exact .unnamed hearlier hfirst hname

/-- Headers with a logical line behind them do not begin with a continuation line. -/
theorem continues_head_of_reads {earlier : List Text} {headers : List Header} {first : Text}
    (h : Reads earlier headers) (hfirst : continues first = false) (rest : List Text) :
    ∀ l ∈ (earlier ++ first :: rest).head?, continues l = false := by
  intro l hl
  cases earlier with
  | nil => exact Option.some.inj hl ▸ hfirst
  | cons first' earlier => exact h.1 l hl

/-- The logical lines of a run are not all read if and only if one behind headers is none. -/
theorem readLines_eq_error_iff {line : Nat} {run : List Text} {e : ManifestError}
    (hrun : ∀ l ∈ run.head?, continues l = false) :
    readLines (logicalLines line run) = .error e
      ↔ ∃ earlier headers first rest, run = earlier ++ first :: rest ∧ Reads earlier headers
        ∧ continues first = false
        ∧ NamedLine.ofLine (line + earlier.length) (unfolded first rest) = .error e := by
  rw [readLines, mapM_eq_error_iff]
  constructor
  · rintro ⟨before, logical, after, named, hlogical, hbefore, herror⟩
    -- The logical lines before the one that fails are those of the lines in front of it.
    obtain ⟨earlier, first, rest, rfl, hfirst, rfl, rfl⟩ := exists_of_logicalLines hlogical
    have hspells := readLines_eq_ok_iff.1 ⟨named, hbefore, rfl⟩
    rw [map_snd_logicalLines] at hspells
    refine ⟨earlier, named.map NamedLine.header, first, rest, rfl, ⟨?_, hspells⟩, ?_, herror⟩
    · intro l hl
      apply hrun l
      rw [List.head?_append, Option.mem_def.1 hl]
      rfl
    · cases earlier with
      | nil => exact hrun first rfl
      | cons l earlier => exact hfirst (List.cons_ne_nil l earlier)
  · rintro ⟨earlier, headers, first, rest, rfl, hearlier, hfirst, herror⟩
    obtain ⟨named, hnamed, -⟩ := readLines_eq_ok_iff.2
      ((map_snd_logicalLines line earlier).symm ▸ hearlier.2)
    have hhead : ∀ l ∈ (first :: rest).head?, continues l = false := by
      intro l hl
      rw [← Option.some.inj hl]
      exact hfirst
    rw [logicalLines_append hhead, logicalLines_cons_eq]
    exact ⟨_, _, _, named, rfl, hnamed, herror⟩

/-- **A section is not read** if and only if its lines are no headers. -/
theorem readSection_eq_error_iff {s : Lines.Section} {e : ManifestError} :
    readSection s = .error e ↔ ∃ n, Malformed s.start s.lines n e := by
  simp only [malformed_iff]
  rw [readSection_eq]
  cases hc : continues s.first with
  | true =>
      rw [if_pos rfl]
      constructor
      · intro h
        exact ⟨s.start, Or.inl ⟨s.first, s.rest, rfl, hc, rfl, (Except.error.inj h).symm⟩⟩
      · rintro ⟨n, ⟨first, rest, -, -, -, rfl⟩ | ⟨earlier, headers, first, rest, hrun, hearlier,
          hfirst, -⟩⟩
        · rfl
        · have hhead := continues_head_of_reads hearlier hfirst rest
          rw [← hrun] at hhead
          exact absurd (hc.symm.trans (hhead s.first rfl)) (by decide)
  | false =>
      have hhead : ∀ l ∈ s.lines.head?, continues l = false := by
        intro l hl
        rw [← Option.some.inj hl]
        exact hc
      rw [if_neg Bool.false_ne_true, readLines_eq_error_iff hhead]
      constructor
      · rintro ⟨earlier, headers, first, rest, hrun, hearlier, hfirst, herror⟩
        exact ⟨_, Or.inr ⟨earlier, headers, first, rest, hrun, hearlier, hfirst, rfl, herror⟩⟩
      · rintro ⟨n, ⟨first, rest, hrun, hfirst, -⟩ | ⟨earlier, headers, first, rest, hrun, hearlier,
          hfirst, rfl, herror⟩⟩
        · rw [← (List.cons.inj hrun).1, hc] at hfirst
          exact absurd hfirst Bool.false_ne_true
        · exact ⟨earlier, headers, first, rest, hrun, hearlier, hfirst, herror⟩

/-- The first header of a section has the number of the section's first line. -/
theorem line_of_readSection {s : Lines.Section} {first : NamedLine} {rest : List NamedLine}
    (h : readSection s = .ok (first :: rest)) : first.line = s.start := by
  rw [readSection_eq] at h
  split at h
  next => exact absurd h (by simp)
  next =>
    rw [Lines.Section.lines, logicalLines_cons_eq, readLines_cons] at h
    obtain ⟨n, hn, h⟩ := bind_eq_ok.1 h
    obtain ⟨more, -, h⟩ := bind_eq_ok.1 h
    rw [← (List.cons.inj (Except.ok.inj h)).1]
    exact (ofLine_eq_ok_iff.1 hn).1

/-! ## Adding sections -/

/-- Adds a section, which is the main one if it begins on the first line. -/
def addSection (m : Manifest) (s : Lines.Section) : Except ManifestError Manifest :=
  if s.start = 1 then addMain m s else addEntry m s

/-- Lines are read section by section. -/
theorem ofLines_eq_foldlM (lines : List Text) :
    ofLines lines = (Lines.sections 1 lines).foldlM addSection {} := by
  have hentries : ∀ line more, 2 ≤ line → ∀ m, (Lines.sections line more).foldlM addEntry m
      = (Lines.sections line more).foldlM addSection m := by
    intro line more hline m
    apply foldlM_congr
    intro s hs m
    have hstart := Lines.le_start_of_mem_sections hs
    rw [addSection, if_neg (by omega)]
  rw [ofLines]
  cases lines with
  | nil =>
      rw [if_neg (by simp), Lines.sections]
      rfl
  | cons first rest =>
      cases first with
      | nil =>
          rw [if_pos List.head?_cons, Lines.sections_nil_cons]
          exact hentries 2 rest (Nat.le_refl 2) {}
      | cons c cs =>
          rw [if_neg (by simp), Lines.sections]
          dsimp only
          rw [List.foldlM_cons]
          refine bind_congr fun m => ?_
          exact hentries _ _ (by omega) m

/-- A header that cannot be stored is an error without a number. -/
theorem line?_of_store {a : Attributes} {named : List NamedLine} {e : ManifestError}
    (h : store a named = .error e) : e.line? = none := by
  rw [store_eq] at h
  obtain ⟨cause, -, rfl⟩ := mapError_eq_error.1 h
  rfl

/-- The main section is not added, with a number in the error, if and only if it is not read. -/
theorem addMain_eq_error_iff (m : Manifest) {s : Lines.Section} {e : ManifestError}
    (hline : e.line? ≠ none) : addMain m s = .error e ↔ readSection s = .error e := by
  rw [addMain, bind_eq_error, or_iff_left_of_imp]
  rintro ⟨named, -, h⟩
  rcases bind_eq_error.1 h with hstore | ⟨a, -, hok⟩
  · exact absurd (line?_of_store hstore) hline
  · exact absurd hok (by simp)

/-- The section of an entry is not added, with a number in the error, if and only if it is not read
or its first header is not the name of an entry. -/
theorem addEntry_eq_error_iff (m : Manifest) {s : Lines.Section} {e : ManifestError}
    (hline : e.line? ≠ none) :
    addEntry m s = .error e
      ↔ readSection s = .error e
        ∨ (∃ first headers, Reads s.lines (first :: headers)
            ∧ HeaderName.same first.name HeaderName.entryName = false)
          ∧ e = .missingEntryName s.start := by
  rw [addEntry, bind_eq_error]
  refine or_congr_right ⟨?_, ?_⟩
  · rintro ⟨named, hread, h⟩
    cases named with
    | nil => exact absurd h (by simp)
    | cons first rest =>
        dsimp only at h
        split at h
        next =>
          rcases bind_eq_error.1 h with hstore | ⟨a, -, hok⟩
          · exact absurd (line?_of_store hstore) hline
          · exact absurd hok (by simp)
        next hname =>
          rw [line_of_readSection hread] at h
          exact ⟨⟨first.header, rest.map NamedLine.header,
            readSection_eq_ok_iff.1 ⟨_, hread, rfl⟩, Bool.eq_false_iff.2 hname⟩,
            (Except.error.inj h).symm⟩
  · rintro ⟨⟨first, headers, hreads, hname⟩, rfl⟩
    obtain ⟨named, hread, hnamed⟩ := readSection_eq_ok_iff.2 hreads
    cases named with
    | nil => exact absurd hnamed (by simp)
    | cons n rest =>
        obtain ⟨rfl, -⟩ := List.cons.inj hnamed
        refine ⟨n :: rest, hread, ?_⟩
        have hother : HeaderName.same n.name HeaderName.entryName = false := hname
        dsimp only
        rw [hother, line_of_readSection hread]
        rfl

/-- **A section is not added, with a number in the error,** if and only if that is wrong with it. -/
theorem addSection_eq_error_iff (m : Manifest) {s : Lines.Section} {e : ManifestError} {n : Nat}
    (hline : e.line? = some n) :
    addSection m s = .error e ↔ Flawed s.start s.lines n e := by
  have hsome : e.line? ≠ none := hline ▸ Option.some_ne_none n
  have hread : readSection s = .error e ↔ Malformed s.start s.lines n e := by
    rw [readSection_eq_error_iff]
    constructor
    · rintro ⟨k, h⟩
      rwa [Option.some.inj (hline.symm.trans h.line?)]
    · exact fun h => ⟨n, h⟩
  have hflawed : Flawed s.start s.lines n e
      ↔ Malformed s.start s.lines n e
        ∨ s.start ≠ 1 ∧ (∃ first headers, Reads s.lines (first :: headers)
            ∧ HeaderName.same first.name HeaderName.entryName = false)
          ∧ e = .missingEntryName s.start := by
    constructor
    · intro h
      cases h with
      | malformed h => exact Or.inl h
      | nameless hstart h hname => exact Or.inr ⟨hstart, ⟨_, _, h, hname⟩, rfl⟩
    · rintro (h | ⟨hstart, ⟨first, headers, h, hname⟩, rfl⟩)
      · exact .malformed h
      · obtain rfl := Option.some.inj hline
        exact .nameless hstart h hname
  rw [hflawed, addSection]
  split
  next hstart => rw [addMain_eq_error_iff m hsome, hread, or_iff_left fun h => h.1 hstart]
  next hstart => rw [addEntry_eq_error_iff m hsome, hread, and_iff_right hstart]

/-! ## Sections in a text -/

/-- A text has a section behind a part of it. -/
structure SectionAt (text front : Text) (before run after : List Text) : Prop where
  /-- The lines of the text are those before the section, those of it and those behind it. -/
  lines : Lines.Cut text (before ++ (run ++ after))
  /-- The part in front has the lines before the section, each with its end. -/
  ended : Lines.Cut front (before ++ [[]])
  /-- The rest of the text begins with the section. -/
  rest : ∃ rest, text = front ++ rest ∧ Lines.Cut rest (run ++ after)
  /-- The section is a run of non-empty lines between empty ones. -/
  isRun : Lines.IsRun before run after

/-- A section of a text has a flaw on a line, and the part in front of the section is a manifest. -/
def FlawedAt (text : Text) (n : Nat) (e : ManifestError) : Prop :=
  ∃ front before run after, SectionAt text front before run after
    ∧ (∃ m, parse front = .ok m) ∧ Flawed (before.length + 1) run n e

/-- **A text is not read, with a number in the error,** if and only if that is wrong with a section
and the part in front of it is read. -/
theorem parse_eq_error_iff {text : Text} {e : ManifestError} {n : Nat} (hline : e.line? = some n) :
    parse text = .error e ↔ FlawedAt text n e := by
  -- The part of a text in front of a section is read as the sections before it.
  have hfront : ∀ {front : Text} {before : List Text}, Lines.Cut front (before ++ [[]]) →
      parse front = (Lines.sections 1 before).foldlM addSection {} := by
    intro front before hcut
    rw [parse_eq_ofLines, Lines.cut_iff.1 hcut, ofLines_eq_foldlM, Lines.sections_concat_nil]
  rw [parse_eq_ofLines, ofLines_eq_foldlM, foldlM_eq_error_iff]
  constructor
  · rintro ⟨pre, s, post, m, hsections, hpre, hs⟩
    obtain ⟨before, after, hlines, hrun, hstart, rfl⟩ := Lines.exists_isRun_of_sections hsections
    have hcut := Lines.cut_iff.2 hlines
    obtain ⟨front, rest, htext, hended, hrest⟩ :=
      hcut.exists_append (List.append_ne_nil_of_left_ne_nil hrun.ne_nil after)
    have hnumber : s.start = before.length + 1 := by
      rw [hstart, Nat.add_comm]
    rw [addSection_eq_error_iff m hline, hnumber] at hs
    exact ⟨front, before, s.lines, after, ⟨hcut, hended, ⟨rest, htext, hrest⟩, hrun⟩,
      ⟨m, (hfront hended).trans hpre⟩, hs⟩
  · rintro ⟨front, before, run, after, ⟨hlines, hended, -, hrun⟩, ⟨m, hm⟩, hflawed⟩
    obtain ⟨first, rest, rfl⟩ := List.exists_cons_of_ne_nil hrun.ne_nil
    obtain ⟨more, hmore⟩ := Lines.sections_of_isRun hrun 1
    refine ⟨Lines.sections 1 before, ⟨1 + before.length, first, rest⟩, more, m, ?_, ?_, ?_⟩
    · rw [Lines.cut_iff.1 hlines, hmore]
    · rw [← hfront hended, hm]
    · rw [addSection_eq_error_iff m hline, Nat.add_comm]
      exact hflawed

/-- **The number in a message about a text** is that of the line with which what is wrong with a
section begins: of the first line of the section if that is a continuation line or if the section
lacks the name of its entry, and else of the line on which a logical line begins that is no header
or has no name, behind lines that are headers. The part of the text in front of the section is a
manifest. The same holds of the bytes of a text. -/
theorem parse_line_number :
    (∀ text e n, parse text = .error e ∧ ManifestError.opening n <+: e.message.toList
        ↔ FlawedAt text n e)
      ∧ ∀ bytes e n, parseBytes bytes = .error e ∧ ManifestError.opening n <+: e.message.toList
        ↔ ∃ text, Utf8.encode text = .ok bytes ∧ FlawedAt text n e := by
  have htext : ∀ text e n, parse text = .error e ∧ ManifestError.opening n <+: e.message.toList
      ↔ FlawedAt text n e := by
    intro text e n
    rw [ManifestError.opening_prefix_message_iff]
    constructor
    · rintro ⟨h, hline⟩
      exact (parse_eq_error_iff hline).1 h
    · intro h
      have hline : e.line? = some n := by
        obtain ⟨_, _, _, _, _, _, hflawed⟩ := h
        exact hflawed.line?
      exact ⟨(parse_eq_error_iff hline).2 h, hline⟩
  refine ⟨htext, ?_⟩
  intro bytes e n
  simp only [← htext, ← Utf8.decode?_eq_some_iff]
  rw [parseBytes]
  cases Utf8.decode? bytes with
  | some text => simp
  | none =>
      simp only [reduceCtorEq, false_and, exists_false, iff_false]
      rintro ⟨h, hprefix⟩
      rw [← Except.error.inj h, ManifestError.opening_prefix_message_iff] at hprefix
      exact absurd hprefix (by simp [ManifestError.line?])

/-- Here a folded logical line without a mark stands in a section behind two empty lines and behind
another folded line, and the lines have all kinds of ends. -/
theorem parse_line_number_folded :
    parse "A: b\r\n c\n\r\n\nName: x\rD: e\r\n f\nbroken\r more\n"
        = .error (.invalidHeader 8 "brokenmore")
      ∧ ManifestError.opening 8
        <+: (ManifestError.invalidHeader 8 "brokenmore").message.toList := by
  have hsection : SectionAt
      "A: b\r\n c\n\r\n\nName: x\rD: e\r\n f\nbroken\r more\n"
      "A: b\r\n c\n\r\n\n" ["A: b", " c", [], []]
      ["Name: x", "D: e", " f", "broken", " more"] [[]] := by
    refine ⟨Lines.cut_iff.2 rfl, Lines.cut_iff.2 rfl, ?_, ?_⟩
    · exact ⟨"Name: x\rD: e\r\n f\nbroken\r more\n", rfl, Lines.cut_iff.2 rfl⟩
    · exact ⟨by decide, by decide, Or.inr ⟨["A: b", " c", []], rfl⟩,
        Or.inr ⟨[], rfl⟩⟩
  have hreads : Reads ["Name: x", "D: e", " f"]
      [⟨"Name", "x"⟩, ⟨"D", "ef"⟩] := by
    have hlines : Lines.Section.lines ⟨5, "Name: x", ["D: e", " f"]⟩
        = (["Name: x", "D: e", " f"] : List Text) := rfl
    rw [← hlines, ← readSection_eq_ok_iff]
    exact ⟨[⟨5, "Name", "x"⟩, ⟨6, "D", "ef"⟩], rfl, rfl⟩
  have hmalformed : Malformed 5
      (["Name: x", "D: e", " f"] ++ "broken" :: [" more"]) 8
      (.invalidHeader 8 "brokenmore") :=
    .unmarked hreads rfl ⟨by decide, by decide⟩
  obtain ⟨m, hm, -⟩ := exists_ok_of_toOption (e := parse "A: b\r\n c\n\r\n\n")
    (f := fun m => m.main.headers) (b := [⟨"A", "bc"⟩]) (by decide +kernel)
  exact (parse_line_number.1 _ _ _).2 ⟨_, _, _, _, hsection, ⟨m, hm⟩, .malformed hmalformed⟩

end Manifest

end Wab
