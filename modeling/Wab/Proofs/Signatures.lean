import Wab.Proofs.Cut
import Wab.Proofs.Processing
import Wab.Proofs.RoundTrip
import Wab.Zip.Writer

/-! # Signatures and letter case

The headers of a section are found in any letter case, but a header belongs to a signature by the
spelling that the manifest gives it. So a signature header in another letter case stays in the
bundle that a plain archive becomes.

* **`Signature.Spelled`**, **`Signature.Meant`** — a name of a signature header, as it is spelled
  and in any letter case.
* **`Signature.spelled_congr_iff`** — the spelling of a name does not matter if and only if it is
  the name of a signature header in no letter case.
* **`Signature.process_signatures`** — the signature headers of a plain archive after processing. -/

namespace Wab

namespace Signature

/-- The name is spelled like that of a header that belongs to a signature. -/
def Spelled (name : Text) : Prop :=
  "-Digest" <:+ name ∨ "-Digest-" <:+: name ∨ name = "Magic"

/-- The name is that of a header that belongs to a signature if letter case is ignored. -/
def Meant (name : Text) : Prop :=
  "-digest" <:+ Text.lower name ∨ "-digest-" <:+: Text.lower name
    ∨ Text.lower name = "magic"

/-- The headers that are left out of a bundle are those that are spelled in this way. -/
theorem isHeader_iff {name : Text} : isHeader name = true ↔ Spelled name := by
  rw [isHeader, Bool.or_eq_true, Bool.or_eq_true, beq_iff_eq, Text.endsWith,
    List.isSuffixOf_iff_suffix, Text.includes_iff, or_assoc]
  rfl

instance : DecidablePred Spelled := fun _ => decidable_of_iff _ isHeader_iff

/-! ## One name -/

/-- A name that is spelled like that of a signature header is meant as one. -/
theorem Spelled.meant {name : Text} (hplain : HeaderName.isPlain name = true)
    (h : Spelled name) : Meant name := by
  unfold Meant
  rw [HeaderName.lower_of_isPlain hplain]
  rcases h with hsuffix | hinside | rfl
  · exact Or.inl (hsuffix.map CodePoint.toLower)
  · exact Or.inr (Or.inl (hinside.map CodePoint.toLower))
  · exact Or.inr (Or.inr (by decide))

/-- Names that are the same are meant alike. -/
theorem meant_congr {name other : Text} (h : HeaderName.same name other = true) :
    Meant name ↔ Meant other := by
  rw [Meant, Meant, HeaderName.same_iff.1 h]

/-- No name in lower case is spelled like that of a signature header, which has a capital letter. -/
theorem not_spelled_map_toLower (name : Text) : ¬ Spelled (name.map CodePoint.toLower) := by
  have hcapital : ∀ d : Char, d.isUpper = true → .scalar d ∉ name.map CodePoint.toLower := by
    intro d hupper hmem
    obtain ⟨c, -, hc⟩ := List.mem_map.1 hmem
    cases c with
    | scalar c =>
        obtain rfl := CodePoint.scalar.inj hc
        rw [HeaderName.isUpper_toLower] at hupper
        exact absurd hupper (by decide)
    | surrogate n => exact absurd hc (by simp [CodePoint.toLower])
  have hD : .scalar 'D' ∉ name.map CodePoint.toLower := hcapital 'D' (by decide)
  have hM : .scalar 'M' ∉ name.map CodePoint.toLower := hcapital 'M' (by decide)
  rintro (hsuffix | hinside | hmagic)
  · exact hD (hsuffix.mem (by decide))
  · exact hD (hinside.mem (by decide))
  · exact hM (hmagic ▸ by decide)

/-- A name that is meant as that of a signature header can be spelled like one. -/
theorem exists_spelled_of_meant {name : Text} (hplain : HeaderName.isPlain name = true)
    (h : Meant name) :
    ∃ other, other.map CodePoint.toLower = name.map CodePoint.toLower ∧ Spelled other := by
  have hdigest : (Text.of "-Digest").map CodePoint.toLower = "-digest" := by decide
  have hdigests : (Text.of "-Digest-").map CodePoint.toLower = "-digest-" := by decide
  unfold Meant at h
  rw [HeaderName.lower_of_isPlain hplain] at h
  rcases h with ⟨start, hname⟩ | ⟨start, rest, hname⟩ | hname
  · -- The end of the name is replaced, the characters before it stay.
    obtain ⟨before, mark, rfl, -, hmark⟩ := List.map_eq_append_iff.1 hname.symm
    refine ⟨before ++ "-Digest", ?_, Or.inl (List.suffix_append _ _)⟩
    rw [List.map_append, List.map_append, hdigest, hmark]
  · obtain ⟨upto, after, rfl, hupto, -⟩ := List.map_eq_append_iff.1 hname.symm
    obtain ⟨before, mark, rfl, -, hmark⟩ := List.map_eq_append_iff.1 hupto
    refine ⟨before ++ "-Digest-" ++ after, ?_, Or.inr (Or.inl ⟨before, after, rfl⟩)⟩
    simp only [List.map_append, hdigests, hmark]
  · exact ⟨"Magic", by rw [hname]; decide, Or.inr (Or.inr rfl)⟩

/-- **The spelling of a name does not matter** if and only if it is not meant as the name of a
signature header: otherwise it is one in some letter case and none in another. -/
theorem spelled_congr_iff {name : Text} (hplain : HeaderName.isPlain name = true) :
    (∀ other, HeaderName.isPlain other = true → HeaderName.same other name = true →
        (Spelled other ↔ Spelled name))
      ↔ ¬ Meant name := by
  constructor
  · intro hcongr hmeant
    obtain ⟨other, hmap, hspelled⟩ := exists_spelled_of_meant hplain hmeant
    obtain ⟨hother, hsame⟩ := HeaderName.same_of_map_toLower hplain hmap
    have hname : Spelled name := (hcongr other hother hsame).1 hspelled
    -- The name in lower case is the same one too.
    have hlower : (name.map CodePoint.toLower).map CodePoint.toLower
        = name.map CodePoint.toLower := by
      rw [List.map_map]
      congr 1
      funext c
      exact HeaderName.toLower_toLower c
    obtain ⟨hsmall, hsame⟩ := HeaderName.same_of_map_toLower hplain hlower
    exact not_spelled_map_toLower name ((hcongr _ hsmall hsame).2 hname)
  · intro hmeant other hother hsame
    have hnot : ¬ Spelled other := fun h => hmeant ((meant_congr hsame).1 (h.meant hother))
    have hname : ¬ Spelled name := fun h => hmeant (h.meant hplain)
    exact iff_of_false hnot hname

/-! ## A processed archive -/

/-- **The signatures of a plain archive.** The sections of its entries lose the headers that are
spelled like those of signatures, and no others. So no signature header is left in any letter case
if and only if all those of the archive have that spelling, and the letter case of a name matters
exactly if it is meant as that of a signature header. -/
theorem process_signatures {locator : Text} {medium : Medium} {bytes : Bytes} {a : Archive}
    {p : Processor} {query : Option Text} {m : Manifest}
    (hopen : (Archive.ofBytes locator medium bytes).result = .ok a)
    (hplain : ∀ known ∈ HeaderName.customizable, a.manifest.main.contains known = false)
    (h : (p.process a query).1.result = .ok m) :
    m.entries.map (fun entry => (entry.1, entry.2.headers))
        = a.manifest.entries.map (fun entry =>
          (entry.1, entry.2.headers.filter fun header => ¬ Spelled header.name))
      ∧ ((∀ entry ∈ m.entries, ∀ header ∈ entry.2.headers, ¬ Meant header.name)
        ↔ ∀ entry ∈ a.manifest.entries, ∀ header ∈ entry.2.headers,
          Meant header.name → Spelled header.name)
      ∧ ∀ entry ∈ a.manifest.entries, ∀ header ∈ entry.2.headers,
        (∀ other, HeaderName.isPlain other = true → HeaderName.same other header.name = true →
            (Spelled other ↔ Spelled header.name))
          ↔ ¬ Meant header.name := by
  obtain ⟨hformed, hone⟩ := Archive.wellFormed_of_ofBytes hopen
  obtain ⟨-, path, name, classPath, main, -, -, -, -, rfl, -⟩ :=
    (Processor.process_plain_eq_ok hformed.main (Bundle.classify_eq_plain.2 hplain)).1 h
  have hkeep : ∀ header : Header,
      (!isHeader header.name) = decide (¬ Spelled header.name) := by
    intro header
    rw [decide_not]
    congr 1
    rw [Bool.eq_iff_iff, decide_eq_true_eq]
    exact isHeader_iff
  have hentries : (strip { a.manifest with main := main }).entries.map
      (fun entry => (entry.1, entry.2.headers))
        = a.manifest.entries.map (fun entry =>
          (entry.1, entry.2.headers.filter fun header => ¬ Spelled header.name)) := by
    simp only [strip, List.map_map, Function.comp_def, Attributes.headers_filterNames, hkeep]
  refine ⟨hentries, ?_, ?_⟩
  · have hleft : (∀ entry ∈ (strip { a.manifest with main := main }).entries,
        ∀ header ∈ entry.2.headers, ¬ Meant header.name)
          ↔ ∀ entry ∈ a.manifest.entries,
            ∀ header ∈ entry.2.headers.filter (fun header => ¬ Spelled header.name),
              ¬ Meant header.name := by
      rw [← List.forall_mem_map (f := fun entry : Text × Attributes => (entry.1, entry.2.headers))
        (P := fun view => ∀ header ∈ view.2, ¬ Meant header.name), hentries, List.forall_mem_map]
    rw [hleft]
    refine forall₂_congr fun entry _ => forall_congr' fun header => ?_
    rw [List.mem_filter, decide_eq_true_eq, and_imp]
    exact forall_congr' fun _ => Decidable.not_imp_not
  · intro entry hentry header hheader
    have hsection := (hformed.entries entry hentry).2
    exact spelled_congr_iff (hsection.isPlain (hone.entries entry hentry) header hheader)

/-- Here one of two digests is written in small letters and stays. -/
theorem process_signatures_small :
    ∃ a m, (Archive.ofBytes [] .memory (Zip.store [⟨"META-INF/MANIFEST.MF".toList,
          Utf8.bytes "A: 1\n\nName: x\nsha1-digest: 2\nSHA1-Digest-y: 3".toList⟩])).result
        = .ok a
      ∧ (({} : Processor).process a (some ↑"web-contextpath=new")).1.result = .ok m
      ∧ m.entries.map (fun entry => (entry.1, entry.2.headers))
        = ([(['x'], [⟨"sha1-digest", ['2']⟩])] : List (Text × List Header))
      ∧ ¬ ∀ entry ∈ m.entries, ∀ header ∈ entry.2.headers, ¬ Meant header.name := by
  have hmeant : Meant "sha1-digest" := by
    refine Or.inl ⟨"sha1", ?_⟩
    decide +kernel
  obtain ⟨a, ha, hview⟩ := exists_ok_of_toOption
    (e := (Archive.ofBytes [] .memory (Zip.store [⟨"META-INF/MANIFEST.MF".toList,
      Utf8.bytes "A: 1\n\nName: x\nsha1-digest: 2\nSHA1-Digest-y: 3".toList⟩])).result)
    (f := fun a => (HeaderName.customizable.any a.manifest.main.contains,
      a.manifest.entries.map fun entry => (entry.1, entry.2.headers),
      (({} : Processor).process a (some ↑"web-contextpath=new")).1.result.toOption.map
        fun _ => ()))
    (b := (false, ([(['x'], [⟨"sha1-digest", ['2']⟩, ⟨"SHA1-Digest-y", ['3']⟩])]
      : List (Text × List Header)), some ()))
    (by decide +kernel)
  simp only [Prod.mk.injEq] at hview
  obtain ⟨hplain, hown, hsome⟩ := hview
  obtain ⟨m, hm, -⟩ := exists_ok_of_toOption hsome
  obtain ⟨hentries, hnone, -⟩ := process_signatures ha (by simpa using hplain) hm
  have hleft : m.entries.map (fun entry => (entry.1, entry.2.headers))
      = ([(['x'], [⟨"sha1-digest", ['2']⟩])] : List (Text × List Header)) := by
    have hmap := congrArg (List.map fun view : Text × List Header =>
      (view.1, view.2.filter fun header => ¬ Spelled header.name)) hown
    rw [List.map_map] at hmap
    rw [hentries]
    refine Eq.trans hmap ?_
    decide +kernel
  refine ⟨a, m, ha, hm, hleft, fun hgone => ?_⟩
  obtain ⟨entry, hentry, hview⟩ := List.mem_map.1 (hown ▸ List.mem_singleton_self _ :
    (_, _) ∈ a.manifest.entries.map fun entry => (entry.1, entry.2.headers))
  obtain ⟨-, hheaders⟩ := Prod.mk.inj hview
  -- The digest in small letters is meant as one but not spelled like one.
  have hspelled := hnone.1 hgone entry hentry ⟨"sha1-digest", ['2']⟩
    (hheaders ▸ List.mem_cons_self) hmeant
  exact absurd hspelled (by decide +kernel)

end Signature

end Wab
