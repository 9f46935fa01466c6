import Wab.Proofs.ClassPath
import Wab.Proofs.Cut
import Wab.Proofs.References

/-! # References of libraries that are relative paths

A library refers to other jars by relative paths, which are read from the library folder. Nothing in
the name of the library leads out of that folder: what looks like a query, a fragment or parameters
belongs to the last segment of the name, which is replaced. From the folder each segment of a path
leads further down, but one dot leads nowhere and two dots lead up as long as there is a way.

* **`Uri.walk`**, **`Uri.destination`** — where segments lead from a folder.
* **`Uri.split_of_relative`** — a relative path is all of a reference.
* **`Uri.joinPaths_eq_destination`** — a path is read from the folder of a file.
* **`ClassPath.split_of_isLibraryJar`** — the name of a library is a file of the library folder.
* **`ClassPath.resolve_of_relative`** — the relative references of a library. -/

namespace Wab

/-- No word holds white space. -/
theorem Text.isBlank_of_mem_words {s word : Text} (h : word ∈ Text.words s) {c : CodePoint}
    (hc : c ∈ word) : Text.isBlank c = false :=
  (Text.mem_and_eq_false_of_mem_splitOnP (List.mem_filter.1 h).1 hc).2

namespace Uri

/-! ## Walking -/

/-- The folders that segments lead through from a path: one dot stays there, two dots go up if there
is a folder to leave, and any other segment goes down. -/
def walk (path : List Text) : List Text → List Text
  | [] => path
  | segment :: rest =>
    if segment = [.scalar '.'] then walk path rest
    else if segment = (['.', '.'] : Text) then walk path.dropLast rest
    else walk (path ++ [segment]) rest

/-- The place that a relative path leads to from a folder. A path that ends with dots leads to a
folder, which is written with a slash at its end. -/
def destination (folder : List Text) (ref : Text) : Text :=
  let segments := ref.splitOn (.scalar '/')
  let path := walk folder segments
  if segments.getLast? = some [.scalar '.']
      ∨ segments.getLast? = some [.scalar '.', .scalar '.'] then
    if path = [] then ['/'] else List.intercalate [.scalar '/'] path ++ [.scalar '/']
  else List.intercalate [.scalar '/'] path

theorem walk_cons (path : List Text) (segment : Text) (rest : List Text) :
    walk path (segment :: rest)
      = if segment = [.scalar '.'] then walk path rest
        else if segment = (['.', '.'] : Text) then walk path.dropLast rest
        else walk (path ++ [segment]) rest := rfl

/-- Walking is pushing segments on a pile and popping them. -/
theorem reverse_foldl_pushSegment (segments resolved : List Text) :
    (segments.foldl pushSegment resolved).reverse = walk resolved.reverse segments := by
  induction segments generalizing resolved with
  | nil => rfl
  | cons segment rest ih =>
      rw [List.foldl_cons, ih, walk_cons, pushSegment]
      by_cases hup : segment = (['.', '.'] : Text)
      · have hstay : segment ≠ [.scalar '.'] := by
          rw [hup]
          decide
        rw [if_pos hup, if_neg hstay, if_pos hup, List.dropLast_reverse]
      · rw [if_neg hup, if_neg hup]
        by_cases hstay : segment = [.scalar '.']
        · rw [if_pos hstay, if_pos hstay]
        · rw [if_neg hstay, if_neg hstay, List.reverse_cons]

/-- A walk goes on from the place that it has come to. -/
theorem walk_append (path segments more : List Text) :
    walk path (segments ++ more) = walk (walk path segments) more := by
  induction segments generalizing path with
  | nil => rfl
  | cons segment rest ih =>
      rw [List.cons_append, walk_cons, walk_cons]
      split
      next => exact ih path
      next =>
        split
        next => exact ih path.dropLast
        next => exact ih (path ++ [segment])

/-- The segment leads down: it is neither empty nor dots. -/
def Descends (segment : Text) : Prop :=
  segment ≠ [] ∧ segment ≠ [.scalar '.'] ∧ segment ≠ [.scalar '.', .scalar '.']

/-- Segments that lead down lead to themselves. -/
theorem walk_of_descends {segments : List Text} (h : ∀ segment ∈ segments, Descends segment)
    (path : List Text) : walk path segments = path ++ segments := by
  induction segments generalizing path with
  | nil => rw [walk, List.append_nil]
  | cons segment rest ih =>
      obtain ⟨-, hstay, hup⟩ := h segment List.mem_cons_self
      rw [walk_cons, if_neg hstay, if_neg hup, ih, List.append_assoc, List.singleton_append]
      intro other hother
      exact h other (List.mem_cons_of_mem _ hother)

/-- A path whose last segment is not empty is not empty. -/
theorem intercalate_concat_ne_nil (path : List Text) {last : Text} (h : last ≠ []) :
    List.intercalate [.scalar '/'] (path ++ [last]) ≠ [] := by
  cases path with
  | nil =>
      rw [List.nil_append, List.intercalate_singleton]
      exact h
  | cons first rest =>
      rw [List.cons_append, List.intercalate_cons_of_ne_nil (by simp)]
      simp

/-- A path with an empty segment behind it ends with a slash. -/
theorem intercalate_concat_nil {path : List Text} (h : path ≠ []) :
    List.intercalate [.scalar '/'] (path ++ [[]])
      = List.intercalate [.scalar '/'] path ++ [.scalar '/'] := by
  induction path with
  | nil => exact absurd rfl h
  | cons first rest ih =>
      cases rest with
      | nil =>
          rw [List.singleton_append, List.intercalate_cons_cons, List.intercalate_singleton,
            List.intercalate_singleton, List.append_nil]
      | cons second rest =>
          rw [List.cons_append, List.cons_append, List.intercalate_cons_cons, ← List.cons_append,
            ih (List.cons_ne_nil _ _), List.intercalate_cons_cons, ← List.append_assoc]

/-! ## The path of a file -/

/-- Between the first segment and the last one empty segments are dropped. -/
theorem dropEmptyMiddle_concat (first : Text) (middle : List Text) (last : Text) :
    dropEmptyMiddle (first :: (middle ++ [last]))
      = first :: (middle.filter fun segment => !segment.isEmpty) ++ [last] := by
  rw [dropEmptyMiddle]
  · rw [List.dropLast_concat, List.getLast?_concat, Option.toList_some]
  · intro hnil
    exact absurd hnil (by simp)

/-- Empty segments are dropped in front of segments that are not empty. -/
theorem dropEmptyMiddle_append {segments : List Text} (hne : segments ≠ [])
    (hfilled : ∀ segment ∈ segments, segment ≠ []) (first : Text) (middle : List Text) :
    dropEmptyMiddle (first :: (middle ++ segments))
      = first :: (middle.filter fun segment => !segment.isEmpty) ++ segments := by
  obtain ⟨front, last, rfl⟩ : ∃ front last, segments = front ++ [last] :=
    ⟨_, _, (List.dropLast_concat_getLast hne).symm⟩
  have hkept : (front.filter fun segment => !segment.isEmpty) = front := by
    rw [List.filter_eq_self]
    intro segment hsegment
    simpa using hfilled segment (List.mem_append_left _ hsegment)
  rw [← List.append_assoc, dropEmptyMiddle_concat, List.filter_append, hkept, List.cons_append,
    List.cons_append, List.append_assoc]

/-- The place that a walk along segments leads to. -/
theorem resolveDots_eq (segments : List Text) :
    resolveDots segments = walk [] segments
      ++ if segments.getLast? = some [.scalar '.']
          ∨ segments.getLast? = some [.scalar '.', .scalar '.'] then [[]]
        else [] := by
  have hdots : isDots (segments.getLast?.getD []) = true
      ↔ segments.getLast? = some [.scalar '.']
        ∨ segments.getLast? = some [.scalar '.', .scalar '.'] := by
    cases segments.getLast? with
    | none => simp [isDots]
    | some last => simp [isDots]
  rw [resolveDots, reverse_foldl_pushSegment, List.reverse_nil]
  by_cases h : isDots (segments.getLast?.getD []) = true
  · rw [if_pos h, if_pos (hdots.1 h)]
  · rw [if_neg h, if_neg (mt hdots.2 h), List.append_nil]

/-- What a file of a folder can be replaced by: the segments of the folder, and perhaps an empty one
behind them. -/
theorem folder_eq {folders : List Text} (hfolders : ∀ segment ∈ folders, .scalar '/' ∉ segment)
    {file : Text} (hfile : .scalar '/' ∉ file) :
    folder (List.intercalate [.scalar '/'] (folders ++ [file]))
      = if file = [] then folders ++ [[]] else folders := by
  have hsegments :
      (List.intercalate [.scalar '/'] (folders ++ [file])).splitOn (.scalar '/')
        = folders ++ [file] := by
    apply List.splitOn_intercalate
    · intro segment hsegment
      rcases List.mem_append.1 hsegment with hfolder | hlast
      · exact hfolders segment hfolder
      · rw [List.mem_singleton.1 hlast]
        exact hfile
    · simp
  rw [folder, hsegments, List.getLast?_concat, List.dropLast_concat]
  by_cases hnil : file = []
  · rw [if_pos (congrArg some hnil), if_pos hnil, hnil]
  · rw [if_neg (mt Option.some.inj hnil), if_neg hnil]

/-- The segments of a path behind those of the folder. -/
theorem dropEmptyMiddle_folder {first : Text} {more : List Text}
    (hfolders : ∀ segment ∈ first :: more, Descends segment ∧ .scalar '/' ∉ segment)
    {file : Text} (hfile : .scalar '/' ∉ file) {segments : List Text} (hne : segments ≠ [])
    (hfilled : ∀ segment ∈ segments, segment ≠ []) :
    dropEmptyMiddle (folder (List.intercalate [.scalar '/'] (first :: more ++ [file])) ++ segments)
      = first :: more ++ segments := by
  have hmore : (more.filter fun segment => !segment.isEmpty) = more := by
    rw [List.filter_eq_self]
    intro segment hsegment
    simpa using (hfolders segment (List.mem_cons_of_mem _ hsegment)).1.1
  have hslash : ∀ segment ∈ first :: more, .scalar '/' ∉ segment := by
    intro segment hsegment
    exact (hfolders segment hsegment).2
  rw [folder_eq hslash hfile]
  by_cases hnil : file = []
  · rw [if_pos hnil, List.cons_append, List.cons_append, dropEmptyMiddle_append hne hfilled,
      List.filter_append, hmore]
    simp
  · rw [if_neg hnil, List.cons_append, dropEmptyMiddle_append hne hfilled, hmore, List.cons_append]

/-- A path whose segments are not empty begins with another character than a slash. -/
theorem exists_cons_of_filled {path : Text}
    (h : ∀ segment ∈ path.splitOn (.scalar '/'), segment ≠ []) :
    ∃ c rest, path = c :: rest ∧ c ≠ .scalar '/' := by
  cases path with
  | nil => exact absurd rfl (h [] List.mem_cons_self)
  | cons c rest =>
      refine ⟨c, rest, rfl, ?_⟩
      rintro rfl
      refine h [] ?_ rfl
      rw [List.splitOn, List.splitOnP_cons_eq_if_modifyHead, if_pos (beq_self_eq_true _)]
      exact List.mem_cons_self

/-- **A path is read from the folder of a file**, whatever the name of the file is. -/
theorem joinPaths_eq_destination {first : Text} {more : List Text}
    (hfolders : ∀ segment ∈ first :: more, Descends segment ∧ .scalar '/' ∉ segment)
    {file : Text} (hfile : .scalar '/' ∉ file) {path : Text}
    (hpath : ∀ segment ∈ path.splitOn (.scalar '/'), segment ≠ []) :
    joinPaths (List.intercalate [.scalar '/'] (first :: more ++ [file])) path
      = destination (first :: more) path := by
  have hne : path.splitOn (.scalar '/') ≠ [] := List.splitOnP_ne_nil _ _
  have hrelative : path.head? ≠ some (.scalar '/') := by
    obtain ⟨c, rest, rfl, hc⟩ := exists_cons_of_filled hpath
    rw [List.head?_cons]
    exact mt Option.some.inj hc
  have hdown : ∀ segment ∈ first :: more, Descends segment := by
    intro segment hsegment
    exact (hfolders segment hsegment).1
  obtain ⟨front, last, hsegments⟩ : ∃ front last, path.splitOn (.scalar '/') = front ++ [last] :=
    ⟨_, _, (List.dropLast_concat_getLast hne).symm⟩
  rw [joinPaths, if_neg hrelative, dropEmptyMiddle_folder hfolders hfile hne hpath, resolveDots_eq,
    walk_append, walk_of_descends hdown, List.nil_append, destination, hsegments,
    ← List.append_assoc, List.getLast?_concat, List.getLast?_concat]
  by_cases hdots : some last = some [.scalar '.'] ∨ some last = some [.scalar '.', .scalar '.']
  · simp only [if_pos hdots]
    by_cases hroot : walk (first :: more) (front ++ [last]) = []
    · rw [if_pos hroot, hroot]
      rfl
    · rw [if_neg hroot, intercalate_concat_nil hroot]
      simp
  · simp only [if_neg hdots, List.append_nil]
    have hlast : Descends last := by
      rw [not_or, Option.some.injEq, Option.some.injEq] at hdots
      exact ⟨hpath last (by simp [hsegments]), hdots⟩
    have hproper : ∀ segment ∈ [last], Descends segment := by
      intro segment hsegment
      rw [List.mem_singleton.1 hsegment]
      exact hlast
    rw [walk_append, walk_of_descends hproper]
    rw [if_neg]
    simpa using intercalate_concat_ne_nil _ hlast.1

/-! ## Taking references apart -/

/-- The reference is a relative path: its segments are not empty, no character of it begins another
part of a reference, and none is a control character. -/
structure IsRelative (ref : Text) : Prop where
  /-- No segment is empty. -/
  filled : ∀ segment ∈ ref.splitOn (.scalar '/'), segment ≠ []
  /-- There is no scheme, no query, no fragment and there are no parameters. -/
  plain : .scalar ':' ∉ ref ∧ .scalar '?' ∉ ref ∧ .scalar '#' ∉ ref ∧ .scalar ';' ∉ ref
  /-- There is no control character. -/
  printable : ∀ c ∈ ref, 0x20 ≤ c.toNat

/-- A text without a character stands before it as a whole. -/
theorem splitFirst_of_not_mem {c : CodePoint} {s : Text} (h : c ∉ s) :
    splitFirst c s = (s, []) := by
  rw [splitFirst, Text.cut?_of_not_mem h]
  rfl

/-- A text is cut where a character first stands. -/
theorem splitFirst_append_cons {c : CodePoint} {s : Text} (h : c ∉ s) (t : Text) :
    splitFirst c (s ++ c :: t) = (s, t) := by
  have hcut : Text.cut? [c] (s ++ c :: t) = some (s, t) := Text.cut?_append h [] t
  rw [splitFirst, hcut, Option.getD_some]

/-- A text is cut behind a part without the character. -/
theorem splitFirst_append {c : CodePoint} {s : Text} (h : c ∉ s) (t : Text) :
    splitFirst c (s ++ t) = (s ++ (splitFirst c t).1, (splitFirst c t).2) := by
  have hjoined : ∀ before, c ∉ before → c ∉ s ++ before := by
    intro before hbefore
    rw [List.mem_append, not_or]
    exact ⟨h, hbefore⟩
  by_cases hc : c ∈ t
  · obtain ⟨before, after, rfl, hbefore⟩ := List.eq_append_cons_of_mem hc
    rw [← List.append_assoc, splitFirst_append_cons (hjoined before hbefore),
      splitFirst_append_cons hbefore]
  · rw [splitFirst_of_not_mem hc, splitFirst_of_not_mem (hjoined t hc)]

/-- What stands in front of a character is part of the text. -/
theorem splitFirst_fst_prefix (c : CodePoint) (s : Text) : (splitFirst c s).1 <+: s := by
  rw [splitFirst]
  cases hcut : Text.cut? [c] s with
  | none => exact List.prefix_rfl
  | some parts =>
      rw [Text.eq_of_cut? hcut, List.append_assoc]
      exact List.prefix_append _ _

/-- A path without a semicolon has no parameters. -/
theorem splitLast_of_not_mem {path : Text} (h : .scalar ';' ∉ path) :
    splitParams.splitLast path = ([], path) := by
  have hsuffix : (path.reverse.takeWhile (· ≠ .scalar '/')).reverse <:+ path := by
    rw [← List.reverse_prefix, List.reverse_reverse]
    exact List.takeWhile_prefix _
  have hlast : .scalar ';' ∉ (path.reverse.takeWhile (· ≠ .scalar '/')).reverse := by
    intro hmem
    exact h (hsuffix.subset hmem)
  rw [splitParams.splitLast]
  simp only [splitFirst_of_not_mem hlast]
  rw [List.suffix_iff_eq_append.1 hsuffix]

/-- The parameters of a file stand in its name. -/
theorem splitLast_append {folders file : Text} (hfile : .scalar '/' ∉ file) :
    splitParams.splitLast (folders ++ .scalar '/' :: file)
      = ((splitFirst (.scalar ';') file).2,
        folders ++ .scalar '/' :: (splitFirst (.scalar ';') file).1) := by
  have hlast : ((folders ++ .scalar '/' :: file).reverse.takeWhile (· ≠ .scalar '/')).reverse
      = file := by
    rw [List.reverse_append, List.reverse_cons, List.append_assoc, List.takeWhile_append_of_pos]
    · simp
    · intro c hc
      have hmem : c ∈ file := List.mem_reverse.1 hc
      have hne : c ≠ '/' := by
        rintro rfl
        exact hfile hmem
      simpa using hne
  have hbefore : (folders ++ .scalar '/' :: file).take
      ((folders ++ .scalar '/' :: file).length - file.length)
      = folders ++ [.scalar '/'] := by
    rw [List.append_cons, List.length_append, Nat.add_sub_cancel, List.take_left]
  rw [splitParams.splitLast]
  simp only [hlast, hbefore, List.append_assoc, List.singleton_append]

/-- A text of which every character counts is bare. -/
theorem bare_of_counts {s : Text} (h : ∀ c ∈ s, 0x20 < c.toNat) : bare s = s := by
  have hdrop : (s.dropWhile fun c => c.toNat ≤ 0x20) = s := by
    cases s with
    | nil => rfl
    | cons c rest =>
        have hc := h c List.mem_cons_self
        rw [List.dropWhile_cons_of_neg]
        simpa using hc
  rw [bare, hdrop, List.filter_eq_self]
  intro c hc
  have hcounts := h c hc
  rw [decide_eq_true_eq]
  refine ⟨?_, ?_, ?_⟩ <;>
  · rintro rfl
    exact absurd hcounts (by decide)

/-- **A relative path is all of a reference.** -/
theorem split_of_relative {ref : Text} (h : IsRelative ref) (hcounts : ∀ c ∈ ref, 0x20 < c.toNat) :
    split [] ref = .ok ⟨[], [], ref, [], [], []⟩ := by
  obtain ⟨hfilled, ⟨hcolon, hquery, hfragment, hparams⟩, -⟩ := h
  have hscheme : splitScheme [] ref = ([], ref) := by
    rw [splitScheme, Text.cut?_of_not_mem hcolon]
  have hhost : splitHost ref = ([], ref) := by
    obtain ⟨c, rest, rfl, hc⟩ := exists_cons_of_filled hfilled
    rw [splitHost]
    intro more hslash
    exact hc (List.cons.inj hslash).1
  have hpath : splitParams [] ref = (ref, []) := by
    rw [splitParams, splitLast_of_not_mem hparams]
    rfl
  rw [split, bare_of_counts hcounts, hscheme]
  dsimp only
  rw [hhost]
  dsimp only
  rw [splitFirst_of_not_mem hfragment]
  dsimp only
  rw [splitFirst_of_not_mem hquery]
  dsimp only
  rw [hpath]
  rfl

/-- **A relative path is read from the folder of the file** that it stands in. -/
theorem join_of_relative {base ref : Text} {b : Uri} (hbase : base ≠ [])
    (hb : split [] base = .ok b) (hscheme : b.scheme = []) (hhost : b.host = [])
    (h : IsRelative ref) (hcounts : ∀ c ∈ ref, 0x20 < c.toNat) :
    join base ref = .ok (joinPaths b.path ref) := by
  have href : ref ≠ [] := by
    obtain ⟨c, rest, rfl, -⟩ := exists_cons_of_filled h.filled
    exact List.cons_ne_nil c rest
  have hparts : joinParts b ⟨[], [], ref, [], [], []⟩
      = ⟨[], [], joinPaths b.path ref, [], [], []⟩ := by
    have hpath : ref.isEmpty = false := List.isEmpty_eq_false_iff.2 href
    rw [joinParts, hhost]
    simp only [hpath]
    rfl
  have htext : ∀ path, text ⟨[], [], path, [], [], []⟩ = path := by
    intro path
    simp [text, hostAndPath, marked]
  have hrelative : relativeSchemes.contains [] = true := by
    decide
  rw [join, if_neg (by simpa using hbase), if_neg (by simpa using href), hb, ok_bind, hscheme,
    split_of_relative h hcounts, ok_bind, hparts, htext, hrelative]
  rfl

end Uri

namespace ClassPath

/-! ## Libraries -/

/-- The folders that libraries are in. -/
def libraryFolders : List Text := ["WEB-INF", "lib"]

/-- What stands in front of a character in the name of a file is such a name too. -/
theorem slash_not_mem_splitFirst {file : Text} (h : .scalar '/' ∉ file) (c : CodePoint) :
    .scalar '/' ∉ (Uri.splitFirst c file).1 := by
  intro hmem
  exact h ((Uri.splitFirst_fst_prefix c file).subset hmem)

/-- The library folder with a file. -/
theorem intercalate_libraryFolders (file : Text) :
    List.intercalate [.scalar '/'] (libraryFolders ++ [file]) = libraryFolder ++ file := by
  rw [libraryFolders, List.cons_append, List.cons_append, List.nil_append,
    List.intercalate_cons_cons, List.intercalate_cons_cons, List.intercalate_singleton]
  rfl

/-- The parameters of a file of the library folder stand in its name. -/
theorem splitParams_library {file : Text} (hfile : .scalar '/' ∉ file) :
    Uri.splitParams [] (libraryFolder ++ file)
      = (libraryFolder ++ (Uri.splitFirst (.scalar ';') file).1,
        (Uri.splitFirst (.scalar ';') file).2) := by
  have hfolder : ∀ rest, libraryFolder ++ rest = Text.of "WEB-INF/lib" ++ .scalar '/' :: rest := by
    intro rest
    rfl
  rw [Uri.splitParams, hfolder, Uri.splitLast_append hfile, hfolder]
  rfl

/-- A library has a name. -/
theorem ne_nil_of_isLibraryJar {name : Text} (h : isLibraryJar name = true) : name ≠ [] := by
  rintro rfl
  exact absurd h (by decide)

/-- **The name of a library is a file of the library folder**, whatever follows in it. -/
theorem split_of_isLibraryJar {name : Text} (h : isLibraryJar name = true) :
    ∃ file b, .scalar '/' ∉ file ∧ Uri.split [] name = .ok b ∧ b.scheme = [] ∧ b.host = []
      ∧ b.path = libraryFolder ++ file := by
  obtain ⟨stem, hstem, rfl⟩ := isLibraryJar_iff.1 h
  have hbare : ∃ file, .scalar '/' ∉ file
      ∧ Uri.bare (libraryFolder ++ stem ++ jarEnding) = libraryFolder ++ file := by
    refine ⟨(stem ++ jarEnding).filter fun c => c ≠ '\t' ∧ c ≠ '\r' ∧ c ≠ '\n', ?_, ?_⟩
    · intro hmem
      rcases List.mem_append.1 (List.mem_filter.1 hmem).1 with hslash | hslash
      · exact hstem hslash
      · exact absurd hslash (by decide)
    · rw [List.append_assoc]
      rfl
  obtain ⟨file, hfile, hbare⟩ := hbare
  have hhost : Uri.splitHost (libraryFolder ++ file) = ([], libraryFolder ++ file) := by
    rfl
  -- The fragment, the query and the parameters are cut off the name of the file.
  have hquery := slash_not_mem_splitFirst hfile '#'
  have hparams := slash_not_mem_splitFirst hquery '?'
  have hname := slash_not_mem_splitFirst hparams ';'
  rw [Uri.split, hbare, Uri.splitScheme_append (by decide) (by decide)]
  dsimp only
  rw [hhost]
  dsimp only
  rw [Uri.splitFirst_append (by decide)]
  dsimp only
  rw [Uri.splitFirst_append (by decide)]
  dsimp only
  rw [splitParams_library hparams]
  exact ⟨_, _, hname, rfl, rfl, rfl, rfl⟩

/-- **The relative references of a library** lead from the library folder to where their segments
lead, whatever the name of the library is. -/
theorem resolve_of_relative {name classPath : Text} (hname : isLibraryJar name = true)
    (h : ∀ ref ∈ Text.words classPath, Uri.IsRelative ref) :
    resolve name classPath
      = .ok ((Text.words classPath).map (Uri.destination libraryFolders)) := by
  have hne := ne_nil_of_isLibraryJar hname
  have hfolders : ∀ segment ∈ libraryFolders, Uri.Descends segment ∧ .scalar '/' ∉ segment := by
    intro segment hsegment
    simp only [libraryFolders, List.mem_cons, List.not_mem_nil, or_false] at hsegment
    rcases hsegment with rfl | rfl
    · exact ⟨⟨by decide, by decide, by decide⟩, by decide⟩
    · exact ⟨⟨by decide, by decide, by decide⟩, by decide⟩
  obtain ⟨file, b, hfile, hb, hscheme, hhost, hpath⟩ := split_of_isLibraryJar hname
  have hjoin : ∀ ref ∈ Text.words classPath,
      Uri.join name ref = .ok (Uri.destination libraryFolders ref) := by
    intro ref href
    have hrelative := h ref href
    have hcounts : ∀ c ∈ ref, 0x20 < c.toNat := by
      intro c hc
      have hblank := Text.isBlank_of_mem_words href hc
      have hprintable := hrelative.printable c hc
      by_contra hspace
      have hnumber : c.toNat = 0x20 := by omega
      simp [Text.isBlank, hnumber] at hblank
    rw [Uri.join_of_relative hne hb hscheme hhost hrelative hcounts, hpath,
      ← intercalate_libraryFolders, libraryFolders,
      Uri.joinPaths_eq_destination hfolders hfile hrelative.filled]
  exact mapM_eq_ok hjoin

/-- Here the name of the library looks like a reference with parameters, a query and a fragment, and
the last two references lead to a folder and above the root. -/
theorem resolve_of_relative_dots :
    isLibraryJar "WEB-INF/lib/a:b;c?d#e%2F.jar" = true
      ∧ (∀ ref ∈ Text.words "b.jar ../x/c.jar d/./.. ../../..", Uri.IsRelative ref)
      ∧ resolve "WEB-INF/lib/a:b;c?d#e%2F.jar" "b.jar ../x/c.jar d/./.. ../../.."
        = .ok ["WEB-INF/lib/b.jar", "WEB-INF/x/c.jar", "WEB-INF/lib/",
          "/"] := by
  have hname : isLibraryJar "WEB-INF/lib/a:b;c?d#e%2F.jar" = true := by
    decide
  have hwords : Text.words "b.jar ../x/c.jar d/./.. ../../.."
      = (["b.jar", "../x/c.jar", "d/./..", "../../.."] : List Text) := by
    rfl
  have hrelative : ∀ ref ∈ Text.words "b.jar ../x/c.jar d/./.. ../../..",
      Uri.IsRelative ref := by
    rw [hwords]
    intro ref href
    simp only [List.mem_cons, List.not_mem_nil, or_false] at href
    have hprintable : ref.all fun c => 0x20 ≤ c.toNat := by
      rcases href with rfl | rfl | rfl | rfl <;> decide
    refine ⟨?_, ?_, by simpa using hprintable⟩
    · rcases href with rfl | rfl | rfl | rfl <;> decide
    · rcases href with rfl | rfl | rfl | rfl <;> decide
  refine ⟨hname, hrelative, ?_⟩
  rw [resolve_of_relative hname hrelative, hwords]
  rfl

end ClassPath

end Wab
