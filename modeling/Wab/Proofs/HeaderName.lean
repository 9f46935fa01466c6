import Wab.Manifest.HeaderName
import Wab.Proofs.Lines
import Wab.Proofs.Utf8

/-! # The characters of header names

A plain name is made of letters, digits, hyphens and underscores of ASCII, so it holds no mark of
the manifest format and its lower case is that of its letters. A valid name is a plain one unless a
line feed follows.

* **`HeaderName.isFollowing_of_mem`** — the characters of a plain name.
* **`HeaderName.isValid_iff`** — a valid name is plain, or plain with a line feed behind it.
* **`HeaderName.toLower_cases`** — what letter case does to a character.
* **`HeaderName.mem_lower_iff`** — letter case does not touch the line feed of a valid name.
* **`HeaderName.same_of_map_toLower`** — a plain name in another letter case.
* **`HeaderName.written`** — the names of the headers of a bundle, which are plain and different. -/

namespace Wab.HeaderName

/-- Names are the same if their lower-case forms are equal. -/
theorem same_iff {a b : Text} : same a b = true ↔ Text.lower a = Text.lower b := beq_iff_eq

theorem same_self (name : Text) : same name name = true := same_iff.2 rfl

/-- A character that a name may begin with may also follow in one. -/
theorem isFollowing_of_isInitial {c : CodePoint} (h : isInitial c = true) :
    isFollowing c = true := by
  rw [isFollowing, show c.isAlphanum = true from h]
  rfl

/-- The characters of a plain name are letters, digits, hyphens and underscores. -/
theorem isFollowing_of_mem {name : Text} (h : isPlain name = true) {c : CodePoint} (hc : c ∈ name) :
    isFollowing c = true := by
  cases name with
  | nil => exact absurd hc List.not_mem_nil
  | cons first rest =>
      simp only [isPlain, Bool.and_eq_true, List.all_eq_true] at h
      rcases List.mem_cons.1 hc with rfl | hc
      · exact isFollowing_of_isInitial h.1.1
      · exact h.1.2 c hc

theorem ne_nil_of_isPlain {name : Text} (h : isPlain name = true) : name ≠ [] := by
  rintro rfl
  exact absurd h (by decide)

/-- A character that is not among those of names does not occur in a plain one. -/
theorem not_mem_of_isPlain {name : Text} (h : isPlain name = true) {c : CodePoint}
    (hc : isFollowing c = false) : c ∉ name := by
  intro hmem
  rw [isFollowing_of_mem h hmem] at hc
  exact absurd hc (by decide)

/-- No line ends in a plain name. -/
theorem unbroken_of_isPlain {name : Text} (h : isPlain name = true) : Lines.Unbroken name :=
  ⟨not_mem_of_isPlain h (by decide), not_mem_of_isPlain h (by decide)⟩

/-- A valid name is plain, or plain with a line feed behind it. -/
theorem isValid_iff {name : Text} :
    isValid name = true ↔
      isPlain name = true ∨ ∃ plain, isPlain plain = true ∧ name = plain ++ [.scalar '\n'] := by
  rw [isValid, Bool.or_eq_true, Bool.and_eq_true, beq_iff_eq]
  refine or_congr Iff.rfl ⟨?_, ?_⟩
  · rintro ⟨hlast, hplain⟩
    obtain ⟨plain, rfl⟩ := List.getLast?_eq_some_iff.1 hlast
    rw [List.dropLast_concat] at hplain
    exact ⟨plain, hplain, rfl⟩
  · rintro ⟨plain, hplain, rfl⟩
    rw [List.getLast?_concat, List.dropLast_concat]
    exact ⟨rfl, hplain⟩

/-- A valid name without a line feed is plain. -/
theorem isPlain_of_isValid {name : Text} (h : isValid name = true) (hn : .scalar '\n' ∉ name) :
    isPlain name = true := by
  rcases isValid_iff.1 h with hplain | ⟨plain, -, rfl⟩
  · exact hplain
  · exact absurd (List.mem_append_right _ (List.mem_singleton_self _)) hn

/-- The characters of names are ASCII. -/
theorem toNat_lt_of_isFollowing {c : CodePoint} (h : isFollowing c = true) : c.toNat < 0x80 := by
  simp only [isFollowing, Bool.or_eq_true, beq_iff_eq] at h
  rcases h with (h | rfl) | rfl
  · obtain ⟨d, rfl, hd⟩ := CodePoint.exists_of_isAlphanum h
    unfold Char.isAlphanum Char.isAlpha Char.isUpper Char.isLower Char.isDigit at hd
    simp only [Bool.or_eq_true, Bool.and_eq_true, decide_eq_true_eq, ge_iff_le,
      UInt32.le_iff_toNat_le] at hd
    have hval : d.toNat = d.val.toNat := rfl
    have hZ : 'Z'.val.toNat = 90 := rfl
    have hz : 'z'.val.toNat = 122 := rfl
    have h9 : '9'.val.toNat = 57 := rfl
    rw [CodePoint.toNat_scalar]
    omega
  · decide
  · decide

/-- Each character of ASCII takes one byte. -/
theorem byteLength_of_ascii {s : Text} (h : ∀ c ∈ s, c.toNat < 0x80) :
    Text.byteLength s = s.length := by
  induction s with
  | nil => rfl
  | cons c s ih =>
      have hsize : c.width = 1 := by
        obtain ⟨d, rfl⟩ := CodePoint.exists_of_toNat_lt (Nat.lt_trans (h c List.mem_cons_self)
          (by decide))
        have hd : d.val.toNat < 0x80 := h _ List.mem_cons_self
        rw [CodePoint.width, Char.utf8Size_eq_one_iff, UInt32.le_iff_toNat_le]
        exact Nat.lt_succ_iff.1 hd
      rw [Text.byteLength_cons, hsize, ih fun d hd => h d (List.mem_cons_of_mem _ hd),
        List.length_cons, Nat.add_comm]

/-- A plain name takes at most 70 bytes. -/
theorem byteLength_le_of_isPlain {name : Text} (h : isPlain name = true) :
    Text.byteLength name ≤ 70 := by
  have hascii : ∀ c ∈ name, c.toNat < 0x80 :=
    fun c hc => toNat_lt_of_isFollowing (isFollowing_of_mem h hc)
  rw [byteLength_of_ascii hascii]
  cases name with
  | nil => exact Nat.zero_le _
  | cons c rest =>
      simp only [isPlain, Bool.and_eq_true, decide_eq_true_eq] at h
      exact Nat.succ_le_succ h.2

/-- The characters of a valid name are ASCII. -/
theorem toNat_lt_of_isValid {name : Text} (h : isValid name = true) :
    ∀ c ∈ name, c.toNat < 0x80 := by
  intro c hc
  rcases isValid_iff.1 h with hplain | ⟨plain, hplain, rfl⟩
  · exact toNat_lt_of_isFollowing (isFollowing_of_mem hplain hc)
  · rcases List.mem_append.1 hc with hc | hc
    · exact toNat_lt_of_isFollowing (isFollowing_of_mem hplain hc)
    · rw [List.mem_singleton.1 hc]
      decide

/-- The lower case of a text of ASCII characters is that of its characters. -/
theorem lower_of_ascii {s : Text} (h : ∀ c ∈ s, c.toNat < 0x80) :
    Text.lower s = s.map CodePoint.toLower := by
  have hsigma : .scalar 'Σ' ∉ s := fun hmem => absurd (h _ hmem) (by decide)
  rw [Text.lower, Text.lowerAfter_eq_flatMap hsigma]
  induction s with
  | nil => rfl
  | cons c s ih =>
      have hc : c.toNat < 0x80 := h c List.mem_cons_self
      obtain ⟨d, rfl⟩ := CodePoint.exists_of_toNat_lt (Nat.lt_trans hc (by decide))
      rw [List.flatMap_cons, Text.lowerChar_of_ascii hc, List.map_cons,
        ih (fun d hd => h d (List.mem_cons_of_mem _ hd))
          fun hmem => hsigma (List.mem_cons_of_mem _ hmem)]
      rfl

theorem isUpper_iff {c : Char} : c.isUpper = true ↔ 'A'.val ≤ c.val ∧ c.val ≤ 'Z'.val := by
  unfold Char.isUpper
  rw [decide_eq_true_eq]

theorem isLower_iff {c : Char} : c.isLower = true ↔ 97 ≤ c.toNat ∧ c.toNat ≤ 122 := by
  unfold Char.isLower
  rw [Bool.and_eq_true, decide_eq_true_eq, decide_eq_true_eq, ge_iff_le, UInt32.le_iff_toNat_le,
    UInt32.le_iff_toNat_le]
  rfl

/-- The small letter of a capital one comes 32 places later. -/
theorem toNat_toLower {c : Char} (h : c.isUpper = true) : c.toLower.toNat = c.toNat + 32 := by
  have hrange : c.val ≥ 'A'.val ∧ c.val ≤ 'Z'.val := isUpper_iff.1 h
  have hlast : c.val.toNat ≤ 90 := UInt32.le_iff_toNat_le.1 hrange.2
  have hshift : ('a'.val - 'A'.val).toNat = 32 := rfl
  unfold Char.toLower
  rw [dif_pos hrange]
  show (c.val + ('a'.val - 'A'.val)).toNat = c.val.toNat + 32
  rw [UInt32.toNat_add, hshift]
  omega

/-- A capital letter has a small one, and any other character is its own lower case. -/
theorem toLower_cases (c : Char) :
    c.isUpper = false ∧ c.toLower = c ∨ c.isUpper = true ∧ c.toLower.isLower = true := by
  by_cases hupper : c.isUpper = true
  · have hfirst : 65 ≤ c.toNat := UInt32.le_iff_toNat_le.1 (isUpper_iff.1 hupper).1
    have hlast : c.toNat ≤ 90 := UInt32.le_iff_toNat_le.1 (isUpper_iff.1 hupper).2
    refine Or.inr ⟨hupper, ?_⟩
    rw [isLower_iff, toNat_toLower hupper]
    omega
  · have hrange : ¬ (c.val ≥ 'A'.val ∧ c.val ≤ 'Z'.val) := fun h => hupper (isUpper_iff.2 h)
    refine Or.inl ⟨Bool.eq_false_iff.2 hupper, ?_⟩
    unfold Char.toLower
    rw [dif_neg hrange]

/-- No lower case is a capital letter. -/
theorem isUpper_toLower (c : Char) : c.toLower.isUpper = false := by
  rcases toLower_cases c with ⟨hupper, hlower⟩ | ⟨-, hlower⟩
  · rw [hlower, hupper]
  · have hfirst : 97 ≤ c.toLower.toNat := (isLower_iff.1 hlower).1
    rw [Bool.eq_false_iff]
    intro hupper
    have hlast : c.toLower.toNat ≤ 90 := UInt32.le_iff_toNat_le.1 (isUpper_iff.1 hupper).2
    omega

/-- The lower case of a character is its own lower case. -/
theorem toLower_toLower (c : CodePoint) : c.toLower.toLower = c.toLower := by
  cases c with
  | surrogate n => rfl
  | scalar c =>
      have hsame : c.toLower.toLower = c.toLower := by
        rcases toLower_cases c.toLower with ⟨-, hlower⟩ | ⟨hupper, -⟩
        · exact hlower
        · rw [isUpper_toLower] at hupper
          exact absurd hupper (by decide)
      rw [CodePoint.toLower_scalar, CodePoint.toLower_scalar, hsame]

/-- A lower case that is no small letter is that of itself only. -/
theorem toLower_eq_iff {c : CodePoint} {d : Char} (hd : d.isAlpha = false) :
    c.toLower = .scalar d ↔ c = .scalar d := by
  have hboth : d.isUpper = false ∧ d.isLower = false := Bool.or_eq_false_iff.1 hd
  cases c with
  | surrogate n => exact Iff.rfl
  | scalar c =>
      rw [CodePoint.toLower_scalar, CodePoint.scalar.injEq, CodePoint.scalar.injEq]
      rcases toLower_cases c with ⟨-, hlower⟩ | ⟨hupper, hlower⟩
      · rw [hlower]
      · constructor
        · rintro rfl
          exact absurd hlower (by rw [hboth.2]; decide)
        · rintro rfl
          exact absurd hupper (by rw [hboth.1]; decide)

/-- Letter case does not tell which characters stand in names. -/
theorem isAlphanum_toLower (c : CodePoint) : c.toLower.isAlphanum = c.isAlphanum := by
  cases c with
  | surrogate n => rfl
  | scalar c =>
      rw [CodePoint.toLower_scalar, CodePoint.isAlphanum_scalar, CodePoint.isAlphanum_scalar]
      rcases toLower_cases c with ⟨-, hlower⟩ | ⟨hupper, hlower⟩
      · rw [hlower]
      · have hparts : ∀ d : Char, d.isAlphanum = (d.isUpper || d.isLower || d.isDigit) :=
          fun _ => rfl
        rw [hparts, hparts, hupper, hlower]
        simp

theorem isFollowing_toLower (c : CodePoint) : isFollowing c.toLower = isFollowing c := by
  have hhyphen : (c.toLower == .scalar '-') = (c == .scalar '-') := by
    rw [Bool.eq_iff_iff, beq_iff_eq, beq_iff_eq]
    exact toLower_eq_iff (by decide)
  have hunderscore : (c.toLower == .scalar '_') = (c == .scalar '_') := by
    rw [Bool.eq_iff_iff, beq_iff_eq, beq_iff_eq]
    exact toLower_eq_iff (by decide)
  rw [isFollowing, isFollowing, isAlphanum_toLower, hhyphen, hunderscore]

/-- A text is a plain name in any letter case or in none. -/
theorem isPlain_map_toLower (s : Text) : isPlain (s.map CodePoint.toLower) = isPlain s := by
  cases s with
  | nil => rfl
  | cons c rest =>
      have hall : (rest.map CodePoint.toLower).all isFollowing = rest.all isFollowing := by
        rw [List.all_map]
        congr 1
        funext d
        exact isFollowing_toLower d
      rw [List.map_cons, isPlain, isPlain, isInitial, isInitial, isAlphanum_toLower, hall,
        List.length_map]

/-- The lower case of a plain name is that of its characters. -/
theorem lower_of_isPlain {name : Text} (h : isPlain name = true) :
    Text.lower name = name.map CodePoint.toLower :=
  lower_of_ascii fun _ hc => toNat_lt_of_isFollowing (isFollowing_of_mem h hc)

/-- A plain name in another letter case is the same name, and plain. -/
theorem same_of_map_toLower {name other : Text} (h : isPlain name = true)
    (hmap : other.map CodePoint.toLower = name.map CodePoint.toLower) :
    isPlain other = true ∧ same other name = true := by
  have hother : isPlain other = true := by
    rw [← isPlain_map_toLower, hmap, isPlain_map_toLower, h]
  refine ⟨hother, ?_⟩
  rw [same_iff, lower_of_isPlain hother, lower_of_isPlain h, hmap]

/-- Letter case does not touch the line feed of a valid name. -/
theorem mem_lower_iff {name : Text} (h : isValid name = true) :
    .scalar '\n' ∈ Text.lower name ↔ .scalar '\n' ∈ name := by
  rw [lower_of_ascii (toNat_lt_of_isValid h), List.mem_map]
  constructor
  · rintro ⟨c, hc, hlower⟩
    rwa [← (toLower_eq_iff (by decide)).1 hlower]
  · exact fun hmem => ⟨'\n', hmem, by decide⟩

/-! ## The headers of a bundle -/

/-- The names under which headers are written for a bundle, in the order in which this is done. -/
def written : List Text :=
  [webContextPath, bundleManifestVersion, bundleSymbolicName, bundleVersion, bundleClassPath,
    importPackage, dynamicImportPackage]

/-- These names are plain. -/
theorem isPlain_of_mem_written : ∀ name ∈ written, isPlain name = true := by decide +kernel

/-- No two of these names are the same. -/
theorem pairwise_written : written.Pairwise fun a b => same a b = false := by decide +kernel

/-- Two of these names that are the same in some letter case are one. -/
theorem eq_of_same_written : ∀ a ∈ written, ∀ b ∈ written, same a b = true → a = b := by
  decide +kernel

/-- The headers that a deployer can set are among them. -/
theorem customizable_subset_written : customizable ⊆ written := by
  simp [customizable, written]

/-- These names are valid. -/
theorem isValid_of_mem_written {name : Text} (h : name ∈ written) : isValid name = true :=
  isValid_iff.2 (Or.inl (isPlain_of_mem_written name h))

/-- No line ends in one of these names. -/
theorem lineFeed_not_mem_of_mem_written {name : Text} (h : name ∈ written) : .scalar '\n' ∉ name :=
  (unbroken_of_isPlain (isPlain_of_mem_written name h)).2

end Wab.HeaderName
