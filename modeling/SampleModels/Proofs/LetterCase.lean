import SampleModels.Proofs.IssuedNames
import SampleModels.Text.CamelCase
import SampleModels.Text.Split

/-!
# Letter case and ASCII

A few characters of other scripts have their upper or lower case in ASCII. What a mapping brings
into ASCII is a letter of the case that it maps to, so of ASCII a name in camel case holds letters
and digits alone.
-/

namespace SampleModels.Text

def IsAscii (c : Char) : Prop := c.toNat < 0x80

instance (c : Char) : Decidable (IsAscii c) := inferInstanceAs (Decidable (_ < _))

/-- The character lies between the bounds, or outside of ASCII. -/
def Lands (low high : Nat) (c : Char) : Prop := IsAscii c → low ≤ c.toNat ∧ c.toNat ≤ high

instance (low high : Nat) (c : Char) : Decidable (Lands low high c) :=
  inferInstanceAs (Decidable (_ → _))

private theorem lands_upperImages : ∀ run ∈ upperImages, ∀ k ≤ run.2.1 - run.1,
    Lands 0x41 0x5A (Char.ofNat (run.2.2.2 + k)) := by decide +kernel

private theorem lands_upperExpansions : ∀ row ∈ upperExpansions, ∀ n ∈ row.2.1 :: row.2.2,
    Lands 0x41 0x5A (Char.ofNat n) := by decide +kernel

private theorem lands_lowerImages : ∀ run ∈ lowerImages, ∀ k ≤ run.2.1 - run.1,
    Lands 0x61 0x7A (Char.ofNat (run.2.2.2 + k)) := by decide +kernel

/-- The run that a character lies in gives its image. -/
theorem image_cases (runs : List (Nat × Nat × Nat × Nat)) (c : Char) :
    image runs c = c ∨ ∃ run ∈ runs, run.1 ≤ c.toNat ∧ c.toNat ≤ run.2.1 ∧
      image runs c = Char.ofNat (run.2.2.2 + (c.toNat - run.1)) := by
  unfold image
  split
  · next hf =>
    have hin := List.find?_some hf
    simp only [inRun, Bool.and_eq_true, decide_eq_true_eq] at hin
    exact .inr ⟨_, List.mem_of_find?_eq_some hf, hin.1.1, hin.1.2, rfl⟩
  · exact .inl rfl

theorem lands_image {runs : List (Nat × Nat × Nat × Nat)} {low high : Nat}
    (h : ∀ run ∈ runs, ∀ k ≤ run.2.1 - run.1, Lands low high (Char.ofNat (run.2.2.2 + k)))
    (c : Char) : image runs c = c ∨ Lands low high (image runs c) := by
  refine (image_cases runs c).imp_right ?_
  rintro ⟨run, hrun, hfirst, hlast, himage⟩
  rw [himage]
  exact h run hrun (c.toNat - run.1) (by omega)

theorem isUpper_iff (c : Char) : c.isUpper ↔ 0x41 ≤ c.toNat ∧ c.toNat ≤ 0x5A := by
  change decide _ = true ↔ _
  rw [decide_eq_true_iff]
  rfl

theorem isLower_iff (c : Char) : c.isLower ↔ 0x61 ≤ c.toNat ∧ c.toNat ≤ 0x7A := by
  change (decide _ && decide _) = true ↔ _
  rw [Bool.and_eq_true, decide_eq_true_iff, decide_eq_true_iff]
  rfl

theorem isAlpha_iff (c : Char) : c.isAlpha ↔ c.isUpper ∨ c.isLower :=
  (Bool.or_eq_true _ _).to_iff

theorem isAlphanum_iff (c : Char) : c.isAlphanum ↔ c.isAlpha ∨ c.isDigit :=
  (Bool.or_eq_true _ _).to_iff

theorem isUpper_of_mem_uppercase {c d : Char} (hd : d ∈ uppercase c) (ha : IsAscii d) :
    d = c ∨ d.isUpper := by
  unfold uppercase at hd
  split at hd
  · next head tail hl =>
    obtain ⟨before, after, hrows, -⟩ := List.lookup_eq_some_iff.mp hl
    rw [← List.map_cons] at hd
    obtain ⟨n, hn, rfl⟩ := List.mem_map.mp hd
    have hlands := lands_upperExpansions _ (hrows ▸ List.mem_append_right _ List.mem_cons_self) n hn
    rw [isUpper_iff]
    exact .inr (hlands ha)
  · cases List.mem_singleton.mp hd
    rw [isUpper_iff]
    exact (lands_image lands_upperImages c).imp_right fun hlands => hlands ha

theorem isLower_of_mem_lowercase {c d : Char} (hd : d ∈ lowercase c) (ha : IsAscii d) :
    d = c ∨ d.isLower := by
  unfold lowercase at hd
  split at hd
  · simp only [List.mem_cons, List.not_mem_nil, or_false] at hd
    rcases hd with rfl | rfl
    · exact .inr rfl
    · exact absurd ha (by decide)
  · cases List.mem_singleton.mp hd
    rw [isLower_iff]
    exact (lands_image lands_lowerImages c).imp_right fun hlands => hlands ha

/-- A mapping keeps ASCII if its runs that begin there stay there. -/
theorem isAscii_image {runs : List (Nat × Nat × Nat × Nat)}
    (h : ∀ run ∈ runs, run.1 < 0x80 → ∀ k ≤ run.2.1 - run.1, IsAscii (Char.ofNat (run.2.2.2 + k)))
    {c : Char} (hc : IsAscii c) : IsAscii (image runs c) := by
  rcases image_cases runs c with hself | ⟨run, hrun, hfirst, hlast, himage⟩
  · rwa [hself]
  · rw [himage]
    exact h run hrun (Nat.lt_of_le_of_lt hfirst hc) (c.toNat - run.1) (by omega)

/-- The characters with more than one in their upper case lie outside of ASCII. -/
theorem uppercase_of_isAscii {c : Char} (hc : IsAscii c) :
    uppercase c = [image upperImages c] := by
  have hrows : ∀ row ∈ upperExpansions, 0x80 ≤ row.1 := by decide +kernel
  have hnone : upperExpansions.lookup c.toNat = none := by
    rw [List.lookup_eq_none_iff]
    intro row hrow
    exact bne_iff_ne.mpr (Nat.ne_of_lt (Nat.lt_of_lt_of_le hc (hrows row hrow)))
  rw [uppercase, hnone]

theorem isAscii_of_mem_uppercase {c d : Char} (hc : IsAscii c) (hd : d ∈ uppercase c) :
    IsAscii d := by
  rw [uppercase_of_isAscii hc, List.mem_singleton] at hd
  exact hd ▸ isAscii_image (by decide +kernel) hc

theorem isAscii_of_mem_lowercase {c d : Char} (hc : IsAscii c) (hd : d ∈ lowercase c) :
    IsAscii d := by
  unfold lowercase at hd
  split at hd
  · next h => exact absurd hc (h ▸ by decide)
  · cases List.mem_singleton.mp hd
    exact isAscii_image (by decide +kernel) hc

/-- The lower case letters are the only characters of ASCII with an upper case of their own. -/
theorem uppercase_of_not_isLower {c : Char} (hc : IsAscii c) (h : c.isLower = false) :
    uppercase c = [c] := by
  have hruns : ∀ run ∈ upperImages, run.1 < 0x80 → run.1 = 0x61 ∧ run.2.1 = 0x7A := by
    decide +kernel
  rcases image_cases upperImages c with hself | ⟨run, hrun, hfirst, hlast, -⟩
  · rw [uppercase_of_isAscii hc, hself]
  · obtain ⟨hlow, hhigh⟩ := hruns run hrun (Nat.lt_of_le_of_lt hfirst hc)
    have hlower : c.isLower := by
      rw [isLower_iff]
      omega
    rw [h] at hlower
    cases hlower

/-- The first run of the mapping holds the lower case letters of ASCII. -/
private theorem isUpper_image_of_isLower {c : Char} (h : c.isLower) :
    (image upperImages c).isUpper := by
  rw [isLower_iff] at h
  have hrun : inRun 0x61 0x7A 0x1 c.toNat := by simp [inRun, h, Nat.mod_one]
  have himage : image upperImages c = Char.ofNat (0x41 + (c.toNat - 0x61)) := by
    simp only [image, upperImages, List.find?_cons, hrun]
  have hletters : ∀ k ≤ 0x19, (Char.ofNat (0x41 + k)).isUpper := by decide
  rw [himage]
  exact hletters (c.toNat - 0x61) (by omega)

/-- An upper case holds no lower case letter of ASCII, whatever the character. -/
theorem isLower_eq_false_of_mem_uppercase {c d : Char} (hd : d ∈ uppercase c) :
    d.isLower = false := by
  rw [Bool.eq_false_iff]
  intro hlower
  have hrange := (isLower_iff d).mp hlower
  have hupper : ¬ d.isUpper := by
    rw [isUpper_iff]
    omega
  have ha : IsAscii d := Nat.lt_of_le_of_lt hrange.2 (by decide)
  rcases isUpper_of_mem_uppercase hd ha with rfl | h
  · rw [uppercase_of_isAscii ha, List.mem_singleton] at hd
    rw [hd] at hupper
    exact hupper (hd ▸ isUpper_image_of_isLower hlower)
  · exact hupper h

/-- Of the ranges of a property, those that begin in ASCII decide there. -/
theorem inRanges_ascii {ranges : List (Nat × Nat)} {c : Char} (hc : IsAscii c)
    (h : inRanges ranges c) :
    inRanges (ranges.filter fun (first, _) => first < 0x80) c := by
  unfold inRanges at h ⊢
  obtain ⟨⟨first, last⟩, hr, hin⟩ := List.any_eq_true.mp h
  refine List.any_eq_true.mpr ⟨(first, last), List.mem_filter.mpr ⟨hr, ?_⟩, hin⟩
  simp only [Bool.and_eq_true, decide_eq_true_eq] at hin ⊢
  exact Nat.lt_of_le_of_lt hin.1 hc

private theorem alphabeticRanges_ascii :
    (alphabeticRanges.filter fun (first, _) => first < 0x80) = [(0x41, 0x5A), (0x61, 0x7A)] := by
  decide +kernel

private theorem numericRanges_ascii :
    (numericRanges.filter fun (first, _) => first < 0x80) = [(0x30, 0x39)] := by
  decide +kernel

theorem isAlpha_of_isAlphabetic {c : Char} (ha : IsAscii c) (h : isAlphabetic c) :
    c.isAlpha := by
  have hin := inRanges_ascii ha h
  rw [alphabeticRanges_ascii] at hin
  simp only [inRanges, List.any_cons, List.any_nil, Bool.or_false, Bool.or_eq_true,
    Bool.and_eq_true, decide_eq_true_eq] at hin
  rw [isAlpha_iff, isUpper_iff, isLower_iff]
  exact hin

theorem isDigit_of_isNumeric {c : Char} (ha : IsAscii c) (h : isNumeric c) : c.isDigit := by
  have hin := inRanges_ascii ha h
  rw [numericRanges_ascii] at hin
  simp only [inRanges, List.any_cons, List.any_nil, Bool.or_false, Bool.and_eq_true,
    decide_eq_true_eq] at hin
  rw [Char.isDigit, Bool.and_eq_true, decide_eq_true_iff, decide_eq_true_iff]
  exact hin

theorem isAlphanum_of_isAlphanumeric {c : Char} (ha : IsAscii c) (h : isAlphanumeric c) :
    c.isAlphanum := by
  rw [isAlphanumeric, Bool.or_eq_true] at h
  rw [isAlphanum_iff]
  exact h.imp (isAlpha_of_isAlphabetic ha) (isDigit_of_isNumeric ha)

/-- Camel case can put the second character in the place of the first. -/
def Recased (c d : Char) : Prop := d ∈ uppercase c ∨ d ∈ lowercase c ∨ c = 'Σ' ∧ d = 'ς'

theorem Recased.isAscii {c d : Char} (h : Recased c d) (hc : IsAscii c) : IsAscii d := by
  rcases h with h | h | ⟨rfl, -⟩
  · exact isAscii_of_mem_uppercase hc h
  · exact isAscii_of_mem_lowercase hc h
  · exact absurd hc (by decide)

theorem Recased.isAlphanum {c d : Char} (h : Recased c d) (hc : isAlphanumeric c)
    (hd : IsAscii d) : d.isAlphanum := by
  have hself : d = c → d.isAlphanum := by
    rintro rfl
    exact isAlphanum_of_isAlphanumeric hd hc
  rcases h with h | h | ⟨-, rfl⟩
  · rcases isUpper_of_mem_uppercase h hd with rfl | hupper
    · exact hself rfl
    · exact (isAlphanum_iff d).mpr (.inl ((isAlpha_iff d).mpr (.inl hupper)))
  · rcases isLower_of_mem_lowercase h hd with rfl | hlower
    · exact hself rfl
    · exact (isAlphanum_iff d).mpr (.inl ((isAlpha_iff d).mpr (.inr hlower)))
  · exact absurd hd (by decide)

/-- The words of a run are made of its characters. -/
theorem mem_of_mem_wordsFrom {trend : Trend} {word cs w : List Char} {c : Char}
    (hw : w ∈ wordsFrom trend word cs) (hc : c ∈ w) : c ∈ word ∨ c ∈ cs := by
  fun_induction wordsFrom trend word cs with
  | case1 => cases hw
  | case2 trend word last =>
    cases List.mem_singleton.mp hw
    simpa [or_comm] using hc
  | case3 trend word first next rest h ih =>
    rcases List.mem_cons.mp hw with rfl | hw
    · rcases List.mem_cons.mp (List.mem_reverse.mp hc) with rfl | hc
      · exact .inr List.mem_cons_self
      · exact .inl hc
    · exact .inr (List.mem_cons_of_mem _ ((ih hw).resolve_left List.not_mem_nil))
  | case4 trend word first next rest h h' ih =>
    rcases List.mem_cons.mp hw with rfl | hw
    · exact .inl (List.mem_reverse.mp hc)
    · rcases ih hw with h | h
      · exact .inr (List.mem_singleton.mp h ▸ List.mem_cons_self)
      · exact .inr (List.mem_cons_of_mem _ h)
  | case5 trend word first next rest h h' ih =>
    rcases ih hw with h | h
    · rcases List.mem_cons.mp h with rfl | h
      · exact .inr List.mem_cons_self
      · exact .inl h
    · exact .inr (List.mem_cons_of_mem _ h)

theorem exists_of_mem_lowerTail {cs : List Char} {d : Char} (hd : d ∈ lowerTail cs) :
    ∃ c ∈ cs, Recased c d := by
  fun_induction lowerTail cs with
  | case1 => cases hd
  | case2 => exact ⟨'Σ', List.mem_cons_self, .inr (.inr ⟨rfl, List.mem_singleton.mp hd⟩)⟩
  | case3 c rest h ih =>
    rcases List.mem_append.mp hd with hd | hd
    · exact ⟨c, List.mem_cons_self, .inr (.inl hd)⟩
    · obtain ⟨c', hc, hr⟩ := ih hd
      exact ⟨c', List.mem_cons_of_mem _ hc, hr⟩

theorem exists_of_mem_capitalize {word : List Char} {d : Char} (hd : d ∈ capitalize word) :
    ∃ c ∈ word, Recased c d := by
  cases word with
  | nil => cases hd
  | cons first rest =>
    rcases List.mem_append.mp hd with hd | hd
    · exact ⟨first, List.mem_cons_self, .inl hd⟩
    · obtain ⟨c, hc, hr⟩ := exists_of_mem_lowerTail hd
      exact ⟨c, List.mem_cons_of_mem _ hc, hr⟩

/-- Camel case is made of the letters and numerals of the text. -/
theorem exists_of_mem_upperCamelCase {text : String} {d : Char}
    (hd : d ∈ (upperCamelCase text).toList) :
    ∃ c ∈ text.toList, isAlphanumeric c ∧ Recased c d := by
  rw [upperCamelCase, String.toList_ofList, List.mem_flatMap] at hd
  obtain ⟨word, hword, hd⟩ := hd
  obtain ⟨run, hrun, hword⟩ := List.mem_flatMap.mp hword
  obtain ⟨c, hc, hr⟩ := exists_of_mem_capitalize hd
  have hmem := (mem_of_mem_wordsFrom hword hc).resolve_left List.not_mem_nil
  obtain ⟨htext, hkept⟩ := of_mem_splitOnP hrun hmem
  exact ⟨c, htext, by simpa using hkept, hr⟩

end SampleModels.Text

namespace SampleModels

theorem isAscii_of_isIdentifierRest {c : Char} (h : isIdentifierRest c) : Text.IsAscii c :=
  Nat.lt_of_le_of_lt (toNat_of_isIdentifierRest h).2 (by decide)

end SampleModels
