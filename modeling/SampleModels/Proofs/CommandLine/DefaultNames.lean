import SampleModels.Proofs.CommandLine.Effects
import SampleModels.Proofs.LetterCase
import SampleModels.Proofs.Walk.Outcome

/-!
# Root names taken from file names

A name in camel case that begins with a letter is an identifier unless a character of it lies
outside of ASCII. Such a name is not replaced, so a run whose input file has it ends with the fault
that a name given by the user would end it with.
-/

namespace SampleModels

theorem isAscii_of_isIdentifier {name : String} (h : isIdentifier name) {c : Char}
    (hc : c ∈ name.toList) : Text.IsAscii c :=
  isAscii_of_isIdentifierRest (isIdentifierRest_of_mem h hc)

/-- Of ASCII, a name in camel case that begins with a letter holds nothing but identifiers do. -/
theorem isIdentifier_upperCamelCase {stem : String} {c : Char} {rest : List Char}
    (hname : (Text.upperCamelCase stem).toList = c :: rest) (hc : Text.isAlphabetic c)
    (h : ∀ d ∈ c :: rest, Text.IsAscii d) : isIdentifier (Text.upperCamelCase stem) := by
  have halphanum : ∀ d ∈ c :: rest, d.isAlphanum := by
    intro d hd
    obtain ⟨original, -, horiginal, hr⟩ := Text.exists_of_mem_upperCamelCase (hname.symm ▸ hd)
    exact hr.isAlphanum horiginal (h d hd)
  have hfirst := Text.isAlpha_of_isAlphabetic (h c List.mem_cons_self) hc
  simp only [isIdentifier, hname, isIdentifierStart, hfirst, Bool.true_or, Bool.true_and,
    List.all_eq_true]
  intro d hd
  simp [isIdentifierRest, halphanum d (List.mem_cons_of_mem c hd)]

theorem generateFileText_eq_invalidTypeName_iff (text rootName : String) (settings : Settings)
    (name : String) :
    generateFileText text rootName settings = .error (.fault (.invalidTypeName name)) ↔
      (∃ document, Json.read text = .ok document) ∧ isIdentifier rootName = false ∧
        name = rootName := by
  rw [generateFileText, generateText]
  cases Json.read text with
  | error error => simp [Except.map]
  | ok document =>
    have hinfer := Inference.infer_eq_invalidTypeName_iff document rootName settings name
    simp only [generate]
    cases h : infer document rootName settings with
    | error fault =>
      rw [h] at hinfer
      simpa [Except.map] using hinfer
    | ok m =>
      rw [h] at hinfer
      cases hr : m.render settings <;> simpa [Except.map, hr] using hinfer

namespace CommandLine

/-- The default name is that of the file in camel case, or the fallback. -/
theorem defaultRootName_cases (input? : Option String) :
    (∃ path stem c rest, input? = some path ∧ Files.fileStem? path = some stem ∧
      (Text.upperCamelCase stem).toList = c :: rest ∧ Text.isAlphabetic c ∧
      defaultRootName input? = Text.upperCamelCase stem) ∨
      defaultRootName input? = fallbackRootName := by
  unfold defaultRootName
  cases input? with
  | none => exact .inr rfl
  | some path =>
    rw [Option.bind_some, rootNameOf?]
    cases hstem : Files.fileStem? path with
    | none => exact .inr rfl
    | some stem =>
      rw [Option.bind_some]
      cases hname : (Text.upperCamelCase stem).toList with
      | nil => exact .inr (by simp [hname])
      | cons c rest =>
        by_cases hc : Text.isAlphabetic c
        · exact .inl ⟨path, stem, c, rest, rfl, hstem, hname, hc, by simp [hname, hc]⟩
        · exact .inr (by simp [hname, hc])

theorem isIdentifier_defaultRootName_iff (input? : Option String) :
    isIdentifier (defaultRootName input?) ↔
      ∀ c ∈ (defaultRootName input?).toList, Text.IsAscii c := by
  refine ⟨fun h c hc => isAscii_of_isIdentifier h hc, fun h => ?_⟩
  rcases defaultRootName_cases input? with ⟨path, stem, c, rest, -, -, hname, hc, heq⟩ | heq
  · rw [heq, hname] at h
    rw [heq]
    exact isIdentifier_upperCamelCase hname hc h
  · rw [heq]
    rfl

theorem isAscii_defaultRootName {input? : Option String}
    (h : ∀ path stem, input? = some path → Files.fileStem? path = some stem →
      ∀ c ∈ stem.toList, Text.IsAscii c) :
    ∀ c ∈ (defaultRootName input?).toList, Text.IsAscii c := by
  intro d hd
  rcases defaultRootName_cases input? with ⟨path, stem, c, rest, hinput, hstem, -, -, heq⟩ | heq
  · rw [heq] at hd
    obtain ⟨original, hmem, -, hr⟩ := Text.exists_of_mem_upperCamelCase hd
    exact hr.isAscii (h path stem hinput hstem original hmem)
  · have hfallback : isIdentifier fallbackRootName := rfl
    rw [heq] at hd
    exact isAscii_of_isIdentifier hfallback hd

/-- A default name is accepted exactly when it lies in ASCII, as it does if the file's name does. A
run without a name from the user is refused its root's name in the other cases, and only then. -/
theorem default_name_accepted_iff_ascii (input? : Option String) :
    let name := defaultRootName input?
    ((∃ names, IssuedNames.none.claimRoot name = .ok names) ↔
      ∀ c ∈ name.toList, Text.IsAscii c) ∧
    ((∀ path stem, input? = some path → Files.fileStem? path = some stem →
      ∀ c ∈ stem.toList, Text.IsAscii c) → ∀ c ∈ name.toList, Text.IsAscii c) ∧
    ∀ (options : Options) (text refused : String),
      options.rootName? = none → options.inputFile? = input? →
      ((options.delivery text).2 = .error (.fault (.invalidTypeName refused)) ↔
        (∃ document, Json.read text = .ok document) ∧ refused = name ∧
          ∃ c ∈ name.toList, ¬ Text.IsAscii c) := by
  intro name
  have hidentifier := isIdentifier_defaultRootName_iff input?
  refine ⟨?_, isAscii_defaultRootName, fun options text refused hroot hinput => ?_⟩
  · rw [← hidentifier, Inference.claimRoot_none]
    by_cases hi : isIdentifier name <;> simp [hi, name]
  · have hname : options.modelName = name := by
      rw [Options.modelName, hroot, hinput]
      rfl
    have hrefused : isIdentifier name = false ↔ ∃ c ∈ name.toList, ¬ Text.IsAscii c := by
      rw [← Bool.not_eq_true, hidentifier]
      simp [name]
    have hfault := generateFileText_eq_invalidTypeName_iff text name options.settings refused
    rw [Options.delivery, hname, generateTo_sink, ← hrefused,
      and_comm (b := isIdentifier name = false), ← hfault]
    cases generateFileText text name options.settings <;> simp

/-- A file whose name begins with a letter outside of ASCII: its name is taken, and then refused. -/
theorem accented_name_refused :
    let name := defaultRootName (some "é.json")
    name = "É" ∧ IssuedNames.none.claimRoot name = .error (.invalidTypeName "É") ∧
      (Options.delivery { input? := some "é.json" } "{}").2 =
        .error (.fault (.invalidTypeName "É")) := by
  decide +kernel

end CommandLine

end SampleModels
