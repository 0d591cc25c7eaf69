import SampleModels.Naming

/-!
# Issued names

What an identifier is made of, and when a name is issued and which one, read off the names issued
before. A name is derived from its parent and its key alone, so `nestedName` gives it also where no
registry is at hand.
-/

namespace SampleModels

/-- The name of the model at `key` inside `parent`. The empty key, which gives no name, adds
nothing. -/
def nestedName (parent key : String) : String :=
  match key.toList with
  | [] => parent
  | c :: rest => parent ++ String.ofList (Text.uppercase c ++ rest)

theorem nestedTypeName_eq (parent key : String) (location : Pointer) :
    nestedTypeName parent key location =
      if key = "" then .error (.invalidFieldKey location key .empty)
      else .ok (nestedName parent key) := by
  unfold nestedTypeName nestedName
  cases h : key.toList with
  | nil => simp [String.toList_eq_nil_iff.mp h]
  | cons c rest =>
    have hne : key ≠ "" := by
      rintro rfl
      simp at h
    simp [hne]

theorem isIdentifierRest_of_mem {name : String} (h : isIdentifier name) {c : Char}
    (hc : c ∈ name.toList) : isIdentifierRest c := by
  unfold isIdentifier at h
  cases hl : name.toList with
  | nil => simp [hl] at hc
  | cons first rest =>
    simp only [hl, Bool.and_eq_true, List.all_eq_true] at h
    rw [hl, List.mem_cons] at hc
    rcases hc with rfl | hc
    · have hstart := h.1
      simp only [isIdentifierStart, isIdentifierRest, Char.isAlphanum, Bool.or_eq_true] at hstart ⊢
      exact hstart.imp_left .inl
    · exact h.2 c hc

/-- The characters of identifiers lie in ASCII, from the digit `0` to the letter `z`: they are the
letters, the digits and the underscore, by their code points. -/
theorem toNat_of_isIdentifierRest {c : Char} (h : isIdentifierRest c) :
    0x30 ≤ c.toNat ∧ c.toNat ≤ 0x7A := by
  change ((decide (65 ≤ c.val ∧ c.val ≤ 90) || (97 ≤ c.val && c.val ≤ 122)) ||
    (48 ≤ c.val && c.val ≤ 57) || c == '_') = true at h
  simp only [Bool.or_eq_true, Bool.and_eq_true, decide_eq_true_eq, beq_iff_eq,
    UInt32.le_iff_toNat_le] at h
  rcases h with ((h | h) | h) | rfl
  · exact ⟨Nat.le_trans (by decide) h.1, Nat.le_trans h.2 (by decide)⟩
  · exact ⟨Nat.le_trans (by decide) h.1, Nat.le_trans h.2 (by decide)⟩
  · exact ⟨Nat.le_trans (by decide) h.1, Nat.le_trans h.2 (by decide)⟩
  · decide

namespace IssuedNames

theorem derive_eq (names : IssuedNames) (parent key : String) (location : Pointer) :
    names.derive parent key location =
      if key = "" then .error (.invalidFieldKey location key .empty)
      else if isIdentifier (nestedName parent key) then
        (names.claim (nestedName parent key) location).map fun after =>
          (nestedName parent key, after)
      else .error (.invalidFieldKey location key .notIdentifier) := by
  rw [derive, nestedTypeName_eq]
  by_cases hk : key = ""
  · simp only [hk, if_true]
    rfl
  · simp only [hk, if_false, bind, Except.bind]
    split
    · cases names.claim (nestedName parent key) location <;> rfl
    · rfl

theorem fst_of_derive {names after : IssuedNames} {parent key name : String} {location : Pointer}
    (h : names.derive parent key location = .ok (name, after)) : name = nestedName parent key := by
  rw [derive_eq] at h
  split at h
  · cases h
  · split at h
    · cases hc : names.claim (nestedName parent key) location with
      | error fault => simp [hc, Except.map] at h
      | ok claimed =>
        simp only [hc, Except.map, Except.ok.injEq, Prod.mk.injEq] at h
        exact h.1.symm
    · cases h

end IssuedNames

end SampleModels
