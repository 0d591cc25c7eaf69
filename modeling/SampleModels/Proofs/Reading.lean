import SampleModels.Json.Reader
import SampleModels.Proofs.Failure

/-!
# Keys of values that are read

Whatever a text holds, the value read from it has each key of an object once: a key that comes again
gives its member a new value and adds no member. Reading goes down by its fuel, so this is shown of
values, of the items of lists and of the members of objects at once.
-/

namespace SampleModels.Json

theorem wellFormedItems_iff (items : List Json) :
    WellFormedItems items ↔ ∀ item ∈ items, item.WellFormed := by
  induction items with
  | nil => simp [WellFormedItems]
  | cons item rest ih => rw [WellFormedItems, ih, List.forall_mem_cons]

theorem wellFormedMembers_put {key : String} {value : Json} {members : List (String × Json)}
    (hv : value.WellFormed) (h : WellFormedMembers members) :
    WellFormedMembers (put key value members) := by
  induction members with
  | nil => exact ⟨hv, trivial⟩
  | cons member rest ih =>
    obtain ⟨k, old⟩ := member
    obtain ⟨hold, hrest⟩ := h
    by_cases hk : k = key
    · rw [put, if_pos hk]
      exact ⟨hv, hrest⟩
    · rw [put, if_neg hk]
      exact ⟨hold, ih hrest⟩

theorem wellFormed_put {key : String} {value : Json} {members : List (String × Json)}
    (hv : value.WellFormed) (h : (Json.object members).WellFormed) :
    (Json.object (put key value members)).WellFormed := by
  rw [WellFormed] at h ⊢
  exact ⟨nodup_keys_put key value members h.1, wellFormedMembers_put hv h.2⟩

/-! ## Values without others inside -/

theorem wellFormed_of_readWord {value read : Json} {word : List Char} {c after : Cursor}
    (hv : value.WellFormed) (h : readWord value word c = .ok (read, after)) : read.WellFormed := by
  induction word generalizing c with
  | nil =>
    cases h
    exact hv
  | cons x more ih =>
    rw [readWord] at h
    split at h
    · cases h
    · split at h
      · exact ih h
      · cases h

theorem wellFormed_of_readNumber {start c after : Cursor} {value : Json}
    (h : readNumber start c = .ok (value, after)) : value.WellFormed := by
  obtain ⟨integer, -, h⟩ := bind_eq_ok_iff.mp h
  obtain ⟨fraction, -, h⟩ := bind_eq_ok_iff.mp h
  obtain ⟨decimal, -, h⟩ := bind_eq_ok_iff.mp h
  dsimp only at h
  split at h
  · cases h
    trivial
  · cases h

/-! ## Values, items and members -/

/-- Values, lists and objects that are read with that much fuel have each key once, if what was read
of a list or an object before has. -/
structure ReadsWellFormed (fuel : Nat) : Prop where
  value : ∀ {depth c value after}, readValue fuel depth c = .ok (value, after) → value.WellFormed
  items : ∀ {depth before c value after}, (∀ item ∈ before, item.WellFormed) →
    readItems fuel depth before c = .ok (value, after) → value.WellFormed
  members : ∀ {depth first members c value after}, (Json.object members).WellFormed →
    readMembers fuel depth first members c = .ok (value, after) → value.WellFormed

namespace ReadsWellFormed

variable {fuel depth : Nat} {c after : Cursor} {value : Json}

theorem readValue_succ (ih : ReadsWellFormed fuel)
    (h : readValue (fuel + 1) depth c = .ok (value, after)) : value.WellFormed := by
  rw [readValue] at h
  dsimp only at h
  split at h
  · cases h
  · split at h
    · exact wellFormed_of_readWord (by trivial) h
    · exact wellFormed_of_readWord (by trivial) h
    · exact wellFormed_of_readWord (by trivial) h
    · exact wellFormed_of_readNumber h
    · obtain ⟨text, -, h⟩ := bind_eq_ok_iff.mp h
      cases h
      trivial
    · split at h
      · cases h
      · exact ih.items (List.forall_mem_nil _) h
    · split at h
      · cases h
      · have hnone : (Json.object []).WellFormed := ⟨List.nodup_nil, trivial⟩
        exact ih.members hnone h
    · split at h
      · exact wellFormed_of_readNumber h
      · cases h

theorem readItems_succ (ih : ReadsWellFormed fuel) {before : List Json}
    (hb : ∀ item ∈ before, item.WellFormed)
    (h : readItems (fuel + 1) depth before c = .ok (value, after)) : value.WellFormed := by
  rw [readItems] at h
  obtain ⟨next, -, h⟩ := bind_eq_ok_iff.mp h
  cases next with
  | close =>
    cases h
    exact (wellFormedItems_iff _).mpr fun item hi => hb item (List.mem_reverse.mp hi)
  | entry c =>
    obtain ⟨⟨item, c⟩, hitem, h⟩ := bind_eq_ok_iff.mp h
    exact ih.items (List.forall_mem_cons.mpr ⟨ih.value hitem, hb⟩) h

theorem readMembers_succ (ih : ReadsWellFormed fuel) {first : Bool}
    {members : List (String × Json)} (hm : (Json.object members).WellFormed)
    (h : readMembers (fuel + 1) depth first members c = .ok (value, after)) :
    value.WellFormed := by
  rw [readMembers] at h
  obtain ⟨next, -, h⟩ := bind_eq_ok_iff.mp h
  cases next with
  | close =>
    cases h
    exact hm
  | entry c =>
    obtain ⟨⟨key, c⟩, -, h⟩ := bind_eq_ok_iff.mp h
    obtain ⟨c, -, h⟩ := bind_eq_ok_iff.mp h
    obtain ⟨⟨member, c⟩, hmember, h⟩ := bind_eq_ok_iff.mp h
    exact ih.members (wellFormed_put (ih.value hmember) hm) h

end ReadsWellFormed

theorem readsWellFormed (fuel : Nat) : ReadsWellFormed fuel := by
  induction fuel with
  | zero =>
    refine ⟨fun h => ?_, fun _ h => ?_, fun _ h => ?_⟩ <;> cases h
  | succ fuel ih => exact ⟨ih.readValue_succ, ih.readItems_succ, ih.readMembers_succ⟩

/-- A value that is read from a text has each key once, also where the text repeats a key. -/
theorem wellFormed_of_read {text : String} {value : Json} (h : read text = .ok value) :
    value.WellFormed := by
  obtain ⟨⟨sample, c⟩, hread, h⟩ := bind_eq_ok_iff.mp h
  dsimp only at h
  split at h
  · cases h
    exact (readsWellFormed _).value hread
  · cases h

example : read "\x7b\"a\":null,\"b\":[],\"a\":true\x7d" =
    .ok (.object [("a", .bool true), ("b", .array [])]) := rfl

end SampleModels.Json
