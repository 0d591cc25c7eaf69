/-!
# Association lists

Values by their keys. Looking up a key finds what was set for it last.
-/

namespace SampleModels.Association

variable {α β : Type} [BEq α]

/-- Sets the value of a key, in the place of the one before. -/
def set (entries : List (α × β)) (key : α) (value : β) : List (α × β) :=
  (key, value) :: entries.filter fun entry => entry.1 != key

theorem lookup_filter_of_ne [LawfulBEq α] {key other : α} (entries : List (α × β))
    (h : other ≠ key) :
    (entries.filter fun entry => entry.1 != key).lookup other = entries.lookup other := by
  induction entries with
  | nil => rfl
  | cons entry rest ih =>
    obtain ⟨k, v⟩ := entry
    by_cases hk : k = key
    · subst hk
      have hb : (other == k) = false := beq_eq_false_iff_ne.mpr h
      simp [List.lookup_cons, hb, ih]
    · simp [hk, List.lookup_cons, ih]

theorem lookup_set_self [LawfulBEq α] (entries : List (α × β)) (key : α) (value : β) :
    (set entries key value).lookup key = some value := by simp [set]

theorem lookup_set_of_ne [LawfulBEq α] {key other : α} (entries : List (α × β)) (value : β)
    (h : other ≠ key) : (set entries key value).lookup other = entries.lookup other := by
  rw [set, List.lookup_cons, beq_eq_false_iff_ne.mpr h]
  exact lookup_filter_of_ne entries h

/-- Changing all keys, and no two to one, does not change what is found. -/
theorem lookup_map_keys {γ : Type} [BEq γ] [LawfulBEq α] [LawfulBEq γ] {keys : α → γ}
    (h : ∀ a b, keys a = keys b → a = b) (entries : List (α × β)) (key : α) :
    (entries.map fun entry => (keys entry.1, entry.2)).lookup (keys key) =
      entries.lookup key := by
  induction entries with
  | nil => rfl
  | cons entry rest ih =>
    obtain ⟨k, v⟩ := entry
    by_cases hk : key = k
    · subst hk
      simp
    · have hb : (key == k) = false := beq_eq_false_iff_ne.mpr hk
      have hkeys : (keys key == keys k) = false := beq_eq_false_iff_ne.mpr fun he => hk (h _ _ he)
      simp [List.lookup_cons, hb, hkeys, ih]

theorem lookup_eq_none_iff_notMem [LawfulBEq α] (entries : List (α × β)) (key : α) :
    entries.lookup key = none ↔ key ∉ entries.map Prod.fst := by
  rw [List.lookup_eq_none_iff]
  constructor
  · intro h hm
    obtain ⟨entry, he, rfl⟩ := List.mem_map.mp hm
    simpa using h entry he
  · intro h entry he
    rw [bne_iff_ne]
    rintro rfl
    exact h (List.mem_map_of_mem he)

/-- Where each key stands once, looking up finds what stands at the key. -/
theorem lookup_eq_some_iff_mem [LawfulBEq α] {entries : List (α × β)}
    (h : (entries.map Prod.fst).Nodup) (key : α) (value : β) :
    entries.lookup key = some value ↔ (key, value) ∈ entries := by
  induction entries with
  | nil => simp
  | cons entry rest ih =>
    obtain ⟨k, v⟩ := entry
    rw [List.map_cons, List.nodup_cons] at h
    by_cases hk : key = k
    · subst hk
      have hn : (key, value) ∉ rest := fun hm => h.1 (List.mem_map.mpr ⟨_, hm, rfl⟩)
      simp [hn, eq_comm]
    · have hb : (key == k) = false := beq_eq_false_iff_ne.mpr hk
      simp [List.lookup_cons, hb, ih h.2, hk]

/-- Where each key stands once, a row is the only one at its key. -/
theorem filter_eq_singleton [LawfulBEq α] {γ : Type} {keyOf : γ → α} {rows : List γ}
    (h : (rows.map keyOf).Nodup) {row : γ} (hr : row ∈ rows) :
    (rows.filter fun other => keyOf other == keyOf row) = [row] := by
  induction rows with
  | nil => cases hr
  | cons first rest ih =>
    rw [List.map_cons, List.nodup_cons] at h
    rcases List.mem_cons.mp hr with rfl | hr
    · have hrest : rest.filter (fun other => keyOf other == keyOf row) = [] := by
        rw [List.filter_eq_nil_iff]
        intro other ho he
        exact h.1 (beq_iff_eq.mp he ▸ List.mem_map_of_mem ho)
      simp [hrest]
    · have hne : keyOf first ≠ keyOf row := fun he => h.1 (he ▸ List.mem_map_of_mem hr)
      rw [List.filter_cons_of_neg (by simpa using hne), ih h.2 hr]

/-- Where each key stands once, the order of the entries does not matter for a look-up. -/
theorem lookup_reverse [LawfulBEq α] {entries : List (α × β)}
    (h : (entries.map Prod.fst).Nodup) (key : α) :
    entries.reverse.lookup key = entries.lookup key := by
  have hr : (entries.reverse.map Prod.fst).Nodup :=
    ((List.reverse_perm entries).map Prod.fst).nodup_iff.mpr h
  refine Option.ext fun value => ?_
  rw [lookup_eq_some_iff_mem hr, lookup_eq_some_iff_mem h, List.mem_reverse]

end SampleModels.Association
