import SampleModels.Files.Tree
import SampleModels.Proofs.Failure
import SampleModels.Text.Split

/-!
# What writing changes in a file tree

A path leads through directories to a name. Writing a file there puts it in that place and leaves
every other place as it was, and the path then leads to it. Making directories only adds
directories where there was nothing.
-/

namespace SampleModels.Files

theorem leadsOut_of_ofChars {part : List Char} {name : String} (hs : '/' ∉ part)
    (h : Component.ofChars part = .name name) : leadsOut name = false := by
  unfold Component.ofChars at h
  split at h
  · cases h
  · split at h
    · cases h
    · next hup =>
      cases h
      have htop : String.ofList part ≠ topName := by
        intro heq
        have hchars : part = ['/'] := by rw [← String.toList_ofList (l := part), heq]; rfl
        exact hs (hchars ▸ List.mem_singleton.mpr rfl)
      have hname : String.ofList part ≠ upName := by
        intro heq
        exact hup (by rw [← String.toList_ofList (l := part), heq]; rfl)
      simp [leadsOut, htop, hname]

theorem leadsOut_of_mem_partsOfChars {cs : List Char} {name : String}
    (h : .name name ∈ partsOfChars cs) : leadsOut name = false := by
  obtain ⟨part, hp, hname⟩ := List.mem_map.mp h
  refine leadsOut_of_ofChars (fun hs => ?_) hname
  rw [List.splitOn_eq_splitOnP] at hp
  cases (Text.of_mem_splitOnP hp hs).2

theorem leadsOut_of_mem_parts {path name : String} (h : .name name ∈ parts path) :
    leadsOut name = false := by
  unfold parts at h
  split at h
  · next rest _ =>
    rcases List.mem_cons.mp h with heq | h
    · cases heq
    · exact leadsOut_of_mem_partsOfChars h
  · exact leadsOut_of_mem_partsOfChars h

theorem all_leadsOut_append {directory : List String} {name : String}
    (h : leadsOut name = false) : (directory ++ [name]).all leadsOut = false := by
  simp [h]

namespace Tree

/-- What the file in that place holds, if there is one. -/
def contentAt? (t : Tree) (names : List String) : Option Bytes :=
  match t.get? names with
  | some (.file content) => some content
  | _ => none

/-- The path leads through directories to that place. -/
def LeadsTo (t : Tree) (path : String) (names : List String) : Prop :=
  ∃ directory name, t.locate (parts path) = .ok (.child directory name) ∧
    names = directory ++ [name]

/-- The files of the second tree are those of the first, but for the one that the path leads to,
which holds the content. -/
def Replaces (before after : Tree) (path : String) (content : Bytes) : Prop :=
  ∃ names, after.LeadsTo path names ∧ after.contentAt? names = some content ∧
    ∀ other, other ≠ names → after.contentAt? other = before.contentAt? other

variable {t after : Tree}

theorem find?_eq_ok_iff {here : List String} {name : String} {found? : Option Entry} :
    t.find? here name = .ok found? ↔
      name.utf8ByteSize ≤ maxNameSize ∧ t.get? (here ++ [name]) = found? := by
  unfold find?
  split
  · next h => simp [Nat.not_le.mpr h]
  · next h => simp [Nat.le_of_not_lt h]

theorem all_leadsOut_of_get?_eq_none {names : List String} (h : t.get? names = none) :
    names.all leadsOut = false := by
  unfold get? at h
  split at h
  · cases h
  · next hout => exact Bool.eq_false_iff.mpr hout

/-- A walk that reaches its end does so in every tree that has the same directories, or more. -/
theorem walk_eq_ok_of_directories
    (h : ∀ names, t.get? names = some .directory → after.get? names = some .directory)
    {here : List String} {path : List Component} {directory : List String}
    (hw : t.walk here path = .ok directory) : after.walk here path = .ok directory := by
  induction path generalizing here with
  | nil => exact hw
  | cons part rest ih =>
    cases part with
    | root => exact ih hw
    | current => exact ih hw
    | parent => exact ih hw
    | name name =>
      obtain ⟨found?, hf, hw⟩ := bind_eq_ok_iff.mp hw
      rcases found? with _ | _ | _
      · cases hw
      · cases hw
      · obtain ⟨hsize, hget⟩ := find?_eq_ok_iff.mp hf
        rw [walk, find?_eq_ok_iff.mpr ⟨hsize, h _ hget⟩]
        exact ih hw

theorem locate_eq_ok_of_directories
    (h : ∀ names, t.get? names = some .directory → after.get? names = some .directory)
    {path : List Component} {target : Target} (hl : t.locate path = .ok target) :
    after.locate path = .ok target := by
  obtain ⟨directory, hw, htarget⟩ := bind_eq_ok_iff.mp hl
  exact bind_eq_ok_iff.mpr ⟨directory, walk_eq_ok_of_directories h hw, htarget⟩

theorem leadsOut_of_locate {directory : List String} {text name : String}
    (h : t.locate (parts text) = .ok (.child directory name)) : leadsOut name = false := by
  obtain ⟨here, -, htarget⟩ := bind_eq_ok_iff.mp h
  split at htarget
  · next hlast =>
    cases htarget
    exact leadsOut_of_mem_parts (List.mem_of_getLast? hlast)
  · cases htarget

private theorem eq_of_length_le_dropWhile {cs : List Char} {p : Char → Bool}
    (h : cs.length ≤ (cs.reverse.dropWhile p).reverse.length) :
    (cs.reverse.dropWhile p).reverse = cs := by
  have hs := List.dropWhile_suffix p (l := cs.reverse)
  rw [hs.eq_of_length_le (by simpa using h), List.reverse_reverse]

/-- A file that is written takes the place that the path leads to, where no directory was. Its path
does not end in a slash, so nothing is stripped from it. -/
theorem write_eq_ok {path : String} {content : Bytes} (h : t.write path content = .ok after) :
    ∃ directory name, t.locate (parts path) = .ok (.child directory name) ∧
      checkPath path = .ok () ∧ name.utf8ByteSize ≤ maxNameSize ∧
      t.get? (directory ++ [name]) ≠ some .directory ∧
      after = t.set (directory ++ [name]) (.file content) := by
  obtain ⟨⟨⟩, hcheck, h⟩ := bind_eq_ok_iff.mp h
  obtain ⟨target, hlocate, h⟩ := bind_eq_ok_iff.mp h
  cases target with
  | directory => cases h
  | child directory name =>
    dsimp only at h
    split at h
    · cases h
    · next hlen =>
      rw [eq_of_length_le_dropWhile (Nat.not_lt.mp hlen), String.ofList_toList] at hlocate
      obtain ⟨found?, hfind, h⟩ := bind_eq_ok_iff.mp h
      obtain ⟨hsize, rfl⟩ := find?_eq_ok_iff.mp hfind
      refine ⟨directory, name, hlocate, hcheck, hsize, ?_, ?_⟩
      · intro hd
        rw [hd] at h
        cases h
      · split at h
        · cases h
        · exact (Except.ok.inj h).symm

theorem replaces_of_write {path : String} {content : Bytes}
    (h : t.write path content = .ok after) :
    t.Replaces after path content ∧ after.read path = .ok content := by
  obtain ⟨directory, name, hlocate, hcheck, hsize, hget, rfl⟩ := write_eq_ok h
  have hout : (directory ++ [name]).all leadsOut = false :=
    all_leadsOut_append (leadsOut_of_locate hlocate)
  have hself := get?_set_self t (.file content) hout
  have hdirs : ∀ names, t.get? names = some .directory →
      (t.set (directory ++ [name]) (.file content)).get? names = some .directory := by
    intro names hd
    have hne : names ≠ directory ++ [name] := by
      rintro rfl
      exact hget hd
    rwa [get?_set_of_ne t _ hne]
  have hlocate' := locate_eq_ok_of_directories hdirs hlocate
  refine ⟨⟨_, ⟨directory, name, hlocate', rfl⟩, by rw [contentAt?, hself], ?_⟩, ?_⟩
  · intro other hne
    rw [contentAt?, contentAt?, get?_set_of_ne _ _ hne]
  · refine bind_eq_ok_iff.mpr ⟨(), hcheck, bind_eq_ok_iff.mpr ⟨_, hlocate', ?_⟩⟩
    exact bind_eq_ok_iff.mpr ⟨_, find?_eq_ok_iff.mpr ⟨hsize, hself⟩, rfl⟩

/-- The second tree is the first with directories added where there was nothing. -/
def Grows (before after : Tree) : Prop :=
  ∀ names, after.get? names = before.get? names ∨
    (before.get? names = none ∧ after.get? names = some .directory)

theorem Grows.refl (t : Tree) : t.Grows t := fun _ => .inl rfl

theorem Grows.trans {t between after : Tree} (h : t.Grows between) (h' : between.Grows after) :
    t.Grows after := by
  intro names
  rcases h names with heq | ⟨hnone, hdir⟩ <;> rcases h' names with heq' | ⟨hnone', hdir'⟩
  · exact .inl (heq'.trans heq)
  · exact .inr ⟨heq ▸ hnone', hdir'⟩
  · exact .inr ⟨hnone, heq'.trans hdir⟩
  · rw [hdir] at hnone'
    cases hnone'

theorem Grows.contentAt?_eq (h : t.Grows after) (names : List String) :
    after.contentAt? names = t.contentAt? names := by
  unfold contentAt?
  rcases h names with heq | ⟨hnone, hdir⟩
  · rw [heq]
  · rw [hnone, hdir]

theorem grows_makeDirectory {path : List Component} (h : t.makeDirectory path = .ok after) :
    t.Grows after := by
  obtain ⟨⟨⟩, -, h⟩ := bind_eq_ok_iff.mp h
  obtain ⟨target, -, h⟩ := bind_eq_ok_iff.mp h
  cases target with
  | directory => cases h
  | child directory name =>
    obtain ⟨found?, hfind, h⟩ := bind_eq_ok_iff.mp h
    obtain ⟨-, hget⟩ := find?_eq_ok_iff.mp hfind
    cases found? with
    | some entry => cases h
    | none =>
      cases h
      intro names
      by_cases heq : names = directory ++ [name]
      · subst heq
        exact .inr ⟨hget, get?_set_self t .directory (all_leadsOut_of_get?_eq_none hget)⟩
      · exact .inl (get?_set_of_ne t .directory heq)

/-- The directories above are made first, and stay even where this one cannot be made. -/
theorem grows_makeDirectories (t : Tree) (path : List Component) :
    t.Grows (t.makeDirectories path).1 := by
  induction path generalizing t with
  | nil => exact Grows.refl t
  | cons last above ih =>
    simp only [makeDirectories]
    generalize (last :: above).reverse = path
    cases hfirst : t.makeDirectory path with
    | ok made => exact grows_makeDirectory hfirst
    | error error =>
      cases error with
      | notFound =>
        have habove := ih t
        rcases hmade : t.makeDirectories above with ⟨between, error | ⟨⟩⟩ <;> rw [hmade] at habove
        · exact habove
        · dsimp only
          cases hsecond : between.makeDirectory path with
          | ok made => exact habove.trans (grows_makeDirectory hsecond)
          | error error => exact habove
      | _ => exact Grows.refl t

theorem writeDeep_eq (t : Tree) (path : String) (content : Bytes) :
    t.writeDeep path content =
      match t.makeDirectories (components path).dropLast.reverse with
      | (made, .error error) => (made, .error error)
      | (made, .ok ()) =>
        match made.write path content with
        | .ok after => (after, .ok ())
        | .error error => (made, .error error) := rfl

theorem replaces_of_writeDeep {path : String} {content : Bytes}
    (h : t.writeDeep path content = (after, .ok ())) :
    t.Replaces after path content ∧ after.read path = .ok content := by
  have hgrows := grows_makeDirectories t (components path).dropLast.reverse
  rw [writeDeep_eq] at h
  rcases hmade : t.makeDirectories (components path).dropLast.reverse with
    ⟨made, error | ⟨⟩⟩ <;> rw [hmade] at h hgrows <;> dsimp only at h
  · cases h
  · cases hwrite : made.write path content with
    | error error =>
      rw [hwrite] at h
      cases h
    | ok written =>
      rw [hwrite] at h
      cases h
      obtain ⟨⟨names, hleads, hcontent, hother⟩, hread⟩ := replaces_of_write hwrite
      exact ⟨⟨names, hleads, hcontent, fun other hne =>
        (hother other hne).trans (hgrows.contentAt?_eq other)⟩, hread⟩

theorem contentAt?_of_writeDeep_eq_error {path : String} {content : Bytes} {error : IoError}
    (h : t.writeDeep path content = (after, .error error)) (names : List String) :
    after.contentAt? names = t.contentAt? names := by
  have hgrows := grows_makeDirectories t (components path).dropLast.reverse
  rw [writeDeep_eq] at h
  rcases hmade : t.makeDirectories (components path).dropLast.reverse with
    ⟨made, failure | ⟨⟩⟩ <;> rw [hmade] at h hgrows <;> dsimp only at h
  · cases h
    exact hgrows.contentAt?_eq names
  · cases hwrite : made.write path content with
    | error failure =>
      rw [hwrite] at h
      cases h
      exact hgrows.contentAt?_eq names
    | ok written =>
      rw [hwrite] at h
      cases h

end Tree

end SampleModels.Files
