import SampleModels.Proofs.Layout.Steps

/-!
# Blocks written apart

A block that is written in a buffer of its own, at the level that it is to stand at, and absorbed
comes to the same lines as one that is written in place, and it breaks the same rules. Where the
level ends up is not taken over. A block that is written further in has the same lines, only that
those written at the level of the buffer are deeper.
-/

namespace SampleModels

namespace LineBuffer

/-- What `a` becomes when it absorbs `b`, but at the level of `b`. -/
def takeOver (a b : LineBuffer) : LineBuffer := { a.absorb b with level := b.level }

theorem takeOver_atLevel (a : LineBuffer) : a.takeOver (atLevel a.level) = a := by
  simp [takeOver, absorb, atLevel, empty, ofWidth]

/-- A step does the same to a buffer whatever lines are over it. -/
theorem apply_takeOver (a b : LineBuffer) (s : Step) :
    (a.takeOver b).apply s = (b.apply s).map a.takeOver := by
  have hlevel : (a.takeOver b).level = b.level := rfl
  rw [apply_eq, apply_eq, hlevel]
  cases s.breach? b.level with
  | some breach => rfl
  | none =>
    have hafter : (a.takeOver b).after s = a.takeOver (b.after s) := by
      simp [takeOver, absorb, after, Array.append_assoc]
    exact congrArg Except.ok hafter

theorem applyAll_takeOver (a b : LineBuffer) (steps : List Step) :
    (a.takeOver b).applyAll steps = (b.applyAll steps).map a.takeOver := by
  induction steps generalizing b with
  | nil => rfl
  | cons s steps ih =>
    rw [applyAll_cons, applyAll_cons, apply_takeOver]
    cases b.apply s with
    | error breach => rfl
    | ok c => exact ih c

theorem applyAll_eq_map_takeOver (a : LineBuffer) (steps : List Step) :
    a.applyAll steps = ((atLevel a.level).applyAll steps).map a.takeOver := by
  rw [← applyAll_takeOver, takeOver_atLevel]

/-- For each line that the step writes, whether it stands at the level of the buffer. An empty line
and one that is absorbed have a level of their own. -/
def Step.follows : Step → List Bool
  | .line _ => [true]
  | .blank => [false]
  | .indent => []
  | .dedent => []
  | .openBlock _ => [true]
  | .closeBlock _ => [true]
  | .absorb other => List.replicate other.size false

/-- The line `k` levels deeper, if it follows the level of its buffer. -/
def raise (k : Nat) (follows : Bool) (l : Line) : Line :=
  if follows then ⟨l.level + k, l.text⟩ else l

theorem zipWith_raise_false (k : Nat) (lines : List Line) :
    List.zipWith (raise k) (List.replicate lines.length false) lines = lines := by
  induction lines with
  | nil => rfl
  | cons l lines ih => simp [List.replicate_succ, raise, ih]

theorem Step.length_follows (s : Step) (level : Nat) :
    s.follows.length = (s.linesAt level).length := by
  cases s <;> simp [follows, linesAt, LineBuffer.size]

theorem Step.linesAt_raise {level : Nat} {s : Step} (h : s.breach? level = none) (k : Nat) :
    s.linesAt (level + k) = List.zipWith (raise k) s.follows (s.linesAt level) := by
  have hpos := pos_of_closes h
  cases s with
  | closeBlock footer =>
    have hlevel : level + k - 1 = level - 1 + k := Nat.sub_add_comm (hpos rfl)
    simp [linesAt, follows, raise, hlevel]
  | absorb other =>
    have hlines := zipWith_raise_false k other.lines.toList
    simpa [linesAt, follows, LineBuffer.size] using hlines.symm
  | _ => simp [linesAt, follows, raise]

theorem Step.levelAfter_raise {level : Nat} {s : Step} (h : s.breach? level = none) (k : Nat) :
    s.levelAfter (level + k) = s.levelAfter level + k := by
  have hpos := pos_of_closes h
  unfold levelAfter
  split
  · exact Nat.add_right_comm level k 1
  · split
    · next hc => exact Nat.sub_add_comm (hpos hc)
    · rfl

/-- Runs of the same steps from levels `k` apart write the same lines, `k` levels apart where these
follow the level. -/
theorem raise_of_applyAll {b c b' c' : LineBuffer} {k : Nat} {steps : List Step}
    (hlevel : c.level = b.level + k) (hb : b.applyAll steps = .ok b')
    (hc : c.applyAll steps = .ok c') :
    ∃ lines, b'.lines.toList = b.lines.toList ++ lines ∧
      (steps.flatMap Step.follows).length = lines.length ∧
      c'.lines.toList =
        c.lines.toList ++ List.zipWith (raise k) (steps.flatMap Step.follows) lines := by
  induction steps generalizing b c with
  | nil =>
    cases hb
    cases hc
    exact ⟨[], by simp⟩
  | cons s steps ih =>
    obtain ⟨hs, hb⟩ := applyAll_cons_eq_ok_iff.mp hb
    obtain ⟨-, hc⟩ := applyAll_cons_eq_ok_iff.mp hc
    have hafter : (c.after s).level = (b.after s).level + k := by
      show s.levelAfter c.level = s.levelAfter b.level + k
      rw [hlevel, Step.levelAfter_raise hs]
    obtain ⟨lines, hbl, hlength, hcl⟩ := ih hafter hb hc
    refine ⟨s.linesAt b.level ++ lines, ?_, ?_, ?_⟩
    · simpa [after] using hbl
    · simp [List.flatMap_cons, hlength, s.length_follows b.level]
    · rw [List.flatMap_cons, List.zipWith_append (s.length_follows b.level),
        ← Step.linesAt_raise hs, ← hlevel]
      simpa [after] using hcl

/-- Writing steps in place, or in a buffer of its own at the same level that is then absorbed: both
break the same rule or none, and then give the same lines and the same text. Only the level that
the steps lead to is not taken over. Written `k` levels further in, the steps give the same lines
with those `k` levels deeper that follow the level of the buffer. -/
theorem absorbed_block_is_written_in_place (a : LineBuffer) (steps : List Step) :
    (∀ breach, (atLevel a.level).applyAll steps = .error breach ↔
      a.applyAll steps = .error breach) ∧
    (∀ block, (atLevel a.level).applyAll steps = .ok block →
      ∃ direct, a.applyAll steps = .ok direct ∧ (a.absorb block).lines = direct.lines ∧
        (a.absorb block).render = direct.render ∧
        ((a.absorb block).level = direct.level ↔
          steps.countP Step.opens = steps.countP Step.closes) ∧
        (direct.level : Int) - (a.absorb block).level =
          steps.countP Step.opens - steps.countP Step.closes) ∧
    ∀ k outer inner, empty.applyAll steps = .ok outer → (atLevel k).applyAll steps = .ok inner →
      (steps.flatMap Step.follows).length = outer.size ∧
        inner.lines.toList =
          List.zipWith (raise k) (steps.flatMap Step.follows) outer.lines.toList := by
  rw [applyAll_eq_map_takeOver a steps]
  refine ⟨?_, ?_, ?_⟩
  · intro breach
    cases (atLevel a.level).applyAll steps <;> simp [Except.map]
  · intro block hblock
    have hlevel := level_of_applyAll hblock
    replace hlevel : block.level + steps.countP Step.closes =
      a.level + steps.countP Step.opens := hlevel
    refine ⟨a.takeOver block, by rw [hblock]; rfl, rfl, rfl, ?_, ?_⟩
    · show a.level = block.level ↔ _
      omega
    · show (block.level : Int) - a.level = _
      omega
  · intro k outer inner houter hinner
    have hlevel : (atLevel k).level = empty.level + k := (Nat.zero_add k).symm
    obtain ⟨lines, hout, hlength, hin⟩ := raise_of_applyAll hlevel houter hinner
    replace hout : outer.lines.toList = lines := hout
    subst hout
    exact ⟨hlength, hin⟩

/-- Steps that leave a block open, with an empty line and a line from another buffer. -/
def openSteps : List Step :=
  [.openBlock "init \x7b", .blank, .line "x = 1", .absorb ⟨#[⟨7, "// note"⟩], 2, 3⟩]

theorem openSteps_written_apart :
    ∃ block direct outer inner, (atLevel 1).applyAll openSteps = .ok block ∧
      (⟨#[⟨0, "class A \x7b"⟩], 1, 2⟩ : LineBuffer).applyAll openSteps = .ok direct ∧
      direct.lines = #[⟨0, "class A \x7b"⟩] ++ block.lines ∧ direct.level = 2 ∧
      empty.applyAll openSteps = .ok outer ∧ outer.lines.toList.map Line.level = [0, 0, 1, 7] ∧
      (atLevel 4).applyAll openSteps = .ok inner ∧
      inner.lines.toList.map Line.level = [4, 0, 5, 7] := by
  have hblock : (atLevel 1).applyAll openSteps = .ok _ := rfl
  have houter : empty.applyAll openSteps = .ok _ := rfl
  have hinner : (atLevel 4).applyAll openSteps = .ok _ := rfl
  obtain ⟨-, hplace, hraise⟩ :=
    absorbed_block_is_written_in_place ⟨#[⟨0, "class A \x7b"⟩], 1, 2⟩ openSteps
  obtain ⟨direct, hdirect, hlines, -, -, hlevel⟩ := hplace _ hblock
  refine ⟨_, direct, _, _, hblock, hdirect, hlines.symm, ?_, houter, rfl, hinner, ?_⟩
  · have hnet : (direct.level : Int) - 1 = 1 - 0 := hlevel
    omega
  · rw [(hraise 4 _ _ houter hinner).2]
    rfl

end LineBuffer

end SampleModels
