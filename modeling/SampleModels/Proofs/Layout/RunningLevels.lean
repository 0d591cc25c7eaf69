import Mathlib.Data.List.Infix
import SampleModels.Proofs.Layout.Steps

/-!
# Running levels

Counting the blocks that steps open and close tells which level a buffer is at, as long as there is
such a level. Steps whose texts hold no line break are broken off by the first one that leads below
level 0 or beyond the last level of 64 bits, and by nothing else. Each line that they write stands
at the running level there.
-/

namespace SampleModels

namespace LineBuffer

/-- The level that the steps lead to from `start`, if levels had no bounds. -/
def runningLevel (start : Int) (steps : List Step) : Int :=
  start + steps.countP Step.opens - steps.countP Step.closes

/-- The level is next to those that a buffer can have. -/
def OutOfRange (running : Int) : Prop := running = -1 ∨ running = wordSize

instance (running : Int) : Decidable (OutOfRange running) :=
  inferInstanceAs (Decidable (_ ∨ _))

theorem not_outOfRange {level : Nat} (h : level < wordSize) : ¬ OutOfRange level := by
  unfold OutOfRange
  omega

theorem runningLevel_nil (start : Int) : runningLevel start [] = start := by
  simp [runningLevel]

theorem runningLevel_append (start : Int) (steps more : List Step) :
    runningLevel start (steps ++ more) = runningLevel (runningLevel start steps) more := by
  simp only [runningLevel, List.countP_append]
  omega

/-! ## The level of a buffer -/

theorem runningLevel_of_applyAll {b c : LineBuffer} {steps : List Step}
    (h : b.applyAll steps = .ok c) : runningLevel b.level steps = c.level := by
  have hlevel := level_of_applyAll h
  unfold runningLevel
  omega

/-- After steps that break no rule, the level of the buffer tells where the next one leads. -/
theorem runningLevel_concat {b c : LineBuffer} {before : List Step} (h : b.applyAll before = .ok c)
    (s : Step) : runningLevel b.level (before ++ [s]) = runningLevel c.level [s] := by
  rw [runningLevel_append, runningLevel_of_applyAll h]

theorem Step.levelAfter_lt {level : Nat} {s : Step} (hlevel : level < wordSize)
    (h : s.breach? level = none) : s.levelAfter level < wordSize := by
  have hadd := levelAfter_add h
  by_cases ho : s.opens
  · have hnext := lt_of_opens h ho
    rw [if_pos ho] at hadd
    omega
  · rw [if_neg ho] at hadd
    omega

theorem level_lt_of_applyAll {b c : LineBuffer} {steps : List Step} (hb : b.level < wordSize)
    (h : b.applyAll steps = .ok c) : c.level < wordSize := by
  induction steps generalizing b with
  | nil =>
    cases h
    exact hb
  | cons s steps ih =>
    obtain ⟨hs, hrest⟩ := applyAll_cons_eq_ok_iff.mp h
    exact ih (Step.levelAfter_lt hb hs) hrest

/-- Steps that break no rule lead out of the levels at no time: those in front are a run of their
own, which comes to a buffer at the running level. -/
theorem not_outOfRange_of_applyAll {b c : LineBuffer} {steps before : List Step}
    (hb : b.level < wordSize) (h : b.applyAll steps = .ok c) (hbefore : before <+: steps) :
    ¬ OutOfRange (runningLevel b.level before) := by
  obtain ⟨rest, rfl⟩ := hbefore
  rw [applyAll_append] at h
  obtain ⟨between, hbetween, -⟩ := bind_eq_ok_iff.mp h
  rw [runningLevel_of_applyAll hbetween]
  exact not_outOfRange (level_lt_of_applyAll hb hbetween)

/-! ## Which rule is broken -/

namespace Step

/-- The text that the step is given holds a line break. -/
def holdsBreak : Step → Bool
  | .line text => breaksLine text
  | .blank => false
  | .indent => false
  | .dedent => false
  | .openBlock header => breaksLine header
  | .closeBlock footer => breaksLine footer
  | .absorb _ => false

theorem breach?_of_not_holdsBreak {s : Step} (h : s.holdsBreak = false) (level : Nat) :
    s.breach? level =
      if s.closes ∧ level = 0 then some .unopenedBlock
      else if s.opens ∧ ¬ level + 1 < wordSize then some .levelOverflow else none := by
  cases s with
  | line text =>
    have ht : breaksLine text = false := h
    simp [breach?, opens, closes, ht]
  | indent => by_cases hn : level + 1 < wordSize <;> simp [breach?, opens, closes, hn]
  | openBlock header =>
    have ht : breaksLine header = false := h
    by_cases hn : level + 1 < wordSize <;> simp [breach?, opens, closes, ht, hn]
  | closeBlock footer =>
    have ht : breaksLine footer = false := h
    simp [breach?, opens, closes, ht]
  | _ => simp [breach?, opens, closes]

theorem runningLevel_of_opens {s : Step} (h : s.opens) (start : Int) :
    runningLevel start [s] = start + 1 := by
  simp [runningLevel, h, closes_of_opens h]

theorem runningLevel_of_closes {s : Step} (h : s.closes) (start : Int) :
    runningLevel start [s] = start - 1 := by
  simp [runningLevel, h, opens_of_closes h]

/-- A step whose text is not at fault breaks a rule by leading out of the levels. -/
theorem breach_cases {level : Nat} {s : Step} {breach : Breach} (hlevel : level < wordSize)
    (htext : s.holdsBreak = false) (h : s.breach? level = some breach) :
    runningLevel level [s] = -1 ∧ s.closes ∧ breach = .unopenedBlock ∨
      runningLevel level [s] = wordSize ∧ s.opens ∧ breach = .levelOverflow := by
  rw [breach?_of_not_holdsBreak htext] at h
  split at h
  · next hclose =>
    obtain ⟨hc, rfl⟩ := hclose
    exact .inl ⟨runningLevel_of_closes hc 0, hc, (Option.some.inj h).symm⟩
  · split at h
    · next hopen =>
      obtain ⟨ho, hnext⟩ := hopen
      have hrunning := runningLevel_of_opens ho level
      exact .inr ⟨by omega, ho, (Option.some.inj h).symm⟩
    · cases h

end Step

/-- A run that breaks off does so at a step that leads out of the levels. -/
theorem exists_of_applyAll_eq_error {b : LineBuffer} {steps : List Step} {breach : Breach}
    (hb : b.level < wordSize) (htexts : ∀ s ∈ steps, s.holdsBreak = false)
    (h : b.applyAll steps = .error breach) :
    ∃ before s after c, steps = before ++ s :: after ∧ b.applyAll before = .ok c ∧
      (runningLevel b.level (before ++ [s]) = -1 ∧ s.closes ∧ breach = .unopenedBlock ∨
        runningLevel b.level (before ++ [s]) = wordSize ∧ s.opens ∧ breach = .levelOverflow) := by
  obtain ⟨before, s, after, c, rfl, hbefore, hs⟩ := (foldlM_eq_error_iff apply b steps breach).mp h
  have htext : s.holdsBreak = false := htexts s (by simp)
  have hcases := Step.breach_cases (level_lt_of_applyAll hb hbefore) htext
    (apply_eq_error_iff.mp hs)
  rw [← runningLevel_concat hbefore] at hcases
  exact ⟨before, s, after, c, rfl, hbefore, hcases⟩

theorem exists_breach_iff {b : LineBuffer} {steps : List Step} (hb : b.level < wordSize)
    (htexts : ∀ s ∈ steps, s.holdsBreak = false) :
    (∃ breach, b.applyAll steps = .error breach) ↔
      ∃ before, before <+: steps ∧ OutOfRange (runningLevel b.level before) := by
  constructor
  · rintro ⟨breach, h⟩
    obtain ⟨before, s, after, c, rfl, -, hcases⟩ := exists_of_applyAll_eq_error hb htexts h
    refine ⟨before ++ [s], ⟨after, by simp⟩, ?_⟩
    exact hcases.imp And.left And.left
  · rintro ⟨before, hbefore, hout⟩
    cases h : b.applyAll steps with
    | error breach => exact ⟨breach, rfl⟩
    | ok c => exact absurd hout (not_outOfRange_of_applyAll hb h hbefore)

/-! ## What a broken run leaves behind -/

/-- How a run in place ends, without what it leaves behind where it is broken off. -/
def outcome : EStateM.Result Breach LineBuffer Unit → Except Breach LineBuffer
  | .ok _ b => .ok b
  | .error breach _ => .error breach

theorem eq_ok_of_outcome {result : EStateM.Result Breach LineBuffer Unit} {b : LineBuffer}
    (h : outcome result = .ok b) : result = .ok () b := by
  cases result with
  | ok u c =>
    cases h
    rfl
  | error breach c => cases h

section

variable {x y : EStateM Breach LineBuffer Unit} {b c : LineBuffer} {breach : Breach}

theorem andThen_of_ok (h : x b = .ok () c) : (x >>= fun _ => y) b = y c := by
  show EStateM.bind x (fun _ => y) b = _
  rw [EStateM.bind, h]

theorem andThen_of_error (h : x b = .error breach c) :
    (x >>= fun _ => y) b = .error breach c := by
  show EStateM.bind x (fun _ => y) b = _
  rw [EStateM.bind, h]

theorem outcome_andThen (x y : EStateM Breach LineBuffer Unit) (b : LineBuffer) :
    outcome ((x >>= fun _ => y) b) = outcome (x b) >>= fun c => outcome (y c) := by
  cases h : x b with
  | ok u c =>
    rw [andThen_of_ok h]
    rfl
  | error breach c =>
    rw [andThen_of_error h]
    rfl

end

section

variable {f : LineBuffer → Except Breach LineBuffer} {b : LineBuffer}

theorem outcome_inPlace (f : LineBuffer → Except Breach LineBuffer) (b : LineBuffer) :
    outcome (inPlace f b) = f b := by
  unfold inPlace
  cases f b <;> rfl

theorem inPlace_of_error {breach : Breach} (h : f b = .error breach) :
    inPlace f b = .error breach b := by
  rw [inPlace, h]

end

theorem Step.outcome_perform (s : Step) (b : LineBuffer) : outcome (s.perform b) = b.apply s := by
  cases s with
  | openBlock header =>
    show outcome ((inPlace (·.line header) >>= fun _ => inPlace (·.indent)) b) = _
    rw [outcome_andThen, outcome_inPlace]
    simp only [outcome_inPlace]
    rfl
  | closeBlock footer =>
    show outcome ((inPlace (·.dedent) >>= fun _ => inPlace (·.line footer)) b) = _
    rw [outcome_andThen, outcome_inPlace]
    simp only [outcome_inPlace]
    rfl
  | _ => simp only [perform, outcome_inPlace]

/-- Steps done in place come to the same buffer or breach. -/
theorem outcome_performAll (steps : List Step) (b : LineBuffer) :
    outcome (performAll steps b) = b.applyAll steps := by
  induction steps generalizing b with
  | nil => rfl
  | cons s steps ih =>
    show outcome ((s.perform >>= fun _ => performAll steps) b) = _
    rw [outcome_andThen, Step.outcome_perform, applyAll_cons]
    simp only [ih]

namespace Step

/-- Where there is no block to close, the footer is not written. -/
theorem perform_of_level_zero {b : LineBuffer} {s : Step} (hc : s.closes) (h : b.level = 0) :
    s.perform b = .error .unopenedBlock b := by
  have hdedent : b.dedent = .error .unopenedBlock := by simp [LineBuffer.dedent, h]
  cases s with
  | dedent => exact inPlace_of_error hdedent
  | closeBlock footer => exact andThen_of_error (inPlace_of_error hdedent)
  | _ => cases hc

/-- Where no further block can be opened, the header is written if there is one. -/
theorem perform_of_last_level {b : LineBuffer} {s : Step} (ho : s.opens)
    (htext : s.holdsBreak = false) (h : b.level + 1 = wordSize) :
    s.perform b =
      .error .levelOverflow { b with lines := b.lines ++ (s.linesAt b.level).toArray } := by
  have hindent (c : LineBuffer) (hc : c.level = b.level) : c.indent = .error .levelOverflow := by
    simp [LineBuffer.indent, hc, h]
  cases s with
  | indent =>
    show inPlace (·.indent) b = .error .levelOverflow { b with lines := b.lines ++ #[] }
    rw [Array.append_empty]
    exact inPlace_of_error (hindent b rfl)
  | openBlock header =>
    have hline : b.line header = .ok _ := line_eq_ok_iff.mpr ⟨htext, rfl⟩
    have hwritten := eq_ok_of_outcome ((outcome_inPlace (·.line header) b).trans hline)
    exact (andThen_of_ok hwritten).trans (inPlace_of_error (hindent _ rfl))
  | _ => cases ho

end Step

theorem performAll_append (steps more : List Step) :
    performAll (steps ++ more) = performAll steps >>= fun _ => performAll more :=
  List.forM_append

theorem performAll_append_of_ok {b c : LineBuffer} {steps : List Step}
    (h : b.applyAll steps = .ok c) (more : List Step) :
    performAll (steps ++ more) b = performAll more c := by
  have hdone := eq_ok_of_outcome ((outcome_performAll steps b).trans h)
  rw [performAll_append]
  exact andThen_of_ok hdone

theorem performAll_cons_of_error {b c : LineBuffer} {s : Step} {breach : Breach}
    (h : s.perform b = .error breach c) (steps : List Step) :
    performAll (s :: steps) b = .error breach c := andThen_of_error h

/-! ## Where the lines stand -/

/-- The line with its level as an integer, to be compared with running levels. -/
def entry (l : Line) : Int × String := (l.level, l.text)

def entries (b : LineBuffer) : List (Int × String) := b.lines.toList.map entry

/-- The lines that the step records where the running level is `before` it and `after` it. -/
def Step.records (before after : Int) : Step → List (Int × String)
  | .line text => [(before, text)]
  | .blank => [(0, "")]
  | .indent => []
  | .dedent => []
  | .openBlock header => [(before, header)]
  | .closeBlock footer => [(after, footer)]
  | .absorb other => other.entries

/-- The lines that the steps record from `start` on, each step after those in front of it. -/
def recordsAll (start : Int) (steps : List Step) : List (Int × String) :=
  (steps.inits.zip steps).flatMap fun p =>
    p.2.records (runningLevel start p.1) (runningLevel start (p.1 ++ [p.2]))

theorem recordsAll_cons (start : Int) (s : Step) (steps : List Step) :
    recordsAll start (s :: steps) =
      s.records start (runningLevel start [s]) ++ recordsAll (runningLevel start [s]) steps := by
  have hnext (before : List Step) :
      runningLevel start (s :: before) = runningLevel (runningLevel start [s]) before :=
    runningLevel_append start [s] before
  have hrecords : (fun p : List Step × Step =>
      p.2.records (runningLevel start (s :: p.1)) (runningLevel start (s :: (p.1 ++ [p.2])))) =
      fun p => p.2.records (runningLevel (runningLevel start [s]) p.1)
        (runningLevel (runningLevel start [s]) (p.1 ++ [p.2])) := by
    funext p
    rw [hnext p.1, hnext (p.1 ++ [p.2])]
  rw [recordsAll, List.inits_cons, List.zip_cons_cons, List.flatMap_cons, List.zip_map_left,
    List.flatMap_map, runningLevel_nil]
  exact congrArg (_ ++ (steps.inits.zip steps).flatMap ·) hrecords

theorem Step.map_entry_linesAt (level : Nat) (s : Step) :
    (s.linesAt level).map entry = s.records level (s.levelAfter level) := by
  cases s <;> rfl

theorem Step.levelAfter_eq_runningLevel {level : Nat} {s : Step} (h : s.breach? level = none) :
    (s.levelAfter level : Int) = runningLevel level [s] := by
  have hadd := levelAfter_add h
  simp only [runningLevel, List.countP_singleton]
  omega

theorem entries_of_applyAll {b c : LineBuffer} {steps : List Step} (h : b.applyAll steps = .ok c) :
    c.entries = b.entries ++ recordsAll b.level steps := by
  induction steps generalizing b with
  | nil =>
    cases h
    simp [recordsAll]
  | cons s steps ih =>
    obtain ⟨hs, hrest⟩ := applyAll_cons_eq_ok_iff.mp h
    have hlevel : ((b.after s).level : Int) = runningLevel b.level [s] :=
      Step.levelAfter_eq_runningLevel hs
    have hentries : (b.after s).entries =
        b.entries ++ s.records b.level (runningLevel b.level [s]) := by
      rw [← hlevel]
      simp [entries, after, ← Step.map_entry_linesAt]
    rw [ih hrest, hlevel, hentries, recordsAll_cons, List.append_assoc]

/-! ## Where a run breaks off -/

section

variable {b c : LineBuffer} {before : List Step} {s : Step}

theorem performAll_of_below (hbefore : b.applyAll before = .ok c) (hc : s.closes)
    (h : runningLevel b.level (before ++ [s]) = -1) (after : List Step) :
    performAll (before ++ s :: after) b = .error .unopenedBlock c := by
  rw [runningLevel_concat hbefore, Step.runningLevel_of_closes hc] at h
  have hzero : c.level = 0 := by omega
  rw [performAll_append_of_ok hbefore]
  exact performAll_cons_of_error (Step.perform_of_level_zero hc hzero) after

theorem performAll_of_beyond (hbefore : b.applyAll before = .ok c) (ho : s.opens)
    (htext : s.holdsBreak = false) (h : runningLevel b.level (before ++ [s]) = wordSize)
    (after : List Step) :
    ∃ left, performAll (before ++ s :: after) b = .error .levelOverflow left ∧
      left.level = c.level ∧ left.entries = c.entries ++
        s.records (runningLevel b.level before) (runningLevel b.level (before ++ [s])) := by
  have hlast : c.level + 1 = wordSize := by
    rw [runningLevel_concat hbefore, Step.runningLevel_of_opens ho] at h
    omega
  have hafter : runningLevel b.level (before ++ [s]) = s.levelAfter c.level := by
    rw [h, Step.levelAfter, if_pos ho, hlast]
  refine ⟨{ c with lines := c.lines ++ (s.linesAt c.level).toArray }, ?_, rfl, ?_⟩
  · rw [performAll_append_of_ok hbefore]
    exact performAll_cons_of_error (Step.perform_of_last_level ho htext hlast) after
  · rw [hafter, runningLevel_of_applyAll hbefore, ← Step.map_entry_linesAt]
    simp [entries]

end

/-- Steps whose texts hold no line break are broken off if and only if they lead below level 0 or
beyond the last level at some point, and then at the first such step. One that closes a block leaves
the lines and the level as they are; one that opens a block has written its header. Where the
running level stays within the levels, all steps are done, the buffer comes to that level, and their
lines stand at the running levels: a header at the one before its block, a footer at the one after
it. -/
theorem steps_follow_running_level {level : Nat} {steps : List Step} (hlevel : level < wordSize)
    (htexts : ∀ s ∈ steps, s.holdsBreak = false) :
    ((∃ breach, (atLevel level).applyAll steps = .error breach) ↔
      ∃ before, before <+: steps ∧ OutOfRange (runningLevel level before)) ∧
    (∀ breach, (atLevel level).applyAll steps = .error breach →
      ∃ before s after b, steps = before ++ s :: after ∧
        (∀ earlier, earlier <+: before → ¬ OutOfRange (runningLevel level earlier)) ∧
        (atLevel level).applyAll before = .ok b ∧
        (runningLevel level (before ++ [s]) = -1 ∧ s.closes ∧ breach = .unopenedBlock ∧
            performAll steps (atLevel level) = .error breach b ∨
          runningLevel level (before ++ [s]) = wordSize ∧ s.opens ∧ breach = .levelOverflow ∧
            ∃ left, performAll steps (atLevel level) = .error breach left ∧
              left.level = b.level ∧ left.entries = b.entries ++
                s.records (runningLevel level before) (runningLevel level (before ++ [s])))) ∧
    ((∀ before, before <+: steps → ¬ OutOfRange (runningLevel level before)) →
      ∃ b, (atLevel level).applyAll steps = .ok b ∧ performAll steps (atLevel level) = .ok () b ∧
        (b.level : Int) = runningLevel level steps ∧ b.entries = recordsAll level steps) := by
  refine ⟨exists_breach_iff hlevel htexts, ?_, ?_⟩
  · intro breach h
    obtain ⟨before, s, after, c, rfl, hbefore, hcases⟩ :=
      exists_of_applyAll_eq_error hlevel htexts h
    refine ⟨before, s, after, c, rfl, ?_, hbefore, hcases.imp ?_ ?_⟩
    · exact fun earlier => not_outOfRange_of_applyAll hlevel hbefore
    · rintro ⟨hrunning, hc, rfl⟩
      exact ⟨hrunning, hc, rfl, performAll_of_below hbefore hc hrunning after⟩
    · rintro ⟨hrunning, ho, rfl⟩
      have htext : s.holdsBreak = false := htexts s (by simp)
      exact ⟨hrunning, ho, rfl, performAll_of_beyond hbefore ho htext hrunning after⟩
  · intro hin
    cases h : (atLevel level).applyAll steps with
    | error breach =>
      obtain ⟨before, hbefore, hout⟩ := (exists_breach_iff hlevel htexts).mp ⟨breach, h⟩
      exact absurd hout (hin before hbefore)
    | ok c =>
      have hperform := eq_ok_of_outcome ((outcome_performAll steps _).trans h)
      exact ⟨c, rfl, hperform, (runningLevel_of_applyAll h).symm, entries_of_applyAll h⟩

/-- Steps that close one block more than they open. -/
def closingSteps : List Step :=
  [.indent, .openBlock "class A \x7b", .absorb ⟨#[⟨7, "// note"⟩], 2, 3⟩, .blank, .line "x = 1",
    .closeBlock "\x7d", .dedent, .closeBlock "\x7d"]

/-- From level 0 the last footer is not written, from level 5 all lines are, and from the last level
but one the header is the only line. -/
theorem levels_of_closingSteps :
    (∀ s ∈ closingSteps, s.holdsBreak = false) ∧
      (∃ before b, before <+: closingSteps ∧ (atLevel 0).applyAll before = .ok b ∧
        performAll closingSteps (atLevel 0) = .error .unopenedBlock b ∧ b.size = 5) ∧
      (∃ b, (atLevel 5).applyAll closingSteps = .ok b ∧ b.level = 4 ∧
        b.entries = [(6, "class A \x7b"), (7, "// note"), (0, ""), (7, "x = 1"), (6, "\x7d"),
          (4, "\x7d")]) ∧
      ∃ left, performAll closingSteps (atLevel (wordSize - 2)) = .error .levelOverflow left ∧
        left.size = 1 := by
  have htexts : ∀ s ∈ closingSteps, s.holdsBreak = false := by decide
  have hlow : 0 < wordSize := by decide
  have hmiddle : 5 < wordSize := by decide
  have hhigh : wordSize - 2 < wordSize := by decide
  obtain ⟨-, hbelow, -⟩ := steps_follow_running_level hlow htexts
  obtain ⟨-, -, hwithin⟩ := steps_follow_running_level hmiddle htexts
  obtain ⟨hiff, hbeyond, -⟩ := steps_follow_running_level hhigh htexts
  refine ⟨htexts, ?_, ?_, ?_⟩
  · have hleft : performAll closingSteps (atLevel 0) = .error .unopenedBlock _ := rfl
    obtain ⟨before, s, after, b, hsteps, -, hbefore, ⟨-, -, -, h⟩ | ⟨-, -, h, -⟩⟩ := hbelow _ rfl
    · refine ⟨before, b, ⟨s :: after, hsteps.symm⟩, hbefore, h, ?_⟩
      rw [hleft] at h
      cases h
      rfl
    · cases h
  · have hin : ∀ before ∈ closingSteps.inits, ¬ OutOfRange (runningLevel (5 : Nat) before) := by
      decide
    obtain ⟨b, hb, -, hlevel, hentries⟩ :=
      hwithin fun before h => hin before ((List.mem_inits _ _).mpr h)
    have hfinal : runningLevel (5 : Nat) closingSteps = 4 := by decide
    refine ⟨b, hb, by omega, hentries.trans ?_⟩
    decide
  · have hout : OutOfRange (runningLevel (wordSize - 2 : Nat) (closingSteps.take 2)) := by decide
    have hleft : performAll closingSteps (atLevel (wordSize - 2)) = .error .levelOverflow _ := rfl
    obtain ⟨breach, h⟩ := hiff.mpr ⟨_, List.take_prefix 2 closingSteps, hout⟩
    obtain ⟨-, -, -, b, -, -, -, ⟨-, -, rfl, h⟩ | ⟨-, -, rfl, left, h, -⟩⟩ := hbeyond breach h
    · rw [hleft] at h
      cases h
    · refine ⟨left, h, ?_⟩
      rw [hleft] at h
      cases h
      rfl

end LineBuffer

end SampleModels
