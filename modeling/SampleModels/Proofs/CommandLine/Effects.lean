import SampleModels.CommandLine.Run
import SampleModels.Proofs.Delivery
import SampleModels.Proofs.Files.Writing

/-!
# What a run does

Apart from its log, a run has three effects: its exit code, what it prints, and the files it leaves.
They come of delivering the generated file to a sink and then printing or writing what the sink
has got, and no setting of the log that can be read changes them.
-/

namespace SampleModels.CommandLine

open Files

/-- The effects of a run: its exit code, what it printed, and the file tree after it. -/
abbrev Effects : Type := Nat × Bytes × Tree

def effects (result : Report × Tree) : Effects :=
  (result.1.code, Bytes.ofText result.1.output, result.2)

namespace Options

/-- The input file, unless it stands for standard input. -/
def inputFile? (o : Options) : Option String :=
  o.input?.filter fun path => !samePath path "-"

def modelName (o : Options) : String := o.rootName?.getD (defaultRootName o.inputFile?)

/-- The text of the sample, from its file or from standard input. -/
def sample (o : Options) (stdin : Bytes) (tree : Tree) : Except IoError String :=
  match o.inputFile? with
  | some path => tree.readText path
  | none => Job.decodeInput stdin

/-- The generated file as a sink gets it. -/
def delivery (o : Options) (text : String) : Sink × Except Failure Unit :=
  generateTo text o.modelName o.settings ({} : Sink)

/-- Printing the generated file, or writing it to the output file. -/
def publish (o : Options) (generated : Bytes) (tree : Tree) : Effects :=
  match o.out? with
  | none => (0, generated, tree)
  | some path =>
    match tree.writeDeep path generated with
    | (after, .ok ()) => (0, [], after)
    | (after, .error _) => (1, [], after)

/-- What a run comes to, whatever it logs. -/
def effects (o : Options) (stdin : Bytes) (tree : Tree) : Effects :=
  match o.sample stdin tree with
  | .error _ => (1, [], tree)
  | .ok text =>
    match o.delivery text with
    | (sink, .ok ()) => o.publish sink.accepted tree
    | (_, .error (.fault _)) => (1, [], tree)
    | (_, .error (.breach _)) => (101, [], tree)

end Options

theorem readJob_eq {arguments : List String} {options : Options} {setting? : Option String}
    {filter : Log.Filter} (hargs : readArguments arguments = .ok (.generate options))
    (hlog : Log.Filter.ofSetting? setting? = some filter) :
    readJob arguments setting? = .ok ⟨options, filter⟩ := by
  rw [readJob, hlog]
  simp only [hargs]

theorem run_eq {arguments : List String} {options : Options} {setting? : Option String}
    {filter : Log.Filter} (hargs : readArguments arguments = .ok (.generate options))
    (hlog : Log.Filter.ofSetting? setting? = some filter) (stdin : Bytes) (tree : Tree) :
    run arguments setting? stdin tree =
      match (Job.mk options filter).generate (options.sample stdin tree) with
      | .error report => (report, tree)
      | .ok (log, generated) =>
        match options.out? with
        | none => (.printed log generated, tree)
        | some path =>
          (.written log (tree.writeDeep path (.ofText generated)).2,
            (tree.writeDeep path (.ofText generated)).1) := by
  rw [run, readJob_eq hargs hlog]
  rfl

/-- A run does what its options ask for, with every setting of the log that can be read. -/
theorem effects_run {arguments : List String} {options : Options} {setting? : Option String}
    (hargs : readArguments arguments = .ok (.generate options))
    (hlog : (Log.Filter.ofSetting? setting?).isSome) (stdin : Bytes) (tree : Tree) :
    effects (run arguments setting? stdin tree) = options.effects stdin tree := by
  obtain ⟨filter, hlog⟩ := Option.isSome_iff_exists.mp hlog
  have hname : (Job.mk options filter).rootName = options.modelName := rfl
  rw [run_eq hargs hlog, Options.effects]
  cases options.sample stdin tree with
  | error error => rfl
  | ok text =>
    simp only [Job.generate, Options.delivery, generateTo_sink, hname]
    cases generateFileText text options.modelName options.settings with
    | error failure => cases failure <;> rfl
    | ok generated =>
      dsimp only
      unfold Options.publish
      cases options.out? with
      | none => rfl
      | some path =>
        dsimp only
        rcases tree.writeDeep path (.ofText generated) with ⟨after, error | ⟨⟩⟩ <;> rfl

theorem publish_to_file {options : Options} {path : String} (hout : options.out? = some path)
    (generated : Bytes) (tree : Tree) :
    ∃ code after, options.publish generated tree = (code, [], after) ∧
      ((code = 0 ∧ tree.Replaces after path generated ∧ after.read path = .ok generated) ∨
        (code = 1 ∧ (∃ error, (tree.writeDeep path generated).2 = .error error) ∧
          ∀ names, after.contentAt? names = tree.contentAt? names)) := by
  unfold Options.publish
  simp only [hout]
  rcases hwrite : tree.writeDeep path generated with ⟨after, error | ⟨⟩⟩
  · exact ⟨1, after, rfl, .inr ⟨rfl, ⟨error, rfl⟩, Tree.contentAt?_of_writeDeep_eq_error hwrite⟩⟩
  · obtain ⟨hreplaces, hread⟩ := Tree.replaces_of_writeDeep hwrite
    exact ⟨0, after, rfl, .inl ⟨rfl, hreplaces, hread⟩⟩

/-- A run agrees with the delivery of its generated file. A failure before that is delivered leaves
nothing behind but an exit code, and what is delivered is printed, or replaces the output file, or
leaves all files as they were. The setting of the log has no part in it, if it can be read. -/
theorem run_agrees_with_delivery {arguments : List String} {options : Options}
    {setting? : Option String} (hargs : readArguments arguments = .ok (.generate options))
    (hlog : (Log.Filter.ofSetting? setting?).isSome) (stdin : Bytes) (tree : Tree) :
    let result := effects (run arguments setting? stdin tree)
    (∀ error, options.sample stdin tree = .error error → result = (1, [], tree)) ∧
    (∀ text, options.sample stdin tree = .ok text →
      let generated := (options.delivery text).1.accepted
      let outcome := (options.delivery text).2
      (∀ fault, outcome = .error (.fault fault) → result = (1, [], tree)) ∧
      (∀ breach, outcome = .error (.breach breach) → result = (101, [], tree)) ∧
      (outcome = .ok () → options.out? = none → result = (0, generated, tree)) ∧
      (outcome = .ok () → ∀ path, options.out? = some path →
        ∃ code after, result = (code, [], after) ∧
          ((code = 0 ∧ tree.Replaces after path generated ∧ after.read path = .ok generated) ∨
            (code = 1 ∧ (∃ error, (tree.writeDeep path generated).2 = .error error) ∧
              ∀ names, after.contentAt? names = tree.contentAt? names)))) ∧
    ∀ other?, (Log.Filter.ofSetting? other?).isSome →
      effects (run arguments other? stdin tree) = result := by
  intro result
  have hresult : result = options.effects stdin tree := effects_run hargs hlog stdin tree
  unfold Options.effects at hresult
  refine ⟨fun error hsample => by rw [hresult, hsample], fun text hsample => ?_, ?_⟩
  · rw [hsample] at hresult
    rcases hdelivery : options.delivery text with ⟨sink, (fault | breach) | ⟨⟩⟩ <;>
      simp only [hdelivery] at hresult
    · simp [hresult]
    · simp [hresult]
    · refine ⟨by simp, by simp, fun _ hout => ?_, fun _ path hout => ?_⟩
      · rw [hresult, Options.publish, hout]
      · rw [hresult]
        exact publish_to_file hout sink.accepted tree
  · intro other? hother
    exact (effects_run hargs hother stdin tree).trans (effects_run hargs hlog stdin tree).symm

/-- A run that makes the directory of its output, and one in which a file is in its place. -/
theorem runs_with_output_file :
    let tree : Tree := ⟨[(["a.json"], .file (.ofText "[]")), (["b"], .file [])]⟩
    (∃ after generated, effects (run ["a.json", "-ox/y"] (some "debug") [] tree) = (0, [], after) ∧
      tree.Replaces after "x/y" generated ∧ after.read "x/y" = .ok generated) ∧
    ∃ after, effects (run ["a.json", "-ob/y"] (some "debug") [] tree) = (1, [], after) ∧
      ∀ names, after.contentAt? names = tree.contentAt? names := by
  intro tree
  have hlog : (Log.Filter.ofSetting? (some "debug")).isSome := by decide +kernel
  have hargs : ∀ out ∈ ["x/y", "b/y"], readArguments ["a.json", "-o" ++ out] =
      .ok (.generate { input? := some "a.json", out? := some out }) := by decide +kernel
  have hsample : ∀ out ∈ ["x/y", "b/y"], Options.sample
      { input? := some "a.json", out? := some out } [] tree = .ok "[]" := by decide +kernel
  have houtcome : ∀ out ∈ ["x/y", "b/y"], (Options.delivery
      { input? := some "a.json", out? := some out } "[]").2 = .ok () := by decide +kernel
  constructor
  · obtain ⟨-, hrun, -⟩ := run_agrees_with_delivery (hargs "x/y" (by simp)) hlog [] tree
    obtain ⟨code, after, hresult, ⟨rfl, hreplaces, hread⟩ | ⟨rfl, -⟩⟩ :=
      (hrun "[]" (hsample "x/y" (by simp))).2.2.2 (houtcome "x/y" (by simp)) "x/y" rfl
    · exact ⟨after, _, hresult, hreplaces, hread⟩
    · have hcode : (effects (run ["a.json", "-ox/y"] (some "debug") [] tree)).1 = 0 := by
        decide +kernel
      rw [show "-ox/y" = "-o" ++ "x/y" from rfl, hresult] at hcode
      cases hcode
  · obtain ⟨-, hrun, -⟩ := run_agrees_with_delivery (hargs "b/y" (by simp)) hlog [] tree
    obtain ⟨code, after, hresult, ⟨rfl, -⟩ | ⟨rfl, -, hsame⟩⟩ :=
      (hrun "[]" (hsample "b/y" (by simp))).2.2.2 (houtcome "b/y" (by simp)) "b/y" rfl
    · have hcode : (effects (run ["a.json", "-ob/y"] (some "debug") [] tree)).1 = 1 := by
        decide +kernel
      rw [show "-ob/y" = "-o" ++ "b/y" from rfl, hresult] at hcode
      cases hcode
    · exact ⟨after, hresult, hsame⟩

/-- A setting of the log that would cut a character apart breaks the run off, with arguments that
are fine without it. -/
theorem broken_log_setting_ends_run :
    readArguments ["--inspect-arrays"] = .ok (.generate { inspectArrays := true }) ∧
      (effects (run ["--inspect-arrays"] none (.ofText "[]") .empty)).1 = 0 ∧
      effects (run ["--inspect-arrays"] (some " é=trace") (.ofText "[]") .empty) =
        (101, [], .empty) := by
  decide +kernel

end SampleModels.CommandLine
