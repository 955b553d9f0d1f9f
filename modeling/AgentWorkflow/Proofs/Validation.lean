import AgentWorkflow.Cli.Execution
import AgentWorkflow.Proofs.Accounting
import AgentWorkflow.Proofs.Ranking

/-!
# What validation passes

Validation looks for faults of three kinds: those of the build, a circle that prevents a
layout, and what a round trip loses. It prints all of them (`Cli.reported`). How it ends is
decided again, and not by what was printed: it counts the faults of the build and asks, if it
is told to be strict, for the round trip. The circle is printed and then not counted.

A circle is a structural fault like those of the build (`Error.isStructural`), and a command
that lays out the same file fails because of it. So a definition can be passed that is not
sound (`Cli.Sound`): validation prints the circle, prints `OK` below it and ends well. This
module says that it errs in no other way. Every fault of the build is structural
(`Graph.structural_of_mem_diagnostics`), nothing that a round trip loses is
(`Graph.not_structural_of_roundTrip`), and what the layout reports is a circle that is there
(`Graph.faultOf_layout_eq_nil_iff`). What is sound is passed, what is refused is unsound, and of
what is passed exactly the graphs with a circle are not sound
(`Cli.validation_overlooks_only_circles`).
-/

namespace AgentWorkflow

/-! ## Faults by their kind -/

namespace Graph

open Cli (faultOf)

/-- **The faults of a build** are structural, and each can be shown at a node. -/
theorem structural_of_mem_diagnostics {registry : Registry} {definition : Definition} {e : Error}
    (reported : e ∈ (build registry definition).diagnostics) :
    e.isStructural = true ∧ e.nodeId?.isSome = true := by
  rw [diagnostics_build, (wireAll_firstPass registry definition _).2, List.mem_append] at reported
  obtain refused | dangling := reported
  · obtain ⟨v, judged, wrong⟩ := List.mem_filterMap.mp refused
    obtain ⟨i, there, rfl⟩ := List.mem_mapIdx.mp judged
    unfold NodeDescriptor.fault? at wrong
    dsimp only at wrong
    split at wrong
    · obtain rfl := Option.some.inj wrong
      exact ⟨rfl, rfl⟩
    · split at wrong
      · cases wrong
      · obtain rfl := Option.some.inj wrong
        exact ⟨rfl, rfl⟩
  · obtain ⟨edge, -, missing⟩ := List.mem_filterMap.mp dangling
    obtain ⟨reason, -, rfl⟩ := Option.map_eq_some_iff.mp missing
    exact ⟨rfl, rfl⟩

/-- **What a round trip loses** is no structural fault. -/
theorem not_structural_of_roundTrip {g : Graph} {registry : Registry} {e : Error}
    (lost : e ∈ faultOf (g.verifyRoundTrip registry)) : e.isStructural = false := by
  unfold verifyRoundTrip at lost
  split at lost
  · cases lost
  · rw [List.mem_singleton.mp lost]
    rfl

/-- **What the layout reports** is a circle. -/
theorem exists_circle_of_mem_layout {g : Graph} {config : LayoutConfig} {e : Error}
    (found : e ∈ faultOf (g.layout config)) : ∃ circle, e = .cycleDetected circle := by
  obtain ⟨rank, -, laid⟩ | ⟨circle, -, met⟩ := g.layout_cases config
  · rw [laid] at found
    cases found
  · rw [met] at found
    exact ⟨circle, List.mem_singleton.mp found⟩

theorem faultOf_layout_eq_nil_iff (g : Graph) (config : LayoutConfig) :
    faultOf (g.layout config) = [] ↔ ¬∃ id, Relation.TransGen g.Reads id id := by
  obtain ⟨rank, ranking, laid⟩ | ⟨circle, isCircle, met⟩ := g.layout_cases config
  · rw [laid]
    exact iff_of_true rfl ranking.not_transGen
  · rw [met]
    exact iff_of_false (List.cons_ne_nil _ _) (not_not_intro isCircle.transGen)

end Graph

namespace Cli

variable {σ : Type} {surroundings : Surroundings} {link : Http.Link σ} {polls : Nat}
  {config : AppConfig} {file : String} {strict : Bool} {s : σ} {report : Graph.Report}

/-! ## Reports and verdicts -/

/-- **What validation reports**: the faults of the build, the circle that prevents a layout,
and what a round trip loses. -/
def reported (config : AppConfig) (report : Graph.Report) : List Error :=
  report.diagnostics ++ faultOf (report.graph.layout config.layout)
    ++ faultOf (report.graph.verifyRoundTrip (Registry.ofConfig config))

/-- The lines in which it does. -/
def reportLines (config : AppConfig) (file : String) (report : Graph.Report) : List String :=
  (file ++ ": " ++ toString report.graph.nodes.length ++ " nodes, "
      ++ toString report.graph.edges.length ++ " edges")
    :: (reported config report).map fun e => "  " ++ e.message

/-- The round trip holds if that was asked for. -/
def ComesBack (config : AppConfig) (report : Graph.Report) (strict : Bool) : Prop :=
  strict = true → report.graph.verifyRoundTrip (Registry.ofConfig config) = .ok ()

/-- **A definition is sound** if no structural fault is reported and the round trip holds,
should that be asked for. -/
def Sound (config : AppConfig) (report : Graph.Report) (strict : Bool) : Prop :=
  (∀ e ∈ reported config report, e.isStructural = false) ∧ ComesBack config report strict

/-- **A command passes what it was given** if its last line says so and it ends well. -/
def Outcome.Passes (o : Outcome) : Prop :=
  o.exitCode = 0 ∧ ∃ lines, o.output = Outcome.text (lines ++ ["OK"])

/-- A command that fails passes nothing, whatever it says. -/
theorem not_passes_fail (f : Failure) (lines : List String) : ¬(Outcome.fail f lines).Passes :=
  fun ⟨ends, _⟩ => nomatch (ends : 1 = 0)

/-- **How validation ends** is up to the faults of the build and to the round trip. -/
theorem validate_cases (config : AppConfig) (file : String) (report : Graph.Report)
    (strict : Bool) :
    ((report.diagnostics = [] ∧ ComesBack config report strict)
        ∧ validate config file report strict = .say (reportLines config file report ++ ["OK"]))
      ∨ (¬(report.diagnostics = [] ∧ ComesBack config report strict)
        ∧ ∃ f, validate config file report strict
          = .fail f (reportLines config file report)) := by
  have counted : report.isClean = true ↔ report.diagnostics = [] := List.isEmpty_iff
  unfold validate ComesBack
  dsimp only
  split
  · next dirty =>
    have faulty : report.diagnostics ≠ [] := fun none => by simp [counted.mpr none] at dirty
    exact Or.inr ⟨fun sound => faulty sound.1, _, rfl⟩
  · next clean =>
    have none : report.diagnostics = [] := counted.mp (by simpa using clean)
    split
    · next e lost =>
      refine Or.inr ⟨fun sound => ?_, _, rfl⟩
      cases lost.symm.trans (sound.2 rfl)
    · next lenient =>
      refine Or.inl ⟨⟨none, fun asked => ?_⟩, rfl⟩
      cases back : report.graph.verifyRoundTrip (Registry.ofConfig config) with
      | ok => rfl
      | error e => exact absurd back (lenient e asked)

/-- **Validation passes** what is built without faults and comes back. -/
theorem passes_validate_iff (config : AppConfig) (file : String) (report : Graph.Report)
    (strict : Bool) :
    (validate config file report strict).Passes
      ↔ report.diagnostics = [] ∧ ComesBack config report strict := by
  obtain ⟨clean, said⟩ | ⟨unclean, f, failed⟩ := validate_cases config file report strict
  · rw [said]
    exact iff_of_true ⟨rfl, _, rfl⟩ clean
  · rw [failed]
    exact iff_of_false (not_passes_fail f _) unclean

theorem of_buildFile_eq_ok {registry : Registry}
    (loaded : buildFile surroundings registry file = .ok report) :
    ∃ definition, report = Graph.build registry definition := by
  unfold buildFile at loaded
  split at loaded
  · cases loaded
  · split at loaded
    · next definition _ => exact ⟨definition, (Except.ok.inj loaded).symm⟩
    · cases loaded

/-- **What structural faults are reported**: all of the build, and the circle. -/
theorem mem_reported_and_structural (config : AppConfig) {registry : Registry}
    {definition : Definition} (built : report = Graph.build registry definition) {e : Error} :
    e ∈ reported config report ∧ e.isStructural = true
      ↔ e ∈ report.diagnostics ∨ e ∈ faultOf (report.graph.layout config.layout) := by
  unfold reported
  rw [List.mem_append, List.mem_append]
  constructor
  · rintro ⟨structural | lost, kind⟩
    · exact structural
    · cases kind.symm.trans (Graph.not_structural_of_roundTrip lost)
  · rintro (faulty | circular)
    · exact ⟨Or.inl (Or.inl faulty), (Graph.structural_of_mem_diagnostics (built ▸ faulty)).1⟩
    · obtain ⟨circle, rfl⟩ := Graph.exists_circle_of_mem_layout circular
      exact ⟨Or.inl (Or.inr circular), rfl⟩

/-- **A definition is sound** if it is built without faults, has no circle and comes back. -/
theorem sound_iff {registry : Registry} {definition : Definition}
    (built : report = Graph.build registry definition) :
    Sound config report strict ↔ (report.diagnostics = [] ∧ ComesBack config report strict)
      ∧ ¬∃ id, Relation.TransGen report.graph.Reads id id := by
  have faultless : (∀ e ∈ reported config report, e.isStructural = false)
      ↔ report.diagnostics = [] ∧ faultOf (report.graph.layout config.layout) = [] := by
    rw [List.eq_nil_iff_forall_not_mem, List.eq_nil_iff_forall_not_mem, ← forall_and]
    refine forall_congr' fun e => ?_
    rw [← not_or, ← mem_reported_and_structural config built, not_and, Bool.not_eq_true]
  unfold Sound
  rw [faultless, Graph.faultOf_layout_eq_nil_iff, and_right_comm]

/-- **The faults of the build are the structural ones that are no circles.** -/
theorem diagnostics_eq_nil_iff (config : AppConfig) {registry : Registry}
    {definition : Definition} (built : report = Graph.build registry definition) :
    report.diagnostics = [] ↔ ∀ e ∈ reported config report, e.isStructural = true →
      ∃ circle, e = .cycleDetected circle := by
  constructor
  · intro none e there structural
    obtain faulty | circular :=
      (mem_reported_and_structural config built).mp ⟨there, structural⟩
    · rw [none] at faulty
      cases faulty
    · exact Graph.exists_circle_of_mem_layout circular
  · intro circles
    refine List.eq_nil_iff_forall_not_mem.mpr fun e faulty => ?_
    obtain ⟨there, structural⟩ :=
      (mem_reported_and_structural config built).mpr (Or.inl faulty)
    obtain ⟨circle, rfl⟩ := circles e there structural
    -- a circle is not shown at any node
    cases (Graph.structural_of_mem_diagnostics (built ▸ faulty)).2

/-- **A layout is refused for a circle**, by the command that shows it. -/
theorem exitCode_layout_eq_zero_iff (config : AppConfig) (report : Graph.Report) (asJson : Bool) :
    (layout config report asJson).exitCode = 0
      ↔ ¬∃ id, Relation.TransGen report.graph.Reads id id := by
  rw [← Graph.faultOf_layout_eq_nil_iff report.graph config.layout]
  unfold layout
  cases report.graph.layout config.layout with
  | ok l =>
    refine iff_of_true ?_ rfl
    cases asJson <;> rfl
  | error e => exact iff_of_false nofun (List.cons_ne_nil _ _)

/-- A command on a file that loads is the command on its graph. -/
theorem onFile_of_loaded
    (loaded : buildFile surroundings (Registry.ofConfig config) file = .ok report)
    (command : Graph.Report → Outcome) :
    onFile surroundings config file command = command report := by
  unfold onFile
  rw [loaded]

/-- **A definition with a circle is passed**, if nothing else is wrong with it. The circle is
reported, and the command that lays out the same file refuses it. -/
theorem passes_of_circle
    (loaded : buildFile surroundings (Registry.ofConfig config) file = .ok report)
    (clean : report.diagnostics = []) (back : ComesBack config report strict)
    (circular : ∃ id, Relation.TransGen report.graph.Reads id id) :
    let run := fun command => (perform surroundings link polls config command s).1
    (∃ circle, Error.cycleDetected circle ∈ reported config report)
      ∧ (∀ asJson, (run (.layout file asJson)).exitCode ≠ 0)
      ∧ (run (.validate file strict)).Passes ∧ ¬Sound config report strict := by
  obtain ⟨definition, built⟩ := of_buildFile_eq_ok loaded
  refine ⟨?_, fun asJson => ?_, ?_, fun sound => ((sound_iff built).mp sound).2 circular⟩
  · have faulty : faultOf (report.graph.layout config.layout) ≠ [] := fun none =>
      (Graph.faultOf_layout_eq_nil_iff _ _).mp none circular
    obtain ⟨e, there⟩ := List.exists_mem_of_ne_nil _ faulty
    obtain ⟨circle, rfl⟩ := Graph.exists_circle_of_mem_layout there
    exact ⟨circle, ((mem_reported_and_structural config built).mpr (Or.inr there)).1⟩
  · show (onFile surroundings config file (layout config · asJson)).exitCode ≠ 0
    rw [onFile_of_loaded loaded]
    exact fun laid => (exitCode_layout_eq_zero_iff config report asJson).mp laid circular
  · show (onFile surroundings config file (validate config file · strict)).Passes
    rw [onFile_of_loaded loaded]
    exact (passes_validate_iff config file report strict).mpr ⟨clean, back⟩

/-- **Validation overlooks circles and nothing else.** Whatever file is loaded, it lists all
that it finds, and then either says `OK` and ends well or fails. It passes the file if every
structural fault among these is a circle and the round trip holds, should that be asked for.
So it passes all that is sound, and what it passes is sound unless nodes read each other in a
circle. -/
theorem validation_overlooks_only_circles
    (loaded : buildFile surroundings (Registry.ofConfig config) file = .ok report) :
    let o := (perform surroundings link polls config (.validate file strict) s).1
    let lines := reportLines config file report
    ((o.exitCode = 0 ∧ o.output = Outcome.text (lines ++ ["OK"]))
        ∨ (o.exitCode = 1 ∧ o.output = Outcome.text lines))
      ∧ (o.Passes ↔ (∀ e ∈ reported config report, e.isStructural = true →
          ∃ circle, e = .cycleDetected circle) ∧ ComesBack config report strict)
      ∧ (Sound config report strict → o.Passes)
      ∧ (o.Passes → (Sound config report strict
          ↔ ¬∃ id, Relation.TransGen report.graph.Reads id id)) := by
  obtain ⟨definition, built⟩ := of_buildFile_eq_ok loaded
  have ran : (perform surroundings link polls config (.validate file strict) s).1
      = validate config file report strict := onFile_of_loaded loaded _
  dsimp only
  rw [ran, ← diagnostics_eq_nil_iff config built, sound_iff built, passes_validate_iff]
  refine ⟨?_, Iff.rfl, And.left, fun clean => and_iff_right clean⟩
  obtain ⟨-, said⟩ | ⟨-, f, failed⟩ := validate_cases config file report strict
  · rw [said]
    exact Or.inl ⟨rfl, rfl⟩
  · rw [failed]
    exact Or.inr ⟨rfl, rfl⟩

/-! ## A node that reads itself -/

/-- A machine with one file, in which a node reads its own output. -/
def withLoop : Surroundings where
  env _ := none
  has path := path == "loop.yaml"
  text? path :=
    if path = "loop.yaml" then
      some ("nodes:\n- id: m\n  type: MergeNode\n  inputs:\n  - name: in1\n"
        ++ "    connection:\n      from_node: m\n      from_output: merged_output\n")
    else none

/-- What is built from the file with a loop. -/
def loopReport : Graph.Report :=
  (buildFile withLoop (Registry.ofConfig {}) "loop.yaml").toOption.getD ⟨{}, []⟩

/-- The file is built without faults, into the node with its edge. -/
theorem loopReport_spec :
    (buildFile withLoop (Registry.ofConfig {}) "loop.yaml").isOk = true
      ∧ loopReport.diagnostics = []
      ∧ loopReport.graph.edges = [⟨"m", "merged_output", "m", "in1"⟩]
      ∧ loopReport.graph.contains "m" = true
      ∧ (loopReport.graph.verifyRoundTrip (Registry.ofConfig {})).isOk = true := by
  decide +kernel

theorem buildFile_withLoop :
    buildFile withLoop (Registry.ofConfig {}) "loop.yaml" = .ok loopReport := by
  have loads := loopReport_spec.1
  unfold loopReport
  cases h : buildFile withLoop (Registry.ofConfig {}) "loop.yaml" with
  | ok report => rfl
  | error f =>
    rw [h] at loads
    cases loads

theorem transGen_loopReport : ∃ id, Relation.TransGen loopReport.graph.Reads id id := by
  obtain ⟨-, -, edges, known, -⟩ := loopReport_spec
  refine ⟨"m", .single ⟨⟨⟨"m", "merged_output", "m", "in1"⟩, ?_, rfl, rfl⟩, known⟩⟩
  rw [edges]
  exact List.mem_singleton_self _

theorem comesBack_loopReport (strict : Bool) : ComesBack {} loopReport strict := by
  intro _
  have back := loopReport_spec.2.2.2.2
  cases h : loopReport.graph.verifyRoundTrip (Registry.ofConfig {}) with
  | ok => rfl
  | error e =>
    rw [h] at back
    cases back

/-- Even strict validation passes it, and it is not sound. -/
theorem validation_overlooks_only_circles_of_loop :
    let o := (perform withLoop (fun _ s => (.lost, s)) 0 {} (.validate "loop.yaml" true) ()).1
    buildFile withLoop (Registry.ofConfig {}) "loop.yaml" = .ok loopReport
      ∧ o.Passes ∧ ¬Sound {} loopReport true := by
  obtain ⟨-, passes, -, sound⟩ := @validation_overlooks_only_circles Unit withLoop
    (fun _ s => (.lost, s)) 0 {} "loop.yaml" true () loopReport buildFile_withLoop
  obtain ⟨definition, built⟩ := of_buildFile_eq_ok buildFile_withLoop
  have passed := passes.mpr
    ⟨(diagnostics_eq_nil_iff {} built).mp loopReport_spec.2.1, comesBack_loopReport true⟩
  exact ⟨buildFile_withLoop, passed, fun s => (sound passed).mp s transGen_loopReport⟩

/-- The circle is reported, it is a structural fault, and the command that lays out the same
file refuses it. Validation says `OK`. -/
theorem circle_passes_validation :
    let run := fun command => (perform withLoop (fun _ s => (.lost, s)) 0 {} command ()).1
    (∃ circle, Error.cycleDetected circle ∈ reported {} loopReport)
      ∧ (run (.layout "loop.yaml" false)).exitCode ≠ 0
      ∧ ¬((run (.validate "loop.yaml" false)).Passes ↔ Sound {} loopReport false) := by
  obtain ⟨reported, refused, passed, unsound⟩ :=
    @passes_of_circle Unit withLoop (fun _ s => (.lost, s)) 0 {} "loop.yaml" false () loopReport
      buildFile_withLoop loopReport_spec.2.1 (comesBack_loopReport false) transGen_loopReport
  exact ⟨reported, refused false, fun same => unsound (same.mp passed)⟩

end Cli

end AgentWorkflow
