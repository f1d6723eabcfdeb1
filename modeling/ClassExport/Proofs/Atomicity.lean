import ClassExport.Commands
import ClassExport.Proofs.Repetition
import ClassExport.Proofs.Spellings

/-! Commands that end with an error, and what they leave. -/
namespace ClassExport

open Session

variable {env : Environment} {config : Option Path} {o : GenerateOptions} {w w' : Workspace}
  {c : Configuration} {failure : Failure} {sources : List ClassSource} {fields force : Bool}

/-- Whether a command can change files: all but a list of classes and a dry run. -/
def Command.writes : Command → Bool
  | .generate o => !o.dryRun
  | .init _ => true
  | .info _ => false

/-! Before a class is looked at nothing is changed. -/

theorem ConfigurationFile.still_load (env : Environment) (p : Path) :
    Still _ (load (m := Session) env p).run :=
  fun w => congrArg Prod.snd (run_load_eq env p w)

theorem ConfigurationFile.still_loadNearest (env : Environment) :
    Still _ (loadNearest (m := Session) env).run := by
  have hhere : Still _ (Disk.workingFolder (m := Session)) := fun _ => rfl
  have hfind : ∀ start, Still _ (find (m := Session) start).run := by
    intro start
    have hnearest : Still _ (nearest? (m := Session) configFileName start) :=
      still_asks.findM? fun p _ => still_asks.isFile trivial
    refine still_asks.except_bind (still_asks.except_lift hnearest) fun found => ?_
    cases found with
    | some path => exact still_asks.pure _
    | none => exact still_asks.pure _
  exact still_asks.except_bind (still_asks.except_lift hhere) fun start =>
    still_asks.except_bind (hfind start) fun path => still_load env path

theorem Setup.still_classSources (c : Configuration) :
    Still _ (classSources (m := Session) c).run :=
  still_asks.classSources trivial fun _ _ => trivial

namespace Generation

theorem still_generate (resolve : String → Except Failure Class) (settings : EmitSettings)
    (names : List String) :
    Still _ (generate (m := Session) resolve settings true names) :=
  still_asks.generate (fun _ _ _ => trivial) (fun h => Bool.noConfusion h) names

theorem map_fst_generate {resolve : String → Except Failure Class}
    {settings : EmitSettings} {dryRun : Bool} (names : List String) (w : Workspace) :
    ((generate (m := Session) resolve settings dryRun names).run w).1.1.entries.map Prod.fst =
      names :=
  map_fst_generateEach dryRun names w

end Generation

namespace Commands

theorem still_loadConfiguration (env : Environment) (config : Option Path) :
    Still _ (loadConfiguration (m := Session) env config).run := by
  cases config with
  | some path => exact ConfigurationFile.still_load env path
  | none => exact ConfigurationFile.still_loadNearest env

/-- The configuration that a generate command works with. -/
def effective (c : Configuration) (o : GenerateOptions) (w : Workspace) : Configuration :=
  c.overridden o (FileTree.pathOf w.folder)

/-- The ways in which a generate command fails before it comes to its classes. -/
inductive SetupFails (env : Environment) (config : Option Path)
    (o : GenerateOptions) (w : Workspace) :
    Failure → Prop where
  | load {failure : Failure}
      (hl : (loadConfiguration (m := Session) env config).run.run w = (.error failure, w)) :
      SetupFails env config o w failure
  | sources {c : Configuration} {failure : Failure}
      (hl : (loadConfiguration (m := Session) env config).run.run w = (.ok c, w))
      (hc : (effective c o w).classes ≠ [])
        (hs : (Setup.classSources (m := Session) (effective c o w)).run.run w =
          (.error failure, w)) :
      SetupFails env config o w failure

/-- How a generate command ends. -/
inductive Generates (env : Environment) (config : Option Path)
    (o : GenerateOptions) (w : Workspace) :
    Except Failure Printed × Workspace → Prop where
  | failed {failure : Failure} (hf : SetupFails env config o w failure) :
      Generates env config o w (.error failure, w)
  | idle {c : Configuration}
      (hl : (loadConfiguration (m := Session) env config).run.run w = (.ok c, w))
      (hc : (effective c o w).classes = []) : Generates env config o w (.ok ("", []), w)
  | reported {c : Configuration} {sources : List ClassSource} {report : Report}
      {events : List Event} {w' : Workspace}
      (hl : (loadConfiguration (m := Session) env config).run.run w = (.ok c, w))
      (hc : (effective c o w).classes ≠ [])
      (hs : (Setup.classSources (m := Session) (effective c o w)).run.run w = (.ok sources, w))
      (hg : (Generation.generate (m := Session) (ClassSource.chain sources).resolve
        (effective c o w).emitSettings o.dryRun (effective c o w).classes).run w =
          ((report, events), w')) :
      Generates env config o w (.ok (report.summary, events), w')

theorem run_generate_of_load_error
    (hl : (loadConfiguration (m := Session) env config).run.run w = (.error failure, w)) :
    (generate (m := Session) env config o).run.run w = (.error failure, w) := by
  rw [generate, run_except_bind, hl]

theorem run_generate_of_load
    (hl : (loadConfiguration (m := Session) env config).run.run w = (.ok c, w)) :
    (generate (m := Session) env config o).run.run w =
      if (effective c o w).classes.isEmpty then (.ok ("", []), w)
      else (do
        let (report, events) ←
          Generation.generateConfigured (m := Session) (effective c o w) o.dryRun
        return (report.summary, events) : ExceptT Failure Session Printed).run.run w := by
  rw [generate, run_except_bind, hl]
  dsimp only
  rw [run_except_bind, run_lift]
  change (ite ((effective c o w).classes.isEmpty = true) _ _ : ExceptT Failure Session
    Printed).run.run w = _
  split <;> rfl

theorem generates_generate :
    Generates env config o w ((generate (m := Session) env config o).run.run w) := by
  rcases hl : (loadConfiguration (m := Session) env config).run.run w with ⟨failure | c, v⟩
  · obtain rfl := Still.eq (still_loadConfiguration env config) hl
    rw [run_generate_of_load_error hl]
    exact .failed (.load hl)
  · -- reading leaves the tree as it is, so every later step begins with the same one
    obtain rfl := Still.eq (still_loadConfiguration env config) hl
    rw [run_generate_of_load hl]
    by_cases hc : (effective c o v).classes = []
    · rw [hc]
      exact .idle hl hc
    · rw [if_neg (by rwa [List.isEmpty_iff]), run_except_bind,
        Generation.generateConfigured, run_except_bind]
      rcases hs : (Setup.classSources (m := Session) (effective c o v)).run.run v
        with ⟨failure | sources, u⟩
      · obtain rfl := Still.eq (Setup.still_classSources _) hs
        exact .failed (.sources hl hc hs)
      · obtain rfl := Still.eq (Setup.still_classSources _) hs
        exact .reported hl hc hs rfl

/-- A generate command fails in its setup or not at all. -/
theorem run_generate_eq_error_iff :
    ((generate (m := Session) env config o).run.run w).1 = .error failure ↔
      SetupFails env config o w failure := by
  constructor
  · intro h
    have hg := @generates_generate env config o w
    generalize (generate (m := Session) env config o).run.run w = result at h hg
    cases hg with
    | failed hf => exact Except.error.inj h ▸ hf
    | idle => cases h
    | reported => cases h
  · intro hf
    cases hf with
    | load hl => rw [run_generate_of_load_error hl]
    | sources hl hc hs =>
      rw [run_generate_of_load hl, if_neg (by rwa [List.isEmpty_iff]), run_except_bind,
        Generation.generateConfigured, run_except_bind, hs]

/-- Once the classes can be looked up each class that was asked for has its entry, and the command
ends well. -/
theorem run_generate_of_sources
    (hl : (loadConfiguration (m := Session) env config).run.run w = (.ok c, w))
    (hc : (effective c o w).classes ≠ [])
    (hs : (Setup.classSources (m := Session) (effective c o w)).run.run w = (.ok sources, w)) :
    ∃ report events, report.entries.map Prod.fst = (effective c o w).classes ∧
      ((Generation.generate (m := Session) (ClassSource.chain sources).resolve
        (effective c o w).emitSettings o.dryRun (effective c o w).classes).run w).1 =
          (report, events) ∧
      ((generate (m := Session) env config o).run.run w).1 = .ok (report.summary, events) := by
  refine ⟨_, _, @Generation.map_fst_generate _ _ o.dryRun (effective c o w).classes w, rfl, ?_⟩
  rw [run_generate_of_load hl, if_neg (by rwa [List.isEmpty_iff]), run_except_bind,
    Generation.generateConfigured, run_except_bind, hs]
  rfl

/-! The commands one by one. -/

theorem run_generate_error
    (h : ((generate (m := Session) env config o).run.run w).1 = .error failure) :
    ((generate (m := Session) env config o).run.run w).2 = w := by
  have hg := @generates_generate env config o w
  generalize (generate (m := Session) env config o).run.run w = result at h hg
  cases hg with
  | failed => rfl
  | idle => rfl
  | reported => cases h

theorem run_generate_dry (ho : o.dryRun = true) :
    ((generate (m := Session) env config o).run.run w).2 = w := by
  have hg := @generates_generate env config o w
  generalize (generate (m := Session) env config o).run.run w = result at hg
  cases hg with
  | failed => rfl
  | idle => rfl
  | reported hl hc hs hr =>
    rw [ho] at hr
    exact Still.eq (Generation.still_generate _ _ _) hr

theorem still_info : Still _ (info (m := Session) env config fields).run :=
  still_asks.except_bind (still_loadConfiguration env config) fun c =>
    still_asks.except_bind (Setup.still_classSources c) fun _ => still_asks.pure _

/-- A starter file that is there and not to be replaced is an error before the write, and a write
that fails leaves the tree as it was. -/
theorem run_init (force : Bool) (w : Workspace) :
    (init (m := Session) force).run.run w =
      if !force &&
        ((w.tree.locate w.folder (Path.joinName ⟨"."⟩ configFileName)).toOption.map
          (·.2.kind)).isSome then
        (.error (.config (configFileName ++ " already exists. Use --force to overwrite.")), w)
      else match w.tree.writeFile w.folder (Path.joinName ⟨"."⟩ configFileName)
        Configuration.starter with
        | .ok tree => (.ok ("", []), { w with tree })
        | .error fault => (.error (.io fault), w) := by
  have hexists : (Disk.exists? (Path.joinName ⟨"."⟩ configFileName) : Session _).run w =
      (((w.tree.locate w.folder (Path.joinName ⟨"."⟩ configFileName)).toOption.map
        (·.2.kind)).isSome, w) := rfl
  rw [init, run_except_bind, run_lift, hexists]
  dsimp only
  split
  · rfl
  · rw [run_except_bind, run_lift, run_writeFile]
    cases w.tree.writeFile w.folder (Path.joinName ⟨"."⟩ configFileName)
      Configuration.starter <;> rfl

theorem run_init_error (h : ((init (m := Session) force).run.run w).1 = .error failure) :
    ((init (m := Session) force).run.run w).2 = w := by
  rw [run_init] at h ⊢
  split at h
  · rename_i hthere
    rw [if_pos hthere]
  · rename_i hthere
    rw [if_neg hthere]
    split at h
    · cases h
    · rfl

/-- A command that ends with an error leaves all files as they are, and so do all that list classes
and all dry runs. The export of classes fails when its configuration or the sources of its classes
cannot be read and in no other way; if they can be, it has an entry for every class that was asked
for, however many of them fail. -/
theorem run_atomic (env : Environment) (i : Invocation) (w : Workspace) :
    (∀ failure, ((run (m := Session) env i).run.run w).1 = .error failure →
      ((run (m := Session) env i).run.run w).2 = w) ∧
    (i.command.writes = false → ((run (m := Session) env i).run.run w).2 = w) ∧
    ∀ o, i.command = .generate o →
      (∀ failure, ((run (m := Session) env i).run.run w).1 = .error failure ↔
        SetupFails env i.config o w failure) ∧
      ∀ c sources, (loadConfiguration (m := Session) env i.config).run.run w = (.ok c, w) →
        (effective c o w).classes ≠ [] →
        (Setup.classSources (m := Session) (effective c o w)).run.run w = (.ok sources, w) →
        ∃ report events, report.entries.map Prod.fst = (effective c o w).classes ∧
          ((Generation.generate (m := Session) (ClassSource.chain sources).resolve
            (effective c o w).emitSettings o.dryRun (effective c o w).classes).run w).1 =
              (report, events) ∧
          ((run (m := Session) env i).run.run w).1 = .ok (report.summary, events) := by
  obtain ⟨config, verbosity, quiet, command⟩ := i
  cases command with
  | generate o =>
    refine ⟨fun failure h => run_generate_error h, fun hw =>
      run_generate_dry (by simpa [Command.writes] using hw), ?_⟩
    rintro _ ⟨⟩
    exact ⟨fun failure => run_generate_eq_error_iff, fun c sources hl hc hs =>
      run_generate_of_sources hl hc hs⟩
  | init force =>
    refine ⟨fun failure h => run_init_error h, fun hw => Bool.noConfusion hw, ?_⟩
    rintro _ ⟨⟩
  | info fields =>
    refine ⟨fun failure _ => still_info w, fun _ => still_info w, ?_⟩
    rintro _ ⟨⟩

/-- A working folder with a configuration file, which names no source of classes. -/
def blankSettings : Workspace :=
  ⟨FileTree.empty.set ["dto2ts.toml"] (.file "[source]\ndescriptors = \"\"".toUTF8), []⟩

theorem run_load_blankSettings :
    (loadConfiguration (m := Session) ⟨[]⟩ (some ⟨"dto2ts.toml"⟩)).run.run blankSettings =
      (.ok { descriptors := some "", baseFolder := ⟨""⟩ }, blankSettings) := by
  have hgiven : outcome? (loadConfiguration ⟨[]⟩ (some ⟨"dto2ts.toml"⟩)) blankSettings =
      some { descriptors := some "", baseFolder := ⟨""⟩ } := by
    decide +kernel
  have hstill := still_loadConfiguration ⟨[]⟩ (some ⟨"dto2ts.toml"⟩) blankSettings
  rw [outcome?] at hgiven
  rcases hr : (loadConfiguration (m := Session) ⟨[]⟩ (some ⟨"dto2ts.toml"⟩)).run.run blankSettings
    with ⟨failure | c, v⟩
  · rw [hr] at hgiven
    cases hgiven
  · rw [hr] at hgiven hstill
    obtain rfl : v = blankSettings := hstill
    rw [Option.some.inj hgiven]

/-- The starter file is there, classes are listed from no source, and a class is exported that there
is none of. -/
theorem run_atomic_of_blankSettings :
    (((run (m := Session) ⟨[]⟩ ⟨none, 0, false, .init false⟩).run.run blankSettings).1 =
        .error (.config "dto2ts.toml already exists. Use --force to overwrite.") ∧
      ((run (m := Session) ⟨[]⟩ ⟨none, 0, false, .init false⟩).run.run blankSettings).2 =
        blankSettings) ∧
    (Command.writes (.info true) = false ∧
      ((run (m := Session) ⟨[]⟩ ⟨none, 0, false, .info true⟩).run.run blankSettings).2 =
        blankSettings) ∧
    ∃ (report : Report) (events : List Event), report.entries.map Prod.fst = ["A"] ∧
      report.entries = [("A", .failed (.classNotFound "A"))] ∧
      ((run (m := Session) ⟨[]⟩ ⟨some ⟨"dto2ts.toml"⟩, 0, false,
        .generate { classes := ["A"] }⟩).run.run blankSettings).1 =
          .ok (report.summary, events) := by
  have hinit :
    ((run (m := Session) ⟨[]⟩ ⟨none, 0, false, .init false⟩).run.run blankSettings).1 =
      .error (.config "dto2ts.toml already exists. Use --force to overwrite.") := rfl
  have hasked : (effective { descriptors := some "", baseFolder := ⟨""⟩ } { classes := ["A"] }
      blankSettings).classes ≠ [] := List.cons_ne_nil _ _
  have hsources : (Setup.classSources (m := Session)
      (effective { descriptors := some "", baseFolder := ⟨""⟩ } { classes := ["A"] }
        blankSettings)).run.run blankSettings = (.ok [], blankSettings) := rfl
  obtain ⟨report, events, hnames, hreport, hrun⟩ :=
    ((run_atomic ⟨[]⟩ ⟨some ⟨"dto2ts.toml"⟩, 0, false, .generate { classes := ["A"] }⟩
      blankSettings).2.2 _ rfl).2 _ _ run_load_blankSettings hasked hsources
  have hentries : report.entries = [("A", .failed (.classNotFound "A"))] := by
    have he := congrArg (fun result => result.1.entries) hreport
    exact he.symm.trans rfl
  exact ⟨⟨hinit, (run_atomic _ _ _).1 _ hinit⟩, ⟨rfl, (run_atomic _ _ _).2.1 rfl⟩, report,
    events, hnames, hentries, hrun⟩

end Commands
end ClassExport
