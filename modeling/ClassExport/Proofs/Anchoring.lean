import ClassExport.Proofs.Locations
import ClassExport.Proofs.Sources

/-!
Runs that are the same from all working folders: those through absolute paths, and the export of a
project.
-/
namespace ClassExport

open FileTree Disk

variable {t : FileTree} {p q : Path} {root here here' : Location} {env : Environment}
  {config assignments : ByteArray} {c : Configuration}

namespace Path

theorem isAbsolute_append {a : String} (h : isAbsolute ⟨a⟩ = true) (b : String) :
    isAbsolute ⟨a ++ b⟩ = true := by
  rw [isAbsolute, beq_iff_eq] at h ⊢
  rw [String.toList_append, List.head?_append, h]
  rfl

theorem isAbsolute_join (h : p.isAbsolute = true) (q : Path) : (p.join q).isAbsolute = true := by
  rw [join]
  split
  · assumption
  · split
    · exact isAbsolute_append h _
    · exact isAbsolute_append (isAbsolute_append h _) _

theorem isAbsolute_parent? (hp : p.isAbsolute = true) (h : p.parent? = some q) :
    q.isAbsolute = true := by
  obtain ⟨xs, -, rfl, -⟩ := parent?_eq_some h
  rw [hp]
  exact isAbsolute_ofParts_true xs

end Path

namespace FileTree

theorem start_of_isAbsolute (h : p.isAbsolute = true) (here : Location) :
    start here p = start [] p := by
  rw [start, start, if_pos h, if_pos h]

theorem locate_of_isAbsolute (h : p.isAbsolute = true) (here : Location) :
    t.locate here p = t.locate [] p := by
  rw [locate, locate, start_of_isAbsolute h]

theorem slot_of_isAbsolute (h : p.isAbsolute = true) (here : Location) :
    t.slot here p = t.slot [] p := by
  rw [slot, slot, start_of_isAbsolute h]

end FileTree

namespace Session

/-- A run that gives the same, and makes the same of a tree, from all working folders. -/
def Anchored (α : Type) (x : Session α) : Prop :=
  ∀ t, ∃ a t', ∀ here, x.run ⟨t, here⟩ = (a, ⟨t', here⟩)

theorem anchored_change {f : FileTree → Location → Except DiskFault FileTree}
    (hf : ∀ t here, f t here = f t []) :
    Anchored _ (change f) := by
  intro t
  cases hr : f t [] with
  | error fault =>
    refine ⟨.error fault, t, fun here => ?_⟩
    change change f ⟨t, here⟩ = _
    rw [change, hf, hr]
  | ok tree =>
    refine ⟨.ok (), tree, fun here => ?_⟩
    change change f ⟨t, here⟩ = _
    rw [change, hf, hr]

/-- What is done through absolute paths does not depend on the working folder. -/
theorem anchored_changes : Changes Anchored fun p => p.isAbsolute = true where
  pure a t := ⟨a, t, fun _ => rfl⟩
  bind {_ _ x f} hx hf t := by
    obtain ⟨a, t', hx⟩ := hx t
    have ha : Anchored _ (f a) := by
      have hfirst := hf ⟨t, []⟩
      rwa [hx] at hfirst
    obtain ⟨b, t'', hb⟩ := ha t'
    refine ⟨b, t'', fun here => ?_⟩
    rw [run_bind, hx, hb]
  kind? {p} hp t := by
    refine ⟨(t.locate [] p).toOption.map (·.2.kind), t, fun here => ?_⟩
    rw [← locate_of_isAbsolute hp here]
    rfl
  readFile {p} hp t := by
    refine ⟨t.readFile [] p, t, fun here => ?_⟩
    rw [FileTree.readFile, ← locate_of_isAbsolute hp here]
    rfl
  filesBelow {p} enter hp t := by
    refine ⟨((Disk.filesBelow enter p : Session _).run ⟨t, []⟩).1, t, fun here => ?_⟩
    rw [run_filesBelow_eq, run_filesBelow_eq, locate_of_isAbsolute hp here]
  parent? := Path.isAbsolute_parent?
  joinName _ h := Path.isAbsolute_join h _
  makeFolder hp := anchored_change fun t here => by
    rw [FileTree.makeFolder, FileTree.makeFolder, slot_of_isAbsolute hp]
  writeFile text hp := anchored_change fun t here => by
    rw [FileTree.writeFile, FileTree.writeFile, slot_of_isAbsolute hp]

end Session

namespace Configuration

theorem baseFolder_ofText {text : String} {base : Path} (h : ofText env text base = .ok c) :
    c.baseFolder = base := by
  rw [ofText] at h
  split at h
  · rw [eq_of_substituted h]
  · cases h

variable (hbase : c.baseFolder.isAbsolute = true)
include hbase

theorem isAbsolute_scanRoot : c.scanRoot.isAbsolute = true := by
  rw [scanRoot]
  split
  · exact Path.isAbsolute_join hbase _
  · exact hbase

theorem isAbsolute_descriptorFile? {file : Path} (h : c.descriptorFile? = some file) :
    file.isAbsolute = true := by
  obtain ⟨text, -, rfl⟩ := Option.map_eq_some_iff.mp h
  exact Path.isAbsolute_join hbase _

theorem isAbsolute_outputPath (ho : ¬ Text.isBlankText c.outputFolder) (name : String) :
    (c.emitSettings.outputPath name).isAbsolute = true := by
  have hfolder : Path.isAbsolute ⟨c.emitSettings.outputFolder⟩ = true := by
    have hs : c.emitSettings.outputFolder = (c.resolve c.outputFolder).text := by
      simp [emitSettings, Text.nonBlank?, ho]
    rw [hs]
    exact Path.isAbsolute_join hbase _
  have htext : Path.isAbsolute ⟨c.emitSettings.folderText⟩ = true := by
    rw [EmitSettings.folderText]
    split
    · exact Path.isAbsolute_append hfolder _
    · exact hfolder
  exact Path.isAbsolute_append
    (Path.isAbsolute_append (Path.isAbsolute_append (Path.isAbsolute_append htext _) _) _) _

end Configuration

namespace Session

/-- The export of a configuration that stands in an absolute folder and names an output folder. -/
theorem anchored_generateConfigured (hbase : c.baseFolder.isAbsolute = true)
    (ho : ¬ Text.isBlankText c.outputFolder) (dryRun : Bool) :
    Anchored _ (Generation.generateConfigured (m := Session) c dryRun).run := by
  have hsources : Anchored _ (Setup.classSources (m := Session) c).run :=
    anchored_changes.toAsks.classSources (Configuration.isAbsolute_scanRoot hbase)
      fun _ => Configuration.isAbsolute_descriptorFile? hbase
  refine anchored_changes.except_bind hsources fun sources => anchored_changes.except_lift ?_
  exact anchored_changes.toAsks.generate (fun _ _ _ =>
    Configuration.isAbsolute_outputPath hbase ho _)
    (fun _ _ text hp => anchored_changes.writeThrough hp text) _

end Session

namespace ConfigurationFile

/-- The configuration that the bytes of a file at `root` describe, with the variables that those of
another file set. -/
def configurationOf (env : Environment) (config assignments : ByteArray) (root : Location) :
    Except Failure Configuration :=
  match textOf config with
  | .ok text =>
    Configuration.ofText (EnvironmentFile.load env (EnvironmentFile.lines assignments)).1
      text (pathOf root)
  | .error fault => .error (.io fault)

theorem baseFolder_configurationOf (h : configurationOf env config assignments root = .ok c) :
    c.baseFolder = pathOf root := by
  rw [configurationOf] at h
  split at h
  · exact Configuration.baseFolder_ofText h
  · cases h

/-- A folder with a configuration file and, beside it, a file of variables that can be read to its
end. -/
structure Project (t : FileTree) (root : Location) (env : Environment)
    (config assignments : ByteArray) : Prop where
  tree : t.WellFormed
  named : t.Named
  configured : t.get? (root ++ [configFileName]) = some (.file config)
  accompanied : t.get? (root ++ [environmentFileName]) = some (.file assignments)
  complete : (EnvironmentFile.load env (EnvironmentFile.lines assignments)).2 = true

/-- A folder of a project, with no configuration file in it or on the way to it but that of the
project. -/
structure WithinProject (t : FileTree) (root here : Location) : Prop where
  below : root <+: here
  folder : t.get? here = some .folder
  alone : ∀ place, root <+: place → place <+: here → place ≠ root →
    t.content? (place ++ [configFileName]) = none

section

variable {w : Workspace} (h : Project w.tree root env config assignments)
include h

theorem Project.plainNames : ∀ s ∈ root ++ [configFileName], PlainName s :=
  h.named _ (ne_of_eq_of_ne h.configured nofun)

theorem run_completeEnvironment :
    (completeEnvironment env (pathOf root) : Session _).run w =
      ((EnvironmentFile.load env (EnvironmentFile.lines assignments)).1, w) := by
  have hroot : ∀ s ∈ root, PlainName s := fun s hs => h.plainNames s (List.mem_append_left _ hs)
  have hread : (readFile ((pathOf root).joinName environmentFileName) : Session _).run w =
      (.ok assignments, w) := by
    rw [joinName_pathOf hroot plainName_environmentFile]
    exact congrArg (·, w) (readFile_pathOf h.tree h.named h.accompanied w.folder)
  have hload : (loadVariables env ((pathOf root).joinName environmentFileName) : Session _).run w =
      (EnvironmentFile.load env (EnvironmentFile.lines assignments), w) := by
    rw [loadVariables, Session.run_bind, hread]
    rfl
  rw [completeEnvironment, Session.run_bind, hload]
  dsimp only
  rw [if_pos h.complete]
  rfl

theorem run_load :
    (load (m := Session) env (pathOf (root ++ [configFileName]))).run.run w =
      (configurationOf env config assignments root, w) := by
  have hread : (readText (pathOf (root ++ [configFileName])) : Session _).run w =
      (textOf config, w) := by
    rw [Scan.run_readText, readFile_pathOf h.tree h.named h.configured]
    rfl
  rw [load, parent?_pathOf h.plainNames, Option.getD_some,
    Session.run_except_bind, Session.run_lift, run_completeEnvironment h]
  dsimp only
  rw [Session.run_except_bind, Session.run_lift, hread, configurationOf]
  dsimp only
  cases textOf config <;> rfl

end

/-- From all its folders a project is found, and read with the same outcome. -/
theorem run_loadNearest (h : Project t root env config assignments)
    (hf : WithinProject t root here) :
    (loadNearest (m := Session) env).run.run ⟨t, here⟩ =
      (configurationOf env config assignments root, ⟨t, here⟩) := by
  have hhere : (workingFolder : Session _).run ⟨t, here⟩ = (pathOf here, ⟨t, here⟩) := rfl
  have hfind : (find (m := Session) (pathOf here)).run.run ⟨t, here⟩ =
      (.ok (pathOf (root ++ [configFileName])), ⟨t, here⟩) := by
    obtain ⟨names, rfl⟩ := hf.below
    have halone : ∀ inner, inner <+: names → inner ≠ [] →
        t.content? (root ++ inner ++ [configFileName]) = none :=
      fun inner hi hne => hf.alone (root ++ inner) (List.prefix_append root inner)
        ((List.prefix_append_right_inj root).mpr hi) (by simpa using hne)
    rw [find, Session.run_except_bind, Session.run_lift,
      run_nearest? h.tree h.named plainName_configFile h.configured hf.folder halone]
    rfl
  rw [loadNearest, Session.run_except_bind, Session.run_lift, hhere]
  dsimp only
  rw [Session.run_except_bind, hfind]
  exact run_load (w := ⟨t, here⟩) h

end ConfigurationFile

namespace Generation

open ConfigurationFile

/-- The export of a project that names an output folder gives the same, and leaves the same files,
from any two of its folders: what the export of its configuration gives from the folder of the
configuration file. -/
theorem generateNearest_from_any_folder (h : Project t root env config assignments)
    (ho : ∀ c, configurationOf env config assignments root = .ok c →
      ¬ Text.isBlankText c.outputFolder)
    (hf : WithinProject t root here) (hf' : WithinProject t root here') :
    ∃ result tree,
      (∀ failure, configurationOf env config assignments root = .error failure →
        result = .error failure ∧ tree = t) ∧
      (∀ c, configurationOf env config assignments root = .ok c →
        (generateConfigured (m := Session) c false).run.run ⟨t, root⟩ =
          (result, ⟨tree, root⟩)) ∧
      (generateNearest (m := Session) env).run.run ⟨t, here⟩ = (result, ⟨tree, here⟩) ∧
      (generateNearest (m := Session) env).run.run ⟨t, here'⟩ =
        (result, ⟨tree, here'⟩) := by
  rw [generateNearest, Session.run_except_bind, Session.run_except_bind, run_loadNearest h hf,
    run_loadNearest h hf']
  cases hc : configurationOf env config assignments root with
  | error failure =>
    refine ⟨.error failure, t, ?_, nofun, rfl, rfl⟩
    intro failure' he
    cases he
    exact ⟨rfl, rfl⟩
  | ok c =>
    have hbase : c.baseFolder.isAbsolute = true := by
      rw [baseFolder_configurationOf hc]
      exact isAbsolute_pathOf root
    obtain ⟨result, tree, hrun⟩ := Session.anchored_generateConfigured hbase (ho c hc) false t
    refine ⟨result, tree, nofun, ?_, hrun here, hrun here'⟩
    intro c' he
    cases he
    exact hrun root

def projectText : String := "classes = [\"A\"]\noutput_folder = \"$\x7bOUT\x7d\""

/-- A project whose output folder is given by a variable, with a folder in it. -/
def projectTree : FileTree :=
  (((FileTree.empty.set ["p"] .folder).set ["p", configFileName] (.file projectText.toUTF8)).set
    ["p", environmentFileName] (.file "OUT=o".toUTF8)).set ["p", "sub"] .folder

theorem project_projectTree :
    Project projectTree ["p"] ⟨[]⟩ projectText.toUTF8 "OUT=o".toUTF8 := by
  have hp : PlainName "p" := ⟨by decide, by decide, by decide, by decide⟩
  have hsub : PlainName "sub" := ⟨by decide, by decide, by decide, by decide⟩
  have hroot : FileTree.empty.get? [] = some .folder := rfl
  have hmade : (FileTree.empty.set ["p"] .folder).get? ["p"] = some .folder := rfl
  have hconfigured : ((FileTree.empty.set ["p"] .folder).set ["p", configFileName]
      (.file projectText.toUTF8)).get? ["p"] = some .folder := rfl
  have haccompanied :
    (((FileTree.empty.set ["p"] .folder).set ["p", configFileName] (.file projectText.toUTF8)).set
      ["p", environmentFileName] (.file "OUT=o".toUTF8)).get? ["p"] = some .folder := rfl
  refine ⟨?_, ?_, rfl, rfl, by decide +kernel⟩
  · refine (((wellFormed_empty.set hroot (Or.inr rfl)).set hmade (Or.inl ?_)).set
      hconfigured (Or.inl ?_)).set haccompanied (Or.inr rfl)
    · exact fun h => nomatch h
    · exact fun h => nomatch h
  · exact (((named_empty.set (ne_of_eq_of_ne hroot nofun) hp).set
      (ne_of_eq_of_ne hmade nofun) plainName_configFile).set
      (ne_of_eq_of_ne hconfigured nofun) plainName_environmentFile).set
      (ne_of_eq_of_ne haccompanied nofun) hsub

theorem generateNearest_from_folders_of_projectTree :
    Project projectTree ["p"] ⟨[]⟩ projectText.toUTF8 "OUT=o".toUTF8 ∧
      (configurationOf ⟨[]⟩ projectText.toUTF8 "OUT=o".toUTF8 ["p"]).toOption.map
        (·.outputFolder) = some "o" ∧
      WithinProject projectTree ["p"] ["p"] ∧ WithinProject projectTree ["p"] ["p", "sub"] ∧
      ∃ result tree,
        (∀ failure, configurationOf ⟨[]⟩ projectText.toUTF8 "OUT=o".toUTF8 ["p"] =
          .error failure →
          result = .error failure ∧ tree = projectTree) ∧
        (∀ c, configurationOf ⟨[]⟩ projectText.toUTF8 "OUT=o".toUTF8 ["p"] = .ok c →
          (generateConfigured (m := Session) c false).run.run ⟨projectTree, ["p"]⟩ =
            (result, ⟨tree, ["p"]⟩)) ∧
        (generateNearest (m := Session) ⟨[]⟩).run.run ⟨projectTree, ["p"]⟩ =
          (result, ⟨tree, ["p"]⟩) ∧
        (generateNearest (m := Session) ⟨[]⟩).run.run ⟨projectTree, ["p", "sub"]⟩ =
          (result, ⟨tree, ["p", "sub"]⟩) := by
  have ho : (configurationOf ⟨[]⟩ projectText.toUTF8 "OUT=o".toUTF8 ["p"]).toOption.map
      (·.outputFolder) = some "o" := by
    decide +kernel
  have hf : WithinProject projectTree ["p"] ["p"] := by
    refine ⟨List.prefix_rfl, rfl, ?_⟩
    intro place hp hq hne
    exact (hne (hq.eq_of_length_le hp.length_le)).elim
  have hf' : WithinProject projectTree ["p"] ["p", "sub"] := by
    refine ⟨List.prefix_append ["p"] ["sub"], rfl, ?_⟩
    intro place hp hq hne
    have hq : place <+: ["p"] ++ ["sub"] := hq
    rcases List.prefix_concat_iff.mp hq with rfl | hq
    · rfl
    · exact (hne (hq.eq_of_length_le hp.length_le)).elim
  have hout : ∀ c, configurationOf ⟨[]⟩ projectText.toUTF8 "OUT=o".toUTF8 ["p"] = .ok c →
      ¬ Text.isBlankText c.outputFolder := by
    intro c hc
    rw [hc] at ho
    have hset : c.outputFolder = "o" := Option.some.inj ho
    rw [hset]
    decide
  exact ⟨project_projectTree, ho, hf, hf',
    generateNearest_from_any_folder project_projectTree hout hf hf'⟩

end Generation
end ClassExport
