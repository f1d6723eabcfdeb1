import ClassExport.Commands
import ClassExport.Proofs.Anchoring
import ClassExport.Proofs.Blanks
import ClassExport.Proofs.Reordering

/-!
The options of the command line go before the configuration: what they decide comes out the same for
all configurations, and all else as the configuration has it.
-/
namespace ClassExport

open FileTree

attribute [ext] EmitSettings

variable {c c' c'' : Configuration} {o : GenerateOptions} {here p : Path} {folder : String}

namespace Path

theorem text_ne_of_isAbsolute (h : p.isAbsolute = true) : p.text ≠ "" := by
  intro hp
  rw [isAbsolute, hp] at h
  cases h

theorem not_isBlankText_of_isAbsolute (h : p.isAbsolute = true) : ¬ Text.isBlankText p.text := by
  intro hb
  rw [isAbsolute, beq_iff_eq] at h
  exact Text.notMem_of_isBlankText hb (List.mem_of_head? h)

theorem map_text_namedComponents (parts : List String) :
    (namedComponents parts).map Component.text = moves parts := by
  have htext : ∀ s, (ofMove s).text = s := by
    intro s
    rw [ofMove]
    split
    · rename_i hs
      exact hs.symm
    · rfl
  rw [namedComponents_eq, List.map_map]
  exact (List.map_congr_left fun s _ => htext s).trans (List.map_id _)

/-- A slash at the end adds no component. -/
theorem components_append_slash (hp : p.text ≠ "") :
    (Path.mk (p.text ++ "/")).components = p.components := by
  have htext : p.text ++ "/" = (ofParts p.isAbsolute (p.parts ++ [""])).text := by
    rw [ofParts_concat (parts_ne_nil p), ofParts_parts, String.append_empty]
  have hl : Spelled p.isAbsolute (p.parts ++ [""]) :=
    (spelled_parts hp).append (by simp) fun _ => parts_ne_nil p
  have hidle : isIdle p.isAbsolute "" p.parts.reverse := isIdle_iff.mpr (Or.inl rfl)
  have hc := componentsOf_idle hidle
  rw [List.reverse_reverse] at hc
  rw [htext, components_ofParts hl, hc, components_eq]

theorem components_ite_slash {b : Prop} [Decidable b] {clean : Path} (hc : clean.text ≠ "") :
    (if b then Path.mk (clean.text ++ "/") else clean).components = clean.components := by
  split_ifs
  · exact components_append_slash hc
  · rfl

/-- Of an absolute path only the parts that lead somewhere count. -/
theorem components_ofParts_of_moves {xs : List String} (hp : p.isAbsolute = true)
    (hs : ∀ s ∈ xs, '/' ∉ s.toList) (hm : moves xs = moves p.parts) :
    (ofParts true xs).components = p.components := by
  have hl : Spelled true xs := ⟨hs, nofun⟩
  rw [components_ofParts hl, components_eq, hp, componentsOf, componentsOf, hm]
  rfl

/-- A slash before an absolute path adds no component. -/
theorem components_slash_append (hp : p.isAbsolute = true) :
    (Path.mk ("/" ++ p.text)).components = p.components := by
  have htext : "/" ++ p.text = (ofParts true ("" :: p.parts)).text := by
    rw [ofParts, if_pos rfl, String.intercalate_cons_of_ne_nil (parts_ne_nil p),
      String.empty_append]
    conv_lhs => rw [← ofParts_parts p, hp]
    rfl
  have hplain : ∀ s ∈ "" :: p.parts, '/' ∉ s.toList :=
    List.forall_mem_cons.mpr ⟨List.not_mem_nil, fun _ => noSlash_of_mem_parts⟩
  rw [htext]
  exact components_ofParts_of_moves hp hplain rfl

theorem components_ite_slash_append {b : Prop} [Decidable b] (hp : p.isAbsolute = true) :
    (if b then Path.mk ("/" ++ p.text) else p).components = p.components := by
  split_ifs
  · exact components_slash_append hp
  · rfl

/-- A relative path is put behind the folder that it is seen from. -/
theorem components_absolute_of_relative (hh : here.isAbsolute = true) (hp : p.isAbsolute = false) :
    (absolute here p).components = here.components ++ namedComponents p.parts := by
  have hclean : ((moves p.parts).foldl joinName here).components = here.components ++
      namedComponents p.parts := by
    rw [namedComponents_eq]
    exact components_foldl_moves (text_ne_of_isAbsolute hh) fun _ => noSlash_of_mem_parts
  have hbelow : here.components <+: ((moves p.parts).foldl joinName here).components := by
    rw [hclean]
    exact List.prefix_append _ _
  rw [absolute, map_text_namedComponents]
  simp only [hp, Bool.false_eq_true, if_false]
  rw [components_ite_slash (text_ne_of_components (text_ne_of_isAbsolute hh) hbelow), hclean]

/-- An absolute path leads where it leads from everywhere. -/
theorem components_absolute_of_isAbsolute (hp : p.isAbsolute = true) (here : Path) :
    (absolute here p).components = p.components := by
  have hplain : ∀ s ∈ moves p.parts, '/' ∉ s.toList :=
    fun s hs => noSlash_of_mem_parts (List.mem_of_mem_filter hs)
  have hmoves : moves (moves p.parts) = moves p.parts := by simp [moves]
  have hrooted : (ofParts true (moves p.parts)).isAbsolute = true := isAbsolute_ofParts_true _
  have hsame : (ofParts true (moves p.parts)).components = p.components :=
    components_ofParts_of_moves hp hplain hmoves
  rw [absolute, map_text_namedComponents]
  simp only [hp, if_true]
  -- a slash may come to stand before the path, and one behind it
  rw [components_ite_slash, components_ite_slash_append hrooted, hsame]
  apply text_ne_of_isAbsolute
  rw [← root_mem_components, components_ite_slash_append hrooted]
  exact root_mem_components.mpr hrooted

theorem isAbsolute_absolute (hh : here.isAbsolute = true) (p : Path) :
    (absolute here p).isAbsolute = true := by
  rw [← root_mem_components]
  cases hp : p.isAbsolute with
  | true =>
    rw [components_absolute_of_isAbsolute hp]
    exact root_mem_components.mpr hp
  | false =>
    rw [components_absolute_of_relative hh hp]
    exact List.mem_append_left _ (root_mem_components.mpr hh)

end Path

namespace GenerateOptions

/-- The configurations are the same in all that the options leave to them. With a folder for the
output among the options it does not count either where the configuration file stands. -/
structure SameApart (o : GenerateOptions) (c c' : Configuration) : Prop where
  classes : o.classes = [] → c'.classes = c.classes
  outputFolder : o.outputFolder = none → c'.outputFolder = c.outputFolder
  baseFolder : o.outputFolder = none → c'.baseFolder = c.baseFolder
  filePrefix : o.filePrefix = none → c'.filePrefix = c.filePrefix
  fileSuffix : o.fileSuffix = none → c'.fileSuffix = c.fileSuffix
  explicitNamespace : o.explicitNamespace = none → c'.explicitNamespace = c.explicitNamespace
  addNamespace : o.explicitNamespace = none → o.addNamespace = false →
    c'.addNamespace = c.addNamespace
  overwrite : o.noOverwrite = false → c'.overwrite = c.overwrite
  includePrivate : o.publicOnly = false → c'.includePrivate = c.includePrivate

/-- The configuration has what the options say; for the folder of the output they say something else
than a setting, since they are given from the working folder. -/
structure ObeyedBy (o : GenerateOptions) (c : Configuration) : Prop where
  classes : o.classes ≠ [] → c.classes = o.classes
  filePrefix : ∀ text, o.filePrefix = some text → c.filePrefix = text
  fileSuffix : ∀ text, o.fileSuffix = some text → c.fileSuffix = text
  explicitNamespace : ∀ name, o.explicitNamespace = some name → c.explicitNamespace = some name
  addNamespace : o.explicitNamespace ≠ none ∨ o.addNamespace = true → c.addNamespace = true
  overwrite : o.noOverwrite = true → c.overwrite = false
  includePrivate : o.publicOnly = true → c.includePrivate = false

/-- The settings of two exports are the same in all that the options do not decide. -/
structure SameSettingsApart (o : GenerateOptions) (s s' : EmitSettings) : Prop where
  outputFolder : o.outputFolder = none → s'.outputFolder = s.outputFolder
  filePrefix : o.filePrefix = none → s'.filePrefix = s.filePrefix
  fileSuffix : o.fileSuffix = none → s'.fileSuffix = s.fileSuffix
  explicitNamespace : o.explicitNamespace = none → s'.explicitNamespace = s.explicitNamespace
  wrapInNamespace : o.explicitNamespace = none → o.addNamespace = false →
    s'.wrapInNamespace = s.wrapInNamespace
  overwrite : o.noOverwrite = false → s'.overwrite = s.overwrite
  includeNonPublic : o.publicOnly = false → s'.includeNonPublic = s.includeNonPublic

/-- The export is set as the options say. A prefix or suffix of blanks alone is none. -/
structure ObeyedByExport (o : GenerateOptions) (s : EmitSettings) : Prop where
  filePrefix : ∀ text, o.filePrefix = some text → s.filePrefix = Text.emptyIfBlank text
  fileSuffix : ∀ text, o.fileSuffix = some text → s.fileSuffix = Text.emptyIfBlank text
  explicitNamespace : ∀ name, o.explicitNamespace = some name → s.explicitNamespace = some name
  wrapInNamespace : o.explicitNamespace ≠ none ∨ o.addNamespace = true →
    s.wrapInNamespace = true
  overwrite : o.noOverwrite = true → s.overwrite = false
  includeNonPublic : o.publicOnly = true → s.includeNonPublic = false

/-- What the options do not decide is set in the export as in the configuration. -/
structure LeavesTo (o : GenerateOptions) (c : Configuration) (s : EmitSettings) : Prop where
  outputFolder : o.outputFolder = none →
    s.outputFolder = if Text.isBlankText c.outputFolder then "" else (c.resolve c.outputFolder).text
  filePrefix : o.filePrefix = none → s.filePrefix = Text.emptyIfBlank c.filePrefix
  fileSuffix : o.fileSuffix = none → s.fileSuffix = Text.emptyIfBlank c.fileSuffix
  explicitNamespace : o.explicitNamespace = none → s.explicitNamespace = c.explicitNamespace
  wrapInNamespace : o.explicitNamespace = none → o.addNamespace = false →
    s.wrapInNamespace = c.addNamespace
  overwrite : o.noOverwrite = false → s.overwrite = c.overwrite
  includeNonPublic : o.publicOnly = false → s.includeNonPublic = c.includePrivate

namespace SameApart

theorem symm (h : o.SameApart c c') : o.SameApart c' c where
  classes ho := (h.classes ho).symm
  outputFolder ho := (h.outputFolder ho).symm
  baseFolder ho := (h.baseFolder ho).symm
  filePrefix ho := (h.filePrefix ho).symm
  fileSuffix ho := (h.fileSuffix ho).symm
  explicitNamespace ho := (h.explicitNamespace ho).symm
  addNamespace ho ha := (h.addNamespace ho ha).symm
  overwrite ho := (h.overwrite ho).symm
  includePrivate ho := (h.includePrivate ho).symm

theorem trans (h : o.SameApart c c') (h' : o.SameApart c' c'') : o.SameApart c c'' where
  classes ho := (h'.classes ho).trans (h.classes ho)
  outputFolder ho := (h'.outputFolder ho).trans (h.outputFolder ho)
  baseFolder ho := (h'.baseFolder ho).trans (h.baseFolder ho)
  filePrefix ho := (h'.filePrefix ho).trans (h.filePrefix ho)
  fileSuffix ho := (h'.fileSuffix ho).trans (h.fileSuffix ho)
  explicitNamespace ho := (h'.explicitNamespace ho).trans (h.explicitNamespace ho)
  addNamespace ho ha := (h'.addNamespace ho ha).trans (h.addNamespace ho ha)
  overwrite ho := (h'.overwrite ho).trans (h.overwrite ho)
  includePrivate ho := (h'.includePrivate ho).trans (h.includePrivate ho)

/-- Every setting of the export is computed from settings of the configuration that are overridden
with it. -/
theorem emitSettings (h : o.SameApart c c') :
    o.SameSettingsApart c.emitSettings c'.emitSettings where
  outputFolder ho := by
    simp only [Configuration.emitSettings, Configuration.resolve,
      h.outputFolder ho, h.baseFolder ho]
  filePrefix ho := by simp only [Configuration.emitSettings, h.filePrefix ho]
  fileSuffix ho := by simp only [Configuration.emitSettings, h.fileSuffix ho]
  explicitNamespace ho := h.explicitNamespace ho
  wrapInNamespace ho ha := h.addNamespace ho ha
  overwrite ho := h.overwrite ho
  includeNonPublic ho := h.includePrivate ho

end SameApart

theorem ObeyedBy.emitSettings (h : o.ObeyedBy c) : o.ObeyedByExport c.emitSettings where
  filePrefix text ho := by
    rw [← h.filePrefix text ho]
    exact Text.getD_nonBlank?_eq c.filePrefix
  fileSuffix text ho := by
    rw [← h.fileSuffix text ho]
    exact Text.getD_nonBlank?_eq c.fileSuffix
  explicitNamespace := h.explicitNamespace
  wrapInNamespace := h.addNamespace
  overwrite := h.overwrite
  includeNonPublic := h.includePrivate

theorem SameSettingsApart.leavesTo {s : EmitSettings} (h : o.SameSettingsApart c.emitSettings s) :
    o.LeavesTo c s where
  outputFolder ho := by
    rw [h.outputFolder ho, Configuration.emitSettings, Text.nonBlank?]
    split_ifs <;> rfl
  filePrefix ho := (h.filePrefix ho).trans (Text.getD_nonBlank?_eq _)
  fileSuffix ho := (h.fileSuffix ho).trans (Text.getD_nonBlank?_eq _)
  explicitNamespace := h.explicitNamespace
  wrapInNamespace := h.wrapInNamespace
  overwrite := h.overwrite
  includeNonPublic := h.includeNonPublic

/-- The options change no other settings than those they are for. -/
theorem sameApart_overridden (o : GenerateOptions) (c : Configuration) (here : Path) :
    o.SameApart c (c.overridden o here) where
  classes ho := by rw [Configuration.overridden, ho]; rfl
  outputFolder ho := by rw [Configuration.overridden, ho]
  baseFolder _ := rfl
  filePrefix ho := by rw [Configuration.overridden, ho]; rfl
  fileSuffix ho := by rw [Configuration.overridden, ho]; rfl
  explicitNamespace ho := by rw [Configuration.overridden, ho]; rfl
  addNamespace ho ha := by simp [Configuration.overridden, ho, ha]
  overwrite ho := by simp [Configuration.overridden, ho]
  includePrivate ho := by simp [Configuration.overridden, ho]

theorem obeyedBy_overridden (o : GenerateOptions) (c : Configuration) (here : Path) :
    o.ObeyedBy (c.overridden o here) where
  classes ho := by simp [Configuration.overridden, ho]
  filePrefix text ho := by rw [Configuration.overridden, ho]; rfl
  fileSuffix text ho := by rw [Configuration.overridden, ho]; rfl
  explicitNamespace name ho := by rw [Configuration.overridden, ho]; rfl
  addNamespace ho := by
    rw [← Option.isSome_iff_ne_none] at ho
    rcases ho with ho | ho <;> simp [Configuration.overridden, ho]
  overwrite ho := by simp [Configuration.overridden, ho]
  includePrivate ho := by simp [Configuration.overridden, ho]

end GenerateOptions

namespace Configuration

/-! The folder of the output, as the options give it. -/

theorem emittedFolder_of_blank (ho : o.outputFolder = some folder) (hb : Text.isBlankText folder)
    (c : Configuration) (here : Path) : (c.overridden o here).emitSettings.outputFolder = "" := by
  have hset : (c.overridden o here).outputFolder = "" := by
    simp [overridden, ho, Text.nonBlank?, hb]
  rw [emitSettings, hset]
  rfl

/-- An absolute folder stays what it is, wherever the configuration file stands. -/
theorem emittedFolder_of_not_blank (ho : o.outputFolder = some folder)
    (hb : ¬ Text.isBlankText folder) (hh : here.isAbsolute = true) (c : Configuration) :
    (c.overridden o here).emitSettings.outputFolder = (Path.absolute here ⟨folder⟩).text := by
  have ha : (Path.absolute here ⟨folder⟩).isAbsolute = true := Path.isAbsolute_absolute hh _
  have hset : (c.overridden o here).outputFolder = (Path.absolute here ⟨folder⟩).text := by
    simp [overridden, ho, Text.nonBlank?, hb]
  rw [emitSettings, hset, Text.nonBlank?, if_neg (Path.not_isBlankText_of_isAbsolute ha)]
  dsimp only [Option.map_some, Option.getD_some, resolve]
  rw [Path.join, if_pos ha]

variable (here : Location)

/-- All that the options decide is the same for two configurations. -/
theorem emitSettings_overridden_congr (h : o.SameApart c c') :
    (c'.overridden o (pathOf here)).emitSettings = (c.overridden o (pathOf here)).emitSettings := by
  have hh : (pathOf here).isAbsolute = true := isAbsolute_pathOf here
  have hsame : o.SameApart (c.overridden o (pathOf here)) (c'.overridden o (pathOf here)) :=
    (o.sameApart_overridden c _).symm.trans (h.trans (o.sameApart_overridden c' _))
  have hapart := hsame.emitSettings
  have hobeyed := o.obeyedBy_overridden c (pathOf here)
  have hobeyed' := o.obeyedBy_overridden c' (pathOf here)
  -- what is not overridden is the same before, and what is overridden is what the options say
  apply EmitSettings.ext
  · cases ho : o.outputFolder with
    | none => exact hapart.outputFolder ho
    | some folder =>
      by_cases hb : Text.isBlankText folder
      · rw [emittedFolder_of_blank ho hb, emittedFolder_of_blank ho hb]
      · rw [emittedFolder_of_not_blank ho hb hh, emittedFolder_of_not_blank ho hb hh]
  · cases ho : o.filePrefix with
    | none => exact hapart.filePrefix ho
    | some text =>
      rw [emitSettings, emitSettings, hobeyed.filePrefix text ho, hobeyed'.filePrefix text ho]
  · cases ho : o.fileSuffix with
    | none => exact hapart.fileSuffix ho
    | some text =>
      rw [emitSettings, emitSettings, hobeyed.fileSuffix text ho, hobeyed'.fileSuffix text ho]
  · cases ho : o.noOverwrite with
    | false => exact hapart.overwrite ho
    | true => exact (hobeyed'.overwrite ho).trans (hobeyed.overwrite ho).symm
  · by_cases ho : o.explicitNamespace ≠ none ∨ o.addNamespace = true
    · exact (hobeyed'.addNamespace ho).trans (hobeyed.addNamespace ho).symm
    · rw [not_or, not_not, Bool.not_eq_true] at ho
      exact hapart.wrapInNamespace ho.1 ho.2
  · cases ho : o.publicOnly with
    | false => exact hapart.includeNonPublic ho
    | true => exact (hobeyed'.includePrivate ho).trans (hobeyed.includePrivate ho).symm
  · cases ho : o.explicitNamespace with
    | none => exact hapart.explicitNamespace ho
    | some name =>
      exact (hobeyed'.explicitNamespace name ho).trans (hobeyed.explicitNamespace name ho).symm

/-- The options win: from configurations that differ only in what they override, they make the same
choice of classes and the same settings. A relative folder is one below the working folder, an
absolute one is the folder that it names, and a blank one leaves the names of the files alone; all
else, to the settings of the export, is as the options say, or as in the configuration where they
say nothing. -/
theorem overridden_of_sameApart (h : o.SameApart c c') :
    (c'.overridden o (pathOf here)).classes = (c.overridden o (pathOf here)).classes ∧
    (c'.overridden o (pathOf here)).emitSettings = (c.overridden o (pathOf here)).emitSettings ∧
    (∀ folder, o.outputFolder = some folder → ¬ Text.isBlankText folder →
      Path.isAbsolute ⟨folder⟩ = false →
      (Path.mk (c.overridden o (pathOf here)).emitSettings.outputFolder).components =
        (pathOf here).components ++ Path.namedComponents (Path.parts ⟨folder⟩)) ∧
    (∀ folder, o.outputFolder = some folder → Path.isAbsolute ⟨folder⟩ = true →
      (Path.mk (c.overridden o (pathOf here)).emitSettings.outputFolder).components =
        Path.components ⟨folder⟩) ∧
    (∀ folder, o.outputFolder = some folder → Text.isBlankText folder → ∀ name,
      ((c.overridden o (pathOf here)).emitSettings.outputPath name).text =
        (c.overridden o (pathOf here)).emitSettings.filePrefix ++ Text.lowerFirst name ++
          (c.overridden o (pathOf here)).emitSettings.fileSuffix ++ ".ts") ∧
    o.ObeyedBy (c.overridden o (pathOf here)) ∧
    o.SameApart c (c.overridden o (pathOf here)) ∧
    o.SameSettingsApart c.emitSettings (c.overridden o (pathOf here)).emitSettings ∧
    o.ObeyedByExport (c.overridden o (pathOf here)).emitSettings ∧
    o.LeavesTo c (c.overridden o (pathOf here)).emitSettings := by
  have hh : (pathOf here).isAbsolute = true := isAbsolute_pathOf here
  have hapart : o.SameApart c (c.overridden o (pathOf here)) := o.sameApart_overridden c _
  have hobeyed : o.ObeyedBy (c.overridden o (pathOf here)) := o.obeyedBy_overridden c _
  refine ⟨?_, emitSettings_overridden_congr here h, ?_, ?_, ?_, hobeyed, hapart,
    hapart.emitSettings, hobeyed.emitSettings, hapart.emitSettings.leavesTo⟩
  · by_cases ho : o.classes = []
    · rw [(o.sameApart_overridden c' _).classes ho, hapart.classes ho, h.classes ho]
    · rw [(o.obeyedBy_overridden c' _).classes ho, hobeyed.classes ho]
  · intro folder ho hb hr
    rw [emittedFolder_of_not_blank ho hb hh]
    exact Path.components_absolute_of_relative hh hr
  · intro folder ho ha
    rw [emittedFolder_of_not_blank ho (Path.not_isBlankText_of_isAbsolute ha) hh]
    exact Path.components_absolute_of_isAbsolute ha _
  · intro folder ho hb name
    rw [EmitSettings.outputPath, EmitSettings.folderText, emittedFolder_of_blank ho hb]
    rfl

/-- Options for the classes, the folder and the namespace; the prefix is left to the
configuration. -/
def namespaceOptions : GenerateOptions where
  classes := ["A"]
  outputFolder := some "out/./dto/"
  explicitNamespace := some "Api"
  publicOnly := true

def webConfiguration : Configuration where
  classes := ["B", "C"]
  filePrefix := "p"
  outputFolder := "web"
  baseFolder := ⟨"/project"⟩

def bareConfiguration : Configuration where
  filePrefix := "p"
  explicitNamespace := some "Old"
  includePrivate := false
  baseFolder := ⟨"elsewhere"⟩

theorem overridden_of_sameApart_of_namespaceOptions :
    namespaceOptions.SameApart webConfiguration bareConfiguration ∧
    (bareConfiguration.overridden namespaceOptions (pathOf ["home"])).emitSettings =
      (webConfiguration.overridden namespaceOptions (pathOf ["home"])).emitSettings ∧
    (Path.mk (webConfiguration.overridden namespaceOptions
      (pathOf ["home"])).emitSettings.outputFolder).components =
      [.root, .name "home", .name "out", .name "dto"] ∧
    (webConfiguration.overridden namespaceOptions (pathOf ["home"])).emitSettings =
      { outputFolder := "/home/out/dto/", filePrefix := "p", wrapInNamespace := true,
        includeNonPublic := false, explicitNamespace := some "Api" } := by
  have h : namespaceOptions.SameApart webConfiguration bareConfiguration :=
    ⟨nofun, nofun, nofun, fun _ => rfl, fun _ => rfl, nofun, nofun, fun _ => rfl, nofun⟩
  obtain ⟨-, hs, hf, -⟩ := overridden_of_sameApart ["home"] h
  refine ⟨h, hs, (hf "out/./dto/" rfl (by decide) (by decide)).trans ?_, ?_⟩
  · decide
  · decide

end Configuration
end ClassExport
