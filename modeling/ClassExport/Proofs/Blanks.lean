import ClassExport.Configuration
import ClassExport.Proofs.Separators

/-! Settings of white space are as good as absent, and all others are kept to the letter. -/
namespace ClassExport

variable {s : String} {q : Option String} {c : Configuration} {settings settings' : EmitSettings}

namespace Text

/-- Trimming leaves nothing of a text just when all its characters are white space. -/
theorem trim_eq_empty_iff : trim s = "" ↔ isBlankText s := by
  have hchars : trim s = "" ↔ trimChars s.toList = [] := by
    rw [trim, ← String.toList_inj, String.toList_ofList, String.toList_empty]
  rw [hchars, ClassName.trimChars_eq_rdropWhile, List.rdropWhile_eq_nil_iff,
    isBlankText, List.all_eq_true]
  constructor
  · intro h
    have hnil : s.toList.dropWhile isBlank = [] := by
      by_contra hne
      have hhead := List.head_dropWhile_not isBlank hne
      rw [h _ (List.head_mem hne)] at hhead
      cases hhead
    exact List.dropWhile_eq_nil_iff.mp hnil
  · intro h c hc
    exact h c ((List.dropWhile_suffix isBlank).subset hc)

/-- A text of white space gives way to the empty one. -/
def emptyIfBlank (s : String) : String := if trim s = "" then "" else s

theorem emptyIfBlank_of_blank (h : isBlankText s) : emptyIfBlank s = "" :=
  if_pos (trim_eq_empty_iff.mpr h)

theorem emptyIfBlank_of_not_blank (h : ¬ isBlankText s) : emptyIfBlank s = s :=
  if_neg (mt trim_eq_empty_iff.mp h)

theorem getD_nonBlank?_eq (s : String) : (nonBlank? s).getD "" = emptyIfBlank s := by
  by_cases h : isBlankText s
  · rw [nonBlank?, if_pos h, emptyIfBlank_of_blank h, Option.getD_none]
  · rw [nonBlank?, if_neg h, emptyIfBlank_of_not_blank h, Option.getD_some]

theorem nonBlank?_emptyIfBlank (s : String) : nonBlank? (emptyIfBlank s) = nonBlank? s := by
  by_cases h : isBlankText s
  · rw [emptyIfBlank_of_blank h, nonBlank?, nonBlank?, if_pos h]
    rfl
  · rw [emptyIfBlank_of_not_blank h]

theorem bind_nonBlank?_filter (q : Option String) :
    (q.filter (trim · ≠ "")).bind nonBlank? = q.bind nonBlank? := by
  cases q with
  | none => rfl
  | some s =>
    by_cases h : isBlankText s
    · rw [Option.filter_some, if_neg (by simp [trim_eq_empty_iff, h]), Option.bind_some,
        nonBlank?, if_pos h]
      rfl
    · rw [Option.filter_some, if_pos (by simp [trim_eq_empty_iff, h])]

end Text

namespace Configuration

/-- The configuration without its folder, the parts of its file names and its namespace where these
are white space. -/
def withoutBlanks (c : Configuration) : Configuration :=
  { c with
    outputFolder := Text.emptyIfBlank c.outputFolder
    filePrefix := Text.emptyIfBlank c.filePrefix
    fileSuffix := Text.emptyIfBlank c.fileSuffix
    explicitNamespace := c.explicitNamespace.filter (Text.trim · ≠ "") }

/-- Of the settings of the export only the name of the namespace still tells whether a blank one was
there. -/
theorem emitSettings_withoutBlanks (c : Configuration) :
    c.withoutBlanks.emitSettings = { c.emitSettings with
      explicitNamespace := c.explicitNamespace.filter (Text.trim · ≠ "") } := by
  simp only [emitSettings, withoutBlanks, resolve, Text.nonBlank?_emptyIfBlank]

end Configuration

/-- No line depends on where the file goes. -/
theorem Class.render_congr (l : Class) (hw : settings'.wrapInNamespace = settings.wrapInNamespace)
    (hn : settings'.namespaceOf l = settings.namespaceOf l)
    (hp : settings'.includeNonPublic = settings.includeNonPublic) :
    l.render settings' = l.render settings := by
  have he : settings'.emits = settings.emits := by
    funext f
    rw [EmitSettings.emits, EmitSettings.emits, hp]
  rw [render, render, lines, lines, hw, hn, he]

namespace Configuration

/-- A configuration and the one without its blank settings give each class the same file and the
same text. Any other prefix or suffix is a part of the file name as it is written, with the spaces
around it. -/
theorem emission_withoutBlanks (c : Configuration) (l : Class) :
    c.withoutBlanks.emitSettings.outputPath l.name = c.emitSettings.outputPath l.name ∧
    l.render c.withoutBlanks.emitSettings = l.render c.emitSettings ∧
    (c.emitSettings.outputPath l.name).text =
      c.emitSettings.folderText ++ Text.emptyIfBlank c.filePrefix ++ Text.lowerFirst l.name ++
        Text.emptyIfBlank c.fileSuffix ++ ".ts" := by
  rw [emitSettings_withoutBlanks]
  refine ⟨rfl, ?_, ?_⟩
  · refine l.render_congr rfl ?_ rfl
    rw [EmitSettings.namespaceOf, EmitSettings.namespaceOf, Text.bind_nonBlank?_filter]
    rfl
  · rw [EmitSettings.outputPath, ← Text.getD_nonBlank?_eq, ← Text.getD_nonBlank?_eq]
    rfl

end Configuration
end ClassExport
