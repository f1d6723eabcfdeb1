import ClassExport.Proofs.MissingVariables
import ClassExport.Proofs.Spellings

/-!
Variables that are set go before those of all files of variables. A configuration in which no others
are referred to is the same beside any such files.
-/
namespace ClassExport

open FileTree Disk

variable {w w' : Workspace} {t t' : FileTree} {here place other : Location} {p : Path}
  {parts : List String} {bytes : ByteArray} {env env' env'' : Environment} {c : Configuration}
  {text name : String}

namespace Environment

/-- The variables that are set in the first environment have the same values in the second one. -/
def Keeps (env env' : Environment) : Prop :=
  ∀ name, env.get? name ≠ none → env'.get? name = env.get? name

theorem Keeps.refl (env : Environment) : env.Keeps env := fun _ _ => rfl

theorem Keeps.trans (h : env.Keeps env') (h' : env'.Keeps env'') : env.Keeps env'' := by
  intro name hn
  rw [h' name (by rwa [h name hn]), h name hn]

theorem keeps_add (env : Environment) (name value : String) : env.Keeps (env.add name value) := by
  intro other hn
  obtain ⟨v, hv⟩ := Option.ne_none_iff_exists'.mp hn
  rw [get?] at hv
  rw [get?, get?, add, List.lookup_append, hv]
  rfl

/-- Every variable that a text refers to has a value, be it empty. -/
def Sets (env : Environment) (text : String) : Prop :=
  ∀ refs, Reference.Holds text.toList refs → ∀ r ∈ refs, env.get? r.name ≠ none

theorem sets_iff : env.Sets text ↔ ∀ r ∈ Reference.all text, env.get? r.name ≠ none := by
  simp [Sets, Reference.holds_iff]

theorem foldlM_congr {refs : List Reference}
    (he : ∀ r ∈ refs, env'.get? r.name = env.get? r.name) (made : List Char) :
    refs.foldlM (m := Except Failure) (fun result r => do
        return Text.replaceChars r.written (← r.value env').toList result) made =
      refs.foldlM (fun result r =>
        do return Text.replaceChars r.written (← r.value env).toList result) made := by
  induction refs generalizing made with
  | nil => rfl
  | cons r refs ih =>
    rw [List.forall_mem_cons] at he
    rw [List.foldlM_cons, List.foldlM_cons, Reference.value, Reference.value, he.1]
    exact bind_congr fun made => ih he.2 made

theorem Keeps.substitute_eq (h : env.Keeps env') (hs : env.Sets text) :
    env'.substitute text = env.substitute text := by
  rw [substitute, substitute, foldlM_congr fun r hm => h r.name (sets_iff.mp hs r hm)]

end Environment

namespace Configuration

open Environment in
theorem substituteOption_congr {setting : Option String} (h : env.Keeps env')
    (hs : ∀ text ∈ setting, env.Sets text) :
    substituteOption env' setting = substituteOption env setting := by
  cases setting with
  | none => rfl
  | some text => rw [substituteOption, substituteOption, h.substitute_eq (hs text rfl)]

theorem substituted_congr (h : env.Keeps env')
    (hs : ∀ setting ∈ c.substitutable, env.Sets setting) :
    c.substituted env' = c.substituted env := by
  simp only [substitutable, List.forall_mem_append, List.forall_mem_cons, Option.mem_toList] at hs
  obtain ⟨⟨hfolder, hpre, hsuf, -⟩, hnamespace, hscan, hdescriptors⟩ := hs
  rw [substituted, substituted, h.substitute_eq hfolder, h.substitute_eq hpre, h.substitute_eq hsuf,
    substituteOption_congr h hnamespace, substituteOption_congr h hscan,
      substituteOption_congr h hdescriptors]

theorem ofText_congr (h : env.Keeps env')
    (hs : ∀ c, (Toml.ofText? text).bind ofEntries? = some c →
      ∀ setting ∈ c.substitutable, env.Sets setting)
    (base : Path) : ofText env' text base = ofText env text base := by
  rw [ofText, ofText]
  cases hd : (Toml.ofText? text).bind ofEntries? with
  | none => rfl
  | some c => exact substituted_congr (c := { c with baseFolder := base }) h (hs c hd)

end Configuration

namespace ConfigurationFile

theorem keeps_load (env : Environment) (lines : List (Option String)) :
    env.Keeps (EnvironmentFile.load env lines).1 := by
  induction lines generalizing env with
  | nil => exact .refl env
  | cons line lines ih =>
    cases line with
    | none => exact .refl env
    | some line =>
      rw [EnvironmentFile.load]
      cases EnvironmentFile.line? env line with
      | none => exact .refl env
      | some assignment =>
        cases assignment with
        | none => exact ih env
        | some assignment => exact (Environment.keeps_add env _ _).trans (ih _)

theorem keeps_loadVariables (env : Environment) (p : Path) (w : Workspace) :
    env.Keeps ((loadVariables env p : Session _).run w).1.1 := by
  rw [loadVariables, Session.run_bind]
  cases ((readFile p : Session _).run w).1 with
  | error fault => exact .refl env
  | ok bytes => exact keeps_load env _

theorem keeps_environmentBeside (w : Workspace) (env : Environment) (base : Path) :
    env.Keeps (environmentBeside w env base) := by
  have hbeside := keeps_loadVariables env (base.joinName environmentFileName) w
  rw [environmentBeside, completeEnvironment, Session.run_bind]
  rcases hr : (loadVariables env (base.joinName environmentFileName) : Session
    _).run w with ⟨⟨beside, complete⟩, v⟩
  rw [hr] at hbeside
  cases complete with
  | true => exact hbeside
  | false =>
    dsimp only
    rw [if_neg Bool.false_ne_true, Session.run_bind, Session.run_bind]
    generalize (nearest? (m := Session) environmentFileName _).run _ = found
    obtain ⟨found | path, v'⟩ := found
    · exact hbeside
    · exact hbeside.trans (keeps_loadVariables beside path v')

/-- What the bytes of a configuration file say, with no other variables than those that are set. -/
def configurationIn (env : Environment) (bytes : ByteArray) (base : Path) :
    Except Failure Configuration :=
  match textOf bytes with
  | .ok text => Configuration.ofText env text base
  | .error fault => .error (.io fault)

/-- Every variable that the bytes of a configuration file refer to in their settings has a value. -/
def SetsAll (env : Environment) (bytes : ByteArray) : Prop :=
  ∀ text c, textOf bytes = .ok text →
    (Toml.ofText? text).bind Configuration.ofEntries? = some c →
    ∀ setting ∈ c.substitutable, env.Sets setting

theorem load_of_setsAll (hl : w.tree.locate w.folder p = .ok (place, .file bytes))
    (hs : SetsAll env bytes) :
    ((load (m := Session) env p).run.run w).1 = configurationIn env bytes p.holder := by
  have hbytes : (w.tree.readFile w.folder p).bind textOf = textOf bytes := by
    rw [FileTree.readFile, hl]; rfl
  rw [run_load_eq, configurationIn, hbytes]
  cases ht : textOf bytes with
  | error fault => rfl
  | ok text =>
    exact Configuration.ofText_congr (keeps_environmentBeside w env p.holder) (fun c hd =>
      hs text c ht hd) p.holder

end ConfigurationFile

/-! Workspaces with other files of variables. -/

/-- The workspaces differ in files of variables alone: in what these hold and in whether they are
there. -/
structure Workspace.SameButVariables (w w' : Workspace) : Prop where
  folder : w'.folder = w.folder
  folders : ∀ place, w'.tree.get? place = some .folder ↔ w.tree.get? place = some .folder
  others : ∀ place, place.getLast? ≠ some ConfigurationFile.environmentFileName →
    w'.tree.get? place = w.tree.get? place

namespace Workspace.SameButVariables

theorem trans {w'' : Workspace} (h : w.SameButVariables w') (h' : w'.SameButVariables w'') :
    w.SameButVariables w'' where
  folder := h'.folder.trans h.folder
  folders place := (h'.folders place).trans (h.folders place)
  others place hn := (h'.others place hn).trans (h.others place hn)

theorem set (holder : Location)
    (hf : t.get? (holder ++ [ConfigurationFile.environmentFileName]) ≠ some .folder)
    (here : Location) (bytes : ByteArray) :
    SameButVariables ⟨t, here⟩
      ⟨t.set (holder ++ [ConfigurationFile.environmentFileName]) (.file bytes), here⟩ := by
  refine ⟨rfl, fun other => ?_, fun other hn => ?_⟩
  · rw [get?_set (by simp)]
    split
    · rename_i he
      exact iff_of_false nofun (he ▸ hf)
    · rfl
  · rw [get?_set (by simp), if_neg]
    rintro rfl
    exact hn (by simp)

variable (h : w.SameButVariables w')
include h

/-- The way to a file that holds no variables leads through folders, and these are the same. -/
theorem follow_eq (hr : w.tree.follow here parts = .ok place)
    (hn : place.getLast? ≠ some ConfigurationFile.environmentFileName) :
    w'.tree.follow here parts = .ok place := by
  induction parts generalizing here with
  | nil => exact hr
  | cons part rest ih =>
    have hf := folder_of_follow_cons hr
    have hf' := (h.folders here).mpr hf
    by_cases hp : isStep part
    · rw [follow_step hf hp] at hr
      rw [follow_step hf' hp]
      exact ih hr
    · rw [follow_name hf hp] at hr
      rw [follow_name hf' hp]
      split at hr
      · cases hr
      · rename_i hs
        split at hr
        · have hthere : (w'.tree.get? (here ++ [part])).isSome := by
            cases rest with
            | nil =>
              -- the way ends here
              cases hr
              rwa [h.others _ hn]
            | cons _ _ => rw [(h.folders _).mpr (folder_of_follow_cons hr)]; rfl
          rw [if_neg hs, if_pos hthere]
          exact ih hr
        · cases hr

theorem locate_eq {node : Node} (hl : w.tree.locate w.folder p = .ok (place, node))
    (hn : place.getLast? ≠ some ConfigurationFile.environmentFileName) :
    w'.tree.locate w'.folder p = .ok (place, node) := by
  obtain ⟨hs, hr, hnode⟩ := locate_eq_ok hl
  rw [← h.folder] at hs hr
  exact (locate_eq_ok_iff hs).mpr ⟨h.follow_eq hr hn, (h.others place hn).trans hnode⟩

end Workspace.SameButVariables

namespace ConfigurationFile

/-- When the variables that a configuration file refers to are set, the file says the same whatever
files of variables there are: it says what it would say without any. -/
theorem load_beside_any_variables (hl : w.tree.locate w.folder p = .ok (place, .file bytes))
    (hn : place.getLast? ≠ some environmentFileName) (hs : SetsAll env bytes)
    (hd : w.SameButVariables w') :
    ((load (m := Session) env p).run.run w').1 = ((load (m := Session) env p).run.run w).1 ∧
      ((load (m := Session) env p).run.run w).1 = configurationIn env bytes p.holder := by
  have hload := load_of_setsAll hl hs
  exact ⟨(load_of_setsAll (hd.locate_eq hl hn) hs).trans hload.symm, hload⟩

/-- A configuration file in a folder, and no file of variables. -/
def prefixTree : FileTree :=
  (FileTree.empty.set ["p"] .folder).set ["p", "dto2ts.toml"]
    (.file "prefix = \"$\x7bA\x7d\"".toUTF8)

/-- A file of variables beside the configuration that breaks off, and another one in the working
folder. -/
def prefixTreeBesideVariables : FileTree :=
  (prefixTree.set ["p", ".env"] (.file "A=x\nB C".toUTF8)).set [".env"] (.file "A=y".toUTF8)

theorem sameButVariables_prefixTree :
    Workspace.SameButVariables ⟨prefixTree, []⟩ ⟨prefixTreeBesideVariables, []⟩ := by
  have hbeside : prefixTree.get? ["p", ".env"] ≠ some .folder := by
    rw [show prefixTree.get? ["p", ".env"] = none from rfl]
    exact nofun
  have habove : (prefixTree.set ["p", ".env"] (.file "A=x\nB C".toUTF8)).get? [".env"] ≠
      some .folder := by
    rw [show (prefixTree.set ["p", ".env"] (.file "A=x\nB C".toUTF8)).get? [".env"] = none from rfl]
    exact nofun
  exact (Workspace.SameButVariables.set ["p"] hbeside [] _).trans
    (Workspace.SameButVariables.set [] habove [] _)

/-- The variable is set to nothing, and no file gives it another value. -/
theorem load_beside_any_variables_of_prefixTree :
    (∃ bytes, prefixTree.locate [] ⟨"p/dto2ts.toml"⟩ =
      .ok (["p", "dto2ts.toml"], .file bytes) ∧
      SetsAll ⟨[("A", "")]⟩ bytes) ∧
    Workspace.SameButVariables ⟨prefixTree, []⟩ ⟨prefixTreeBesideVariables, []⟩ ∧
    ((load (m := Session) ⟨[("A", "")]⟩
      ⟨"p/dto2ts.toml"⟩).run.run ⟨prefixTreeBesideVariables, []⟩).1 =
      .ok { filePrefix := "", baseFolder := ⟨"p"⟩ } := by
  have hl : prefixTree.locate [] ⟨"p/dto2ts.toml"⟩ =
      .ok (["p", "dto2ts.toml"], .file "prefix = \"$\x7bA\x7d\"".toUTF8) := by
    rfl
  have hs : SetsAll ⟨[("A", "")]⟩ "prefix = \"$\x7bA\x7d\"".toUTF8 := by
    intro text c ht hd
    obtain rfl := Except.ok.inj (ht.symm.trans (Session.textOf_toUTF8 _))
    have hread : (Toml.ofText? "prefix = \"$\x7bA\x7d\"").bind Configuration.ofEntries? =
        some { filePrefix := "$\x7bA\x7d" } := by
      decide +kernel
    obtain rfl := Option.some.inj (hd.symm.trans hread)
    simp only [Environment.sets_iff]
    decide
  obtain ⟨hsame, hsays⟩ := load_beside_any_variables (w := ⟨prefixTree, []⟩) hl (by decide)
    hs sameButVariables_prefixTree
  refine ⟨⟨_, hl, hs⟩, sameButVariables_prefixTree, (hsame.trans hsays).trans ?_⟩
  rw [configurationIn, Session.textOf_toUTF8]
  decide +kernel

end ConfigurationFile

end ClassExport
