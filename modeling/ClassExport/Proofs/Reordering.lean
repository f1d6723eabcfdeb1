import ClassExport.Proofs.Components
import ClassExport.Proofs.Obstacles

/-! Classes that go to different files of one folder may be exported in any order. -/
namespace ClassExport

open FileTree Disk Generation

variable {w v v' : Workspace} {here l place : Location} {p q : Path} {name other s : String}
  {init done names more : List String} {absolute : Bool} {node node' : Node}
  {resolve : String → Except Failure Class} {settings : EmitSettings} {dryRun : Bool} {c : Class}

/-! Output paths lie in one folder. -/

namespace Text

theorem toNat_ofNat (n : Nat) : (Char.ofNat n).toNat = if n.isValidChar then n else 0 := by
  by_cases h : n.isValidChar
  · rw [if_pos h, Char.ofNat, dif_pos h]
    rfl
  · rw [if_neg h, Char.ofNat, dif_neg h]
    rfl

theorem eq_slash_of_mem_lowerChar {c : Char} (h : '/' ∈ lowerChar c) : c = '/' := by
  have hascii : ∀ n < 128, (Char.ofNat n).toLower = '/' → Char.ofNat n = '/' := by decide
  have hruns : ∀ r ∈ lowerRuns.toList, (0x2f : Int) < r.first + r.shift := by decide +kernel
  rw [lowerChar] at h
  split at h
  · rename_i hc
    have hlower := hascii c.toNat hc
    rw [Char.ofNat_toNat] at hlower
    exact hlower (List.mem_singleton.mp h).symm
  · split at h
    · exact absurd h (by decide)
    · split at h
      · rename_i r hr
        have hshift := hruns r (Array.mem_toList_iff.mpr (Array.mem_of_find?_eq_some hr))
        have hc := Array.find?_some hr
        rw [CaseRun.covers, Bool.and_eq_true, Bool.and_eq_true, decide_eq_true_eq] at hc
        have hn : (Char.ofNat (c.toNat + r.shift).toNat).toNat = 0x2f :=
          congrArg Char.toNat (List.mem_singleton.mp h).symm
        rw [toNat_ofNat] at hn
        split at hn <;> omega
      · exact (List.mem_singleton.mp h).symm

theorem notMem_lowerFirst (h : '/' ∉ s.toList) : '/' ∉ (lowerFirst s).toList := by
  rw [lowerFirst]
  cases hs : s.toList with
  | nil => exact List.not_mem_nil
  | cons c cs =>
    rw [hs, List.mem_cons, not_or] at h
    rw [String.toList_ofList, List.mem_append, not_or]
    exact ⟨fun hm => h.1 (eq_slash_of_mem_lowerChar hm).symm, h.2⟩

theorem notMem_of_isBlankText (h : isBlankText s) : '/' ∉ s.toList := by
  intro hm
  have hb := List.all_eq_true.mp h _ hm
  exact absurd hb (by decide)

end Text

/-- A path to a name in the folder that some parts lead to. -/
structure Filed (absolute : Bool) (init : List String) (p : Path) : Prop where
  absolute : p.isAbsolute = absolute
  parts : ∃ name, p.parts = init ++ [name] ∧ ¬ isStep name

namespace Filed

variable (hp : Filed absolute init p)
include hp

theorem dropLast_parts : p.parts.dropLast = init := by
  obtain ⟨name, hparts, -⟩ := hp.parts
  rw [hparts, List.dropLast_concat]

theorem origin_eq : origin here p = if absolute then [] else here := by
  rw [origin, hp.absolute]

theorem target_notMem (hq : Filed absolute init q) (hu : ".." ∉ init) :
    target here p ∉ stops (origin here q) q.parts.dropLast := by
  obtain ⟨name, hparts, hn⟩ := hp.parts
  rw [hq.dropLast_parts, hq.origin_eq, ← hp.origin_eq]
  exact Workspace.target_notMem_stops hparts hn hu

theorem target_ne (hq : Filed absolute init q) (hne : p ≠ q) :
    target here p ≠ target here q := by
  obtain ⟨name, hparts, hn⟩ := hp.parts
  obtain ⟨other, hparts', hn'⟩ := hq.parts
  intro he
  rw [target_eq_concat hparts hn, target_eq_concat hparts' hn', hp.origin_eq, hq.origin_eq] at he
  have hname := List.head_eq_of_cons_eq (List.append_cancel_left he)
  apply hne
  rw [← Path.ofParts_parts p, ← Path.ofParts_parts q, hp.absolute, hq.absolute,
    hparts, hparts', hname]

end Filed

theorem filed_outputPath {className : String}
    (ha : (settings.outputPath className).isAbsolute = absolute)
    (hp : (settings.outputPath className).parts = init ++ [name]) :
    Filed absolute init (settings.outputPath className) := by
  obtain ⟨init', name', hp', hn⟩ := exists_parts_outputPath settings className
  obtain ⟨rfl, -⟩ := List.append_inj' (hp.symm.trans hp') rfl
  exact ⟨ha, name', hp', hn⟩

theorem up_notMem_parts (hu : .up ∉ p.components) : ".." ∉ Path.moves p.parts := by
  intro hm
  apply hu
  rw [Path.components_eq, Path.componentsOf]
  exact List.mem_append_right _ (List.mem_map.mpr ⟨"..", hm, rfl⟩)

theorem exists_filed (hpre : '/' ∉ settings.filePrefix.toList)
    (hsuf : '/' ∉ settings.fileSuffix.toList)
    (hu : .up ∉ (Path.mk settings.outputFolder).components) : ∃ absolute init, ".." ∉ init ∧
      ∀ className : String, '/' ∉ className.toList →
        Filed absolute init (settings.outputPath className) := by
  let fileName (className : String) :=
    settings.filePrefix ++ Text.lowerFirst className ++ settings.fileSuffix ++ ".ts"
  have hfile : ∀ className : String, '/' ∉ className.toList →
      '/' ∉ (fileName className).toList := by
    intro className hc
    have hl := Text.notMem_lowerFirst hc
    simp [fileName, hpre, hsuf, hl]
  have htext : ∀ className, (settings.outputPath className).text = settings.folderText ++
      fileName className := by
    intro className
    simp only [EmitSettings.outputPath, fileName, String.append_assoc]
  by_cases hb : Text.isBlankText settings.outputFolder
  · -- nothing that is blank has a slash, so the path is a name
    refine ⟨false, [], List.not_mem_nil, fun className hc => ?_⟩
    have hfolder : settings.folderText = settings.outputFolder := by
      rw [EmitSettings.folderText, hb]
      rfl
    have hslash : '/' ∉ (settings.outputPath className).text.toList := by
      rw [htext, hfolder, String.toList_append, List.mem_append, not_or]
      exact ⟨Text.notMem_of_isBlankText hb, hfile className hc⟩
    have ha : (settings.outputPath className).isAbsolute = false :=
      Path.isAbsolute_of_noSlash hslash
    have hparts : (settings.outputPath className).parts = [] ++
        [(settings.outputPath className).text] := by
      rw [Path.parts, ha, Text.pieces_eq_splitOn]
      simp [List.splitOn_eq_singleton hslash]
    exact filed_outputPath ha hparts
  · have hne : (Path.mk settings.outputFolder).text ≠ "" := by
      rintro he
      exact hb (by rw [show settings.outputFolder = "" from he]; rfl)
    obtain ⟨init, hj⟩ := Path.exists_init_joinedParts hne
    refine ⟨(Path.mk settings.outputFolder).isAbsolute, init, ?_, fun className hc => ?_⟩
    · intro hm
      have hmoves : ".." ∈ Path.moves init := List.mem_filter.mpr ⟨hm, by decide⟩
      rw [(hj "" (by decide)).moves] at hmoves
      exact up_notMem_parts hu hmoves
    · have hpath : settings.outputPath className =
          (Path.mk settings.outputFolder).joinName (fileName className) := by
        have hn : (Path.mk (fileName className)).isAbsolute = false :=
          Path.isAbsolute_of_noSlash (hfile className hc)
        have hjoin : ((Path.mk settings.outputFolder).joinName (fileName className)).text =
            settings.folderText ++ fileName className := by
          rw [Path.joinName, Path.join, hn, if_neg Bool.false_ne_true, EmitSettings.folderText]
          by_cases hlast : settings.outputFolder.toList.getLast? = some '/'
          · simp [hlast]
          · have hn : settings.outputFolder ≠ "" := hne
            simp [hlast, hb, hn]
        exact congrArg Path.mk ((htext className).trans hjoin.symm)
      have hjoined := hj _ (hfile className hc)
      exact filed_outputPath ((congrArg Path.isAbsolute hpath).trans hjoined.absolute)
        ((congrArg Path.parts hpath).trans hjoined.parts)

/-! One class. -/

instance : Decidable (w.HasFile p) := inferInstanceAs (Decidable (_ = some NodeKind.file))

/-- What a name comes to, as the workspace before it has it. -/
def outcomeAt (resolve : String → Except Failure Class) (settings : EmitSettings)
    (dryRun : Bool) (w : Workspace) (name : String) : Outcome :=
  match resolve name with
  | .error failure => .failed failure
  | .ok c =>
    if settings.overwrite = false ∧ w.HasFile (settings.outputPath c.name)
      then .skipped (settings.outputPath c.name)
    else if dryRun then .dryRun (settings.outputPath c.name) (c.render settings)
    else .ofWrite (settings.outputPath c.name) (c.render settings)
      (resultOf (w.refusal (settings.outputPath c.name)))

/-- What a name puts at a place. -/
def madeAt? (resolve : String → Except Failure Class) (settings : EmitSettings)
    (dryRun : Bool) (w : Workspace) (name : String) (l : Location) : Option Node :=
  match resolve name with
  | .error _ => none
  | .ok c =>
    if settings.overwrite = false ∧ w.HasFile (settings.outputPath c.name) ∨ dryRun then none
    else w.left? (settings.outputPath c.name) (c.render settings) l

/-- The names ask for classes with different files, if for classes at all. -/
def Apart (resolve : String → Except Failure Class) (settings : EmitSettings)
    (a b : String) : Prop :=
  ∀ c d, resolve a = .ok c → resolve b = .ok d →
    settings.outputPath c.name ≠ settings.outputPath d.name

/-- The names ask for classes whose files lie beside each other in one folder that is named without
`..`. -/
structure FilesApart (resolve : String → Except Failure Class) (settings : EmitSettings)
    (names : List String) :
    Prop where
  filePrefix : '/' ∉ settings.filePrefix.toList
  fileSuffix : '/' ∉ settings.fileSuffix.toList
  folder : .up ∉ (Path.mk settings.outputFolder).components
  plain : ∀ name ∈ names, ∀ c, resolve name = .ok c → '/' ∉ c.name.toList
  paths : names.Pairwise (Apart resolve settings)

theorem run_generateName_eq (dryRun : Bool) (h : w.Sound) (hu : ".." ∉ init)
    (hp : ∀ c, resolve name = .ok c → Filed absolute init (settings.outputPath c.name)) :
    ((generateName (m := Session) resolve settings dryRun name).run w).1.1 =
        outcomeAt resolve settings dryRun w name ∧
      (∀ l, ((generateName (m := Session) resolve settings dryRun name).run w).2.tree.get? l =
        (madeAt? resolve settings dryRun w name l).or (w.tree.get? l)) ∧
      ((generateName (m := Session) resolve settings dryRun name).run w).2.Sound ∧
      ((generateName (m := Session) resolve settings dryRun name).run w).2.folder = w.folder := by
  cases hr : resolve name with
  | error failure =>
    rw [generateName, outcomeAt, hr]
    exact ⟨rfl, fun l => by rw [madeAt?, hr]; rfl, h, rfl⟩
  | ok c =>
    obtain ⟨last, hparts, hn⟩ := (hp c hr).parts
    by_cases hk : settings.overwrite = false ∧ w.HasFile (settings.outputPath c.name)
    · have hmade : ∀ l, madeAt? resolve settings dryRun w name l = none := by
        intro l
        simp only [madeAt?, hr, if_pos (Or.inl hk)]
      rw [generateName, outcomeAt, hr]
      dsimp only
      rw [run_generateClass_of_kept hk.1 hk.2, if_pos hk]
      exact ⟨rfl, fun l => by rw [hmade]; rfl, h, rfl⟩
    · have ho := (kept_or_open settings w (settings.outputPath c.name)).resolve_left hk
      cases dryRun with
      | true =>
        have hmade : ∀ l, madeAt? resolve settings true w name l = none := by
          intro l
          simp only [madeAt?, hr, or_true, if_true]
        rw [generateName, outcomeAt, hr]
        dsimp only
        rw [run_generateClass_dry ho, if_neg hk]
        exact ⟨rfl, fun l => by rw [hmade]; rfl, h, rfl⟩
      | false =>
        have hmade : ∀ l, madeAt? resolve settings false w name l =
            w.left? (settings.outputPath c.name) (c.render settings) l := by
          intro l
          simp only [madeAt?, hr, hk, Bool.false_eq_true, or_self, if_false]
        obtain ⟨hres, hget⟩ := Workspace.run_writeThrough_eq h hparts hn hu (c.render settings)
        have hlater := (writtenThrough_run h (settings.outputPath c.name) (c.render settings)).later
        rcases hw : (writeThrough (m := Session) (settings.outputPath c.name)
          (c.render settings)).run w with ⟨r, w'⟩
        rw [hw] at hres hget hlater
        obtain ⟨events, he⟩ := run_generateName_of_open hr ho hw
        rw [he, outcomeAt, hr]
        dsimp only at hres hget ⊢
        rw [if_neg hk, if_neg Bool.false_ne_true, hres]
        exact ⟨rfl, fun l => by rw [hmade, hget], hlater.sound, hlater.folder⟩

/-! The others leave the way of a class as it is. -/

/-- The second workspace is the first one with what each of some names alone puts there. -/
structure Overlaid (resolve : String → Except Failure Class)
    (settings : EmitSettings) (dryRun : Bool) (done : List String) (w v : Workspace) : Prop where
  sound : v.Sound
  folder : v.folder = w.folder
  same : ∀ l, (∀ n ∈ done, madeAt? resolve settings dryRun w n l = none) →
    v.tree.get? l = w.tree.get? l
  made : ∀ n ∈ done, ∀ l node, madeAt? resolve settings dryRun w n l = some node →
    v.tree.get? l = some node

theorem exists_left (hm : madeAt? resolve settings dryRun w name l = some node) :
    ∃ c, resolve name = .ok c ∧
      w.left? (settings.outputPath c.name) (c.render settings) l = some node := by
  rw [madeAt?] at hm
  cases hr : resolve name with
  | error failure =>
    rw [hr] at hm
    cases hm
  | ok c =>
    rw [hr] at hm
    dsimp only at hm
    split at hm
    · cases hm
    · exact ⟨c, rfl, hm⟩

theorem none_or_made (resolve : String → Except Failure Class) (settings : EmitSettings)
    (dryRun : Bool) (w : Workspace) (names : List String) (l : Location) :
    (∀ n ∈ names, madeAt? resolve settings dryRun w n l = none) ∨
      ∃ n ∈ names, ∃ node, madeAt? resolve settings dryRun w n l = some node := by
  refine Classical.or_iff_not_imp_left.mpr fun hn => ?_
  simpa [Option.ne_none_iff_exists'] using hn

theorem Workspace.eq_of_left? {text : String} (hl : w.left? p text l = some node) :
    l = target w.folder p ∨ node = .folder ∧ l ∈ w.opened p := by
  rw [left?] at hl
  split at hl
  · rename_i h
    exact Or.inl h.2
  · split at hl
    · rename_i h
      exact Or.inr ⟨(Option.some.inj hl).symm, h⟩
    · cases hl

theorem Workspace.opened_subset (hl : l ∈ w.opened p) :
    l ∈ reached w.tree (origin w.folder p) p.parts.dropLast := by
  rw [opened] at hl
  split at hl
  · cases hl
  · exact hl

namespace Filed

variable (hp : Filed absolute init p) (hq : Filed absolute init q)
include hp hq

/-- What two different classes put at one place is the same folder. -/
theorem left?_unique {text text' : String} (hu : ".." ∉ init) (hne : p ≠ q)
    (hl : w.left? p text l = some node) (hl' : w.left? q text' l = some node') : node = node' := by
  rcases Workspace.eq_of_left? hl with rfl | ⟨rfl, ho⟩
  · rcases Workspace.eq_of_left? hl' with he | ⟨-, ho'⟩
    · exact (hp.target_ne hq hne he).elim
    · exact (hp.target_notMem hq hu (mem_stops_of_mem_reached (Workspace.opened_subset ho'))).elim
  · rcases Workspace.eq_of_left? hl' with rfl | ⟨rfl, -⟩
    · exact (hq.target_notMem hp hu (mem_stops_of_mem_reached (Workspace.opened_subset ho))).elim
    · rfl

end Filed

/-- What the names before it put into the tree changes nothing that a class looks at. -/
theorem Overlaid.sameWay (h : w.Sound) (ho : Overlaid resolve settings dryRun done w v)
    (hu : ".." ∉ init) (hp : Filed absolute init p)
    (hd : ∀ n ∈ done, ∀ c, resolve n = .ok c →
      Filed absolute init (settings.outputPath c.name) ∧
      settings.outputPath c.name ≠ p) : w.SameWay v p := by
  refine ⟨ho.folder, fun l hl => ?_, ho.same _ fun n hn => ?_⟩
  · rcases none_or_made resolve settings dryRun w done l with hm | ⟨n, hn, node, hm⟩
    · rw [hasFileAt, ho.same l hm, hasFileAt]
    · obtain ⟨c, hr, hleft⟩ := exists_left hm
      obtain ⟨hq, -⟩ := hd n hn c hr
      rcases Workspace.eq_of_left? hleft with rfl | ⟨rfl, hopen⟩
      · exact (hq.target_notMem hp hu hl).elim
      · have hbase := folder_origin (p := settings.outputPath c.name) h.folder
        rw [hasFileAt_of_folder (ho.made n hn l _ hm),
          hasFileAt_of_mem_reached (hasFileAt_of_folder hbase) (Workspace.opened_subset hopen)]
  · by_contra hm
    obtain ⟨node, hm⟩ := Option.ne_none_iff_exists'.mp hm
    obtain ⟨c, hr, hleft⟩ := exists_left hm
    obtain ⟨hq, hne⟩ := hd n hn c hr
    rcases Workspace.eq_of_left? hleft with he | ⟨-, hopen⟩
    · exact hq.target_ne hp hne he.symm
    · exact hp.target_notMem hq hu (mem_stops_of_mem_reached (Workspace.opened_subset hopen))

theorem outcomeAt_congr (dryRun : Bool) (h : w.Sound) (hv : v.Sound) (hu : ".." ∉ init)
    (hp : ∀ c, resolve name = .ok c → Filed absolute init (settings.outputPath c.name))
    (hs : ∀ c, resolve name = .ok c → w.SameWay v (settings.outputPath c.name)) :
    outcomeAt resolve settings dryRun v name = outcomeAt resolve settings dryRun w name ∧
      ∀ l, madeAt? resolve settings dryRun v name l =
        madeAt? resolve settings dryRun w name l := by
  simp only [outcomeAt, madeAt?]
  cases hr : resolve name with
  | error failure => exact ⟨rfl, fun _ => rfl⟩
  | ok c =>
    obtain ⟨last, hparts, hn⟩ := (hp c hr).parts
    have hway := hs c hr
    have hk := hway.hasFile_iff h hv hparts hn hu
    simp only [hk, hway.refusal_eq, hway.left?_eq, implies_true, and_self]

section

variable (h : w.Sound) (hu : ".." ∉ init)
  (hp : ∀ n ∈ done ++ name :: names, ∀ c, resolve n = .ok c →
    Filed absolute init (settings.outputPath c.name))
  (hd : (done ++ name :: names).Pairwise (Apart resolve settings))
include h hu hp hd

/-- A class comes after some others to what it comes to alone. -/
theorem Overlaid.step (ho : Overlaid resolve settings dryRun done w v) :
    ((generateName (m := Session) resolve settings dryRun name).run v).1.1 =
        outcomeAt resolve settings dryRun w name ∧
      Overlaid resolve settings dryRun (done ++ [name]) w
        ((generateName (m := Session) resolve settings dryRun name).run v).2 := by
  have hname := hp name (by simp)
  have hdone : ∀ n ∈ done, ∀ c, resolve n = .ok c →
      Filed absolute init (settings.outputPath c.name) :=
    fun n hn => hp n (List.mem_append_left _ hn)
  have hapart : ∀ n ∈ done, Apart resolve settings n name :=
    fun n hn => (List.pairwise_append.mp hd).2.2 n hn name List.mem_cons_self
  have hway : ∀ d, resolve name = .ok d → w.SameWay v (settings.outputPath d.name) :=
    fun d hr => ho.sameWay h hu (hname d hr) fun n hn c hc =>
      ⟨hdone n hn c hc, hapart n hn c d hc hr⟩
  obtain ⟨hout, hget, hsound, hfolder⟩ := run_generateName_eq dryRun ho.sound hu hname
  obtain ⟨hout', hmade⟩ := outcomeAt_congr dryRun h ho.sound hu hname hway
  refine ⟨hout.trans hout', hsound, hfolder.trans ho.folder, fun l hl => ?_,
    fun n hn l node hm => ?_⟩
  · rw [List.forall_mem_append, List.forall_mem_singleton] at hl
    rw [hget, hmade, hl.2]
    exact ho.same l hl.1
  · rw [hget, hmade]
    rcases List.mem_append.mp hn with hn | hn
    · cases hm' : madeAt? resolve settings dryRun w name l with
      | none => exact ho.made n hn l node hm
      | some node' =>
        obtain ⟨c, hr, hl⟩ := exists_left hm
        obtain ⟨d, hr', hl'⟩ := exists_left hm'
        exact congrArg some
          ((hdone n hn c hr).left?_unique (hname d hr') hu (hapart n hn c d hr hr') hl hl').symm
    · rw [List.mem_singleton.mp hn] at hm
      rw [hm]
      rfl

end

/-- So does each name of a run, and what all of them put into the tree is there in the end. -/
theorem overlaid_generateEach (h : w.Sound) (hu : ".." ∉ init)
    (hp : ∀ n ∈ done ++ names, ∀ c, resolve n = .ok c →
      Filed absolute init (settings.outputPath c.name))
    (hd : (done ++ names).Pairwise (Apart resolve settings))
    (ho : Overlaid resolve settings dryRun done w v) :
    ((generateEach (m := Session) resolve settings dryRun names).run v).1.1 =
        names.map (fun name => (name, outcomeAt resolve settings dryRun w name)) ∧
      Overlaid resolve settings dryRun (done ++ names) w
        ((generateEach (m := Session) resolve settings dryRun names).run v).2 := by
  induction names generalizing v done with
  | nil =>
    rw [List.append_nil]
    exact ⟨rfl, ho⟩
  | cons name names ih =>
    obtain ⟨hout, hstep⟩ := ho.step h hu hp hd
    rw [List.append_cons] at hp hd ⊢
    obtain ⟨hentries, hend⟩ := ih hp hd hstep
    refine ⟨?_, hend⟩
    rw [List.map_cons, ← hentries, ← hout]
    rfl

theorem Overlaid.get?_eq (h₁ : Overlaid resolve settings dryRun names w v)
    (h₂ : Overlaid resolve settings dryRun more w v')
    (hm : ∀ n, n ∈ more ↔ n ∈ names) (l : Location) :
    v'.tree.get? l = v.tree.get? l := by
  rcases none_or_made resolve settings dryRun w names l with hl | ⟨n, hn, node, hl⟩
  · rw [h₁.same l hl, h₂.same l fun n hn => hl n ((hm n).mp hn)]
  · rw [h₁.made n hn l node hl, h₂.made n ((hm n).mpr hn) l node hl]

theorem overlaid_nil (h : w.Sound) : Overlaid resolve settings dryRun [] w w :=
  ⟨h, rfl, fun _ _ => rfl, fun _ hn => nomatch hn⟩

theorem FilesApart.perm (ha : FilesApart resolve settings names) (hm : more.Perm names) :
    FilesApart resolve settings more := by
  have hsymm : ∀ a b, Apart resolve settings a b → Apart resolve settings b a :=
    fun a b hab c d hc hd he => hab d c hd hc he.symm
  exact ⟨ha.filePrefix, ha.fileSuffix, ha.folder, fun n hn => ha.plain n (hm.mem_iff.mp hn),
    ha.paths.perm hm.symm fun hab => hsymm _ _ hab⟩

/-- A run for names whose files lie apart comes for each name to what the name comes to alone. -/
theorem FilesApart.overlaid (h : w.Sound) (ha : FilesApart resolve settings names) (dryRun : Bool) :
    ((generateEach (m := Session) resolve settings dryRun names).run w).1.1 = names.map (fun name =>
        (name, ((generateName (m := Session) resolve settings dryRun name).run w).1.1)) ∧
      Overlaid resolve settings dryRun names w
        ((generateEach (m := Session) resolve settings dryRun names).run w).2 := by
  obtain ⟨absolute, init, hu, hf⟩ := exists_filed ha.filePrefix ha.fileSuffix ha.folder
  have hp : ∀ n ∈ [] ++ names, ∀ c, resolve n = .ok c →
      Filed absolute init (settings.outputPath c.name) :=
    fun n hn c hr => hf c.name (ha.plain n hn c hr)
  have hd : ([] ++ names).Pairwise (Apart resolve settings) := ha.paths
  obtain ⟨hentries, hend⟩ := overlaid_generateEach h hu hp hd (overlaid_nil h)
  refine ⟨hentries.trans (List.map_congr_left fun n hn => ?_), hend⟩
  rw [(run_generateName_eq dryRun h hu (hp n hn)).1]

/-- Classes that go to different files of one folder come each to what it comes to alone, in
whatever order they are exported, and in the end the same files and folders are there. -/
theorem Generation.run_perm {first second : Report} {firstEvents secondEvents : List Event}
    {w₁ w₂ : Workspace} (h : w.Sound) (ha : FilesApart resolve settings names)
    (hm : more.Perm names)
    (h₁ : (generate (m := Session) resolve settings dryRun names).run w =
        ((first, firstEvents), w₁))
    (h₂ : (generate (m := Session) resolve settings dryRun more).run w =
      ((second, secondEvents), w₂)) :
    first.entries = names.map (fun name =>
      (name, ((generateName (m := Session) resolve settings dryRun name).run w).1.1)) ∧
    second.entries = more.map (fun name =>
      (name, ((generateName (m := Session) resolve settings dryRun name).run w).1.1)) ∧
    w₂.folder = w₁.folder ∧ ∀ place, w₂.tree.get? place = w₁.tree.get? place := by
  obtain ⟨hfirst, hone⟩ := ha.overlaid h dryRun
  obtain ⟨hsecond, htwo⟩ := (ha.perm hm).overlaid h dryRun
  cases h₁
  cases h₂
  exact ⟨hfirst, hsecond, htwo.folder.trans hone.folder.symm,
    hone.get?_eq htwo fun n => hm.mem_iff⟩

/-- One class keeps its file, one is not found and one is written. -/
theorem Generation.run_perm_beside_kept_file :
    let resolve : String → Except Failure Class := fun name =>
      if name = "Nobody" then .error (.classNotFound name) else .ok ⟨name, "", []⟩
    let settings : EmitSettings := { outputFolder := "./", overwrite := false }
    let w : Workspace := ⟨⟨[(["user.ts"], .file "kept".toUTF8)]⟩, []⟩
    w.Sound ∧ FilesApart resolve settings ["User", "Nobody", "Item"] ∧
      ∃ first second firstEvents secondEvents w₁ w₂,
      (generate (m := Session) resolve settings false ["User", "Nobody", "Item"]).run w =
        ((first, firstEvents), w₁) ∧
      (generate (m := Session) resolve settings false ["Item", "User", "Nobody"]).run w =
        ((second, secondEvents), w₂) ∧
      first.entries = [("User", .skipped ⟨"./user.ts"⟩),
        ("Nobody", .failed (.classNotFound "Nobody")), ("Item", .written ⟨"./item.ts"⟩ 22)] ∧
      second.entries = [("Item", .written ⟨"./item.ts"⟩ 22),
        ("User", .skipped ⟨"./user.ts"⟩), ("Nobody", .failed (.classNotFound "Nobody"))] ∧
      w₂.folder = w₁.folder ∧ ∀ place, w₂.tree.get? place = w₁.tree.get? place := by
  intro resolve settings w
  have hf : empty.get? [] = some .folder := rfl
  have h : Workspace.Sound ⟨⟨[(["user.ts"], .file "kept".toUTF8)]⟩, []⟩ :=
    ⟨wellFormed_empty.set hf (Or.inl (by simp [FileTree.get?, empty])), rfl⟩
  have hname : ∀ name c, resolve name = .ok c → c.name = name := by
    intro name c hr
    simp only [resolve] at hr
    split at hr
    · cases hr
    · cases hr
      rfl
  have hpaths : ["User", "Nobody", "Item"].Pairwise fun a b =>
    settings.outputPath a ≠ settings.outputPath b := by decide
  have hplain : ∀ name ∈ ["User", "Nobody", "Item"], '/' ∉ name.toList := by decide
  have ha : FilesApart resolve settings ["User", "Nobody", "Item"] := by
    refine ⟨by decide, by decide, by decide, fun name hn c hr => ?_,
      hpaths.imp fun hab c d hc hd => ?_⟩
    · rw [hname name c hr]
      exact hplain name hn
    · rw [hname _ c hc, hname _ d hd]
      exact hab
  have hm : ["Item", "User", "Nobody"].Perm ["User", "Nobody", "Item"] := by decide
  rcases h₁ : (generate (m := Session) resolve settings false ["User", "Nobody", "Item"]).run w
    with ⟨⟨first, firstEvents⟩, w₁⟩
  rcases h₂ : (generate (m := Session) resolve settings false ["Item", "User", "Nobody"]).run w
    with ⟨⟨second, secondEvents⟩, w₂⟩
  obtain ⟨hfirst, hsecond, hend⟩ := Generation.run_perm h ha hm h₁ h₂
  refine ⟨h, ha, first, second, firstEvents, secondEvents, w₁, w₂, rfl, rfl, hfirst.trans ?_,
    hsecond.trans ?_, hend⟩
  · decide +kernel
  · decide +kernel

end ClassExport
