import ClassExport.Proofs.Closure
import Mathlib.Tactic.ByContra

/-! Which sources of classes a configuration stands for. -/
namespace ClassExport

namespace Session

variable {α β : Type} {w w' : Workspace}

/-- A run that leaves all files and folders as they are. -/
def Still (α : Type) (x : Session α) : Prop := ∀ w, (x.run w).2 = w

theorem still_asks : Asks Still fun _ => True where
  pure _ _ := rfl
  bind hx hf w := by
    rw [run_bind, hf w]
    exact hx w
  kind? _ _ := rfl
  readFile _ _ := rfl
  filesBelow _ _ _ := rfl
  parent? _ _ := trivial
  joinName _ _ := trivial

theorem Still.eq {x : Session α} {a : α} (h : Still α x) (hr : x.run w = (a, w')) : w' = w := by
  have hstill := h w
  rwa [hr] at hstill

theorem run_except_bind_eq_ok {x : ExceptT Failure Session α}
    {f : α → ExceptT Failure Session β} {b : β} :
    (x >>= f).run.run w = (.ok b, w') ↔
      ∃ a v, x.run.run w = (.ok a, v) ∧ (f a).run.run v = (.ok b, w') := by
  rw [run_except_bind]
  rcases x.run.run w with ⟨failure | a, v⟩
  · constructor
    · intro h
      cases h
    · rintro ⟨a, v', he, -⟩
      cases he
  · constructor
    · intro h
      exact ⟨a, v, rfl, h⟩
    · rintro ⟨a', v', he, h⟩
      cases he
      exact h

end Session

namespace Configuration

variable {c : Configuration}

/-- No scan path is set, and the descriptor file is set to a blank text. -/
def NamesNoSource (c : Configuration) : Prop :=
  c.scanPath = none ∧ ∃ text, c.descriptors = some text ∧ Text.isBlankText text

theorem descriptorFile?_eq_none :
    c.descriptorFile? = none ↔ ∀ text, c.descriptors = some text → Text.isBlankText text := by
  cases hd : c.descriptors with
  | none => simp [descriptorFile?, hd]
  | some text =>
    by_cases hb : Text.isBlankText text <;> simp [descriptorFile?, hd, Text.nonBlank?, hb]

theorem namesNoSource_iff :
    c.NamesNoSource ↔ c.descriptorFile? = none ∧ c.scanPath = none ∧
      c.descriptors ≠ none := by
  rw [NamesNoSource, descriptorFile?_eq_none]
  cases c.descriptors with
  | none => simp
  | some text => simp [and_comm]

end Configuration

namespace Setup

open Session

variable {c : Configuration} {w w' : Workspace} {sources described scanned : List ClassSource}

/-- The registry of the descriptor file, where there is one. -/
inductive Described (c : Configuration) (w : Workspace) : List ClassSource → Prop where
  | loaded {file : Path} {r : Registry} (hf : c.descriptorFile? = some file)
      (hr : (loadDescriptors (m := Session) file).run.run w = (.ok r, w)) :
        Described c w [.registry r]
  | absent (hf : c.descriptorFile? = none) : Described c w []

/-- The registry of a scan, where one is wanted. -/
inductive Scanned (c : Configuration) (w : Workspace) (wanted : Prop) :
    List ClassSource → Prop where
  | found {r : Registry} (hw : wanted)
      (hr : (Scan.scan (m := Session) c.scanRoot).run.run w = (.ok r, w)) :
      Scanned c w wanted [.registry r]
  | absent (hw : ¬ wanted) : Scanned c w wanted []

/-- The descriptors come first, then a scan where a scan path is set or there is no descriptor
file. -/
def FollowsConfiguration (c : Configuration) (w : Workspace) (sources : List ClassSource) : Prop :=
  ∃ described scanned, sources = described ++ scanned ∧ Described c w described ∧
    Scanned c w (c.scanPath ≠ none ∨ c.descriptorFile? = none) scanned

def describedSources (c : Configuration) : ExceptT Failure Session (List ClassSource) :=
  match c.descriptorFile? with
  | some file => do return [.registry (← loadDescriptors file)]
  | none => return []

def scannedSources (c : Configuration) : ExceptT Failure Session (List ClassSource) :=
  if c.scanPath.isSome || c.descriptors.isNone
    then do return [.registry (← Scan.scan c.scanRoot)] else return []

theorem classSources_eq (c : Configuration) : classSources (m := Session) c = do
    let described ← describedSources c
    let scanned ← scannedSources c
    return described ++ scanned := by
  rw [classSources, describedSources, scannedSources]
  by_cases hs : (c.scanPath.isSome || c.descriptors.isNone) = true <;> cases c.descriptorFile? <;>
    simp only [hs, if_true, if_false, Bool.false_eq_true, bind_assoc, pure_bind]

theorem described_of_run (h : (describedSources c).run.run w = (.ok described, w')) :
    w' = w ∧ Described c w described := by
  rw [describedSources] at h
  cases hf : c.descriptorFile? with
  | none =>
    rw [hf] at h
    cases h
    exact ⟨rfl, .absent hf⟩
  | some file =>
    rw [hf] at h
    obtain ⟨r, v, hr, he⟩ := run_except_bind_eq_ok.mp h
    cases he
    obtain rfl := Still.eq (still_asks.loadDescriptors trivial) hr
    exact ⟨rfl, .loaded hf hr⟩

theorem scanned_of_run (h : (scannedSources c).run.run w = (.ok scanned, w')) :
    w' = w ∧ Scanned c w (c.scanPath ≠ none ∨ c.descriptors = none) scanned := by
  have hiff : (c.scanPath.isSome || c.descriptors.isNone) = true ↔ c.scanPath ≠ none ∨
      c.descriptors = none := by
    cases c.scanPath <;> cases c.descriptors <;> simp
  rw [scannedSources] at h
  split at h
  · rename_i hw
    obtain ⟨r, v, hr, he⟩ := run_except_bind_eq_ok.mp h
    cases he
    obtain rfl := Still.eq (still_asks.scan trivial) hr
    exact ⟨rfl, .found (hiff.mp hw) hr⟩
  · rename_i hw
    cases h
    exact ⟨rfl, .absent (mt hiff.mpr hw)⟩

/-- What a configuration gives when all it names can be read. -/
theorem run_classSources (h : (classSources (m := Session) c).run.run w = (.ok sources, w')) :
    ∃ described scanned, sources = described ++ scanned ∧ Described c w described ∧
      Scanned c w (c.scanPath ≠ none ∨ c.descriptors = none) scanned := by
  rw [classSources_eq] at h
  obtain ⟨described, v, hd, h⟩ := run_except_bind_eq_ok.mp h
  obtain ⟨scanned, v', hs, h⟩ := run_except_bind_eq_ok.mp h
  cases h
  obtain ⟨rfl, hd⟩ := described_of_run hd
  exact ⟨described, scanned, rfl, hd, (scanned_of_run hs).2⟩

theorem Described.eq_nil_iff (h : Described c w described) :
    described = [] ↔ c.descriptorFile? = none := by
  cases h with
  | loaded hf _ => simp [hf]
  | absent hf => simp [hf]

theorem Scanned.eq_nil_iff {wanted : Prop} (h : Scanned c w wanted scanned) :
    scanned = [] ↔ ¬ wanted := by
  cases h with
  | found hw _ => simp [hw]
  | absent hw => simp [hw]

/-- The sources of a configuration are the ones that its settings stand for, unless the descriptor
file is set to a blank text and no scan path is set; then there are none. -/
theorem sources_follow_configuration_iff (h : (classSources (m := Session) c).run.run w =
    (.ok sources, w')) :
    (∃ described scanned, sources = described ++ scanned ∧ Described c w described ∧
        Scanned c w (c.scanPath ≠ none ∨ c.descriptors = none) scanned) ∧
      (FollowsConfiguration c w sources ↔ ¬ c.NamesNoSource) ∧
        (sources = [] ↔ c.NamesNoSource) := by
  obtain ⟨described, scanned, rfl, hd, hs⟩ := run_classSources h
  have hnil : described ++ scanned = [] ↔ c.NamesNoSource := by
    rw [List.append_eq_nil_iff, hd.eq_nil_iff, hs.eq_nil_iff,
      Configuration.namesNoSource_iff, not_or, not_not]
  refine ⟨⟨described, scanned, rfl, hd, hs⟩, ⟨?_, ?_⟩, hnil⟩
  · rintro ⟨described', scanned', he, -, hs'⟩ hn
    have hnone : scanned' = [] := (List.append_eq_nil_iff.mp (he ▸ hnil.mpr hn)).2
    exact hs'.eq_nil_iff.mp hnone (Or.inr (Configuration.namesNoSource_iff.mp hn).1)
  · intro hn
    have hwanted : c.scanPath ≠ none ∨ c.descriptors = none ↔ c.scanPath ≠ none ∨
        c.descriptorFile? = none := by
      rw [Configuration.namesNoSource_iff] at hn
      constructor
      · rintro (hs | hd)
        · exact Or.inl hs
        · exact Or.inr (Configuration.descriptorFile?_eq_none.mpr (by simp [hd]))
      · rintro (hs | hf)
        · exact Or.inl hs
        · by_contra ho
          rw [not_or, not_not] at ho
          exact hn ⟨hf, ho⟩
    exact ⟨described, scanned, rfl, hd, by rwa [← hwanted]⟩

/-- A folder with one file, which describes no class. -/
def describedFolder : Workspace := ⟨FileTree.empty.set ["c.json"] (.file "[[]]".toUTF8), []⟩

/-- A descriptor file, and a scan path that is blank but set. -/
def describedAndScanned : Configuration := { descriptors := some "c.json", scanPath := some " " }

theorem sources_follow_configuration_of_two :
    (classSources (m := Session) describedAndScanned).run.run describedFolder =
        (.ok [.registry .empty, .registry .empty], describedFolder) ∧
      (∃ described scanned, [.registry .empty, .registry .empty] = described ++ scanned ∧
        Described describedAndScanned describedFolder described ∧
        Scanned describedAndScanned describedFolder (describedAndScanned.scanPath ≠ none ∨
          describedAndScanned.descriptors = none) scanned) ∧
      (FollowsConfiguration describedAndScanned describedFolder
          [.registry .empty, .registry .empty] ↔ ¬ describedAndScanned.NamesNoSource) ∧
      ([ClassSource.registry .empty, .registry .empty] = [] ↔
        describedAndScanned.NamesNoSource) := by
  have hload : (describedSources describedAndScanned).run.run describedFolder =
      (.ok [.registry .empty], describedFolder) := by
    have hread : (Disk.readText ⟨"./c.json"⟩ : Session _).run describedFolder =
        (Disk.textOf "[[]]".toUTF8, describedFolder) := rfl
    have hfile : describedAndScanned.descriptorFile? = some ⟨"./c.json"⟩ := rfl
    rw [describedSources, hfile]
    dsimp only
    rw [run_except_bind, loadDescriptors, run_except_bind, run_lift, hread, textOf_toUTF8]
    rfl
  have hscan : (scannedSources describedAndScanned).run.run describedFolder =
      (.ok [.registry .empty], describedFolder) := by
    have hs : Scan.sourceFiles [["c.json"]] = [] := by
      have hf : ([["c.json"]].filter fun way => way.getLast?.any Scan.isSourceName) = [] := by
        decide
      rw [Scan.sourceFiles, hf, List.mergeSort_nil]
    have hfound : (Disk.filesBelow Scan.isEntered ⟨"."⟩ : Session _).run describedFolder =
        ([["c.json"]], describedFolder) := rfl
    have hfolder : (Disk.isFolder ⟨"."⟩ : Session _).run describedFolder =
      (true, describedFolder) := rfl
    have hroot : describedAndScanned.scanRoot = ⟨"."⟩ := rfl
    have hset : (describedAndScanned.scanPath.isSome || describedAndScanned.descriptors.isNone) =
      true := rfl
    rw [scannedSources, if_pos hset, run_except_bind, hroot, Scan.scan, run_except_bind,
      run_lift, hfolder]
    dsimp only
    rw [if_neg (by simp), run_except_bind, run_lift, hfound]
    dsimp only
    rw [hs]
    rfl
  have h : (classSources (m := Session) describedAndScanned).run.run describedFolder =
      (.ok [.registry .empty, .registry .empty], describedFolder) := by
    rw [classSources_eq, run_except_bind, hload]
    dsimp only
    rw [run_except_bind, hscan]
    rfl
  exact ⟨h, sources_follow_configuration_iff h⟩

/-- With a blank descriptor file and no scan path there is no source, though no descriptor file is
named. -/
theorem no_source_for_blank_descriptors :
    (classSources (m := Session) { descriptors := some "" }).run.run ⟨.empty, []⟩ =
      (.ok [], ⟨.empty, []⟩) ∧
      Configuration.descriptorFile? { descriptors := some "" } = none ∧
      ¬ FollowsConfiguration { descriptors := some "" } ⟨.empty, []⟩ [] := by
  refine ⟨rfl, rfl, ?_⟩
  rintro ⟨described, scanned, he, -, hs⟩
  have hnone : scanned = [] := (List.append_eq_nil_iff.mp he.symm).2
  exact hs.eq_nil_iff.mp hnone (Or.inr rfl)

end Setup

theorem Session.Asks.classSources {P : ∀ α : Type, Session α → Prop} {Q : Path → Prop}
    {c : Configuration} (h : Asks P Q) (hs : Q c.scanRoot)
    (hd : ∀ file, c.descriptorFile? = some file → Q file) :
    P _ (Setup.classSources c).run := by
  have hdescribed : P _ (Setup.describedSources c).run := by
    rw [Setup.describedSources]
    cases hf : c.descriptorFile? with
    | none => exact h.pure _
    | some file => exact h.except_bind (h.loadDescriptors (hd file hf)) fun _ => h.pure _
  have hscanned : P _ (Setup.scannedSources c).run := by
    rw [Setup.scannedSources]
    split
    · exact h.except_bind (h.scan hs) fun _ => h.pure _
    · exact h.pure _
  rw [Setup.classSources_eq]
  exact h.except_bind hdescribed fun _ => h.except_bind hscanned fun _ => h.pure _

end ClassExport
