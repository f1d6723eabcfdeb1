import ClassExport.Proofs.Lookup
import ClassExport.Proofs.Packages
import Mathlib.Data.List.Sort
import Mathlib.Data.String.Basic

/-! What a scan finds below a folder, and which changes below the folder it does not see. -/
namespace ClassExport.Scan

open FileTree Disk

variable {w : Workspace} {t t' : FileTree} {base place : Location} {root : Path}
  {name package : String} {way names : List String} {ways ways' : List (List String)}
  {bytes : ByteArray}

/-- The folders that a scan does not enter. -/
def Skipped (folder : String) : Prop :=
  folder = "target" ∨ folder = "node_modules" ∨ ∃ rest, folder = "." ++ rest

def SourceName (name : String) : Prop := ∃ stem, stem ≠ "" ∧ name = stem ++ ".rs"

/-- Names lead from a place through folders that are entered to a source file. -/
structure SourceAt (t : FileTree) (base : Location) (way : List String) : Prop where
  file : ∃ bytes, t.get? (base ++ way) = some (.file bytes)
  entered : ∀ folder ∈ way.dropLast, ¬ Skipped folder
  named : ∃ name ∈ way.getLast?, SourceName name

/-- The classes that the content of a file declares; none if it is no text or no source. -/
def classesIn (bytes : ByteArray) (package : String) : List Class :=
  match textOf bytes with
  | .ok text => (Source.classes text package).toOption.getD []
  | .error _ => []

def packageAt (w : Workspace) (root : Path) (way : List String) : String :=
  ((packageOf root (pathTo root way) : Session String).run w).1

/-- The classes of the file that names lead to. -/
def declared (w : Workspace) (root : Path) (base : Location) (way : List String) : List Class :=
  match w.tree.content? (base ++ way) with
  | some bytes => classesIn bytes (packageAt w root way)
  | none => []

/-- A source file that does not parse, or nothing in its place. -/
def Barren (t : FileTree) (place : Location) : Prop :=
  (∃ name ∈ place.getLast?, SourceName name) ∧ ∀ node, t.get? place = some node →
    ∃ bytes, node = .file bytes ∧ ∀ text, textOf bytes = .ok text →
      Source.items? text = none

/-- What may differ between two trees at a place without being seen by a scan from `base`. -/
inductive Unseen (base : Location) (t t' : FileTree) : Location → Prop where
  | same {place : Location} (h : t'.get? place = t.get? place) : Unseen base t t' place
  | skipped {folder : String} {names below : List String} (hs : Skipped folder)
      (hb : below ≠ []) :
      Unseen base t t' (base ++ names ++ folder :: below)
  | barren {place : Location} (h : Barren t place) (h' : Barren t' place) : Unseen base t t' place

theorem Unseen.symm (h : Unseen base t t' place) : Unseen base t' t place := by
  cases h with
  | same h => exact .same h.symm
  | skipped hs hb => exact .skipped hs hb
  | barren h h' => exact .barren h' h

theorem isEntered_iff : isEntered name ↔ ¬ Skipped name := by
  have hdot : name.toList.head? = some '.' ↔ ∃ rest, name = "." ++ rest := by
    constructor
    · intro hh
      obtain ⟨cs, hcs⟩ := List.head?_eq_some_iff.mp hh
      exact ⟨String.ofList cs, String.toList_injective (by simp [hcs])⟩
    · rintro ⟨rest, rfl⟩
      simp
  simp only [isEntered, Skipped, ← hdot, Bool.not_eq_true', Bool.or_eq_false_iff,
    beq_eq_false_iff_ne, ne_eq, decide_eq_false_iff_not]
  tauto

theorem isSourceName_iff : isSourceName name ↔ SourceName name := by
  have hext : isSourceName name ↔ ∃ stem, Path.cutExtension name = (stem, some "rs") := by
    rw [isSourceName, decide_eq_true_iff]
    exact ⟨fun h => ⟨_, Prod.ext rfl h⟩, fun ⟨stem, h⟩ => by rw [h]⟩
  have hrs : '.' ∉ "rs".toList := by decide
  simp only [hext, Path.cutExtension_eq_iff, hrs, not_false_eq_true, true_and, SourceName,
    String.append_assoc]
  rfl

/-! The files that are found, and their order. -/

theorem compare_isLE_iff {a b : List String} : (compare a b).isLE = true ↔ a ≤ b := by
  rw [← not_lt]
  induction a generalizing b with
  | nil => cases b <;> simp
  | cons s a ih =>
    cases b with
    | nil => simp
    | cons r b =>
      rw [List.compare_cons_cons, List.cons_lt_cons_iff,
        show compare s r = compareOfLessAndEq s r from rfl, compareOfLessAndEq]
      obtain hl | rfl | hg := lt_trichotomy s r
      · have hn : ¬ r < s := lt_asymm hl
        simp [hl, hl.ne', hn]
      · simpa using ih
      · have hn : ¬ s < r := lt_asymm hg
        simp [hg, hg.ne', hn]

theorem pairwise_sourceFiles (h : ways.Nodup) : (sourceFiles ways).Pairwise (· < ·) := by
  have hn : (sourceFiles ways).Nodup := (List.mergeSort_perm _ _).nodup_iff.mpr (h.filter _)
  have hle : (sourceFiles ways).Pairwise (· ≤ ·) := by
    refine (List.pairwise_mergeSort ?_ ?_ _).imp compare_isLE_iff.mp
    · simpa only [compare_isLE_iff] using fun a b c => le_trans
    · simpa only [Bool.or_eq_true, compare_isLE_iff] using le_total
  exact (hle.and hn).imp fun h => lt_of_le_of_ne h.1 h.2

theorem mem_sourceFiles (h : t.WellFormed) :
    way ∈ sourceFiles (t.filesBelow isEntered base) ↔ SourceAt t base way := by
  have hnamed : way.getLast?.any isSourceName = true ↔ ∃ name ∈ way.getLast?,
      SourceName name := by
    rw [Option.any_eq_true]
    simp only [isSourceName_iff, Option.mem_def]
  rw [sourceFiles, List.mem_mergeSort, List.mem_filter, hnamed, h.mem_filesBelow]
  simp only [isEntered_iff]
  exact ⟨fun ⟨⟨hf, he⟩, hn⟩ => ⟨hf, he, hn⟩, fun ⟨hf, he, hn⟩ =>
    ⟨⟨hf, he⟩, hn⟩⟩

theorem flatMap_filter_ne_nil (f : List String → List Class) (ways : List (List String)) :
    (ways.filter (f · ≠ [])).flatMap f = ways.flatMap f := by
  induction ways with
  | nil => rfl
  | cons way ways ih =>
    rw [List.flatMap_cons, List.filter_cons, ← ih]
    split <;> simp_all

/-- Files without classes do not count. -/
theorem flatMap_eq_of_sorted {f g : List String → List Class} (hw : ways.Pairwise (· < ·))
    (hw' : ways'.Pairwise (· < ·))
    (h : ∀ way ∈ ways, f way ≠ [] → way ∈ ways' ∧ g way = f way)
    (h' : ∀ way ∈ ways', g way ≠ [] → way ∈ ways ∧ f way = g way) :
    ways.flatMap f = ways'.flatMap g := by
  have hmem : ∀ way, way ∈ ways.filter (f · ≠ []) ↔
      way ∈ ways'.filter (g · ≠ []) := by
    simp only [List.mem_filter, decide_eq_true_eq]
    intro way
    constructor
    · rintro ⟨hm, hf⟩
      obtain ⟨hm', he⟩ := h way hm hf
      exact ⟨hm', he ▸ hf⟩
    · rintro ⟨hm, hg⟩
      obtain ⟨hm', he⟩ := h' way hm hg
      exact ⟨hm', he ▸ hg⟩
  have hsame : ways.filter (f · ≠ []) = ways'.filter (g · ≠ []) :=
    (hw.filter _).eq_of_mem_iff (hw'.filter _) fun {way} => hmem way
  rw [← flatMap_filter_ne_nil f, ← flatMap_filter_ne_nil g, ← hsame]
  refine List.flatMap_congr fun way hm => ?_
  obtain ⟨hm, hf⟩ := List.mem_filter.mp hm
  exact (h way hm (of_decide_eq_true hf)).2.symm

/-! The scan of one tree. -/

/-- A root that is a folder of a tree in which all that is there has a name. -/
structure Scannable (w : Workspace) (root : Path) (base : Location) : Prop where
  tree : w.tree.WellFormed
  named : w.tree.Named
  opens : w.Opens root base

/-- Names of folders that are all there, and the name of a file after them. -/
structure Placed (t : FileTree) (base : Location) (names : List String) (name : String) : Prop where
  plain : ∀ s ∈ names, PlainName s
  last : PlainName name
  folder : ∀ inner, inner <+: names → t.get? (base ++ inner) = some .folder

/-- The folders before the file are entered. -/
structure Approach (t : FileTree) (base : Location) (names : List String) (name : String) : Prop
    extends Placed t base names name where
  entered : ∀ s ∈ names, ¬ Skipped s

theorem SourceAt.exists_eq (h : SourceAt t base way) : ∃ names name, way = names ++ [name] := by
  obtain ⟨name, hg, -⟩ := h.named
  obtain ⟨names, hn⟩ := List.getLast?_eq_some_iff.mp hg
  exact ⟨names, name, hn⟩

/-- All that leads to a file is there. -/
theorem placed_of_file (hw : t.WellFormed) (hn : t.Named)
    (hf : t.get? (base ++ (names ++ [name])) = some (.file bytes)) :
    Placed t base names name := by
  have hp : ∀ s ∈ base ++ (names ++ [name]), PlainName s := hn _ (by simp [hf])
  refine ⟨fun s hm => hp s (by simp [hm]), hp name (by simp), ?_⟩
  rintro inner ⟨rest, rfl⟩
  have hne : t.get? (base ++ (inner ++ rest ++ [name])) ≠ none :=
    fun hne => nomatch hf.symm.trans hne
  exact hw.folder_of_prefix ⟨rest ++ [name], by simp⟩ hne (by simp)

theorem SourceAt.approach (hf : SourceAt w.tree base (names ++ [name]))
    (h : Scannable w root base) :
    Approach w.tree base names name := by
  obtain ⟨⟨bytes, hb⟩, he, -⟩ := hf
  rw [List.dropLast_concat] at he
  exact ⟨placed_of_file h.tree h.named hb, he⟩

theorem pathTo_concat : pathTo root (names ++ [name]) = (pathTo root names).joinName name :=
  List.foldl_concat ..

theorem Approach.toOption_readFile (ha : Approach w.tree base names name)
    (h : Scannable w root base) :
    (w.tree.readFile w.folder (pathTo root (names ++ [name]))).toOption =
      w.tree.content? (base ++ (names ++ [name])) := by
  have hread :=
    h.opens.toOption_readFile h.tree (Path.components_foldl_joinName h.opens.text ha.plain)
    (Path.hasNul_foldl_joinName h.opens.plain ha.plain) ha.plain
      (ha.folder names List.prefix_rfl) ha.last
  rwa [← pathTo, ← pathTo_concat, List.append_assoc] at hread

/-- The classes of a file are read, or nothing is made of it; the tree stays as it is. -/
theorem run_fileClasses (file : Path) (package : String) :
    ∃ result, (fileClasses (m := Session) file package).run.run w = (result, w) ∧
      result.toOption.getD [] =
        ((w.tree.readFile w.folder file).toOption.map (classesIn · package)).getD [] := by
  rw [fileClasses, Session.run_except_bind, Session.run_lift, run_readText]
  cases w.tree.readFile w.folder file with
  | error fault => exact ⟨_, rfl, rfl⟩
  | ok bytes =>
    dsimp only [Except.bind, Except.toOption, Option.map_some, Option.getD_some, classesIn]
    cases textOf bytes with
    | error fault => exact ⟨_, rfl, rfl⟩
    | ok text =>
      dsimp only
      cases Source.classes text package <;> exact ⟨_, rfl, rfl⟩

/-- The classes that are made of a file, if it can be read. -/
def classesFrom (w : Workspace) (root file : Path) : List Class :=
  ((w.tree.readFile w.folder file).toOption.map
    (classesIn · (packageFrom (manifest? w) root file))).getD []

/-- A file adds the same classes whatever crates are known. -/
theorem run_addFile_eq (root : Path) (way : List String) (found : Progress)
    (hk : found.names.Current w) :
    ∃ names, names.Current w ∧ (addFile (m := Session) root found way).run w =
      (⟨names, found.registry.insertAll (classesFrom w root (pathTo root way))⟩, w) := by
  obtain ⟨names, hpackage, hn⟩ := run_packageKnowing hk root (pathTo root way)
  obtain ⟨result, hrun, hc⟩ := run_fileClasses (w := w) (pathTo root way)
    (packageFrom (manifest? w) root (pathTo root way))
  refine ⟨names, hn, ?_⟩
  rw [addFile, ← pathTo, Session.run_bind, hpackage, classesFrom, ← hc]
  dsimp only
  rw [Session.run_bind, hrun]
  cases result <;> rfl

theorem run_addFiles_eq (root : Path) (ways : List (List String)) (found : Progress)
    (hk : found.names.Current w) :
    ∃ names, names.Current w ∧ (ways.foldlM (addFile (m := Session) root) found).run w =
      (⟨names, found.registry.insertAll (ways.flatMap fun way =>
        classesFrom w root (pathTo root way))⟩, w) := by
  induction ways generalizing found with
  | nil => exact ⟨found.names, hk, rfl⟩
  | cons way ways ih =>
    obtain ⟨names, hn, h1⟩ := run_addFile_eq root way found hk
    obtain ⟨names', hn', h2⟩ := ih ⟨names, _⟩ hn
    refine ⟨names', hn', ?_⟩
    rw [List.foldlM_cons, Session.run_bind, h1, h2, List.flatMap_cons, Registry.insertAll_append]

/-- A file below the root adds the classes that are declared in it. -/
theorem classesFrom_of_sourceAt (h : Scannable w root base) (hf : SourceAt w.tree base way) :
    classesFrom w root (pathTo root way) = declared w root base way := by
  obtain ⟨names, name, rfl⟩ := hf.exists_eq
  rw [classesFrom, (hf.approach h).toOption_readFile h, declared, packageAt, run_packageOf]
  cases w.tree.content? (base ++ (names ++ [name])) <;> rfl

theorem run_scan (h : Scannable w root base) :
    (scan (m := Session) root).run.run w = (.ok (.ofList
      ((sourceFiles (w.tree.filesBelow isEntered base)).flatMap (declared w root base))), w) := by
  have hfolder : (isFolder root : Session Bool).run w = (true, w) := by
    rw [Session.run_isFolder, h.opens.locate]
    rfl
  obtain ⟨names, -, hadd⟩ :=
    run_addFiles_eq root (sourceFiles (w.tree.filesBelow isEntered base)) {}
    (CrateNames.current_nil w)
  have hdeclared : ((sourceFiles (w.tree.filesBelow isEntered base)).flatMap fun way =>
      classesFrom w root (pathTo root way)) =
        (sourceFiles (w.tree.filesBelow isEntered base)).flatMap (declared w root base) :=
    List.flatMap_congr fun way hm => classesFrom_of_sourceAt h ((mem_sourceFiles h.tree).mp hm)
  have hlift :
      (ExceptT.lift ((sourceFiles (w.tree.filesBelow isEntered base)).foldlM (addFile root) {}) :
        ExceptT Failure Session Progress).run.run w = (.ok ⟨names, .ofList
          ((sourceFiles (w.tree.filesBelow isEntered base)).flatMap (declared w root base))⟩, w) :=
    (Session.run_lift _ w).trans (by rw [hadd, hdeclared]; rfl)
  rw [scan, Session.run_except_bind, Session.run_lift, hfolder]
  dsimp only [Bool.not_true, Bool.false_eq_true]
  rw [if_neg (by simp), Session.run_except_bind, Session.run_lift,
    Session.run_filesBelow h.opens.locate]
  dsimp only
  rw [Session.run_except_bind, hlift]
  rfl

/-! Two trees that a scan does not tell apart. -/

theorem Unseen.eq_or_barren (h : Unseen base t t' (base ++ (names ++ [name])))
    (hs : ∀ s ∈ names, ¬ Skipped s) :
    t'.get? (base ++ (names ++ [name])) = t.get? (base ++ (names ++ [name])) ∨
      Barren t (base ++ (names ++ [name])) := by
  generalize hp : base ++ (names ++ [name]) = place at h ⊢
  cases h with
  | same h => exact Or.inl h
  | barren h => exact Or.inr h
  | @skipped folder before below hf hb =>
    obtain ⟨init, last, rfl⟩ := (List.eq_nil_or_concat below).resolve_left hb
    rw [List.append_assoc, List.append_right_inj] at hp
    have hnames : names = before ++ folder :: init :=
      List.append_inj_left'
        (by simpa using hp : names ++ [name] = (before ++ folder :: init) ++ [last]) rfl
    exact (hs folder (by simp [hnames]) hf).elim

theorem not_sourceName_manifest : ¬ SourceName manifestName := by
  rw [← isSourceName_iff]
  decide

theorem classesIn_eq_nil (h : ∀ text, textOf bytes = .ok text → Source.items? text = none) :
    classesIn bytes package = [] := by
  rw [classesIn]
  split
  · rename_i text ht
    rw [Source.classes, h text ht]
    rfl
  · rfl

section

variable {w' : Workspace} (h : Scannable w root base) (h' : Scannable w' root base)
  (hu : ∀ place, Unseen base w.tree w'.tree place)
include h h' hu

theorem packageAt_of_unseen (ha : Approach w.tree base names name)
    (ha' : Approach w'.tree base names name) :
    packageAt w' root (names ++ [name]) = packageAt w root (names ++ [name]) := by
  rw [packageAt, packageAt, run_packageOf, run_packageOf]
  dsimp only
  refine packageFrom_congr fun q hq => ?_
  obtain ⟨inner, hi, hc, hz⟩ :=
    exists_names_of_mem_foldersAbove h.opens.text h.opens.plain ha.plain ha.last hq
  have hplain : ∀ s ∈ inner, PlainName s := fun s hs => ha.plain s (hi.subset hs)
  rw [manifest?, manifest?,
    h.opens.toOption_readFile h.tree hc hz hplain (ha.folder inner hi) plainName_manifest,
      h'.opens.toOption_readFile h'.tree hc hz hplain (ha'.folder inner hi) plainName_manifest,
      List.append_assoc]
  obtain he | hb := (hu (base ++ (inner ++ [manifestName]))).eq_or_barren fun s hs =>
    ha.entered s (hi.subset hs)
  · rw [content?, content?, he]
  · obtain ⟨⟨s, hg, hs⟩, -⟩ := hb
    rw [← List.append_assoc] at hg
    obtain rfl : manifestName = s := Option.some.inj (List.getLast?_concat.symm.trans hg)
    exact (not_sourceName_manifest hs).elim

/-- A file with classes is found in both trees, and its classes are the same. -/
theorem declared_of_unseen (hs : SourceAt w.tree base way) (hd : declared w root base way ≠ []) :
    SourceAt w'.tree base way ∧ declared w' root base way = declared w root base way := by
  obtain ⟨names, name, rfl⟩ := hs.exists_eq
  have ha := hs.approach h
  obtain he | hb := (hu (base ++ (names ++ [name]))).eq_or_barren ha.entered
  · have hs' : SourceAt w'.tree base (names ++ [name]) :=
      ⟨by rw [he]; exact hs.file, hs.entered, hs.named⟩
    refine ⟨hs', ?_⟩
    rw [declared, declared, content?, content?, he,
      packageAt_of_unseen h h' hu ha (hs'.approach h')]
  · obtain ⟨bytes, hf⟩ := hs.file
    obtain ⟨_, he, hp⟩ := hb.2 _ hf
    cases he
    rw [declared, content?_eq_some.mpr hf] at hd
    exact (hd (classesIn_eq_nil hp)).elim

theorem flatMap_declared_of_unseen :
    (sourceFiles (w'.tree.filesBelow isEntered base)).flatMap (declared w' root base) =
      (sourceFiles (w.tree.filesBelow isEntered base)).flatMap (declared w root base) := by
  refine (flatMap_eq_of_sorted (pairwise_sourceFiles (h.tree.nodup_filesBelow isEntered base))
    (pairwise_sourceFiles (h'.tree.nodup_filesBelow isEntered base)) ?_ ?_).symm
  · intro way hm hd
    rw [mem_sourceFiles h'.tree]
    exact declared_of_unseen h h' hu ((mem_sourceFiles h.tree).mp hm) hd
  · intro way hm hd
    rw [mem_sourceFiles h.tree]
    exact declared_of_unseen h' h (fun place => (hu place).symm)
      ((mem_sourceFiles h'.tree).mp hm) hd

end

/-- A root leads to the same place in all trees in which it leads to a folder. -/
theorem Scannable.of_locate {base' : Location} (h : Scannable w root base)
    (ht : t.WellFormed) (hn : t.Named) (hl : t.locate w.folder root = .ok (base', .folder)) :
    Scannable ⟨t, w.folder⟩ root base := by
  have ho := Workspace.opens_of_locate (w := ⟨t, w.folder⟩) hl
  exact ⟨ht, hn, (ho.base.trans h.opens.base.symm) ▸ ho⟩

/-- The order of the entries does not matter to where a path leads. -/
theorem Scannable.perm {entries : List (Location × Node)} (h : Scannable w root base)
    (hp : entries.Perm w.tree.entries) : Scannable ⟨⟨entries⟩, w.folder⟩ root base := by
  refine ⟨h.tree.perm hp, fun place hg => h.named place (h.tree.get?_perm hp place ▸ hg),
    h.opens.plain, h.opens.text, ⟨fun l hl => ?_, h.opens.parts.2⟩, h.opens.base⟩
  rw [h.tree.get?_perm hp]
  exact h.opens.parts.1 l hl

/-- Scanning a folder gives the first definitions of the classes that the source files below it
declare, file by file in the order of the names that lead to them. It makes no difference in which
order the tree lists what is there, what stands below the folders that are not entered, and which
source files there are that do not parse. -/
theorem scan_gives_firstDefinitions (hw : w.tree.WellFormed) (hn : w.tree.Named)
    (hl : w.tree.locate w.folder root = .ok (base, .folder)) :
    ∃ (ways : List (List String)) (r : Registry), ways.Pairwise (· < ·) ∧
      (∀ way, way ∈ ways ↔ SourceAt w.tree base way) ∧
      r.toList = firstDefinitions (ways.flatMap (declared w root base)) ∧
      (scan (m := Session) root).run.run w = (.ok r, w) ∧
      (∀ entries, entries.Perm w.tree.entries →
        (scan (m := Session) root).run.run ⟨⟨entries⟩, w.folder⟩ =
          (.ok r, ⟨⟨entries⟩, w.folder⟩)) ∧
      ∀ tree base', tree.WellFormed → tree.Named →
        tree.locate w.folder root = .ok (base', .folder) →
        (∀ place, Unseen base w.tree tree place) →
        (scan (m := Session) root).run.run ⟨tree, w.folder⟩ =
          (.ok r, ⟨tree, w.folder⟩) := by
  have h : Scannable w root base := ⟨hw, hn, Workspace.opens_of_locate hl⟩
  have hsame : ∀ tree, Scannable ⟨tree, w.folder⟩ root base →
      (∀ place, Unseen base w.tree tree place) →
      (scan (m := Session) root).run.run ⟨tree, w.folder⟩ = (.ok (.ofList
        ((sourceFiles (w.tree.filesBelow isEntered base)).flatMap (declared w root base))),
          ⟨tree, w.folder⟩) := by
    intro tree h' hu
    rw [run_scan h', flatMap_declared_of_unseen h h' hu]
  refine ⟨_, _, pairwise_sourceFiles (hw.nodup_filesBelow isEntered base),
    fun way => mem_sourceFiles hw, Registry.toList_ofList _, run_scan h, fun entries hp => ?_,
    fun tree base' ht hn' hl' hu => ?_⟩
  · exact hsame _ (h.perm hp) fun place => .same (hw.get?_perm hp place)
  · exact hsame _ (h.of_locate ht hn' hl') hu

/-- A source file, and one in a folder that is not entered. -/
def builtTree : FileTree :=
  (((FileTree.empty.set ["lib.rs"] (.file "pub struct Kept;".toUTF8)).set ["target"] .folder).set
    ["target", "lib.rs"] (.file "pub struct Lost;".toUTF8))

theorem scan_gives_firstDefinitions_of_builtTree :
    builtTree.WellFormed ∧ builtTree.Named ∧
      builtTree.locate [] ⟨"."⟩ = .ok ([], .folder) ∧
    ∃ (ways : List (List String)) (r : Registry), ways.Pairwise (· < ·) ∧
      (∀ way, way ∈ ways ↔ SourceAt builtTree [] way) ∧
      r.toList = firstDefinitions (ways.flatMap (declared ⟨builtTree, []⟩ ⟨"."⟩ [])) ∧
      (scan (m := Session) ⟨"."⟩).run.run ⟨builtTree, []⟩ = (.ok r, ⟨builtTree, []⟩) ∧
      (∀ entries, entries.Perm builtTree.entries →
        (scan (m := Session) ⟨"."⟩).run.run ⟨⟨entries⟩, []⟩ =
          (.ok r, ⟨⟨entries⟩, []⟩)) ∧
      ∀ tree base', tree.WellFormed → tree.Named →
        tree.locate [] ⟨"."⟩ = .ok (base', .folder) →
        (∀ place, Unseen [] builtTree tree place) →
        (scan (m := Session) ⟨"."⟩).run.run ⟨tree, []⟩ = (.ok r, ⟨tree, []⟩) := by
  have hlib : PlainName "lib.rs" := ⟨by decide, by decide, by decide, by decide⟩
  have htarget : PlainName "target" := ⟨by decide, by decide, by decide, by decide⟩
  have hroot (t : FileTree) : t.get? [] = some .folder := rfl
  have hfolder : ((FileTree.empty.set ["lib.rs"] (.file "pub struct Kept;".toUTF8)).set
      ["target"] .folder).get? ["target"] = some .folder := rfl
  have hw : builtTree.WellFormed := by
    refine ((wellFormed_empty.set (hroot _) (Or.inl ?_)).set (hroot _) (Or.inr rfl)).set
      hfolder (Or.inl ?_)
    · exact fun h => nomatch h
    · exact fun h => nomatch h
  have hn : builtTree.Named :=
    ((named_empty.set (ne_of_eq_of_ne (hroot _) nofun) hlib).set
      (ne_of_eq_of_ne (hroot _) nofun) htarget).set
      (ne_of_eq_of_ne hfolder nofun) hlib
  have hl : builtTree.locate [] ⟨"."⟩ = .ok ([], .folder) := rfl
  exact ⟨hw, hn, hl, scan_gives_firstDefinitions (w := ⟨builtTree, []⟩) hw hn hl⟩

end ClassExport.Scan
