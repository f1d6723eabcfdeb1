import ClassExport.Proofs.Anchoring
import ClassExport.Proofs.Crates

/-!
A configuration file that is reached through different paths, and the class names that are known
from it.
-/
namespace ClassExport

open FileTree Disk

variable {w : Workspace} {t : FileTree} {here folder place : Location}
  {p q base base' root : Path} {name : String} {init parts xs : List String} {bytes : ByteArray}
  {env : Environment} {c : Configuration}

namespace Path

/-- A name without any folder before it. -/
def IsBare (p : Path) : Prop := '/' ∉ p.text.toList

/-- The folder that a path stands in, as written; it is empty before a bare name. -/
def holder (p : Path) : Path := p.parent?.getD ⟨""⟩

theorem moves_dropIdle (absolute : Bool) (xs : List String) :
    moves (dropIdle absolute xs).reverse = moves xs.reverse := by
  induction xs with
  | nil => rfl
  | cons s xs ih =>
    rw [dropIdle_cons]
    split
    · rename_i hi
      have hs : moves [s] = [] := by
        obtain rfl | ⟨rfl, -⟩ := isIdle_iff.mp hi <;> rfl
      rw [ih, List.reverse_cons, moves_append, hs, List.append_nil]
    · rfl

theorem eq_nil_of_dropIdle (h : dropIdle false xs = []) (hl : xs.getLast? ≠ some "") :
    xs = [] := by
  induction xs with
  | nil => rfl
  | cons s xs ih =>
    rw [dropIdle_cons] at h
    split at h
    · rename_i hi
      obtain rfl | ⟨-, ha | hne⟩ := isIdle_iff.mp hi
      · have hxs : xs ≠ [] := by
          rintro rfl
          exact hl rfl
        rw [List.getLast?_cons_of_ne_nil hxs] at hl
        exact (hxs (ih h hl)).elim
      · cases ha
      · rw [List.getLast?_cons_of_ne_nil hne] at hl
        exact (hne (ih h hl)).elim
    · cases h

theorem text_ofParts_eq_empty_iff {absolute : Bool} (hl : Spelled absolute xs) :
    (ofParts absolute xs).text = "" ↔ absolute = false ∧ xs = [] := by
  constructor
  · intro ht
    have ha := isAbsolute_ofParts hl
    have hfalse : absolute = false := by
      rw [← ha, isAbsolute, ht]
      rfl
    refine ⟨hfalse, ?_⟩
    by_contra hx
    have hparts : xs = [""] := by
      rw [← parts_ofParts hl hx, show ofParts absolute xs = ⟨""⟩ from congrArg Path.mk ht]
      rfl
    exact hl.begins hfalse (by rw [hparts]; rfl)
  · rintro ⟨rfl, rfl⟩
    rfl

theorem isBare_iff : p.IsBare ↔ p.isAbsolute = false ∧ ∃ s, p.parts = [s] := by
  constructor
  · intro h
    exact ⟨isAbsolute_of_noSlash h, p.text, parts_of_noSlash h⟩
  · rintro ⟨ha, s, hs⟩
    have hm : s ∈ p.parts := by simp [hs]
    rw [IsBare, text_of_relative ha, hs, String.intercalate_singleton]
    exact noSlash_of_mem_parts hm

/-- The folder of a path that ends in a name is spelled by the parts before the name that do not
stand for nothing. -/
theorem exists_holder (hp : p.parts = init ++ [name]) (hn : ¬ isStep name) :
    ∃ xs, Spelled p.isAbsolute xs ∧ moves xs = moves init ∧ p.parent? = some p.holder ∧
      p.holder = ofParts p.isAbsolute xs ∧ (p.holder.text = "" ↔ p.IsBare) := by
  obtain ⟨hspelled, hparent⟩ := parent?_of_parts hp hn
  have hholder : p.holder = ofParts p.isAbsolute (dropIdle p.isAbsolute init.reverse).reverse := by
    rw [holder, hparent, Option.getD_some]
  have hmoves := moves_dropIdle p.isAbsolute init.reverse
  have hl : Spelled p.isAbsolute (dropIdle p.isAbsolute init.reverse).reverse := by
    obtain ⟨rest, hrest⟩ := List.reverse_prefix.mpr (dropIdle_suffix p.isAbsolute init.reverse)
    rw [List.reverse_reverse] at hrest
    rw [← hrest, List.append_assoc] at hspelled
    exact hspelled.of_append
  rw [List.reverse_reverse] at hmoves
  refine ⟨_, hl, hmoves, hholder ▸ hparent, hholder, ?_⟩
  rw [hholder, text_ofParts_eq_empty_iff hl, isBare_iff, hp, List.reverse_eq_nil_iff]
  refine and_congr_right fun ha => ?_
  rw [ha] at hspelled ⊢
  constructor
  · intro hd
    have hinit : init.reverse = [] := by
      refine eq_nil_of_dropIdle hd fun hg => ?_
      rw [List.getLast?_reverse] at hg
      exact hspelled.begins rfl (by rw [List.head?_append, hg]; rfl)
    exact ⟨name, by rw [List.reverse_eq_nil_iff.mp hinit, List.nil_append]⟩
  · rintro ⟨s, hs⟩
    have hinit : init = [] := by
      have hlen := congrArg List.length hs
      simpa using hlen
    rw [hinit]
    rfl

theorem hasNul_join_iff (hq : q.isAbsolute = false) (hz : ¬ hasNul p.text) :
    hasNul (p.join q).text ↔ hasNul q.text := by
  refine ⟨fun h => (hasNul_join h).resolve_left hz, fun h => ?_⟩
  rw [join, hq, if_neg (by simp)]
  split <;> simp_all [hasNul]

theorem text_join_ne (hp : p.text ≠ "") (hq : q.text ≠ "") : (p.join q).text ≠ "" := by
  rw [join]
  split
  · exact hq
  · split <;> simp [hp]

end Path

/-! What a path leads to when it is joined to a folder. -/

/-- What is joined to `base` is seen from the folder at `place`: the path leads there, or is
empty. -/
inductive Workspace.SeenFrom (w : Workspace) : Path → Location → Prop where
  | leads {base : Path} {place : Location} (h : w.Opens base place) : SeenFrom w base place
  | empty : SeenFrom w ⟨""⟩ w.folder

theorem Workspace.Opens.locate_join (h : w.Opens base folder) (ha : q.isAbsolute = false)
    (hq : q.text ≠ "") :
    w.tree.locate w.folder (base.join q) = w.tree.locate folder q := by
  obtain ⟨init, hj⟩ := Path.exists_joined h.text
  obtain ⟨habs, hparts⟩ := hj.parts_join ha
  by_cases hz : hasNul q.text
  · have hz' : hasNul (base.join q).text := (Path.hasNul_join_iff ha h.plain).mpr hz
    rw [FileTree.locate, FileTree.locate, start_of_nul hz, start_of_nul hz']
  · have hopen : Open w.tree (origin w.folder base) init := by
      rw [← open_moves, hj.moves, open_moves]
      exact h.parts
    have hdest : folder = destination (origin w.folder base) init := by
      rw [← destination_moves, hj.moves, destination_moves]
      exact h.base
    obtain ⟨hr, -⟩ := follow_eq_ok_iff.mpr ⟨hopen, hdest⟩
    have htext : (base.join q).text ≠ "" := Path.text_join_ne h.text hq
    have hs : start w.folder (base.join q) = .ok (origin w.folder base, init ++ q.parts) := by
      rw [start_eq_ok (fun hh => hz ((Path.hasNul_join_iff ha h.plain).mp hh)) htext,
        origin, habs, hparts]
      rfl
    have hs' : start folder q = .ok (folder, q.parts) := by
      rw [start_eq_ok hz hq, origin, ha]
      rfl
    rw [FileTree.locate, FileTree.locate, hs, hs']
    simp only [bind, Except.bind, follow_append, hr]

theorem Workspace.SeenFrom.locate_join (h : w.SeenFrom base folder) (hq : q.text ≠ "") :
    w.tree.locate w.folder (base.join q) = w.tree.locate folder q := by
  cases ha : q.isAbsolute with
  | true =>
    rw [Path.join, if_pos ha, locate_of_isAbsolute ha, locate_of_isAbsolute ha folder]
  | false =>
    cases h with
    | leads h => exact h.locate_join ha hq
    | empty =>
      rw [Path.join, if_neg (by simp [ha]), if_pos (by simp)]
      rw [String.empty_append]

theorem FileTree.locate_of_empty (hp : p.text = "") : t.locate here p = .error .notFound := by
  rw [FileTree.locate, show p = ⟨""⟩ from congrArg Path.mk hp]
  rfl

theorem Workspace.SeenFrom.empty_or_locate (h : w.SeenFrom base folder) :
    base.text = "" ∨ base.text ≠ "" ∧
      w.tree.locate w.folder base = .ok (folder, .folder) := by
  cases h with
  | leads h => exact Or.inr ⟨h.text, h.locate⟩
  | empty => exact Or.inl rfl

theorem FileTree.readFile_congr {here' : Location} (h : t.locate here p = t.locate here' q) :
    t.readFile here p = t.readFile here' q := by
  rw [readFile, readFile, h]

theorem Workspace.seenFrom_ofParts {absolute : Bool} (hl : Path.Spelled absolute xs)
    (hz : ¬ hasNul (Path.ofParts absolute xs).text)
    (ho : Open w.tree (if absolute then [] else w.folder) xs) :
    w.SeenFrom (Path.ofParts absolute xs) (destination (if absolute then [] else w.folder) xs) := by
  by_cases ht : (Path.ofParts absolute xs).text = ""
  · obtain ⟨rfl, rfl⟩ := (Path.text_ofParts_eq_empty_iff hl).mp ht
    exact .empty
  · have hmoves : Path.moves (Path.ofParts absolute xs).parts = Path.moves xs := by
      by_cases hx : xs = []
      · subst hx
        cases absolute <;> rfl
      · rw [Path.parts_ofParts hl hx]
    have horigin : origin w.folder (Path.ofParts absolute xs) =
        if absolute then [] else w.folder := by
      rw [origin, Path.isAbsolute_ofParts hl]
    refine .leads ⟨hz, ht, ?_, ?_⟩
    · rwa [horigin, ← open_moves, hmoves, open_moves]
    · rw [target, horigin, ← destination_moves, ← hmoves, destination_moves]

/-- A file stands in a folder, and its path ends in its name. -/
theorem Workspace.exists_parts_of_file (hw : w.tree.WellFormed)
    (hl : w.tree.locate w.folder p = .ok (place, .file bytes)) :
    ∃ init name, p.parts = init ++ [name] ∧ ¬ isStep name ∧
      Open w.tree (origin w.folder p) init ∧
      place = destination (origin w.folder p) init ++ [name] := by
  obtain ⟨-, hr, hb⟩ := locate_eq_ok hl
  obtain ⟨init, name, hparts⟩ : ∃ init name, p.parts = init ++ [name] := by
    simpa using (List.eq_nil_or_concat p.parts).resolve_left (Path.parts_ne_nil p)
  rw [hparts, follow_append] at hr
  cases hi : w.tree.follow (origin w.folder p) init with
  | error fault => simp [hi, Except.bind] at hr
  | ok folder =>
    rw [hi] at hr
    change w.tree.follow folder [name] = .ok place at hr
    have hf : w.tree.get? folder = some .folder := folder_of_follow_cons hr
    obtain ⟨ho, rfl⟩ := follow_eq_ok_iff.mp ⟨hi, hf⟩
    have hplace : place = stepTo (destination (origin w.folder p) init) name :=
      follow_eq_destination hr
    have hstep : ¬ isStep name := by
      intro hp
      have hup := hw.folder_stepTo hp hf
      rw [← hplace, hb] at hup
      cases hup
    rw [stepTo_name hstep] at hplace
    exact ⟨init, name, hparts, hstep, ho, hplace⟩

theorem Workspace.seenFrom_holder (hw : w.tree.WellFormed)
    (hl : w.tree.locate w.folder p = .ok (place, .file bytes)) :
    w.SeenFrom p.holder place.dropLast ∧ (p.holder.text = "" ↔ p.IsBare) := by
  obtain ⟨init, name, hparts, hstep, ho, rfl⟩ := exists_parts_of_file hw hl
  obtain ⟨xs, hspelled, hmoves, hparent, hholder, hbare⟩ := Path.exists_holder hparts hstep
  have hz : ¬ hasNul p.holder.text :=
    fun hz => (eq_of_start (locate_eq_ok hl).1).1 (Path.hasNul_of_parent? hparent hz)
  have hopen : Open w.tree (if p.isAbsolute then [] else w.folder) xs := by
    rw [← open_moves, hmoves, open_moves]
    exact ho
  have hseen := seenFrom_ofParts hspelled (hholder ▸ hz) hopen
  rw [← hholder, ← destination_moves, hmoves, destination_moves] at hseen
  rw [List.dropLast_concat]
  exact ⟨hseen, hbare⟩

/-! What a configuration file says, wherever its folder is seen from. -/

namespace Configuration

/-- The same settings beside another folder. -/
def inFolder (c : Configuration) (base : Path) : Configuration := { c with baseFolder := base }

theorem substituted_inFolder (c : Configuration) (env : Environment) (base : Path) :
    (c.inFolder base).substituted env = (c.substituted env).map (·.inFolder base) := by
  simp only [substituted, inFolder, bind, Except.bind]
  -- each setting fails, or goes on to the next one, in both alike
  repeat (split; · rfl)
  rfl

theorem ofText_inFolder (env : Environment) (text : String) (base base' : Path) :
    ofText env text base' = (ofText env text base).map (·.inFolder base') := by
  rw [ofText, ofText]
  cases (Toml.ofText? text).bind ofEntries? with
  | none => rfl
  | some c => exact substituted_inFolder (c.inFolder base) env base'

end Configuration

namespace ConfigurationFile

/-- The variables that are set when a configuration is read from a file in a folder. -/
def environmentBeside (w : Workspace) (env : Environment) (base : Path) : Environment :=
  ((completeEnvironment env base : Session _).run w).1

theorem still_completeEnvironment (env : Environment) (base : Path) :
    Session.Still _ (completeEnvironment (m := Session) env base) := by
  have hload : ∀ env p, Session.Still _ (loadVariables (m := Session) env p) := by
    intro env p
    refine Session.still_asks.next (Session.still_asks.readFile trivial) fun read => ?_
    cases read <;> exact fun _ => rfl
  refine Session.still_asks.next (hload env _) fun (env, complete) => ?_
  cases complete with
  | true => exact fun _ => rfl
  | false =>
    have hnearest : ∀ start,
        Session.Still _ (nearest? (m := Session) environmentFileName start) :=
      fun start => Session.still_asks.findM? fun p _ => Session.still_asks.isFile trivial
    have hhere : Session.Still _ (workingFolder (m := Session)) := fun _ => rfl
    refine Session.still_asks.next hhere fun start =>
      Session.still_asks.next (hnearest start) fun found => ?_
    cases found with
    | none => exact fun _ => rfl
    | some p => exact Session.still_asks.next (hload env p) fun _ _ => rfl

theorem run_load_eq (env : Environment) (p : Path) (w : Workspace) :
    (load (m := Session) env p).run.run w =
      (match (w.tree.readFile w.folder p).bind textOf with
        | .ok text => Configuration.ofText (environmentBeside w env p.holder) text p.holder
        | .error fault => .error (.io fault), w) := by
  rw [load, Session.run_except_bind, Session.run_lift, still_completeEnvironment env _ w]
  dsimp only
  rw [Session.run_except_bind, Session.run_lift, Scan.run_readText]
  cases (w.tree.readFile w.folder p).bind textOf <;> rfl

theorem environmentBeside_congr (h : w.SeenFrom base folder) (h' : w.SeenFrom base' folder) :
    environmentBeside w env base = environmentBeside w env base' := by
  have hread : w.tree.readFile w.folder (base.joinName environmentFileName) =
      w.tree.readFile w.folder (base'.joinName environmentFileName) := by
    refine readFile_congr ?_
    rw [Path.joinName, Path.joinName, h.locate_join (by decide), h'.locate_join (by decide)]
  have hload : (loadVariables env (base.joinName environmentFileName) : Session _).run w =
      (loadVariables env (base'.joinName environmentFileName) : Session _).run w := by
    have hrun : (readFile (base.joinName environmentFileName) : Session _).run w =
        (readFile (base'.joinName environmentFileName) : Session _).run w := congrArg (·, w) hread
    rw [loadVariables, loadVariables, Session.run_bind, Session.run_bind, hrun]
  rw [environmentBeside, environmentBeside, completeEnvironment,
    completeEnvironment, Session.run_bind, Session.run_bind, hload]

/-- Two paths of a file, and the two folders as written, give the same settings. -/
theorem run_load_of_seenFrom (hl : w.tree.locate w.folder p = w.tree.locate w.folder q)
    (h : w.SeenFrom p.holder folder) (h' : w.SeenFrom q.holder folder) :
    (load (m := Session) env q).run.run w =
      (((load (m := Session) env p).run.run w).1.map (·.inFolder q.holder), w) := by
  rw [run_load_eq, run_load_eq, readFile_congr hl, environmentBeside_congr h h']
  cases (w.tree.readFile w.folder q).bind textOf with
  | error fault => rfl
  | ok text =>
    dsimp only
    rw [← Configuration.ofText_inFolder]

end ConfigurationFile

/-! What a run gives that changes nothing. -/

namespace Session

variable {α β : Type}

/-- What a run gives, if it gives anything. -/
def outcome? (x : ExceptT Failure Session α) (w : Workspace) : Option α :=
  (x.run.run w).1.toOption

theorem outcome?_bind {x : ExceptT Failure Session α} (hx : Still _ x.run)
    (f : α → ExceptT Failure Session β) (w : Workspace) :
    outcome? (x >>= f) w = (outcome? x w).bind fun a => outcome? (f a) w := by
  have hstill := hx w
  rw [outcome?, outcome?, run_except_bind]
  rcases hr : x.run.run w with ⟨failure | a, v⟩
  · rfl
  · rw [hr] at hstill
    obtain rfl : v = w := hstill
    rfl

end Session

theorem Text.ne_empty_of_nonBlank? {text d : String} (h : nonBlank? text = some d) : d ≠ "" := by
  rw [nonBlank?] at h
  split at h
  · cases h
  · rename_i hb
    cases h
    rintro rfl
    exact hb (by decide)

namespace Configuration

/-- Sources are scanned for classes. -/
def Scans (c : Configuration) : Prop := c.scanPath ≠ none ∨ c.descriptors = none

/-- The folder of the configuration file is the one that is scanned, for no other one is named. -/
def ScansOwnFolder (c : Configuration) : Prop :=
  c.Scans ∧ ∀ text, c.scanPath = some text → Text.isBlankText text

theorem scanRoot_inFolder (c : Configuration) (base : Path) : (c.inFolder base).scanRoot =
    match c.scanPath.bind Text.nonBlank? with
    | some text => base.join ⟨text⟩
    | none => base := rfl

theorem scanPath_nonBlank?_eq_none :
    c.scanPath.bind Text.nonBlank? = none ↔ ∀ text, c.scanPath = some text →
      Text.isBlankText text := by
  cases c.scanPath with
  | none => simp
  | some text => by_cases hb : Text.isBlankText text <;> simp [Text.nonBlank?, hb]

end Configuration

namespace Setup

open Session Scan

/-- The names of the classes that are known from a configuration file. -/
def knownFrom (env : Environment) (p : Path) : ExceptT Failure Session (List String) := do
  let c ← ConfigurationFile.load (m := Session) env p
  let sources ← classSources (m := Session) c
  return (ClassSource.chain sources).known

theorem still_describedSources (c : Configuration) : Still _ (describedSources c).run := by
  rw [describedSources]
  split
  · exact still_asks.except_bind (still_asks.loadDescriptors trivial) fun _ => still_asks.pure _
  · exact still_asks.pure _

theorem outcome?_loadDescriptors_congr (h : w.tree.locate w.folder p = w.tree.locate w.folder q) :
    outcome? (loadDescriptors (m := Session) p) w =
      outcome? (loadDescriptors (m := Session) q) w := by
  rw [loadDescriptors, loadDescriptors, outcome?, outcome?, run_except_bind, run_except_bind,
    run_lift, run_lift, run_readText, run_readText, readFile_congr h]
  cases (w.tree.readFile w.folder q).bind textOf with
  | error fault => rfl
  | ok text =>
    dsimp only
    cases Registry.ofJsonText text <;> rfl

theorem outcome?_describedSources_inFolder (h : w.SeenFrom c.baseFolder folder)
    (h' : w.SeenFrom base folder) :
    outcome? (describedSources (c.inFolder base)) w = outcome? (describedSources c) w := by
  have hmoved : (c.inFolder base).descriptorFile? =
      (c.descriptors.bind Text.nonBlank?).map (c.inFolder base).resolve := rfl
  rw [describedSources, describedSources, hmoved, Configuration.descriptorFile?]
  cases hd : c.descriptors.bind Text.nonBlank? with
  | none => rfl
  | some d =>
    obtain ⟨text, -, hb⟩ := Option.bind_eq_some_iff.mp hd
    have hl : w.tree.locate w.folder ((c.inFolder base).resolve d) =
        w.tree.locate w.folder (c.resolve d) := by
      have hne : d ≠ "" := Text.ne_empty_of_nonBlank? hb
      exact (h'.locate_join (q := ⟨d⟩) hne).trans (h.locate_join (q := ⟨d⟩) hne).symm
    have hstill : ∀ file, Still _ (loadDescriptors (m := Session) file).run :=
      fun file => still_asks.loadDescriptors trivial
    simp only [Option.map_some]
    rw [outcome?_bind (hstill _), outcome?_bind (hstill _), outcome?_loadDescriptors_congr hl]

theorem outcome?_scannedSources_of_scans (hs : c.Scans) :
    outcome? (scannedSources c) w =
      (outcome? (scan (m := Session) c.scanRoot) w).map fun r => [.registry r] := by
  have hwanted : (c.scanPath.isSome || c.descriptors.isNone) = true := by
    rcases hs with hs | hs
    · simp [Option.isSome_iff_ne_none.mpr hs]
    · simp [hs]
  rw [scannedSources, if_pos hwanted, outcome?_bind (still_asks.scan trivial)]
  cases outcome? (scan (m := Session) c.scanRoot) w <;> rfl

theorem outcome?_scannedSources_of_not_scans (hs : ¬ c.Scans) :
    outcome? (scannedSources c) w = some [] := by
  have hwanted : ¬ (c.scanPath.isSome || c.descriptors.isNone) = true := by
    rw [Configuration.Scans, not_or, not_not] at hs
    simp [hs.1, hs.2]
  rw [scannedSources, if_neg hwanted]
  rfl

theorem outcome?_scan (hw : w.tree.WellFormed) (hn : w.tree.Named) {place : Location}
    (hl : w.tree.locate w.folder root = .ok (place, .folder)) :
    outcome? (scan (m := Session) root) w = some (.ofList
      ((sourceFiles (w.tree.filesBelow isEntered place)).flatMap (declared w root place))) := by
  rw [outcome?, run_scan ⟨hw, hn, Workspace.opens_of_locate hl⟩]
  rfl

theorem outcome?_scan_eq_none (hl : ∀ place,
    w.tree.locate w.folder root ≠ .ok (place, .folder)) :
    outcome? (scan (m := Session) root) w = none := by
  have hfolder : (isFolder root : Session Bool).run w = (false, w) := by
    rw [run_isFolder]
    cases hr : w.tree.locate w.folder root with
    | error fault => rfl
    | ok found =>
      obtain ⟨place, node⟩ := found
      cases node with
      | file bytes => rfl
      | folder => exact (hl place hr).elim
  rw [outcome?, scan, run_except_bind, run_lift, hfolder]
  rfl

theorem isSome_outcome?_scan (hw : w.tree.WellFormed) (hn : w.tree.Named)
    (h : w.SeenFrom base folder) :
    (outcome? (scan (m := Session) base) w).isSome ↔ base.text ≠ "" := by
  rcases h.empty_or_locate with he | ⟨hne, hl⟩
  · have hnone : outcome? (scan (m := Session) base) w = none := by
      refine outcome?_scan_eq_none fun place hl => ?_
      rw [locate_of_empty he] at hl
      cases hl
    simp [hnone, he]
  · simp [outcome?_scan hw hn hl, hne]

/-- The folder that is scanned gives a crate its name, and only one of two roots ends in a name. -/
def NameLost (w : Workspace) (root root' : Path) : Prop :=
  ∃ place way, w.tree.locate w.folder root = .ok (place, .folder) ∧
    SourceAt w.tree place way ∧
    NamedByFolder w.tree place way.dropLast ∧ root.fileName?.isSome ≠ root'.fileName?.isSome

/-- Two roots that lead to one folder. -/
theorem outcome?_scan_congr (hw : w.tree.WellFormed) (hn : w.tree.Named) {root' : Path}
    (hl : w.tree.locate w.folder root = w.tree.locate w.folder root') :
    (outcome? (scan (m := Session) root) w).isSome =
      (outcome? (scan (m := Session) root') w).isSome ∧
      (outcome? (scan (m := Session) root) w = outcome? (scan (m := Session) root') w ∨
        NameLost w root root') := by
  by_cases hf : ∃ place, w.tree.locate w.folder root = .ok (place, .folder)
  · obtain ⟨place, hp⟩ := hf
    have h : Scannable w root place := ⟨hw, hn, Workspace.opens_of_locate hp⟩
    have h' : Scannable w root' place := ⟨hw, hn, Workspace.opens_of_locate (hl ▸ hp)⟩
    rw [outcome?_scan hw hn hp, outcome?_scan hw hn (hl ▸ hp), Option.isSome_some,
      Option.isSome_some]
    refine ⟨rfl, or_iff_not_imp_right.mpr fun hlost => ?_⟩
    have hdeclared : ∀ way ∈ sourceFiles (w.tree.filesBelow isEntered place),
        declared w root place way = declared w root' place way := by
      intro way hm
      have hs : SourceAt w.tree place way := (mem_sourceFiles hw).mp hm
      have hpackage : packageAt w root way = packageAt w root' way := by
        refine (packageAt_eq_iff h h' hs).mpr fun hnamed => ?_
        have hsome : root.fileName?.isSome = root'.fileName?.isSome := by
          by_contra hne
          exact hlost ⟨place, way, hp, hs, hnamed, hne⟩
        rw [h.opens.fileName?_eq h'.opens hsome]
      rw [declared, declared, hpackage]
    rw [List.flatMap_congr hdeclared]
  · have hnone : ∀ place, w.tree.locate w.folder root ≠ .ok (place, .folder) :=
      fun place hp => hf ⟨place, hp⟩
    rw [outcome?_scan_eq_none hnone, outcome?_scan_eq_none (hl ▸ hnone)]
    exact ⟨rfl, Or.inl rfl⟩

/-- The folder of the configuration file is scanned, and is lost where nothing is written before the
file name. -/
def FolderLost (c : Configuration) (base : Path) : Prop :=
  c.ScansOwnFolder ∧ (c.baseFolder.text = "" ↔ ¬ base.text = "")

theorem locate_scanRoot_inFolder (h : w.SeenFrom c.baseFolder folder)
    (h' : w.SeenFrom base folder) (hs : c.Scans) (hlost : ¬ FolderLost c base) :
    w.tree.locate w.folder c.scanRoot = w.tree.locate w.folder (c.inFolder base).scanRoot := by
  rw [Configuration.scanRoot_inFolder, Configuration.scanRoot]
  cases hd : c.scanPath.bind Text.nonBlank? with
  | some d =>
    obtain ⟨text, -, hb⟩ := Option.bind_eq_some_iff.mp hd
    have hne : d ≠ "" := Text.ne_empty_of_nonBlank? hb
    exact (h.locate_join (q := ⟨d⟩) hne).trans (h'.locate_join (q := ⟨d⟩) hne).symm
  | none =>
    have hown : c.ScansOwnFolder := ⟨hs, Configuration.scanPath_nonBlank?_eq_none.mp hd⟩
    dsimp only
    rcases h.empty_or_locate with he |
      ⟨hne, hl⟩ <;> rcases h'.empty_or_locate with he' | ⟨hne', hl'⟩
    · rw [locate_of_empty he, locate_of_empty he']
    · exact (hlost ⟨hown, by simp [he, hne']⟩).elim
    · exact (hlost ⟨hown, by simp [hne, he']⟩).elim
    · rw [hl, hl']

theorem outcome?_scannedSources_inFolder (hw : w.tree.WellFormed) (hn : w.tree.Named)
    (h : w.SeenFrom c.baseFolder folder) (h' : w.SeenFrom base folder) :
    ((outcome? (scannedSources c) w).isSome =
      (outcome? (scannedSources (c.inFolder base)) w).isSome ↔
        ¬ FolderLost c base) ∧
      (¬ FolderLost c base → outcome? (scannedSources c) w =
        outcome? (scannedSources (c.inFolder base)) w ∨
        c.Scans ∧ NameLost w c.scanRoot (c.inFolder base).scanRoot) := by
  by_cases hs : c.Scans
  · have hs' : (c.inFolder base).Scans := hs
    rw [outcome?_scannedSources_of_scans hs, outcome?_scannedSources_of_scans hs',
      Option.isSome_map, Option.isSome_map]
    by_cases hlost : FolderLost c base
    · refine ⟨iff_of_false (fun hsame => ?_) (not_not.mpr hlost), fun hn => (hn hlost).elim⟩
      obtain ⟨⟨-, hblank⟩, hempty⟩ := hlost
      have hnone := Configuration.scanPath_nonBlank?_eq_none.mpr hblank
      rw [Configuration.scanRoot_inFolder, Configuration.scanRoot, hnone] at hsame
      have hboth : c.baseFolder.text ≠ "" ↔ base.text ≠ "" := by
        rw [← isSome_outcome?_scan hw hn h, ← isSome_outcome?_scan hw hn h', hsame]
      tauto
    · obtain ⟨hsome, hsame⟩ :=
        outcome?_scan_congr hw hn (locate_scanRoot_inFolder h h' hs hlost)
      exact ⟨iff_of_true hsome hlost, fun _ => hsame.imp (fun he => by rw [he]) fun hname =>
        ⟨hs, hname⟩⟩
  · have hs' : ¬ (c.inFolder base).Scans := hs
    rw [outcome?_scannedSources_of_not_scans hs, outcome?_scannedSources_of_not_scans hs']
    exact ⟨iff_of_true rfl fun hlost => hs hlost.1.1, fun _ => Or.inl rfl⟩

/-! Two paths of one configuration file. -/

/-- One of the paths is a bare name, and what is scanned is the folder of the configuration file. -/
def LosesFolder (w : Workspace) (env : Environment) (p q : Path) : Prop :=
  (p.IsBare ↔ ¬ q.IsBare) ∧ ∃ c described,
    outcome? (ConfigurationFile.load (m := Session) env p) w = some c ∧
    c.ScansOwnFolder ∧ outcome? (describedSources c) w = some described

/-- One of the folders that are scanned is written without a name at its end, and gives a crate its
name. -/
def LosesName (w : Workspace) (env : Environment) (p q : Path) : Prop :=
  ∃ c c', outcome? (ConfigurationFile.load (m := Session) env p) w = some c ∧
    outcome? (ConfigurationFile.load (m := Session) env q) w = some c' ∧ c.Scans ∧
      NameLost w c.scanRoot c'.scanRoot

theorem outcome?_knownFrom (env : Environment) (p : Path) (w : Workspace) :
    outcome? (knownFrom env p) w =
    (outcome? (ConfigurationFile.load (m := Session) env p) w).bind fun c =>
      (outcome? (describedSources c) w).bind fun described =>
        (outcome? (scannedSources c) w).bind fun scanned =>
          some (ClassSource.chain (described ++ scanned)).known := by
  have hload : Still _ (ConfigurationFile.load (m := Session) env p).run := fun w =>
    congrArg Prod.snd (ConfigurationFile.run_load_eq env p w)
  have hscanned : ∀ c, Still _ (scannedSources c).run := by
    intro c
    rw [scannedSources]
    split
    · exact still_asks.except_bind (still_asks.scan trivial) fun _ => still_asks.pure _
    · exact still_asks.pure _
  rw [knownFrom, outcome?_bind hload]
  congr 1
  funext c
  rw [classSources_eq, bind_assoc, outcome?_bind (still_describedSources c)]
  congr 1
  funext described
  rw [bind_assoc, outcome?_bind (hscanned c)]
  rfl

theorem losesFolder_iff {described : List ClassSource}
    (hc : outcome? (ConfigurationFile.load (m := Session) env p) w = some c)
    (hd : outcome? (describedSources c) w = some described) :
    LosesFolder w env p q ↔ (p.IsBare ↔ ¬ q.IsBare) ∧ c.ScansOwnFolder := by
  rw [LosesFolder, hc]
  constructor
  · rintro ⟨hb, c', _, he, ho, -⟩
    cases he
    exact ⟨hb, ho⟩
  · rintro ⟨hb, ho⟩
    exact ⟨hb, c, described, rfl, ho, hd⟩

theorem baseFolder_of_outcome?
    (h : outcome? (ConfigurationFile.load (m := Session) env p) w = some c) :
    c.baseFolder = p.holder := by
  rw [outcome?, ConfigurationFile.run_load_eq] at h
  split at h
  · rename_i text _
    cases hc : Configuration.ofText (ConfigurationFile.environmentBeside w env p.holder) text
      p.holder with
    | error failure => simp [hc, Except.toOption] at h
    | ok c' =>
      obtain rfl : c' = c := by simpa [hc, Except.toOption] using h
      exact Configuration.baseFolder_ofText hc
  · cases h

/-- From two paths of one configuration file the same class names are known, or both paths fail. The
exceptions are a bare name, when the folder of the file is what is scanned, and a root that does not
end in the name of its folder, when that name is the name of a crate. -/
theorem knownFrom_of_same_file (hw : w.tree.WellFormed) (hn : w.tree.Named)
    (hp : w.tree.locate w.folder p = .ok (place, .file bytes))
    (hq : w.tree.locate w.folder q = .ok (place, .file bytes)) :
    ((outcome? (knownFrom env p) w).isSome = (outcome? (knownFrom env q) w).isSome ↔
      ¬ LosesFolder w env p q) ∧
      (¬ LosesFolder w env p q → ¬ LosesName w env p q →
        outcome? (knownFrom env p) w = outcome? (knownFrom env q) w) := by
  obtain ⟨h, hbare⟩ := Workspace.seenFrom_holder hw hp
  obtain ⟨h', hbare'⟩ := Workspace.seenFrom_holder hw hq
  have hload : outcome? (ConfigurationFile.load (m := Session) env q) w =
      (outcome? (ConfigurationFile.load (m := Session) env p) w).map (·.inFolder q.holder) := by
    rw [outcome?, ConfigurationFile.run_load_of_seenFrom (hp.trans hq.symm) h h', outcome?]
    cases ((ConfigurationFile.load (m := Session) env p).run.run w).1 <;> rfl
  rw [outcome?_knownFrom, outcome?_knownFrom, hload]
  cases hc : outcome? (ConfigurationFile.load (m := Session) env p) w with
  | none => simp [LosesFolder, hc]
  | some c =>
    rw [← baseFolder_of_outcome? hc] at h hbare
    obtain ⟨hsome, hsame⟩ := outcome?_scannedSources_inFolder hw hn h h'
    simp only [Option.map_some, Option.bind_some]
    rw [outcome?_describedSources_inFolder h h']
    cases hd : outcome? (describedSources c) w with
    | none => simp [LosesFolder, hc, hd]
    | some described =>
      have hfolder : LosesFolder w env p q ↔ FolderLost c q.holder := by
        rw [losesFolder_iff hc hd, FolderLost, hbare, hbare', and_comm]
      have hname : c.Scans ∧ NameLost w c.scanRoot (c.inFolder q.holder).scanRoot →
          LosesName w env p q :=
        fun ⟨hs, hl⟩ => ⟨c, _, hc, hload.trans (by rw [hc]; rfl), hs, hl⟩
      rw [hfolder]
      simp only [Option.bind_some, Option.isSome_bind]
      refine ⟨?_, fun hf hl => ?_⟩
      · simpa using hsome
      · rw [(hsame hf).resolve_right fun hn => hl (hname hn)]

/-- A crate in a folder, with a manifest that names no package and a configuration file that names
no folder. -/
def plainCrate : FileTree :=
  (((FileTree.empty.set ["p"] .folder).set ["p", "dto2ts.toml"] (.file "".toUTF8)).set
    ["p", "Cargo.toml"] (.file "".toUTF8)).set ["p", "a.rs"] (.file "pub struct A;".toUTF8)

theorem knownFrom_of_same_file_of_plainCrate :
    plainCrate.WellFormed ∧ plainCrate.Named ∧
      plainCrate.locate [] ⟨"p/dto2ts.toml"⟩ = .ok (["p", "dto2ts.toml"], .file "".toUTF8) ∧
      plainCrate.locate [] ⟨"/p/dto2ts.toml"⟩ = .ok (["p", "dto2ts.toml"], .file "".toUTF8) ∧
      ((outcome? (knownFrom ⟨[]⟩ ⟨"p/dto2ts.toml"⟩) ⟨plainCrate, []⟩).isSome =
          (outcome? (knownFrom ⟨[]⟩ ⟨"/p/dto2ts.toml"⟩) ⟨plainCrate, []⟩).isSome ↔
        ¬ LosesFolder ⟨plainCrate, []⟩ ⟨[]⟩ ⟨"p/dto2ts.toml"⟩ ⟨"/p/dto2ts.toml"⟩) ∧
      (¬ LosesFolder ⟨plainCrate, []⟩ ⟨[]⟩ ⟨"p/dto2ts.toml"⟩ ⟨"/p/dto2ts.toml"⟩ →
        ¬ LosesName ⟨plainCrate, []⟩ ⟨[]⟩ ⟨"p/dto2ts.toml"⟩ ⟨"/p/dto2ts.toml"⟩ →
        outcome? (knownFrom ⟨[]⟩ ⟨"p/dto2ts.toml"⟩) ⟨plainCrate, []⟩ =
          outcome? (knownFrom ⟨[]⟩ ⟨"/p/dto2ts.toml"⟩) ⟨plainCrate, []⟩) ∧
      outcome? (knownFrom ⟨[]⟩ ⟨"p/dto2ts.toml"⟩) ⟨plainCrate, []⟩ = some ["p.a.A"] := by
  have hp : PlainName "p" := ⟨by decide, by decide, by decide, by decide⟩
  have hconfig : PlainName "dto2ts.toml" := ⟨by decide, by decide, by decide, by decide⟩
  have hmanifest : PlainName "Cargo.toml" := plainName_manifest
  have hsource : PlainName "a.rs" := ⟨by decide, by decide, by decide, by decide⟩
  have hroot : FileTree.empty.get? [] = some .folder := rfl
  have hmade : (FileTree.empty.set ["p"] .folder).get? ["p"] = some .folder := rfl
  have hconfigured :
    ((FileTree.empty.set ["p"] .folder).set ["p", "dto2ts.toml"] (.file "".toUTF8)).get? ["p"] =
      some .folder := rfl
  have hnamed : (((FileTree.empty.set ["p"] .folder).set ["p", "dto2ts.toml"] (.file "".toUTF8)).set
      ["p", "Cargo.toml"] (.file "".toUTF8)).get? ["p"] = some .folder := rfl
  have hw : plainCrate.WellFormed := by
    refine (((wellFormed_empty.set hroot (Or.inr rfl)).set hmade (Or.inl ?_)).set
      hconfigured (Or.inl ?_)).set hnamed (Or.inl ?_)
    · exact fun h => nomatch h
    · exact fun h => nomatch h
    · exact fun h => nomatch h
  have hn : plainCrate.Named :=
    (((named_empty.set (ne_of_eq_of_ne hroot nofun) hp).set
      (ne_of_eq_of_ne hmade nofun) hconfig).set
      (ne_of_eq_of_ne hconfigured nofun) hmanifest).set
      (ne_of_eq_of_ne hnamed nofun) hsource
  have hl : plainCrate.locate [] ⟨"p/dto2ts.toml"⟩ =
    .ok (["p", "dto2ts.toml"], .file "".toUTF8) := rfl
  have hl' : plainCrate.locate [] ⟨"/p/dto2ts.toml"⟩ =
    .ok (["p", "dto2ts.toml"], .file "".toUTF8) := rfl
  exact ⟨hw, hn, hl, hl', (knownFrom_of_same_file (w := ⟨plainCrate, []⟩) hw hn hl hl').1,
    (knownFrom_of_same_file (w := ⟨plainCrate, []⟩) hw hn hl hl').2, by decide +kernel⟩

/-- The same file gives no names through its bare name, and other names through a path that does not
end its folder in a name. -/
theorem knownFrom_differs_by_path :
    (plainCrate.locate ["p"] ⟨"dto2ts.toml"⟩ = .ok (["p", "dto2ts.toml"], .file "".toUTF8) ∧
        outcome? (knownFrom ⟨[]⟩ ⟨"dto2ts.toml"⟩) ⟨plainCrate, ["p"]⟩ = none) ∧
      (plainCrate.locate ["p"] ⟨"./dto2ts.toml"⟩ =
        .ok (["p", "dto2ts.toml"], .file "".toUTF8) ∧
        outcome? (knownFrom ⟨[]⟩ ⟨"./dto2ts.toml"⟩) ⟨plainCrate, ["p"]⟩ =
          some ["a.A"]) ∧
      plainCrate.locate ["p"] ⟨"/p/dto2ts.toml"⟩ =
        .ok (["p", "dto2ts.toml"], .file "".toUTF8) ∧
        outcome? (knownFrom ⟨[]⟩ ⟨"/p/dto2ts.toml"⟩) ⟨plainCrate, ["p"]⟩ =
          some ["p.a.A"] :=
  ⟨⟨rfl, by decide +kernel⟩, ⟨rfl, by decide +kernel⟩, rfl, by decide +kernel⟩

end Setup
end ClassExport
