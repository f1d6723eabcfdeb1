import ClassExport.Generation
import ClassExport.Proofs.Session

/-! What holds of the steps of a run holds of the whole run. -/
namespace ClassExport.Session

open Disk

/-- A property of runs that goes on from one run to the next, which depends on what the first one
gives. -/
structure Composes (P : ∀ α : Type, Session α → Prop) : Prop where
  pure : ∀ {α : Type} (a : α), P α (pure a)
  bind : ∀ {α β : Type} {x : Session α} {f : α → Session β}, P α x →
    (∀ w, P β (f (x.run w).1)) → P β (x >>= f)

/-- It holds of the questions about certain paths, of which each brings those above it and those in
it. -/
structure Asks (P : ∀ α : Type, Session α → Prop) (Q : Path → Prop) :
    Prop extends Composes P where
  kind? : ∀ {p}, Q p → P _ (Disk.kind? p)
  readFile : ∀ {p}, Q p → P _ (Disk.readFile p)
  filesBelow : ∀ {p} enter, Q p → P _ (Disk.filesBelow enter p)
  parent? : ∀ {p q}, Q p → p.parent? = some q → Q q
  joinName : ∀ {p} name, Q p → Q (p.joinName name)

/-- It holds of changes made through these paths, too. -/
structure Changes (P : ∀ α : Type, Session α → Prop) (Q : Path → Prop) :
    Prop extends Asks P Q where
  makeFolder : ∀ {p}, Q p → P _ (Disk.makeFolder p)
  writeFile : ∀ {p} text, Q p → P _ (Disk.writeFile p text)

variable {P : ∀ α : Type, Session α → Prop} {Q : Path → Prop} {α β : Type}
  {p q root file : Path}

theorem mem_of_findM? {f : α → Session Bool} {a : α} {l : List α} {w : Workspace}
    (h : ((l.findM? f).run w).1 = some a) : a ∈ l := by
  induction l generalizing w with
  | nil => cases h
  | cons b l ih =>
    rw [List.findM?, run_bind] at h
    split at h
    · cases h
      exact List.mem_cons_self
    · exact List.mem_cons_of_mem _ (ih h)

theorem path_emit (settings : EmitSettings) (c : Class) (w : Workspace) :
    ((Generation.emit settings c : Session _).run w).1.path = settings.outputPath c.name := by
  rw [Generation.emit]
  dsimp only
  split <;> rfl

namespace Composes

variable (h : Composes P)
include h

theorem next {x : Session α} {f : α → Session β} (hx : P _ x) (hf : ∀ a, P _ (f a)) :
    P _ (x >>= f) :=
  h.bind hx fun _ => hf _

theorem map {x : Session α} (hx : P _ x) (f : α → β) : P _ (f <$> x) := by
  rw [map_eq_pure_bind]
  exact h.next hx fun a => h.pure (f a)

theorem except_lift {x : Session α} (hx : P _ x) :
    P _ (liftM x : ExceptT Failure Session α).run := h.map hx Except.ok

theorem except_bind {x : ExceptT Failure Session α}
    {f : α → ExceptT Failure Session β} (hx : P _ x.run) (hf : ∀ a, P _ (f a).run) :
    P _ (x >>= f).run := by
  change P _ (x.run >>= ExceptT.bindCont f)
  refine h.next hx fun r => ?_
  cases r with
  | ok a => exact hf a
  | error failure => exact h.pure _

theorem findM? {f : α → Session Bool} {l : List α} (hf : ∀ a ∈ l, P _ (f a)) :
    P _ (l.findM? f) := by
  induction l with
  | nil => exact h.pure none
  | cons a l ih =>
    rw [List.forall_mem_cons] at hf
    refine h.next hf.1 fun found => ?_
    cases found with
    | true => exact h.pure (some a)
    | false => exact ih hf.2

theorem foldlM {f : β → α → Session β} (hf : ∀ b a, P _ (f b a)) (l : List α) (b : β) :
    P _ (l.foldlM f b) := by
  induction l generalizing b with
  | nil => exact h.pure b
  | cons a l ih => exact h.next (hf b a) ih

end Composes

namespace Asks

variable (h : Asks P Q)
include h

theorem ancestors (hp : Q p) : ∀ q ∈ p.ancestors, Q q := by
  have hn : ∀ n, ∀ {p}, Q p → ∀ q ∈ Path.ancestorsWithin n p, Q q := by
    intro n
    induction n with
    | zero =>
      intro p _ q hq
      cases hq
    | succ n ih =>
      intro p hp q hq
      rw [Path.ancestorsWithin] at hq
      rcases List.mem_cons.mp hq with rfl | hq
      · exact hp
      · split at hq
        · rename_i parent he
          exact ih (h.parent? hp he) q hq
        · cases hq
  exact hn _ hp

theorem isFile (hp : Q p) : P _ (isFile p) := h.next (h.kind? hp) fun _ => h.pure _

theorem isFolder (hp : Q p) : P _ (isFolder p) := h.next (h.kind? hp) fun _ => h.pure _

theorem readText (hp : Q p) : P _ (readText p) := h.next (h.readFile hp) fun _ => h.pure _

/-! Scans and descriptor files. -/

theorem crateName {folder : Path} (hf : Q folder) : P _ (Scan.crateName folder) :=
  h.next (h.readText (h.joinName _ hf)) fun _ => h.pure _

theorem nameKnowing {folder : Path} (hf : Q folder) (names : Scan.CrateNames) :
    P _ (Scan.nameKnowing names folder) := by
  rw [Scan.nameKnowing]
  cases names.lookup folder.components with
  | some name => exact h.pure _
  | none => exact h.next (h.crateName hf) fun _ => h.pure _

theorem packageKnowing (hf : Q file) (names : Scan.CrateNames) :
    P _ (Scan.packageKnowing names root file) := by
  have habove : ∀ folder ∈ (file.ancestors.drop 1).takeWhile (·.isWithin root), Q folder :=
    fun folder hm => h.ancestors hf folder (List.mem_of_mem_drop (List.takeWhile_subset _ hm))
  have hfind : P _ (Scan.crateFolder? root file) :=
    h.findM? fun folder hm => h.isFile (h.joinName _ (habove folder hm))
  refine h.bind hfind fun w => ?_
  -- the folder that was found is one of those above the file
  cases hr : ((Scan.crateFolder? root file : Session _).run w).1 with
  | none => exact h.pure _
  | some folder =>
    have hq : Q folder := habove folder (mem_of_findM? hr)
    exact h.next (h.nameKnowing hq names) fun _ => h.pure _

theorem fileClasses (hf : Q file) (package : String) : P _ (Scan.fileClasses file package).run := by
  refine h.except_bind (h.except_lift (h.readText hf)) fun read => ?_
  cases read with
  | error fault => exact h.pure _
  | ok text =>
    dsimp only
    cases Source.classes text package with
    | error failure => exact h.pure _
    | ok classes => exact h.pure _

theorem addFile (hr : Q root) (found : Scan.Progress) (way : List String) :
    P _ (Scan.addFile root found way) := by
  have hf : Q (way.foldl Path.joinName root) := by
    induction way generalizing root with
    | nil => exact hr
    | cons name way ih => exact ih (h.joinName name hr)
  refine h.next (h.packageKnowing hf found.names) fun (package, names) => ?_
  refine h.next (h.fileClasses hf package) fun result => ?_
  cases result with
  | ok classes => exact h.pure _
  | error failure => exact h.pure _

theorem scan (hr : Q root) : P _ (Scan.scan root).run := by
  refine h.except_bind (h.except_lift (h.isFolder hr)) fun found => ?_
  have hrest : P _ (do
      let ways ← Disk.filesBelow (m := Session) Scan.isEntered root
      let found ← ExceptT.lift ((Scan.sourceFiles ways).foldlM (Scan.addFile root) {})
      return found.registry : ExceptT Failure Session Registry).run :=
    h.except_bind (h.except_lift (h.filesBelow _ hr)) fun ways =>
      h.except_bind (h.except_lift (h.foldlM (h.addFile hr) _ _)) fun _ => h.pure _
  cases found with
  | true => exact hrest
  | false => exact h.except_bind (h.pure _) fun _ => hrest

theorem loadDescriptors (hf : Q file) : P _ (Setup.loadDescriptors file).run := by
  refine h.except_bind (h.except_lift (h.readText hf)) fun read => ?_
  cases read with
  | error fault => exact h.pure _
  | ok text =>
    dsimp only
    cases Registry.ofJsonText text with
    | error failure => exact h.pure _
    | ok registry => exact h.pure _

/-! The classes of a run. `hw` is empty for a dry run. -/

variable {settings : EmitSettings} {dryRun : Bool} {resolve : String → Except Failure Class}

theorem emit {c : Class} (hp : Q (settings.outputPath c.name)) :
    P _ (Generation.emit settings c) := by
  rw [Generation.emit]
  dsimp only
  split
  · exact h.next (h.pure _) fun _ => h.pure _
  · exact h.next (h.isFile hp) fun _ => h.pure _

theorem write (hw : ∀ {p} text, Q p → P _ (writeThrough p text)) (hp : Q p) (content : String) :
    P _ (Generation.write p content) := by
  refine h.next (hw content hp) fun r => ?_
  cases r with
  | ok _ => exact h.pure _
  | error fault => exact h.pure _

theorem generateClass {c : Class} (hp : Q (settings.outputPath c.name))
    (hw : dryRun = false → ∀ {p} text, Q p → P _ (writeThrough p text)) (name : String) :
    P _ (Generation.generateClass settings dryRun name c) := by
  refine h.bind (h.emit hp) fun w => ?_
  have hq : Q ((Generation.emit settings c : Session _).run w).1.path := by
    rwa [path_emit]
  dsimp only
  split
  · exact h.pure _
  · cases dryRun with
    | true => exact h.pure _
    | false => exact h.next (h.write (hw rfl) hq _) fun _ => h.pure _

theorem generateEach (hp : ∀ name c, resolve name = .ok c → Q (settings.outputPath c.name))
    (hw : dryRun = false → ∀ {p} text, Q p → P _ (writeThrough p text))
    (names : List String) :
    P _ (Generation.generateEach resolve settings dryRun names) := by
  induction names with
  | nil => exact h.pure _
  | cons name names ih =>
    have hname : P _ (Generation.generateName resolve settings dryRun name) := by
      rw [Generation.generateName]
      split
      · rename_i c hr
        exact h.generateClass (hp name c hr) hw name
      · exact h.pure _
    exact h.next hname fun _ => h.next ih fun _ => h.pure _

theorem generate (hp : ∀ name c, resolve name = .ok c → Q (settings.outputPath c.name))
    (hw : dryRun = false → ∀ {p} text, Q p → P _ (writeThrough p text))
    (names : List String) :
    P _ (Generation.generate resolve settings dryRun names) :=
  h.next (h.generateEach hp hw names) fun _ => h.pure _

end Asks

namespace Changes

variable (h : Changes P Q)
include h

theorem makeFolders {ps : List Path} (hp : ∀ p ∈ ps, Q p) : P _ (Disk.makeFolders ps) := by
  induction ps with
  | nil => exact h.pure _
  | cons p above ih =>
    rw [List.forall_mem_cons] at hp
    have hsettle : ∀ r, P _ (Disk.makeFolders.settle p r) := by
      intro r
      cases r with
      | ok _ => exact h.pure _
      | error fault => exact h.next (h.isFolder hp.1) fun _ => h.pure _
    rw [Disk.makeFolders]
    split
    · exact h.pure _
    · refine h.next (h.makeFolder hp.1) fun made => ?_
      split
      · exact h.pure _
      · refine h.next (ih hp.2) fun r => ?_
        cases r with
        | error fault => exact h.pure _
        | ok _ => exact h.next (h.makeFolder hp.1) hsettle
      · exact hsettle _

theorem writeThrough (hp : Q p) (text : String) : P _ (Disk.writeThrough p text) := by
  have hpath : ∀ q ∈ (p.parent?.map Path.ancestors).getD [], Q q := by
    intro q hq
    cases he : p.parent? with
    | none => simp [he] at hq
    | some parent =>
      rw [he] at hq
      exact h.ancestors (h.parent? hp he) q hq
  refine h.next (h.makeFolders hpath) fun made => ?_
  cases made with
  | error fault => exact h.pure _
  | ok _ => exact h.writeFile text hp

end Changes
end ClassExport.Session
