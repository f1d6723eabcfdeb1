import ClassExport.Proofs.Overwriting

/-! What paths lead to while folders are made and files are written. -/
namespace ClassExport

open FileTree Disk

variable {w w' w'' : Workspace} {here base place : Location} {p q : Path} {text name : String}
  {init parts : List String} {node : Node} {tree : FileTree} {bytes : ByteArray}

/-- The place that a path denotes; something is there. -/
def Workspace.Leads (w : Workspace) (p : Path) (place : Location) : Prop :=
  ∃ node, w.tree.locate w.folder p = .ok (place, node)

def Workspace.HasFile (w : Workspace) (p : Path) : Prop :=
  (w.tree.locate w.folder p).toOption.map (·.2.kind) = some .file

/-- What a workspace becomes when nothing is removed and no file gives way to a folder or the other
way round. -/
structure Later (w w' : Workspace) : Prop where
  sound : w'.Sound
  folder : w'.folder = w.folder
  kind : ∀ {place node}, w.tree.get? place = some node →
    (w'.tree.get? place).map Node.kind = some node.kind

/-- The same files with the same bytes, whatever folders there are. -/
def SameFiles (w w' : Workspace) : Prop :=
  ∀ place bytes, w'.tree.get? place = some (.file bytes) ↔
    w.tree.get? place = some (.file bytes)

theorem Node.eq_folder_of_kind (h : node.kind = .folder) : node = .folder := by
  cases node with
  | file bytes => cases h
  | folder => rfl

theorem FileTree.follow_eq_destination {t : FileTree} (hr : t.follow here parts = .ok place) :
    place = destination here parts := by
  induction parts generalizing here with
  | nil => exact (Except.ok.inj hr).symm
  | cons part rest ih =>
    have hf := folder_of_follow_cons hr
    rw [destination_cons]
    by_cases hp : isStep part
    · rw [follow_step hf hp] at hr
      exact ih hr
    · rw [follow_name hf hp] at hr
      rw [stepTo_name hp]
      split at hr
      · cases hr
      · split at hr
        · exact ih hr
        · cases hr

theorem FileTree.locate_eq_ok {t : FileTree} (hl : t.locate here p = .ok (place, node)) :
    start here p = .ok (origin here p, p.parts) ∧ t.follow (origin here p) p.parts = .ok place ∧
      t.get? place = some node := by
  cases hs : start here p with
  | error fault => simp [locate, hs, bind, Except.bind] at hl
  | ok found =>
    obtain ⟨-, hb, hp⟩ := eq_of_start hs
    obtain ⟨hr, hn⟩ := (locate_eq_ok_iff hs).mp hl
    exact ⟨congrArg Except.ok (Prod.ext hb hp), hb ▸ hp ▸ hr, hn⟩

namespace Workspace

theorem Leads.unique {other : Location} (hl : w.Leads p place) (ho : w.Leads p other) :
    place = other := by
  obtain ⟨node, hl⟩ := hl
  obtain ⟨node', ho⟩ := ho
  exact congrArg Prod.fst (Except.ok.inj (hl.symm.trans ho))

theorem Leads.eq_target (hl : w.Leads p place) : place = target w.folder p := by
  obtain ⟨node, hl⟩ := hl
  exact follow_eq_destination (locate_eq_ok hl).2.1

theorem Leads.readFile_eq_ok_iff (hl : w.Leads p place) :
    w.tree.readFile w.folder p = .ok bytes ↔ w.tree.get? place = some (.file bytes) := by
  obtain ⟨node, hl⟩ := hl
  cases node <;> simp [FileTree.readFile, hl, (locate_eq_ok hl).2.2, bind, Except.bind]

theorem hasFile_iff : w.HasFile p ↔ ∃ place bytes, w.Leads p place ∧
    w.tree.get? place = some (.file bytes) := by
  constructor
  · intro hk
    cases hl : w.tree.locate w.folder p with
    | error fault => simp [HasFile, hl, Except.toOption] at hk
    | ok found =>
      obtain ⟨place, node⟩ := found
      cases node with
      | folder => simp [HasFile, hl, Except.toOption, Node.kind] at hk
      | file bytes => exact ⟨place, bytes, ⟨_, hl⟩, (locate_eq_ok hl).2.2⟩
  · rintro ⟨place, bytes, ⟨node, hl⟩, hb⟩
    obtain rfl : node = .file bytes := Option.some.inj ((locate_eq_ok hl).2.2.symm.trans hb)
    rw [HasFile, hl]
    rfl

end Workspace

namespace Later

theorem refl (h : w.Sound) : Later w w := ⟨h, rfl, fun hl => by rw [hl]; rfl⟩

theorem trans (h : Later w w') (h' : Later w' w'') : Later w w'' := by
  refine ⟨h'.sound, h'.folder.trans h.folder, fun hl => ?_⟩
  obtain ⟨node', hn, hk⟩ := Option.map_eq_some_iff.mp (h.kind hl)
  rw [h'.kind hn, hk]

theorem of_grown (h : w.Sound) (hg : Grown w.tree w'.tree) (hf : w'.folder = w.folder) :
    Later w w' :=
  ⟨⟨hg.wellFormed, by rw [hf]; exact hg.keeps h.folder⟩, hf, fun hl => by
    rw [hg.keeps hl]; rfl⟩

variable (h : Later w w')
include h

theorem folder_at (hf : w.tree.get? place = some .folder) : w'.tree.get? place = some .folder := by
  obtain ⟨node, hn, hk⟩ := Option.map_eq_some_iff.mp (h.kind hf)
  rw [hn, Node.eq_folder_of_kind hk]

theorem isSome_at (hn : (w.tree.get? place).isSome) : (w'.tree.get? place).isSome := by
  obtain ⟨node, hn⟩ := Option.isSome_iff_exists.mp hn
  obtain ⟨node', hn', -⟩ := Option.map_eq_some_iff.mp (h.kind hn)
  rw [hn']
  rfl

theorem follow_eq (hr : w.tree.follow here parts = .ok place) :
    w'.tree.follow here parts = .ok place := by
  induction parts generalizing here with
  | nil => exact hr
  | cons part rest ih =>
    have hf := folder_of_follow_cons hr
    by_cases hp : isStep part
    · rw [follow_step hf hp] at hr
      rw [follow_step (h.folder_at hf) hp]
      exact ih hr
    · rw [follow_name hf hp] at hr
      rw [follow_name (h.folder_at hf) hp]
      split at hr
      · cases hr
      · rename_i hs
        split at hr
        · rename_i hn
          rw [if_neg hs, if_pos (h.isSome_at hn)]
          exact ih hr
        · cases hr

/-- A path keeps the place that it leads to. -/
theorem leads (hl : w.Leads p place) : w'.Leads p place := by
  obtain ⟨node, hl⟩ := hl
  obtain ⟨hs, hr, hn⟩ := locate_eq_ok hl
  obtain ⟨node', hn', -⟩ := Option.map_eq_some_iff.mp (h.kind hn)
  rw [← h.folder] at hs
  exact ⟨node', (locate_eq_ok_iff hs).mpr ⟨h.follow_eq (h.folder ▸ hr), hn'⟩⟩

theorem hasFile (hf : w.HasFile p) : w'.HasFile p := by
  obtain ⟨place, bytes, hl, hb⟩ := Workspace.hasFile_iff.mp hf
  obtain ⟨node, hn, hk⟩ := Option.map_eq_some_iff.mp (h.kind hb)
  cases node with
  | folder => cases hk
  | file bytes' => exact Workspace.hasFile_iff.mpr ⟨place, bytes', h.leads hl, hn⟩

end Later

theorem leads_of_open (hs : start w.folder p = .ok (base, init ++ [name]))
    (ho : Open w.tree base init) (hp : ¬ isStep name) (hl : name.utf8ByteSize ≤ maxName)
    (hn : w.tree.get? (destination base init ++ [name]) = some node) :
    w.Leads p (destination base init ++ [name]) := by
  obtain ⟨hr, hf⟩ := follow_eq_ok_iff.mpr ⟨ho, rfl⟩
  refine ⟨node, (locate_eq_ok_iff hs).mpr ⟨?_, hn⟩⟩
  rw [follow_append, hr]
  change w.tree.follow _ [name] = _
  rw [follow_name hf hp, if_neg (by omega), hn]
  rfl

/-! New folders. -/

/-- Each folder of the later state was there or is one that the paths lead to. -/
def Makes (ps : List Path) (w w' : Workspace) : Prop :=
  ∀ place, w'.tree.get? place = some .folder → w.tree.get? place = some .folder ∨
    ∃ q ∈ ps, w'.Leads q place

theorem Makes.none (ps : List Path) (w : Workspace) : Makes ps w w := fun _ => Or.inl

theorem Makes.trans {ps qs : List Path} (h : Makes ps w w') (h' : Makes qs w' w'')
    (hl : Later w' w'') :
    Makes (ps ++ qs) w w'' := by
  intro place hf
  obtain hf | ⟨q, hq, hd⟩ := h' place hf
  · obtain hf | ⟨q, hq, hd⟩ := h place hf
    · exact Or.inl hf
    · exact Or.inr ⟨q, List.mem_append_left _ hq, hl.leads hd⟩
  · exact Or.inr ⟨q, List.mem_append_right _ hq, hd⟩

theorem Makes.mono {ps qs : List Path} (h : Makes ps w w') (hs : ps ⊆ qs) : Makes qs w w' := by
  intro place hf
  obtain hf | ⟨q, hq, hd⟩ := h place hf
  · exact Or.inl hf
  · exact Or.inr ⟨q, hs hq, hd⟩

theorem makes_makeFolder (h : w.Sound) (hm : w.tree.makeFolder w.folder p = .ok tree) :
    Makes [p] w { w with tree } := by
  have hl : Later w { w with tree } := .of_grown h (grown_makeFolder h.tree h.folder hm) rfl
  rw [FileTree.makeFolder] at hm
  cases hk : w.tree.slot w.folder p with
  | error fault => simp [hk, bind, Except.bind] at hm
  | ok slot =>
    simp only [hk, bind, Except.bind] at hm
    split at hm
    · cases hm
      obtain ⟨init, name, hs, ho, hp, hsize, ⟨he, -⟩ | ⟨node, he, -⟩⟩ :=
        slot_eq_ok h.tree h.folder hk (by simp)
      · cases he
        intro place hf
        have hn := hf
        simp only [get?_set (List.append_ne_nil_of_right_ne_nil _ (List.cons_ne_nil _ _))] at hf
        split at hf
        · rename_i hplace
          subst hplace
          refine Or.inr ⟨p, List.mem_singleton_self p, leads_of_open hs ?_ hp hsize hn⟩
          exact ⟨fun l hl' => hl.folder_at (ho.1 l hl'), ho.2⟩
        · exact Or.inl hf
      · cases he
    · cases hm

theorem makes_run_makeFolder (h : w.Sound) :
    Makes [p] w ((Disk.makeFolder p : Session _).run w).2 := by
  rw [Session.run_makeFolder]
  cases hm : w.tree.makeFolder w.folder p with
  | error fault => exact .none _ _
  | ok tree => exact makes_makeFolder h hm

theorem makes_run_makeFolders (h : w.Sound) (ps : List Path) :
    Makes ps w ((makeFolders (m := Session) ps).run w).2 := by
  induction ps with
  | nil => exact .none _ _
  | cons p above ih =>
    by_cases hp : p.text = ""
    · rw [makeFolders, if_pos hp]
      exact .none _ _
    · cases hm : w.tree.makeFolder w.folder p with
      | ok tree =>
        rw [run_makeFolders_of_ok hp hm]
        exact (makes_makeFolder h hm).mono (by simp)
      | error fault =>
        by_cases hn : fault = .notFound
        · rw [run_makeFolders_of_missing hp (hn ▸ hm)]
          obtain ⟨hg, he⟩ := grown_run_makeFolders h above
          rcases hr : (makeFolders (m := Session) above).run w with ⟨fault | _, w₁⟩
          · rw [hr] at ih
            exact ih.mono (List.subset_cons_self p above)
          · rw [hr] at ih hg he
            have h₁ : w₁.Sound := (Later.of_grown h hg he).sound
            obtain ⟨hg', he'⟩ := grown_run_makeFolder (p := p) h₁
            dsimp only
            rw [Session.run_bind, run_settle_snd]
            exact (ih.trans (makes_run_makeFolder h₁) (.of_grown h₁ hg' he')).mono (by simp)
        · rw [run_makeFolders_of_error hp hm hn, run_settle_snd]
          exact .none _ _

theorem sameFiles_of_grown (hg : Grown w.tree w'.tree) : SameFiles w w' := by
  intro place bytes
  refine ⟨fun hb => ?_, hg.keeps⟩
  obtain hb | ⟨-, hb⟩ := hg.adds hb
  · exact hb
  · cases hb

/-! Writing one file. -/

/-- The folders of an output path: those that stand above it. -/
def Path.above (p : Path) : List Path := (p.parent?.map Path.ancestors).getD []

/-- What writing through a path leaves: the file, or nothing but folders on the way. -/
structure WrittenThrough (p : Path) (text : String) (r : Except DiskFault Unit) (w w' : Workspace) :
    Prop where
  later : Later w w'
  makes : Makes p.above w w'
  failed : ∀ {fault}, r = .error fault → SameFiles w w'
  written : r = .ok () → ∃ place, w'.Leads p place ∧ ∀ l bytes,
    w'.tree.get? l = some (.file bytes) ↔
    if l = place then bytes = text.toUTF8 else w.tree.get? l = some (.file bytes)

theorem WrittenThrough.hasFile (h : WrittenThrough p text (.ok ()) w w') : w'.HasFile p := by
  obtain ⟨place, hl, hb⟩ := h.written rfl
  exact Workspace.hasFile_iff.mpr ⟨place, _, hl, (hb place _).mpr (by rw [if_pos rfl])⟩

theorem writtenThrough_writeFile (h : w.Sound) (hw : w.tree.writeFile w.folder p text = .ok tree) :
    WrittenThrough p text (.ok ()) w { w with tree } := by
  obtain ⟨init, name, hs, ho, hp, hsize, hv, rfl⟩ := writeFile_eq_ok h.tree h.folder hw
  have hne : destination (origin w.folder p) init ++ [name] ≠ [] := by simp
  have hfolder : ∀ {l}, w.tree.get? l = some .folder →
      l ≠ destination (origin w.folder p) init ++ [name] := by
    rintro l hf rfl
    exact hv hf
  have hl : Later w
      ⟨w.tree.set (destination (origin w.folder p) init ++ [name]) (.file text.toUTF8),
        w.folder⟩ := by
    refine ⟨⟨h.tree.set (ho.1 _ (destination_mem_stops _ _)) (Or.inl hv), ?_⟩, rfl,
      fun {l node} hn => ?_⟩
    · dsimp only
      rw [get?_set hne, if_neg (hfolder h.folder), h.folder]
    · dsimp only
      rw [get?_set hne]
      split
      · rename_i he
        cases node with
        | folder => exact (hv (he ▸ hn)).elim
        | file bytes => rfl
      · rw [hn]
        rfl
  refine ⟨hl, fun l hf => ?_, (fun hr => by cases hr), fun _ =>
    ⟨destination (origin w.folder p) init ++ [name], ?_, fun l bytes => ?_⟩⟩
  · dsimp only at hf
    rw [get?_set hne] at hf
    split at hf
    · cases hf
    · exact Or.inl hf
  · have hfile : (w.tree.set (destination (origin w.folder p) init ++ [name])
      (.file text.toUTF8)).get?
        (destination (origin w.folder p) init ++ [name]) = some (.file text.toUTF8) := by
      rw [get?_set hne, if_pos rfl]
    exact leads_of_open hs ⟨fun l hm => hl.folder_at (ho.1 l hm), ho.2⟩ hp hsize hfile
  · dsimp only
    rw [get?_set hne]
    split
    · rw [Option.some.injEq, Node.file.injEq, eq_comm]
    · rfl

theorem writtenThrough_run (h : w.Sound) (p : Path) (text : String) :
    WrittenThrough p text ((writeThrough (m := Session) p text).run w).1 w
      ((writeThrough (m := Session) p text).run w).2 := by
  obtain ⟨hg, hf⟩ := grown_run_makeFolders h ((p.parent?.map Path.ancestors).getD [])
  have hm := makes_run_makeFolders h ((p.parent?.map Path.ancestors).getD [])
  rw [writeThrough, Session.run_bind]
  rcases hr : (makeFolders (m := Session) ((p.parent?.map Path.ancestors).getD [])).run w
    with ⟨fault | _, w₁⟩
  · rw [hr] at hg hf hm
    exact ⟨.of_grown h hg hf, hm, fun _ => sameFiles_of_grown hg, (fun hr => by cases hr)⟩
  · rw [hr] at hg hf hm
    have hl := Later.of_grown h hg hf
    dsimp only
    rw [Session.run_writeFile]
    cases hw : w₁.tree.writeFile w₁.folder p text with
    | error fault => exact ⟨hl, hm, fun _ => sameFiles_of_grown hg, (fun hr => by cases hr)⟩
    | ok tree =>
      obtain ⟨hl', hm', -, hw'⟩ := writtenThrough_writeFile hl.sound hw
      refine ⟨hl.trans hl', ?_, (fun hr => by cases hr), fun _ => ?_⟩
      · exact (hm.trans hm' hl').mono
          (List.append_subset.mpr ⟨List.Subset.refl _, List.Subset.refl _⟩)
      · obtain ⟨place, hd, hb⟩ := hw' rfl
        refine ⟨place, hd, fun l bytes => ?_⟩
        rw [hb, sameFiles_of_grown hg]

end ClassExport
