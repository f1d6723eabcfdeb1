import ClassExport.Proofs.Writing

/-! What a run leaves on disk, and which of the texts that it wrote are still there at its end. -/
namespace ClassExport

open FileTree Disk Generation

variable {w w' w'' : Workspace} {place : Location} {p : Path} {name : String}
  {c : Class} {dryRun : Bool} {resolve : String → Except Failure Class} {settings : EmitSettings}
  {entries more : List (String × Outcome)}

/-- The path that a class was to be written to, whether or not that went well. -/
def Outcome.attempted? : Outcome → Option Path
  | .written path _ => some path
  | .failed (.write path _) => some path
  | _ => none

def Outcome.writtenPath? : Outcome → Option Path
  | .written path _ => some path
  | _ => none

/-- None of the entries was written to the place, as the workspace has it. -/
def Unwritten (entries : List (String × Outcome)) (w : Workspace) (place : Location) : Prop :=
  ∀ name p size, (name, .written p size) ∈ entries → ¬ w.Leads p place

/-- What entries of a report say of the workspaces before and after them. -/
structure Leaves (resolve : String → Except Failure Class) (settings : EmitSettings)
    (entries : List (String × Outcome)) (w w' : Workspace) : Prop where
  later : Later w w'
  /-- An entry is written to the path of its class, which denotes a place, and tells the size of its
  text. -/
  written : ∀ name p size, (name, .written p size) ∈ entries → ∃ c, resolve name = .ok c ∧
    p = settings.outputPath c.name ∧ size = (c.render settings).utf8ByteSize ∧
      ∃ place, w'.Leads p place
  /-- The last entry written to a place decides what is there. -/
  last : ∀ before name p size after c place,
    entries = before ++ (name, .written p size) :: after →
    resolve name = .ok c → w'.Leads p place → Unwritten after w' place →
    w'.tree.get? place = some (.file (c.render settings).toUTF8)
  /-- A file that no entry was written to is as it was, and there is no other new file. -/
  others : ∀ place, Unwritten entries w' place →
    ∀ bytes, w'.tree.get? place = some (.file bytes) ↔ w.tree.get? place = some (.file bytes)
  /-- New folders stand above the paths of classes that were to be written. -/
  folders : ∀ place, w'.tree.get? place = some .folder → w.tree.get? place = some .folder ∨
    ∃ name outcome c, (name, outcome) ∈ entries ∧ resolve name = .ok c ∧
      outcome.attempted? = some (settings.outputPath c.name) ∧
      ∃ q ∈ (settings.outputPath c.name).above, w'.Leads q place

theorem Unwritten.append (h : Unwritten entries w place) (h' : Unwritten more w place) :
    Unwritten (entries ++ more) w place := by
  intro name p size hm
  obtain hm | hm := List.mem_append.mp hm
  · exact h name p size hm
  · exact h' name p size hm

theorem Unwritten.of_subset (h : Unwritten entries w place) (hs : more ⊆ entries) :
    Unwritten more w place :=
  fun name p size hm => h name p size (hs hm)

/-- What is unwritten in the end was so all the time. -/
theorem Unwritten.earlier (hl : Later w w') (h : Unwritten entries w' place) :
    Unwritten entries w place :=
  fun name p size hm hd => h name p size hm (hl.leads hd)

/-- Entries of which none is written may leave everything as it is. -/
theorem leaves_same (h : w.Sound) (hn : ∀ e ∈ entries, e.2.writtenPath? = none) :
    Leaves resolve settings entries w w := by
  have hw : ∀ {name p size}, (name, Outcome.written p size) ∉ entries :=
    fun hm => nomatch hn _ hm
  refine ⟨.refl h, ?_, ?_, fun _ _ _ => Iff.rfl, fun _ => Or.inl⟩
  · exact fun _ _ _ hm => (hw hm).elim
  · rintro before name p size after c place rfl
    exact (hw (List.mem_append_right before List.mem_cons_self)).elim

theorem Leaves.append (h : Leaves resolve settings entries w w')
    (h' : Leaves resolve settings more w' w'') :
    Leaves resolve settings (entries ++ more) w w'' := by
  refine ⟨h.later.trans h'.later, ?_, ?_, ?_, ?_⟩
  · intro name p size hm
    obtain hm | hm := List.mem_append.mp hm
    · obtain ⟨c, hr, hp, hs, place, hd⟩ := h.written name p size hm
      exact ⟨c, hr, hp, hs, place, h'.later.leads hd⟩
    · exact h'.written name p size hm
  · intro before name p size after c place he hr hd hu
    obtain ⟨mid, rfl, hmid⟩ | ⟨mid, rfl, hmid⟩ := List.append_eq_append_iff.mp he
    · exact h'.last mid name p size after c place hmid hr hd hu
    · cases mid with
      | nil => exact h'.last [] name p size after c place hmid.symm hr hd hu
      | cons e mid =>
        obtain ⟨rfl, rfl⟩ := List.cons.inj hmid
        -- the entry is one of the first ones, and none of the second ones changes its file
        have hm : (name, .written p size) ∈ before ++ (name, .written p size) :: mid :=
          List.mem_append_right before List.mem_cons_self
        obtain ⟨-, -, -, -, place', hd'⟩ := h.written name p size hm
        obtain rfl : place' = place := (h'.later.leads hd').unique hd
        have hmore := hu.of_subset (List.subset_append_right mid more)
        have hmid := (hu.of_subset (List.subset_append_left mid more)).earlier h'.later
        rw [h'.others place' hmore]
        exact h.last before name p size mid c place' rfl hr hd' hmid
  · intro place hu bytes
    have hmore := hu.of_subset (List.subset_append_right entries more)
    have hentries := (hu.of_subset (List.subset_append_left entries more)).earlier h'.later
    rw [h'.others place hmore, h.others place hentries]
  · intro place hf
    obtain hf | ⟨name, outcome, c, hm, hr, ha, hq⟩ := h'.folders place hf
    · obtain hf | ⟨name, outcome, c, hm, hr, ha, q, hq, hd⟩ := h.folders place hf
      · exact Or.inl hf
      · exact Or.inr ⟨name, outcome, c, List.mem_append_left more hm, hr, ha, q, hq,
          h'.later.leads hd⟩
    · exact Or.inr ⟨name, outcome, c, List.mem_append_right entries hm, hr, ha, hq⟩

/-! One class. -/

/-- A class is skipped when its file is there and must be kept; otherwise it is written. -/
inductive Exported (settings : EmitSettings) (c : Class) (w : Workspace) :
    Outcome → Workspace → Prop where
  | kept (ho : settings.overwrite = false) (hk : w.HasFile (settings.outputPath c.name)) :
      Exported settings c w (.skipped (settings.outputPath c.name)) w
  | lost {fault : DiskFault} {w' : Workspace}
      (hw : WrittenThrough (settings.outputPath c.name) (c.render settings) (.error fault) w w') :
      Exported settings c w (.failed (.write (settings.outputPath c.name) fault)) w'
  | done {w' : Workspace}
      (ho : settings.overwrite = true ∨ ¬ w.HasFile (settings.outputPath c.name))
      (hw : WrittenThrough (settings.outputPath c.name) (c.render settings) (.ok ()) w w') :
      Exported settings c w
        (.written (settings.outputPath c.name) (c.render settings).utf8ByteSize) w'

theorem kept_or_open (settings : EmitSettings) (w : Workspace) (p : Path) :
    settings.overwrite = false ∧ w.HasFile p ∨
      (settings.overwrite = true ∨ ¬ w.HasFile p) := by
  by_cases hk : w.HasFile p <;> cases settings.overwrite <;> simp [hk]

theorem run_emit_of_kept (ho : settings.overwrite = false)
    (hk : w.HasFile (settings.outputPath c.name)) :
    (emit (m := Session) settings c).run w = (⟨settings.outputPath c.name, none⟩, w) := by
  rw [Workspace.HasFile] at hk
  simp only [emit, ho, Bool.false_eq_true, if_false, Session.run_bind, Session.run_isFile,
    Session.run_pure, hk, decide_true, if_true]

theorem run_emit_of_open (ho : settings.overwrite = true ∨
    ¬ w.HasFile (settings.outputPath c.name)) :
    (emit (m := Session) settings c).run w =
      (⟨settings.outputPath c.name, some (c.render settings)⟩, w) := by
  cases hs : settings.overwrite with
  | true =>
    simp only [emit, hs, if_true, Session.run_bind, Session.run_pure, Bool.false_eq_true, if_false]
  | false =>
    have hk := ho.resolve_left (by simp [hs])
    rw [Workspace.HasFile] at hk
    simp only [emit, hs, Bool.false_eq_true, if_false, Session.run_bind, Session.run_isFile,
      Session.run_pure, hk, decide_false]

/-- A file that is kept is kept in every run. -/
theorem run_generateClass_of_kept (ho : settings.overwrite = false)
    (hk : w.HasFile (settings.outputPath c.name)) :
    (generateClass (m := Session) settings dryRun name c).run w =
      ((.skipped (settings.outputPath c.name), [.converting name (settings.outputPath c.name),
        .existing (settings.outputPath c.name)]), w) := by
  rw [generateClass, Session.run_bind, run_emit_of_kept ho hk]
  rfl

/-- The outcome that a report has for a write. -/
def Outcome.ofWrite (p : Path) (content : String) : Except DiskFault Unit → Outcome
  | .ok () => .written p content.utf8ByteSize
  | .error fault => .failed (.write p fault)

theorem run_generateClass_of_open {r : Except DiskFault Unit}
    (ho : settings.overwrite = true ∨ ¬ w.HasFile (settings.outputPath c.name))
    (hw : (writeThrough (m := Session) (settings.outputPath c.name) (c.render settings)).run w =
      (r, w')) :
    (generateClass (m := Session) settings false name c).run w =
      ((.ofWrite (settings.outputPath c.name) (c.render settings) r,
        .converting name (settings.outputPath c.name) ::
        failureEvents name (.ofWrite (settings.outputPath c.name) (c.render settings) r)), w') := by
  rw [generateClass, Session.run_bind, run_emit_of_open ho]
  dsimp only
  rw [if_neg Bool.false_ne_true, Session.run_bind, write, Session.run_bind, hw]
  cases r with
  | error fault => rfl
  | ok _ => rfl

theorem exported_generateClass (h : w.Sound) (settings : EmitSettings) (name : String) (c : Class) :
    Exported settings c w ((generateClass (m := Session) settings false name c).run w).1.1
      ((generateClass (m := Session) settings false name c).run w).2 := by
  rcases kept_or_open settings w (settings.outputPath c.name) with ⟨ho, hk⟩ | ho
  · rw [run_generateClass_of_kept ho hk]
    exact .kept ho hk
  · have hx := writtenThrough_run h (settings.outputPath c.name) (c.render settings)
    rcases hw : (writeThrough (m := Session) (settings.outputPath c.name)
      (c.render settings)).run w with ⟨r, w₁⟩
    rw [hw] at hx
    rw [run_generateClass_of_open ho hw]
    cases r with
    | error fault => exact .lost hx
    | ok _ => exact .done ho hx

theorem mem_of_singleton_eq {α : Type} {a b : α} {before after : List α}
    (h : [a] = before ++ b :: after) : b = a :=
  List.mem_singleton.mp (h ▸ List.mem_append_right before List.mem_cons_self)

theorem leaves_exported {c : Class} {outcome : Outcome} (h : w.Sound) (hr : resolve name = .ok c)
    (he : Exported settings c w outcome w') : Leaves resolve settings [(name, outcome)] w w' := by
  cases he with
  | kept => exact leaves_same h (by simp [Outcome.writtenPath?])
  | lost hw =>
    refine ⟨hw.later, ?_, ?_, fun place _ bytes => hw.failed rfl place bytes,
      fun place hf => ?_⟩
    · intro _ _ _ hm
      cases List.mem_singleton.mp hm
    · intro _ _ _ _ _ _ _ hs
      cases mem_of_singleton_eq hs
    · exact (hw.makes place hf).imp_right fun hq =>
        ⟨name, _, c, List.mem_singleton_self _, hr, rfl, hq⟩
  | done _ hw =>
    obtain ⟨place, hl, hb⟩ := hw.written rfl
    refine ⟨hw.later, ?_, ?_, ?_, fun place hf => ?_⟩
    · intro _ _ _ hm
      cases List.mem_singleton.mp hm
      exact ⟨c, hr, rfl, rfl, place, hl⟩
    · intro _ _ _ _ _ d other hs hr' hl' _
      cases mem_of_singleton_eq hs
      cases hr.symm.trans hr'
      obtain rfl := hl.unique hl'
      rw [hb, if_pos rfl]
    · intro other hu bytes
      have hne : other ≠ place := by
        rintro rfl
        exact hu _ _ _ (List.mem_singleton_self _) hl
      rw [hb, if_neg hne]
    · exact (hw.makes place hf).imp_right fun hq =>
        ⟨name, _, c, List.mem_singleton_self _, hr, rfl, hq⟩

theorem leaves_generateName (h : w.Sound) (name : String) : Leaves resolve settings
    [(name, ((generateName (m := Session) resolve settings false name).run w).1.1)] w
    ((generateName (m := Session) resolve settings false name).run w).2 := by
  rw [generateName]
  cases hr : resolve name with
  | error failure => exact leaves_same h (by simp [Outcome.writtenPath?])
  | ok c => exact leaves_exported h hr (exported_generateClass h settings name c)

/-! A whole run. -/

theorem run_generateEach_cons (name : String) (names : List String) (w : Workspace) :
    ((generateEach (m := Session) resolve settings false (name :: names)).run w).1.1 =
        (name, ((generateName (m := Session) resolve settings false name).run w).1.1) ::
          ((generateEach (m := Session) resolve settings false names).run
            ((generateName (m := Session) resolve settings false name).run w).2).1.1 ∧
      ((generateEach (m := Session) resolve settings false (name :: names)).run w).2 =
        ((generateEach (m := Session) resolve settings false names).run
          ((generateName (m := Session) resolve settings false name).run w).2).2 := ⟨rfl, rfl⟩

theorem leaves_generateEach (h : w.Sound) (resolve : String → Except Failure Class)
    (settings : EmitSettings) (names : List String) :
    Leaves resolve settings
      ((generateEach (m := Session) resolve settings false names).run w).1.1 w
      ((generateEach (m := Session) resolve settings false names).run w).2 := by
  induction names generalizing w with
  | nil => exact leaves_same h (List.forall_mem_nil _)
  | cons name names ih =>
    obtain ⟨he, hw⟩ := @run_generateEach_cons resolve settings name names w
    have hn : Leaves resolve settings _ w _ := leaves_generateName h name
    rw [he, hw]
    exact hn.append (ih hn.later.sound)

theorem run_generateEach_append (before after : List String) (w : Workspace) :
    ((generateEach (m := Session) resolve settings false (before ++ after)).run w).1.1 =
        ((generateEach (m := Session) resolve settings false before).run w).1.1 ++
          ((generateEach (m := Session) resolve settings false after).run
            ((generateEach (m := Session) resolve settings false before).run w).2).1.1 ∧
      ((generateEach (m := Session) resolve settings false (before ++ after)).run w).2 =
        ((generateEach (m := Session) resolve settings false after).run
          ((generateEach (m := Session) resolve settings false before).run w).2).2 := by
  induction before generalizing w with
  | nil => exact ⟨rfl, rfl⟩
  | cons name before ih =>
    obtain ⟨he, hw⟩ := ih ((generateName (m := Session) resolve settings false name).run w).2
    exact ⟨congrArg (List.cons (name, _)) he, hw⟩

theorem length_generateEach (names : List String) (w : Workspace) :
    ((generateEach (m := Session) resolve settings false names).run w).1.1.length =
      names.length := by
  induction names generalizing w with
  | nil => rfl
  | cons name names ih =>
    rw [(run_generateEach_cons name names w).1, List.length_cons, ih, List.length_cons]

/-- The entry of a name in a run is what the name comes to after those before it. -/
theorem getElem?_generateEach (before : List String) (name : String) (after : List String)
    (w : Workspace) :
    ((generateEach (m := Session) resolve settings false
      (before ++ name :: after)).run w).1.1[before.length]? =
        some (name, ((generateName (m := Session) resolve settings false name).run
          ((generateEach (m := Session) resolve settings false before).run w).2).1.1) ∧
      ((generateEach (m := Session) resolve settings false
        (before ++ name :: after)).run w).1.1.take before.length =
        ((generateEach (m := Session) resolve settings false before).run w).1.1 := by
  have hn := @length_generateEach resolve settings before w
  rw [(run_generateEach_append before _ w).1]
  constructor
  · rw [List.getElem?_append_right (Nat.le_of_eq hn), hn, Nat.sub_self,
      (run_generateEach_cons name after _).1, List.getElem?_cons_zero]
  · rw [← hn, List.take_left]

theorem sameFiles_of_failed {failure : Failure} (h : w.Sound) (before : List String) (name : String)
    (after : List String)
    (hf : ((generateEach (m := Session) resolve settings false
      (before ++ name :: after)).run w).1.1[before.length]? = some (name, .failed failure)) :
    SameFiles ((generateEach (m := Session) resolve settings false before).run w).2
      ((generateEach (m := Session) resolve settings false (before ++ [name])).run w).2 := by
  have hl : Leaves resolve settings _ w _ := leaves_generateEach h resolve settings before
  rw [(getElem?_generateEach before name after w).1] at hf
  have hn : Leaves resolve settings _ _ _ := leaves_generateName hl.later.sound name
  rw [Option.some.inj hf] at hn
  rw [(run_generateEach_append before [name] w).2]
  intro place bytes
  refine hn.others place (fun _ _ _ hm => ?_) bytes
  cases List.mem_singleton.mp hm

/-- After a run that is no dry run each file to which some entry was written holds the text of the
last of them, all other files are as they were, nothing is removed, new folders stand above paths
that were to be written, and an entry that failed has changed no file. -/
theorem Generation.leaves_written_texts {names : List String} {report : Report}
    {events : List Event} (h : w.Sound)
    (hr : (generate (m := Session) resolve settings false names).run w = ((report, events), w')) :
    Leaves resolve settings report.entries w w' ∧
    ∀ before name after failure, names = before ++ name :: after →
      report.entries[before.length]? = some (name, .failed failure) →
      SameFiles ((generate (m := Session) resolve settings false before).run w).2
        ((generate (m := Session) resolve settings false (before ++ [name])).run w).2 := by
  have hl := leaves_generateEach h resolve settings names
  cases hr
  refine ⟨hl, ?_⟩
  rintro before name after failure rfl hf
  exact sameFiles_of_failed h before name after hf

/-- Two classes of one simple name. -/
def ClassSource.homonyms : ClassSource :=
  .registry (.ofList [⟨"User", "a", [⟨"id", "int", none, false, .single .publicAccess⟩]⟩,
    ⟨"User", "b", []⟩])

theorem Generation.leaves_written_texts_of_homonyms :
    Workspace.Sound ⟨.empty, []⟩ ∧ ∃ report events w',
      (generate (m := Session) ClassSource.homonyms.resolve { outputFolder := "new/out" } false
        ["a.User", "c.User", "b.User"]).run ⟨.empty, []⟩ = ((report, events), w') ∧
      Leaves ClassSource.homonyms.resolve { outputFolder := "new/out" } report.entries
        ⟨.empty, []⟩ w' ∧
      ∀ before name after failure, ["a.User", "c.User", "b.User"] = before ++ name :: after →
        report.entries[before.length]? = some (name, .failed failure) →
        SameFiles
          ((generate (m := Session) ClassSource.homonyms.resolve
            { outputFolder := "new/out" } false before).run ⟨.empty, []⟩).2
          ((generate (m := Session) ClassSource.homonyms.resolve
            { outputFolder := "new/out" } false (before ++ [name])).run ⟨.empty, []⟩).2 := by
  have h : Workspace.Sound ⟨.empty, []⟩ := ⟨wellFormed_empty, rfl⟩
  rcases hr : (generate (m := Session) ClassSource.homonyms.resolve
    { outputFolder := "new/out" } false ["a.User", "c.User", "b.User"]).run ⟨.empty, []⟩
    with ⟨⟨report, events⟩, w'⟩
  exact ⟨h, report, events, w', rfl, Generation.leaves_written_texts h hr⟩

/-! Texts that a run has written over again. -/

theorem exists_last {α : Type} {P : α → Prop} {l : List α} {a : α} (hm : a ∈ l) (ha : P a) :
    ∃ before b after, l = before ++ b :: after ∧ P b ∧ ∀ c ∈ after, ¬ P c := by
  induction l generalizing a with
  | nil => cases hm
  | cons x l ih =>
    by_cases hx : ∃ y ∈ l, P y
    · obtain ⟨y, hy, hp⟩ := hx
      obtain ⟨before, b, after, rfl, hb, hc⟩ := ih hy hp
      exact ⟨x :: before, b, after, rfl, hb, hc⟩
    · obtain rfl | hm := List.mem_cons.mp hm
      · exact ⟨[], a, l, rfl, ha, fun c hc hp => hx ⟨c, hc, hp⟩⟩
      · exact (hx ⟨a, hm, ha⟩).elim

/-- What stands where an entry was written is the text of some entry written there. -/
theorem Leaves.exists_text (h : Leaves resolve settings entries w w') {size : Nat}
    (hm : (name, .written p size) ∈ entries) (hl : w'.Leads p place) :
    ∃ name' p' size' c, (name', .written p' size') ∈ entries ∧ resolve name' = .ok c ∧
      w'.Leads p' place ∧
      w'.tree.get? place = some (.file (c.render settings).toUTF8) := by
  obtain ⟨before, ⟨name', outcome⟩, after, rfl, ⟨p', size', rfl, hl'⟩, hu⟩ :=
    exists_last (P := fun e => ∃ p size, e.2 = .written p size ∧ w'.Leads p place) hm
      ⟨p, size, rfl, hl⟩
  have hm' := List.mem_append_right before
    (List.mem_cons_self (a := (name', Outcome.written p' size')) (l := after))
  obtain ⟨c, hr, -⟩ := h.written _ _ _ hm'
  refine ⟨name', p', size', c, hm', hr, hl',
    h.last before name' p' size' after c place rfl hr hl' ?_⟩
  exact fun name q size hm hd => hu _ hm ⟨q, size, rfl, hd⟩

theorem EmitSettings.outputPath_eq_iff {a b : String} :
    settings.outputPath a = settings.outputPath b ↔ Text.lowerFirst a = Text.lowerFirst b := by
  simp [EmitSettings.outputPath]

/-! Without overwriting. -/

theorem exists_exported {size : Nat} (h : w.Sound)
    (ho : ((generateName (m := Session) resolve settings false name).run w).1.1 = .written p size) :
    ∃ c, Exported settings c w (.written p size)
      ((generateName (m := Session) resolve settings false name).run w).2 := by
  rw [generateName] at ho ⊢
  cases hr : resolve name with
  | error failure =>
    rw [hr] at ho
    cases ho
  | ok c =>
    rw [hr] at ho
    dsimp only at ho
    exact ⟨c, ho ▸ exported_generateClass h settings name c⟩

namespace Exported

variable {c : Class} {size : Nat} (he : Exported settings c w (.written p size) w')
include he

/-- A path that leads to a file is not written to. -/
theorem not_hasFile (ho : settings.overwrite = false) : ¬ w.HasFile p := by
  cases he with
  | done hn _ => exact hn.resolve_left (by simp [ho])

theorem hasFile : w'.HasFile p := by
  cases he with
  | done _ hw => exact hw.hasFile

end Exported

theorem not_hasFile_of_written (h : w.Sound) (ho : settings.overwrite = false)
    {names : List String} {size : Nat}
    (hm : (name, .written p size) ∈
      ((generateEach (m := Session) resolve settings false names).run w).1.1) :
    ¬ w.HasFile p := by
  induction names generalizing w with
  | nil => cases hm
  | cons first names ih =>
    have hl : Leaves resolve settings _ w _ := leaves_generateName h first
    obtain hm | hm := List.mem_cons.mp ((run_generateEach_cons first names w).1 ▸ hm)
    · obtain ⟨c, he⟩ := exists_exported h (congrArg Prod.snd hm).symm
      exact he.not_hasFile ho
    · exact fun hf => ih hl.later.sound hm (hl.later.hasFile hf)

theorem nodup_writtenPaths (h : w.Sound) (resolve : String → Except Failure Class)
    (ho : settings.overwrite = false) (names : List String) :
    (((generateEach (m := Session) resolve settings false names).run w).1.1.filterMap
      (·.2.writtenPath?)).Nodup := by
  induction names generalizing w with
  | nil => exact List.nodup_nil
  | cons first names ih =>
    have hl : Leaves resolve settings _ w _ := leaves_generateName h first
    rw [(run_generateEach_cons first names w).1]
    cases hw : ((generateName (m := Session) resolve settings false first).run w).1.1 with
    | written p size =>
      obtain ⟨c, he⟩ := exists_exported h hw
      refine List.nodup_cons.mpr ⟨fun hm => ?_, ih hl.later.sound⟩
      obtain ⟨⟨name, outcome⟩, hm, hp⟩ := List.mem_filterMap.mp hm
      cases outcome with
      | written q size' =>
        cases hp
        exact not_hasFile_of_written hl.later.sound ho hm he.hasFile
      | _ => cases hp
    | _ => exact ih hl.later.sound

/-- An entry that was written has this path and asks for this class. -/
def HasWritten (resolve : String → Except Failure Class) (entries : List (String × Outcome))
    (p : Path) (c : Class) :
    Prop := ∃ name size, (name, .written p size) ∈ entries ∧ resolve name = .ok c

/-- At the path of each entry that was written stands the text of its own class. -/
def KeepsTexts (resolve : String → Except Failure Class) (settings : EmitSettings)
    (entries : List (String × Outcome)) (w : Workspace) : Prop :=
  ∀ name p size, (name, .written p size) ∈ entries → ∃ c, resolve name = .ok c ∧
    w.tree.readFile w.folder p = .ok (c.render settings).toUTF8

theorem Leaves.keepsTexts_iff (h : Leaves resolve settings entries w w') :
    KeepsTexts resolve settings entries w' ↔ ∀ p c p' c', HasWritten resolve entries p c →
      HasWritten resolve entries p' c' → target w.folder p = target w.folder p' →
      c.render settings = c'.render settings := by
  constructor
  · rintro hk p c p' c' ⟨name, size, hm, hr⟩ ⟨name', size', hm', hr'⟩ ht
    obtain ⟨_, hc, hb⟩ := hk name p size hm
    obtain ⟨_, hc', hb'⟩ := hk name' p' size' hm'
    cases hr.symm.trans hc
    cases hr'.symm.trans hc'
    obtain ⟨-, -, -, -, place, hl⟩ := h.written name p size hm
    obtain ⟨-, -, -, -, place', hl'⟩ := h.written name' p' size' hm'
    obtain rfl : place = place' := by
      rw [hl.eq_target, hl'.eq_target, h.later.folder, ht]
    rw [hl.readFile_eq_ok_iff] at hb
    rw [hl'.readFile_eq_ok_iff] at hb'
    exact String.toByteArray_inj.mp (Node.file.inj (Option.some.inj (hb.symm.trans hb')))
  · intro hs name p size hm
    obtain ⟨c, hr, -, -, place, hl⟩ := h.written name p size hm
    obtain ⟨name', p', size', c', hm', hr', hl', hb⟩ := h.exists_text hm hl
    have ht : target w.folder p = target w.folder p' := by
      rw [← h.later.folder, ← hl.eq_target, ← hl'.eq_target]
    refine ⟨c, hr, ?_⟩
    rw [hl.readFile_eq_ok_iff, hb,
      hs p c p' c' ⟨name, size, hm, hr⟩ ⟨name', size', hm', hr'⟩ ht]

/-- At the end of a run each entry that was written has its own text at its path exactly when no two
written entries whose paths lead to one place have different texts. Two of them have one path
exactly when the names of their classes agree after lowering the first letter; without overwriting
that never happens. -/
theorem Generation.keeps_written_texts_iff {names : List String} {report : Report}
    {events : List Event} (h : w.Sound)
    (hr : (generate (m := Session) resolve settings false names).run w = ((report, events), w')) :
    (KeepsTexts resolve settings report.entries w' ↔ ∀ p c p' c',
      HasWritten resolve report.entries p c →
      HasWritten resolve report.entries p' c' → target w.folder p = target w.folder p' →
      c.render settings = c'.render settings) ∧
    (∀ p c p' c', HasWritten resolve report.entries p c →
      HasWritten resolve report.entries p' c' →
      (p = p' ↔ Text.lowerFirst c.name = Text.lowerFirst c'.name)) ∧
    (settings.overwrite = false → (report.entries.filterMap (·.2.writtenPath?)).Nodup) := by
  have hl : Leaves resolve settings report.entries w w' := by
    have hl := leaves_generateEach h resolve settings names
    cases hr
    exact hl
  refine ⟨hl.keepsTexts_iff, ?_, fun ho => ?_⟩
  · rintro p c p' c' ⟨name, size, hm, hr⟩ ⟨name', size', hm', hr'⟩
    obtain ⟨_, hc, rfl, -⟩ := hl.written name p size hm
    obtain ⟨_, hc', rfl, -⟩ := hl.written name' p' size' hm'
    cases hr.symm.trans hc
    cases hr'.symm.trans hc'
    exact EmitSettings.outputPath_eq_iff
  · have hn := nodup_writtenPaths h resolve ho names
    cases hr
    exact hn

/-- The second class finds the file of the first one, which is kept. -/
theorem Generation.keeps_written_texts_of_homonyms :
    Workspace.Sound ⟨.empty, []⟩ ∧ ∃ report events w',
      (generate (m := Session) ClassSource.homonyms.resolve { overwrite := false } false
        ["a.User", "b.User"]).run ⟨.empty, []⟩ = ((report, events), w') ∧
      (KeepsTexts ClassSource.homonyms.resolve { overwrite := false } report.entries w' ↔
        ∀ p c p' c', HasWritten ClassSource.homonyms.resolve report.entries p c →
          HasWritten ClassSource.homonyms.resolve report.entries p' c' →
          target [] p = target [] p' →
          c.render { overwrite := false } = c'.render { overwrite := false }) ∧
      (∀ p c p' c', HasWritten ClassSource.homonyms.resolve report.entries p c →
        HasWritten ClassSource.homonyms.resolve report.entries p' c' →
        (p = p' ↔ Text.lowerFirst c.name = Text.lowerFirst c'.name)) ∧
      (({ overwrite := false } : EmitSettings).overwrite = false →
        (report.entries.filterMap (·.2.writtenPath?)).Nodup) := by
  have h : Workspace.Sound ⟨.empty, []⟩ := ⟨wellFormed_empty, rfl⟩
  rcases hr : (generate (m := Session) ClassSource.homonyms.resolve { overwrite := false } false
    ["a.User", "b.User"]).run ⟨.empty, []⟩ with ⟨⟨report, events⟩, w'⟩
  exact ⟨h, report, events, w', rfl, Generation.keeps_written_texts_iff h hr⟩

/-- Both classes are reported as written to one file, which holds the text of the second one. -/
theorem Generation.loses_text_of_homonym :
    Workspace.Sound ⟨.empty, []⟩ ∧
    ((generate (m := Session) ClassSource.homonyms.resolve {} false ["a.User", "b.User"]).run
      ⟨.empty, []⟩).1.1.entries =
        [("a.User", .written ⟨"user.ts"⟩ 49), ("b.User", .written ⟨"user.ts"⟩ 22)] ∧
    ¬ KeepsTexts ClassSource.homonyms.resolve {}
      [("a.User", .written ⟨"user.ts"⟩ 49), ("b.User", .written ⟨"user.ts"⟩ 22)]
      ((generate (m := Session) ClassSource.homonyms.resolve {} false
        ["a.User", "b.User"]).run ⟨.empty, []⟩).2 := by
  have h : Workspace.Sound ⟨.empty, []⟩ := ⟨wellFormed_empty, rfl⟩
  refine And.intro h (And.intro ?_ ?_)
  · decide +kernel
  intro hk
  obtain ⟨c, hr, hb⟩ := hk "a.User" ⟨"user.ts"⟩ 49 List.mem_cons_self
  have hc : ClassSource.homonyms.resolve "a.User" =
      .ok ⟨"User", "a", [⟨"id", "int", none, false, .single .publicAccess⟩]⟩ := by
    decide +kernel
  cases hr.symm.trans hc
  have hfolder :
    ((generate (m := Session) ClassSource.homonyms.resolve {} false ["a.User", "b.User"]).run
      ⟨.empty, []⟩).2.folder = [] := by decide +kernel
  have hread :
    (((generate (m := Session) ClassSource.homonyms.resolve {} false ["a.User", "b.User"]).run
      ⟨.empty, []⟩).2.tree.readFile [] ⟨"user.ts"⟩).toOption =
        some "export class User \x7b\n\x7d\n".toUTF8 := by
    decide +kernel
  rw [hfolder] at hb
  rw [hb] at hread
  revert hread
  decide +kernel

end ClassExport
