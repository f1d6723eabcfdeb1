import ClassExport.Proofs.DryRun

/-!
A run that follows another one for the same names finds what that one has left, and leaves it as it
is.
-/
namespace ClassExport

open FileTree Disk Generation

variable {w w' v : Workspace} {t : FileTree} {here folder place : Location} {p : Path}
  {name text part : String} {init parts rest : List String} {outcome : Outcome} {c : Class}
  {resolve : String → Except Failure Class} {settings : EmitSettings}
  {entries before after : List (String × Outcome)}

/-! Output paths end in a name. -/

theorem Text.exists_pieces_append {sep : Char} {tail : List Char} (ht : sep ∉ tail)
    (cs : List Char) :
    ∃ init last, pieces sep (cs ++ tail) = init ++ [last ++ tail] := by
  induction cs with
  | nil =>
    refine ⟨[], [], ?_⟩
    rw [pieces_eq_splitOn]
    exact List.splitOn_eq_singleton ht
  | cons c cs ih =>
    obtain ⟨init, last, he⟩ := ih
    rw [List.cons_append, pieces, he]
    split
    · exact ⟨[] :: init, last, rfl⟩
    · cases init with
      | nil => exact ⟨[], c :: last, rfl⟩
      | cons first init => exact ⟨(c :: first) :: init, last, rfl⟩

theorem exists_parts_outputPath (settings : EmitSettings) (className : String) :
    ∃ init name, (settings.outputPath className).parts = init ++ [name] ∧ ¬ isStep name := by
  obtain ⟨cs, hc⟩ : ∃ cs, (settings.outputPath className).text.toList = cs ++ ".ts".toList :=
    ⟨_, String.toList_append⟩
  generalize settings.outputPath className = p at hc
  -- the slash of an absolute path stands before the extension
  obtain ⟨body, hb⟩ : ∃ body, (if p.isAbsolute then p.text.toList.tail else p.text.toList) =
      body ++ ".ts".toList := by
    rw [Path.isAbsolute, hc]
    cases cs with
    | nil => exact ⟨[], rfl⟩
    | cons c cs =>
      split
      · exact ⟨cs, rfl⟩
      · exact ⟨c :: cs, rfl⟩
  obtain ⟨pieces, last, hl⟩ :=
    Text.exists_pieces_append (show '/' ∉ ".ts".toList by decide) body
  refine ⟨pieces.map String.ofList, String.ofList (last ++ ".ts".toList), ?_, ?_⟩
  · simp only [Path.parts, hb, hl, List.map_append, List.map_cons, List.map_nil]
  · intro hp
    have hlen : (last ++ ".ts".toList).length ≤ 2 := by
      rw [← String.toList_ofList (l := last ++ ".ts".toList)]
      rcases isStep_iff.mp hp with he | he | he <;> rw [he] <;> decide
    rw [List.length_append, show ".ts".toList.length = 3 from rfl] at hlen
    omega

/-! Making folders again. -/

theorem build_onward (hs : part.utf8ByteSize ≤ maxName)
    (hf : t.get? (stepTo here part) = some .folder) :
    build t here (part :: rest) = build t (stepTo here part) rest := by
  by_cases hp : isStep part
  · exact build_step hp
  · rw [stepTo_name hp] at hf
    exact build_folder hp hs hf

/-- The folders of a way are there the second time, and what stopped it the first time stops it
again. -/
theorem build_again (h : t.WellFormed) (hf : t.get? here = some .folder)
    (hl : Later ⟨(build t here parts).1, folder⟩ v) :
    build v.tree here parts = (v.tree, (build t here parts).2) := by
  induction parts generalizing t here with
  | nil => rfl
  | cons part rest ih =>
    cases h.built hf part rest with
    | kept hs hn he =>
      rw [he] at hl ⊢
      rw [build_onward hs (hl.folder_at (build_keeps h hn hn))]
      exact ih h hn hl
    | made hs hp hn he =>
      rw [he] at hl ⊢
      have hmade : (t.set (here ++ [part]) .folder).get? (stepTo here part) = some .folder :=
        get?_make hp
      rw [build_onward hs (hl.folder_at (build_keeps (h.make hf) hmade hmade))]
      exact ih (h.make hf) hmade hl
    | stopped hp hn he =>
      rw [he] at hl ⊢
      obtain hn | ⟨bytes, hn⟩ := hn
      · exact build_long hp hn
      · obtain ⟨node, hv, hk⟩ := Option.map_eq_some_iff.mp (hl.kind hn)
        cases node with
        | folder => cases hk
        | file bytes' => exact build_file hp hv

/-! Writing again. -/

theorem mem_dropIdle_of_nul {absolute : Bool} {xs : List String} (hm : part ∈ xs)
    (hz : hasNul part) :
    part ∈ Path.dropIdle absolute xs := by
  induction xs with
  | nil => exact hm
  | cons x xs ih =>
    rw [Path.dropIdle_cons]
    split
    · rename_i hi
      obtain rfl | hm := List.mem_cons.mp hm
      · rcases Path.isIdle_iff.mp hi with rfl | ⟨rfl, -⟩ <;> simp [hasNul] at hz
      · exact ih hm
    · exact hm

theorem run_makeFolders_of_nul (hp : p.parts = init ++ [name]) (hn : ¬ isStep name)
    (hz : ∃ s ∈ init, hasNul s) (w : Workspace) :
    (makeFolders (m := Session) ((p.parent?.map Path.ancestors).getD [])).run w =
      (.error .nulInPath, w) := by
  obtain ⟨-, hq⟩ := parent?_of_parts hp hn
  obtain ⟨s, hs, hz⟩ := hz
  have hqz : hasNul
      (Path.ofParts p.isAbsolute (Path.dropIdle p.isAbsolute init.reverse).reverse).text := by
    refine (hasNul_ofParts _).mpr ⟨s, ?_, hz⟩
    exact List.mem_reverse.mpr (mem_dropIdle_of_nul (List.mem_reverse.mpr hs) hz)
  generalize Path.ofParts p.isAbsolute (Path.dropIdle p.isAbsolute init.reverse).reverse =
    q at hq hqz
  have hne : q.text ≠ "" := by
    intro he
    rw [he] at hqz
    cases hqz
  have hstart : start w.folder q = .error .nulInPath := start_of_nul hqz
  have hmake : w.tree.makeFolder w.folder q = .error .nulInPath := by
    simp only [FileTree.makeFolder, slot, hstart, bind, Except.bind]
  have hlocate : w.tree.locate w.folder q = .error .nulInPath := by
    simp only [locate, hstart, bind, Except.bind]
  rw [hq, Option.map_some, Option.getD_some, Path.ancestors, Path.ancestorsWithin,
    run_makeFolders_of_error hne hmake (by decide), makeFolders.settle, Session.run_bind,
      Session.run_isFolder, hlocate]
  rfl

theorem run_makeFolders_again (h : w.Sound) (hp : p.parts = init ++ [name]) (hn : ¬ isStep name)
    (hz : ∀ s ∈ init, ¬ hasNul s)
    (hl : Later ⟨(build w.tree (origin w.folder p) init).1, w.folder⟩ v) :
    ∃ r, (makeFolders (m := Session) ((p.parent?.map Path.ancestors).getD [])).run v = (r, v) ∧
      (r = .ok () ↔ (build w.tree (origin w.folder p) init).2 = true) := by
  obtain ⟨r, hr, hb⟩ := run_makeFolders_of_parts hl.sound hp hn hz
  have ho : origin v.folder p = origin w.folder p := by rw [hl.folder]
  rw [ho, build_again h.tree (folder_origin h.folder) hl] at hr hb
  exact ⟨r, hr, hb⟩

/-- Nothing can be written through the path any more, and the attempt leaves all as it is. -/
def Refuses (w : Workspace) (p : Path) : Prop :=
  ∀ v, Later w v → ∀ text, ∃ fault,
    (writeThrough (m := Session) p text).run v = (.error fault, v)

theorem Refuses.later (hn : Refuses w p) (hl : Later w w') : Refuses w' p :=
  fun v hv => hn v (hl.trans hv)

/-- What made a write fail is still there after it. -/
theorem refuses_of_failed {fault : DiskFault} (h : w.Sound) (hp : p.parts = init ++ [name])
    (hn : ¬ isStep name) (hr : (writeThrough (m := Session) p text).run w = (.error fault, w')) :
    Refuses w' p := by
  intro v hl text'
  by_cases hz : ∃ s ∈ init, hasNul s
  · refine ⟨.nulInPath, ?_⟩
    rw [writeThrough, Session.run_bind, run_makeFolders_of_nul hp hn hz]
    rfl
  have hplain : ∀ s ∈ init, ¬ hasNul s := fun s hm hs => hz ⟨s, hm, hs⟩
  obtain ⟨r, hm, hb⟩ := run_makeFolders_of_parts h hp hn hplain
  rw [writeThrough, Session.run_bind, hm] at hr
  cases r with
  | error fault' =>
    cases hr
    obtain ⟨r, hm', hb'⟩ := run_makeFolders_again h hp hn hplain hl
    have hne : r ≠ .ok () := by
      intro he
      cases hb.mpr (hb'.mp he)
    cases r with
    | ok _ => exact (hne rfl).elim
    | error fault'' =>
      refine ⟨fault'', ?_⟩
      rw [writeThrough, Session.run_bind, hm']
      rfl
  | ok _ =>
    dsimp only at hr
    rw [Session.run_writeFile] at hr
    cases hw : (build w.tree (origin w.folder p) init).1.writeFile w.folder p text with
    | ok tree =>
      rw [hw] at hr
      cases hr
    | error fault' =>
      rw [hw] at hr
      cases hr
      obtain ⟨r, hm', hb'⟩ := run_makeFolders_again h hp hn hplain hl
      obtain rfl : r = .ok () := hb'.mpr (hb.mp rfl)
      rw [writeThrough, Session.run_bind, hm']
      dsimp only
      rw [Session.run_writeFile]
      cases hv : v.tree.writeFile v.folder p text' with
      | error fault'' => exact ⟨fault'', rfl⟩
      | ok tree =>
        -- then the file could have been written the first time
        obtain ⟨init', name', hs, -, hn', hsize, hk, -⟩ :=
          writeFile_eq_ok hl.sound.tree hl.sound.folder hv
        obtain ⟨-, -, hparts⟩ := eq_of_start hs
        obtain ⟨rfl, he⟩ := List.append_inj' (hparts.trans hp) rfl
        obtain rfl := List.head_eq_of_cons_eq he
        rw [hl.folder] at hs hk
        have ho := open_of_build h.tree (folder_origin h.folder) (hb.mp rfl)
        rw [writeFile_of_open hs ho hn hsize fun hf => hk (hl.folder_at hf)] at hw
        cases hw

/-- A file that is there is written over, and nothing else changes. -/
theorem run_writeThrough_of_hasFile (h : w.Sound) (hp : p.parts = init ++ [name])
    (hn : ¬ isStep name) (hk : w.HasFile p) (text : String) :
    ∃ place, place ≠ [] ∧ w.Leads p place ∧
      (writeThrough (m := Session) p text).run w =
        (.ok (), { w with tree := w.tree.set place (.file text.toUTF8) }) := by
  obtain ⟨_, _, ⟨_, hl⟩, -⟩ := Workspace.hasFile_iff.mp hk
  have hs : start w.folder p = .ok (origin w.folder p, init ++ [name]) := hp ▸ (locate_eq_ok hl).1
  obtain ⟨ho, hsize, bytes, hb⟩ := (isFile_iff hs hn).mp hk
  refine ⟨destination (origin w.folder p) init ++ [name], by simp,
    leads_of_open hs ho hn hsize hb, ?_⟩
  have hbuild := build_of_open ho
  rw [run_writeThrough h hs hn (by rw [hbuild]), hbuild, Session.run_writeFile,
    writeFile_of_open hs ho hn hsize (by simp [hb])]

theorem Refuses.not_hasFile (hr : Refuses w p) (h : w.Sound) (hp : p.parts = init ++ [name])
    (hn : ¬ isStep name) :
    ¬ w.HasFile p := by
  intro hk
  obtain ⟨_, -, -, hw⟩ := run_writeThrough_of_hasFile h hp hn hk ""
  obtain ⟨fault, hf⟩ := hr w (.refl h) ""
  rw [hw] at hf
  cases hf

/-! One class. -/

/-- What an entry of a run tells of the workspaces after it. -/
inductive Settled (resolve : String → Except Failure Class) (settings : EmitSettings)
    (w : Workspace) (name : String) :
    Outcome → Prop where
  | unresolved {failure : Failure} (hr : resolve name = .error failure) :
      Settled resolve settings w name (.failed failure)
  | kept {c : Class} (hr : resolve name = .ok c) (ho : settings.overwrite = false)
      (hk : w.HasFile (settings.outputPath c.name)) :
      Settled resolve settings w name (.skipped (settings.outputPath c.name))
  | lost {c : Class} {fault : DiskFault} (hr : resolve name = .ok c)
      (hn : Refuses w (settings.outputPath c.name)) :
      Settled resolve settings w name (.failed (.write (settings.outputPath c.name) fault))
  | done {c : Class} (hr : resolve name = .ok c) (hk : w.HasFile (settings.outputPath c.name)) :
      Settled resolve settings w name
        (.written (settings.outputPath c.name) (c.render settings).utf8ByteSize)

theorem Settled.later (hs : Settled resolve settings w name outcome) (hl : Later w w') :
    Settled resolve settings w' name outcome := by
  cases hs with
  | unresolved hr => exact .unresolved hr
  | kept hr ho hk => exact .kept hr ho (hl.hasFile hk)
  | lost hr hn => exact .lost hr (hn.later hl)
  | done hr hk => exact .done hr (hl.hasFile hk)

theorem run_generateName_of_error {failure : Failure}
    (hr : resolve name = .error failure) (w : Workspace) :
    ∃ events, (generateName (m := Session) resolve settings false name).run w =
      ((.failed failure, events), w) := by
  rw [generateName, hr]
  exact ⟨_, rfl⟩

theorem run_generateName_of_kept (hr : resolve name = .ok c) (ho : settings.overwrite = false)
    (hk : w.HasFile (settings.outputPath c.name)) :
    ∃ events, (generateName (m := Session) resolve settings false name).run w =
      ((.skipped (settings.outputPath c.name), events), w) := by
  rw [generateName, hr]
  exact ⟨_, run_generateClass_of_kept ho hk⟩

theorem run_generateName_of_open {r : Except DiskFault Unit} (hr : resolve name = .ok c)
    (ho : settings.overwrite = true ∨ ¬ w.HasFile (settings.outputPath c.name))
    (hw : (writeThrough (m := Session) (settings.outputPath c.name) (c.render settings)).run w =
      (r, w')) :
    ∃ events, (generateName (m := Session) resolve settings false name).run w =
      ((.ofWrite (settings.outputPath c.name) (c.render settings) r, events), w') := by
  rw [generateName, hr]
  exact ⟨_, run_generateClass_of_open ho hw⟩

theorem settled_generateName (h : w.Sound) (resolve : String → Except Failure Class)
    (settings : EmitSettings) (name : String) :
    Settled resolve settings
      ((generateName (m := Session) resolve settings false name).run w).2 name
      ((generateName (m := Session) resolve settings false name).run w).1.1 := by
  cases hr : resolve name with
  | error failure =>
    obtain ⟨events, he⟩ := run_generateName_of_error hr w
    rw [he]
    exact .unresolved hr
  | ok c =>
    rcases kept_or_open settings w (settings.outputPath c.name) with ⟨ho, hk⟩ | ho
    · obtain ⟨events, he⟩ := run_generateName_of_kept hr ho hk
      rw [he]
      exact .kept hr ho hk
    · have hx := writtenThrough_run h (settings.outputPath c.name) (c.render settings)
      rcases hw : (writeThrough (m := Session) (settings.outputPath c.name)
        (c.render settings)).run w with ⟨r, w'⟩
      obtain ⟨events, he⟩ := run_generateName_of_open hr ho hw
      rw [he]
      rw [hw] at hx
      cases r with
      | error fault =>
        obtain ⟨init, last, hp, hn⟩ := exists_parts_outputPath settings c.name
        exact .lost hr (refuses_of_failed h hp hn hw)
      | ok _ => exact .done hr hx.hasFile

theorem settled_generateEach (h : w.Sound) (resolve : String → Except Failure Class)
    (settings : EmitSettings) (names : List String) :
    ∀ e ∈ ((generateEach (m := Session) resolve settings false names).run w).1.1,
      Settled resolve settings ((generateEach (m := Session) resolve settings false names).run w).2
        e.1 e.2 := by
  induction names generalizing w with
  | nil => exact List.forall_mem_nil _
  | cons name names ih =>
    have hn : Leaves resolve settings _ w _ := leaves_generateName h name
    have hrest := leaves_generateEach hn.later.sound resolve settings names
    rw [(run_generateEach_cons name names w).1, (run_generateEach_cons name names w).2,
      List.forall_mem_cons]
    exact ⟨(settled_generateName h resolve settings name).later hrest.later, ih hn.later.sound⟩

/-! The second run. -/

/-- What an outcome becomes when the file is there and is kept. -/
def Outcome.keptBack : Outcome → Outcome
  | .written p _ => .skipped p
  | outcome => outcome

/-- Reported alike, up to the cause of a failed write. -/
inductive Outcome.Alike : Outcome → Outcome → Prop where
  | same (outcome : Outcome) : Alike outcome outcome
  | lost (p : Path) (fault fault' : DiskFault) :
      Alike (.failed (.write p fault)) (.failed (.write p fault'))

def Outcome.again (overwrite : Bool) (outcome : Outcome) : Outcome :=
  if overwrite then outcome else outcome.keptBack

/-- The second run is between the entries that were repeated and those to come: except where one of
these was written all is as the first run has left it. -/
structure Agrees (settings : EmitSettings) (rest : List (String × Outcome)) (w v : Workspace) :
    Prop where
  later : Later w v
  same : ∀ place, settings.overwrite = false ∨ Unwritten rest w place →
    v.tree.get? place = w.tree.get? place

theorem Unwritten.cons (hu : Unwritten entries w place)
    (hn : ∀ p size, outcome = .written p size → ¬ w.Leads p place) :
    Unwritten ((name, outcome) :: entries) w place := by
  intro name' p size hm
  rcases List.mem_cons.mp hm with he | hm
  · exact hn p size (congrArg Prod.snd he).symm
  · exact hu name' p size hm

/-- An entry that does not write again leaves all as it is. -/
theorem Agrees.tail (ha : Agrees settings ((name, outcome) :: after) w v)
    (hn : settings.overwrite = false ∨ outcome.writtenPath? = none) :
    Agrees settings after w v := by
  refine ⟨ha.later, fun place hu => ha.same place ?_⟩
  rcases hn with ho | hn
  · exact Or.inl ho
  · refine hu.imp_right fun hu => hu.cons ?_
    rintro p size rfl
    cases hn

/-- A text that is written again is the one that stands there at the end of the first run, unless a
later entry stands there, which is still to come. -/
theorem Agrees.write {size : Nat} {base : Location}
    (hx : entries = before ++ (name, .written p size) :: after)
    (hl : Leaves resolve settings entries w' w) (hr : resolve name = .ok c)
    (ha : Agrees settings ((name, .written p size) :: after) w v) (ho : settings.overwrite = true)
    (hb : base ≠ []) (hd : v.Leads p base)
    (hv : Later v { v with tree := v.tree.set base (.file (c.render settings).toUTF8) }) :
    Agrees settings after w
      { v with tree := v.tree.set base (.file (c.render settings).toUTF8) } := by
  refine ⟨ha.later.trans hv, fun place hu => ?_⟩
  have hu := hu.resolve_left (by simp [ho])
  have hm : (name, Outcome.written p size) ∈ entries :=
    hx ▸ List.mem_append_right before List.mem_cons_self
  obtain ⟨-, -, -, -, base', hd'⟩ := hl.written name p size hm
  obtain rfl : base' = base := (ha.later.leads hd').unique hd
  dsimp only
  rw [get?_set hb]
  split
  · rename_i he
    subst he
    exact (hl.last before name p size after c place hx hr hd' hu).symm
  · rename_i hne
    refine ha.same place (Or.inr (hu.cons ?_))
    rintro _ _ ⟨⟩ hp
    exact hne (hp.unique hd')

theorem generateName_again (hx : entries = before ++ (name, outcome) :: after)
    (hl : Leaves resolve settings entries w' w) (hs : Settled resolve settings w name outcome)
    (ha : Agrees settings ((name, outcome) :: after) w v) :
    (outcome.again settings.overwrite).Alike
      ((generateName (m := Session) resolve settings false name).run v).1.1 ∧
      Agrees settings after w
        ((generateName (m := Session) resolve settings false name).run v).2 := by
  cases hs.later ha.later with
  | unresolved hr =>
    obtain ⟨events, he⟩ := run_generateName_of_error hr v
    rw [he]
    refine ⟨?_, ha.tail (Or.inr rfl)⟩
    rw [Outcome.again]
    split <;> exact .same _
  | kept hr ho hk =>
    obtain ⟨events, he⟩ := run_generateName_of_kept hr ho hk
    rw [he, ho]
    exact ⟨.same _, ha.tail (Or.inl ho)⟩
  | @lost c fault hr hn =>
    obtain ⟨init, last, hp, hstep⟩ := exists_parts_outputPath settings c.name
    obtain ⟨fault', hw⟩ := hn v (.refl ha.later.sound) (c.render settings)
    obtain ⟨events, he⟩ :=
      run_generateName_of_open hr (Or.inr (hn.not_hasFile ha.later.sound hp hstep)) hw
    rw [he]
    refine ⟨?_, ha.tail (Or.inr rfl)⟩
    rw [Outcome.again]
    split <;> exact .lost _ _ _
  | @done c hr hk =>
    cases ho : settings.overwrite with
    | false =>
      obtain ⟨events, he⟩ := run_generateName_of_kept hr ho hk
      rw [he]
      exact ⟨.same _, ha.tail (Or.inl ho)⟩
    | true =>
      obtain ⟨init, last, hp, hstep⟩ := exists_parts_outputPath settings c.name
      have hwritten :=
        writtenThrough_run ha.later.sound (settings.outputPath c.name) (c.render settings)
      obtain ⟨base, hb, hd, hw⟩ :=
        run_writeThrough_of_hasFile ha.later.sound hp hstep hk (c.render settings)
      obtain ⟨events, he⟩ := run_generateName_of_open hr (Or.inl ho) hw
      rw [hw] at hwritten
      rw [he]
      exact ⟨.same _, ha.write hx hl hr ho hb hd hwritten.later⟩

/-- The two entries of a name. -/
def Repeats (overwrite : Bool) (first second : String × Outcome) : Prop :=
  first.1 = second.1 ∧ (first.2.again overwrite).Alike second.2

theorem generateEach_again (hx : entries = before ++ after)
    (hl : Leaves resolve settings entries w' w)
    (hs : ∀ e ∈ after, Settled resolve settings w e.1 e.2) (ha : Agrees settings after w v) :
    List.Forall₂ (Repeats settings.overwrite) after
        ((generateEach (m := Session) resolve settings false (after.map Prod.fst)).run v).1.1 ∧
      Agrees settings [] w
        ((generateEach (m := Session) resolve settings false (after.map Prod.fst)).run v).2 := by
  induction after generalizing before v with
  | nil => exact ⟨.nil, ha⟩
  | cons e after ih =>
    obtain ⟨name, outcome⟩ := e
    rw [List.forall_mem_cons] at hs
    obtain ⟨hsame, hstep⟩ := generateName_again hx hl hs.1 ha
    obtain ⟨hall, hend⟩ := ih (hx.trans (List.append_cons before _ after)) hs.2 hstep
    rw [List.map_cons, (run_generateEach_cons name _ v).1, (run_generateEach_cons name _ v).2]
    exact ⟨.cons ⟨rfl, hsame⟩ hall, hend⟩

theorem map_fst_generateEach (dryRun : Bool) (names : List String) (w : Workspace) :
    ((generateEach (m := Session) resolve settings dryRun names).run w).1.1.map Prod.fst =
      names := by
  induction names generalizing w with
  | nil => rfl
  | cons name names ih => exact congrArg (List.cons name) (ih _)

/-- The report in which the files reported as written are kept. -/
def Report.keptBack (r : Report) : Report :=
  ⟨r.entries.map fun (name, outcome) => (name, outcome.keptBack)⟩

/-- The same names with outcomes alike, in order. -/
def Report.Alike (r s : Report) : Prop :=
  List.Forall₂ (fun e f => e.1 = f.1 ∧ e.2.Alike f.2) r.entries s.entries

/-- A run that follows the same run leaves every file and folder as it is and reports the same, but
that without overwriting the files reported as written are now kept; a write that failed may fail
for another cause. -/
theorem Generation.repeats_run {names : List String} {first second : Report}
    {firstEvents secondEvents : List Event} {w₁ w₂ : Workspace} (h : w.Sound)
    (h₁ : (generate (m := Session) resolve settings false names).run w =
      ((first, firstEvents), w₁))
    (h₂ : (generate (m := Session) resolve settings false names).run w₁ =
      ((second, secondEvents), w₂)) :
    w₂.folder = w₁.folder ∧ (∀ place, w₂.tree.get? place = w₁.tree.get? place) ∧
    (settings.overwrite = true → first.Alike second) ∧
    (settings.overwrite = false → first.keptBack.Alike second) := by
  have hl := leaves_generateEach h resolve settings names
  have hs := settled_generateEach h resolve settings names
  have hnames := @map_fst_generateEach resolve settings false names w
  cases h₁
  have hstart : Agrees settings
      ((generateEach (m := Session) resolve settings false names).run w).1.1 _ _ :=
    ⟨.refl hl.later.sound, fun _ _ => rfl⟩
  obtain ⟨hall, hend⟩ := generateEach_again (List.nil_append _).symm hl hs hstart
  rw [hnames] at hall hend
  cases h₂
  refine ⟨hend.later.folder, fun place => hend.same place (Or.inr fun _ _ _ hm => nomatch hm),
    fun ho => ?_, fun ho => ?_⟩
  · rw [ho] at hall
    exact hall.imp fun _ _ he => he
  · rw [ho] at hall
    exact List.forall₂_map_left_iff.mpr (hall.imp fun _ _ he => he)

/-- Two classes are written to one file, first the one and then the other, in both runs. -/
theorem Generation.repeats_run_of_homonyms :
    Workspace.Sound ⟨.empty, []⟩ ∧ ∃ first second firstEvents secondEvents w₁ w₂,
      (generate (m := Session) ClassSource.homonyms.resolve { outputFolder := "new/out" } false
        ["a.User", "c.User", "b.User"]).run ⟨.empty, []⟩ = ((first, firstEvents), w₁) ∧
      (generate (m := Session) ClassSource.homonyms.resolve { outputFolder := "new/out" } false
        ["a.User", "c.User", "b.User"]).run w₁ = ((second, secondEvents), w₂) ∧
      w₂.folder = w₁.folder ∧ (∀ place, w₂.tree.get? place = w₁.tree.get? place) ∧
      (({ outputFolder := "new/out" } : EmitSettings).overwrite = true → first.Alike second) ∧
      (({ outputFolder := "new/out" } : EmitSettings).overwrite = false →
        first.keptBack.Alike second) := by
  have h : Workspace.Sound ⟨.empty, []⟩ := ⟨wellFormed_empty, rfl⟩
  rcases h₁ : (generate (m := Session) ClassSource.homonyms.resolve
    { outputFolder := "new/out" } false ["a.User", "c.User", "b.User"]).run ⟨.empty, []⟩
    with ⟨⟨first, firstEvents⟩, w₁⟩
  rcases h₂ : (generate (m := Session) ClassSource.homonyms.resolve
    { outputFolder := "new/out" } false ["a.User", "c.User", "b.User"]).run w₁
    with ⟨⟨second, secondEvents⟩, w₂⟩
  exact ⟨h, first, second, firstEvents, secondEvents, w₁, w₂, rfl, h₂,
    Generation.repeats_run h h₁ h₂⟩

end ClassExport
